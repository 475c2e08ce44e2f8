import KvrocksController.Lib.Ownership
import KvrocksController.Store.Slot

/-! What the range-list operations compute. Both reach the normal form of the
covered set, so their results depend on the set of slots alone. -/
namespace Kvrocks
open Kvrocks.Interval

theorem sortByStart_perm (source : List SlotRange) : (sortByStart source).Perm source :=
  List.perm_insertionSort _ source

theorem sortByStart_sorted (source : List SlotRange) :
    (sortByStart source).Pairwise (fun a b => a.start ≤ b.start) := by
  have total : Std.Total (fun a b : SlotRange => a.start ≤ b.start) := ⟨fun a b => le_total a.start b.start⟩
  have trans : IsTrans SlotRange (fun a b => a.start ≤ b.start) := ⟨fun _ _ _ => le_trans⟩
  exact List.pairwise_insertionSort _ source

theorem sortByStart_normal (normal : Normal source) : sortByStart source = source :=
  List.Pairwise.insertionSort_eq (normal.sorted.imp le_of_lt)

theorem canMerge_ordered {a b : SlotRange} (ordered : a.start ≤ b.start) :
    canMerge a b = true ↔ b.start ≤ a.stop + 1 := by
  rw [canMerge, if_neg (by omega)]
  simp

theorem mergeInterval_append (merged : List SlotRange) (last interval : SlotRange) :
    mergeInterval (merged ++ [last]) interval =
      merged ++ if canMerge last interval then [mergeSlotRanges interval last] else [last, interval] := by
  simp only [mergeInterval, List.getLast?_append, List.getLast?_singleton, Option.some_or,
    List.dropLast_concat]
  split
  · rfl
  · simp

/-- The loop invariant: what precedes the last merged range is final, and the
rest of the loop is coalescing from that last range on. -/
theorem foldl_mergeInterval (merged : List SlotRange) (last : SlotRange) (rest : List SlotRange)
    (sorted : (last :: rest).Pairwise (fun a b => a.start ≤ b.start)) :
    rest.foldl mergeInterval (merged ++ [last]) = merged ++ coalesce last rest := by
  induction rest generalizing merged last with
  | nil => rfl
  | cons interval rest ih =>
    obtain ⟨first, sorted⟩ := List.pairwise_cons.mp sorted
    obtain ⟨second, tail⟩ := List.pairwise_cons.mp sorted
    have order := first interval (by simp)
    rw [List.foldl_cons, mergeInterval_append, coalesce]
    simp only [canMerge_ordered order]
    split
    · apply ih
      refine List.pairwise_cons.mpr ⟨fun i member => ?_, tail⟩
      have later := second i member
      simp only [mergeSlotRanges]
      omega
    · have next := ih (merged ++ [last]) interval sorted
      simpa only [List.append_assoc, List.singleton_append] using next

theorem mergeSorted_eq (sorted : (first :: rest).Pairwise (fun a b : SlotRange => a.start ≤ b.start)) :
    mergeSorted (first :: rest) = coalesce first rest := by
  have merged := foldl_mergeInterval [] first rest sorted
  rwa [List.nil_append, List.nil_append] at merged

theorem covers_mergeSorted (sorted : l.Pairwise (fun a b : SlotRange => a.start ≤ b.start)) :
    covers (mergeSorted l) = covers l := by
  cases l with
  | nil => rfl
  | cons first rest => rw [mergeSorted_eq sorted, covers_coalesce sorted]

theorem mergeSorted_normal (valid : ∀ i ∈ l, i.Valid)
    (sorted : l.Pairwise (fun a b => a.start ≤ b.start)) : Normal (mergeSorted l) := by
  cases l with
  | nil => exact .nil
  | cons first rest =>
    rw [mergeSorted_eq sorted]
    exact coalesce_normal valid sorted

/-- An unstable sort may leave equal starts in any order; the merged list is the
same for every permutation sorted by start. -/
theorem mergeSorted_order_irrelevant {l m : List SlotRange} (same : l.Perm m) (valid : ∀ i ∈ l, i.Valid)
    (first : l.Pairwise (fun a b => a.start ≤ b.start))
    (second : m.Pairwise (fun a b => a.start ≤ b.start)) : mergeSorted l = mergeSorted m := by
  have left := mergeSorted_normal valid first
  have right := mergeSorted_normal (fun i member => valid i (same.mem_iff.mpr member)) second
  exact left.unique right (by rw [covers_mergeSorted first, covers_mergeSorted second, covers_perm same])

/-- Exactly the added slots join, whatever ranges the list holds. -/
theorem covers_addSlot (source : List SlotRange) (slot : SlotRange) :
    covers (addSlotToSlotRanges source slot) = covers source ∪ slot.points := by
  have joined : covers (source ++ [slot]) = covers source ∪ slot.points := by
    ext x
    simp
  unfold addSlotToSlotRanges
  split
  · exact joined
  · rw [covers_mergeSorted (sortByStart_sorted _), covers_perm (sortByStart_perm _), joined]

theorem addSlot_spec (valid : ∀ i ∈ source, i.Valid) (slotValid : slot.Valid) :
    Normal (addSlotToSlotRanges source slot) ∧
      covers (addSlotToSlotRanges source slot) = covers source ∪ slot.points := by
  refine ⟨?_, covers_addSlot source slot⟩
  unfold addSlotToSlotRanges
  split
  · rename_i empty
    obtain rfl := List.isEmpty_iff.mp empty
    exact .single slotValid
  · refine mergeSorted_normal (fun i member => ?_) (sortByStart_sorted _)
    have member := (sortByStart_perm _).mem_iff.mp member
    rcases List.mem_append.mp member with member | member
    · exact valid i member
    · obtain rfl := List.mem_singleton.mp member
      exact slotValid

theorem hasOverlap_iff {a b : SlotRange} :
    SlotRange.hasOverlap a b = true ↔ a.stop ≥ b.start ∧ a.start ≤ b.stop := by
  simp [SlotRange.hasOverlap]

theorem removeFromRange_eq_pieces (slot slotRange : SlotRange) :
    removeFromRange slot slotRange = pieces slot slotRange := by
  unfold removeFromRange pieces
  by_cases overlap : SlotRange.hasOverlap slotRange slot = true
  · rw [if_pos (hasOverlap_iff.mp overlap), overlap]
    rfl
  · rw [if_neg (mt hasOverlap_iff.mpr overlap)]
    simp [overlap]

/-- The early return is the cut of a list that the hole does not meet. -/
theorem removeFromRanges_eq_cut (source : List SlotRange) (slot : SlotRange) :
    (if !source.any (fun slotRange => SlotRange.hasOverlap slotRange slot) then source
      else source.flatMap (removeFromRange slot)) = cut slot source := by
  split
  · rename_i apart
    rw [cut_disjoint]
    intro i member bad
    simp only [Bool.not_eq_eq_eq_not, Bool.not_true, List.any_eq_false] at apart
    exact apart i member (hasOverlap_iff.mpr bad)
  · rw [cut]
    congr 1
    funext slotRange
    exact removeFromRange_eq_pieces slot slotRange

theorem removeSlot_eq_cut (source : List SlotRange) (slot : SlotRange) :
    removeSlotFromSlotRanges source slot = cut slot (sortByStart source) :=
  removeFromRanges_eq_cut (sortByStart source) slot

/-- Exactly the removed slots go, whatever ranges the list holds. -/
theorem covers_removeSlot (source : List SlotRange) (slot : SlotRange) :
    covers (removeSlotFromSlotRanges source slot) = covers source \ slot.points := by
  rw [removeSlot_eq_cut, covers_cut, covers_perm (sortByStart_perm _)]

theorem removeSlot_spec (normal : Normal source) (slotValid : slot.Valid) :
    Normal (removeSlotFromSlotRanges source slot) ∧
      covers (removeSlotFromSlotRanges source slot) = covers source \ slot.points := by
  refine ⟨?_, covers_removeSlot source slot⟩
  rw [removeSlot_eq_cut, sortByStart_normal normal]
  exact cut_normal normal slotValid

/-- The ranges of a new cluster are blocks of one size between increasing bounds; the
last block reaches the end. -/
theorem calculateSlotRanges_blocks (positive : 0 < n) (few : n ≤ 16384) :
    ∃ bound : Nat → Int, bound 0 = minSlotID ∧ bound n - 1 = maxSlotID ∧ (∀ i < n, bound i < bound (i + 1)) ∧
      calculateSlotRanges n = (List.range n).map fun i => ⟨bound i, bound (i + 1) - 1⟩ := by
  let size : Int := 16384 / n
  let bound (i : Nat) : Int := if i = n then 16384 else i * size
  have sized : 1 ≤ size := Int.le_ediv_of_mul_le (by omega) (by omega)
  have filled : n * size ≤ 16384 := Int.mul_ediv_self_le (by omega)
  have scaled (i : Nat) : ((i + 1 : Nat) : Int) * size = i * size + size := by
    rw [Int.natCast_add, Int.natCast_one, Int.add_mul, Int.one_mul]
  refine ⟨bound, by simp [bound, minSlotID, Nat.ne_of_lt positive], by simp [bound, maxSlotID], ?_, ?_⟩
  · intro i inside
    have next := scaled i
    simp only [bound, if_neg (Nat.ne_of_lt inside)]
    split
    · rename_i last
      rw [last] at next
      omega
    · omega
  · refine List.map_congr_left fun i member => ?_
    have inside := List.mem_range.mp member
    have rangeSize : (maxSlotID + 1) / (n : Int) = size := rfl
    simp only [rangeSize]
    split
    · simp only [bound, if_neg (Nat.ne_of_lt inside), if_neg (show i + 1 ≠ n by omega),
        Int.natCast_add, Int.natCast_one]
    · simp only [bound, if_neg (Nat.ne_of_lt inside), if_pos (show i + 1 = n by omega)]
      rfl

theorem length_calculateSlotRanges (n : Nat) : (calculateSlotRanges n).length = n := by
  simp [calculateSlotRanges]

/-- One range a shard. -/
theorem map_calculateSlotRanges (n : Nat) :
    ((List.range n).map fun i => [(calculateSlotRanges n).getD i ⟨0, 0⟩]) = (calculateSlotRanges n).map ([·]) := by
  apply List.ext_getElem
  · simp [length_calculateSlotRanges]
  · intro i _ bound
    rw [List.length_map] at bound
    simp [bound]

theorem calculateSlotRanges_partition (positive : 0 < n) (few : n ≤ 16384) :
    Partition ⟨minSlotID, maxSlotID⟩
      ((List.range n).map fun i => [(calculateSlotRanges n).getD i ⟨0, 0⟩]) := by
  obtain ⟨bound, first, last, increasing, ranges⟩ := calculateSlotRanges_blocks positive few
  rw [map_calculateSlotRanges, ranges, List.map_map, ← first, ← last]
  exact Partition.blocks increasing

theorem outOfRange_iff {slot : Int} : outOfRange slot = false ↔ minSlotID ≤ slot ∧ slot ≤ maxSlotID := by
  simp [outOfRange]

/-- A text without a dash is one number. -/
theorem parseSlotRange_single {s : String} (noDash : '-' ∉ s.toList) : parseSlotRange s = .ok r ↔
    ∃ n, atoi s = .ok n ∧ minSlotID ≤ n ∧ n ≤ maxSlotID ∧ r = ⟨n, n⟩ := by
  have whole : parseSlotRange s = (do
      let start ← atoi s
      if outOfRange start then .error (.of .slotOutOfRange) else .ok ⟨start, start⟩) := by
    simp only [parseSlotRange, List.count_eq_zero_of_not_mem noDash, List.idxOf?_eq_none_iff.mpr noDash]
    rfl
  rw [whole]
  constructor
  · intro parsed
    obtain ⟨n, read, checked⟩ := bind_ok parsed
    split at checked
    · cases checked
    · rename_i inside
      obtain ⟨low, high⟩ := outOfRange_iff.mp (Bool.eq_false_iff.mpr inside)
      exact ⟨n, read, low, high, (Except.ok.inj checked).symm⟩
  · rintro ⟨n, read, low, high, rfl⟩
    simp [read, bind, Except.bind, outOfRange_iff.mpr ⟨low, high⟩]

/-- A text with one dash is read in two parts. -/
theorem parseSlotRange_pair (before : '-' ∉ l) (after : '-' ∉ m) :
    parseSlotRange (String.ofList (l ++ '-' :: m)) = .ok r ↔ ∃ a b, atoi (String.ofList l) = .ok a ∧
      atoi (String.ofList m) = .ok b ∧ minSlotID ≤ a ∧ a ≤ b ∧ b ≤ maxSlotID ∧ r = ⟨a, b⟩ := by
  have once : (l ++ '-' :: m).count '-' = 1 := by
    rw [List.count_append, List.count_cons_self, List.count_eq_zero_of_not_mem before,
      List.count_eq_zero_of_not_mem after]
  have position : (l ++ '-' :: m).idxOf? '-' = some l.length := by
    rw [List.idxOf?_eq_some_iff]
    refine ⟨by simp, by simp, fun j inside => ?_⟩
    rw [List.getElem_append_left inside]
    exact fun equal => before (equal ▸ List.getElem_mem inside)
  have rest : (l ++ '-' :: m).drop (l.length + 1) = m := by
    rw [← List.drop_drop, List.drop_left]
    rfl
  have parts : parseSlotRange (String.ofList (l ++ '-' :: m)) = (do
      let start ← atoi (String.ofList l)
      let stop ← atoi (String.ofList m)
      if start > stop then .error (.new "start slot id greater than stop slot id")
      else if outOfRange start || outOfRange stop then .error (.of .slotOutOfRange)
      else .ok ⟨start, stop⟩) := by
    simp only [parseSlotRange, String.toList_ofList, once, position, List.take_left, rest, Nat.lt_irrefl, if_false]
  rw [parts]
  constructor
  · intro parsed
    obtain ⟨a, first, parsed⟩ := bind_ok parsed
    obtain ⟨b, second, checked⟩ := bind_ok parsed
    split at checked
    · cases checked
    · rename_i ordered
      split at checked
      · cases checked
      · rename_i inside
        simp only [Bool.or_eq_true, not_or, Bool.not_eq_true, outOfRange_iff] at inside
        exact ⟨a, b, first, second, inside.1.1, Int.not_lt.mp ordered, inside.2.2, (Except.ok.inj checked).symm⟩
  · rintro ⟨a, b, first, second, low, ordered, high, rfl⟩
    have start := outOfRange_iff.mpr ⟨low, ordered.trans high⟩
    have stop := outOfRange_iff.mpr ⟨low.trans ordered, high⟩
    simp only [first, second, bind, Except.bind, if_neg (Int.not_lt.mpr ordered), start, stop]
    rfl

/-- More dashes than one are refused. -/
theorem parseSlotRange_texts (parsed : parseSlotRange s = .ok r) :
    '-' ∉ s.toList ∨ ∃ l m, '-' ∉ l ∧ '-' ∉ m ∧ s = String.ofList (l ++ '-' :: m) := by
  by_cases dash : '-' ∈ s.toList
  · obtain ⟨l, m, text, before⟩ := List.eq_append_cons_of_mem dash
    refine .inr ⟨l, m, before, fun another => ?_, by rw [← text, String.ofList_toList]⟩
    have some := List.count_pos_iff.mpr another
    have many : 1 < s.toList.count '-' := by
      rw [text, List.count_append, List.count_cons_self]
      omega
    rw [parseSlotRange, if_pos many] at parsed
    cases parsed
  · exact .inl dash

/-- Whatever text is accepted, the range it names is in bounds. -/
theorem parseSlotRange_inBounds (parsed : parseSlotRange s = .ok r) : r.InBounds := by
  rcases parseSlotRange_texts parsed with noDash | ⟨l, m, before, after, rfl⟩
  · obtain ⟨n, _, low, high, rfl⟩ := (parseSlotRange_single noDash).mp parsed
    exact ⟨low, Int.le_refl _, high⟩
  · obtain ⟨a, b, _, _, low, ordered, high, rfl⟩ := (parseSlotRange_pair before after).mp parsed
    exact ⟨low, ordered, high⟩

theorem minus_not_digit {n : Nat} : '-' ∉ Nat.toDigits 10 n := by
  intro member
  have digit := Nat.isDigit_of_mem_toDigits (by decide) (by decide) member
  simp at digit

theorem atoi_digits (small : n ≤ 16383) : atoi (String.ofList (Nat.toDigits 10 n)) = .ok (n : Int) := by
  rw [atoi, ← Strconv.itoa_natCast, Strconv.parseInt_itoa n (by simp only [Strconv.maxInt64]; omega)]

/-- Two numbers and a dash are read as a range, also if the numbers are equal. -/
theorem parseSlotRange_dashed {a b : Nat} (ordered : a ≤ b) (small : b ≤ 16383) :
    parseSlotRange (Strconv.itoa a ++ "-" ++ Strconv.itoa b) = .ok ⟨a, b⟩ := by
  have text : Strconv.itoa a ++ "-" ++ Strconv.itoa b =
      String.ofList (Nat.toDigits 10 a ++ '-' :: Nat.toDigits 10 b) := by
    rw [← String.toList_inj]
    simp [Strconv.itoa_natCast]
  rw [text, parseSlotRange_pair minus_not_digit minus_not_digit]
  refine ⟨a, b, atoi_digits (by omega), atoi_digits small, ?_, by omega, ?_, rfl⟩
  · simp only [minSlotID]
    omega
  · simp only [maxSlotID]
    omega

/-- Reading back the text of a range gives the range. -/
theorem parseSlotRange_string (bounds : SlotRange.InBounds r) :
    parseSlotRange (SlotRange.string r) = .ok r := by
  obtain ⟨start, stop⟩ := r
  obtain ⟨low, ordered, high⟩ := bounds
  simp only [minSlotID, maxSlotID] at low ordered high
  obtain ⟨a, rfl⟩ := Int.eq_ofNat_of_zero_le low
  obtain ⟨b, rfl⟩ := Int.eq_ofNat_of_zero_le (low.trans ordered)
  by_cases same : a = b
  · subst same
    have text : SlotRange.string ⟨a, a⟩ = String.ofList (Nat.toDigits 10 a) := by
      rw [SlotRange.string, if_pos rfl, Strconv.itoa_natCast]
    rw [text, parseSlotRange_single (by rw [String.toList_ofList]; exact minus_not_digit)]
    exact ⟨a, atoi_digits (by omega), low, high, rfl⟩
  · have different : (a : Int) ≠ b := by omega
    rw [SlotRange.string, if_neg different]
    exact parseSlotRange_dashed (by omega) (by omega)

end Kvrocks
