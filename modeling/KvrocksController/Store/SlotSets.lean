import KvrocksController.Store.SlotProofs
import Mathlib.Algebra.Group.Nat.Defs

/-! Adding and removing as union and difference, for every order in which an unstable
sort may leave ranges with equal starts. The lists are arbitrary: unordered, overlapping,
with ends anywhere among the 64-bit integers. The one step that can leave these is the
successor of an end in `CanMerge`; a removal only moves towards a range that reaches
further. -/
namespace Kvrocks
open Kvrocks.Interval Kvrocks.Strconv

/-- What `sort.Slice` promises of a sort by start. -/
structure SortsByStart (sort : List SlotRange → List SlotRange) : Prop where
  perm : ∀ source, (sort source).Perm source
  sorted : ∀ source, (sort source).Pairwise (fun a b => a.start ≤ b.start)

theorem sortByStart_sorts : SortsByStart sortByStart := ⟨sortByStart_perm, sortByStart_sorted⟩

section Add

/-- An `int` after an addition. -/
def int64 (n : Int) : Int := n.bmod (2 ^ 64)

/-- `CanMerge` as the machine computes it. -/
def canMerge64 (a b : SlotRange) : Bool :=
  if a.start > b.start then int64 (b.stop + 1) ≥ a.start else int64 (a.stop + 1) ≥ b.start

def mergeInterval64 (merged : List SlotRange) (interval : SlotRange) : List SlotRange :=
  match merged.getLast? with
  | none => [interval]
  | some lastInterval =>
    if canMerge64 lastInterval interval then merged.dropLast ++ [mergeSlotRanges interval lastInterval]
    else merged ++ [interval]

def mergeSorted64 : List SlotRange → List SlotRange
  | [] => []
  | first :: rest => rest.foldl mergeInterval64 [first]

/-- `AddSlotToSlotRanges` on 64-bit integers, with the order that the sort leaves. -/
def addSlotToSlotRanges64 (sort : List SlotRange → List SlotRange) (source : List SlotRange) (slot : SlotRange) :
    List SlotRange :=
  if source.isEmpty then source ++ [slot] else mergeSorted64 (sort (source ++ [slot]))

theorem int64_le (low : -(maxInt64 + 1) ≤ n) : int64 n ≤ n := by
  simp only [maxInt64] at low
  simp only [int64, Int.bmod_def]
  omega

theorem int64_eq (fits : InInt64 n) : int64 n = n := by
  obtain ⟨low, high⟩ := fits
  simp only [maxInt64] at low high
  simp only [int64, Int.bmod_def]
  omega

theorem mergeInterval64_append (merged : List SlotRange) (last interval : SlotRange) :
    mergeInterval64 (merged ++ [last]) interval =
      merged ++ if canMerge64 last interval then [mergeSlotRanges interval last] else [last, interval] := by
  simp only [mergeInterval64, List.getLast?_append, List.getLast?_singleton, Option.some_or, List.dropLast_concat]
  split
  · rfl
  · simp

/-- A successor that wraps is below every start, so ranges are joined only where they
touch. -/
theorem canMerge64_touches {a b : SlotRange} (low : -(maxInt64 + 1) ≤ a.stop) (ordered : a.start ≤ b.start)
    (merges : canMerge64 a b = true) : b.start ≤ a.stop + 1 := by
  have bound : int64 (a.stop + 1) ≤ a.stop + 1 := int64_le (by omega)
  rw [canMerge64, if_neg (by omega), decide_eq_true_eq] at merges
  omega

theorem canMerge64_eq {a b : SlotRange} (first : InInt64 (a.stop + 1)) (second : InInt64 (b.stop + 1)) :
    canMerge64 a b = canMerge a b := by
  rw [canMerge64, canMerge, int64_eq first, int64_eq second]

theorem covers_mergeSlotRanges {a b : SlotRange} (ordered : a.start ≤ b.start) (touching : b.start ≤ a.stop + 1) :
    x ∈ covers [mergeSlotRanges b a] ↔ x ∈ covers [a, b] := by
  simp only [mem_covers_cons, covers_nil, Set.mem_empty_iff_false, or_false, mergeSlotRanges]
  omega

/-- Each round keeps the slots that the merged ranges and the rest have together. -/
theorem covers_foldl_mergeInterval64 (merged : List SlotRange) (last : SlotRange) (rest : List SlotRange)
    (low : ∀ i ∈ last :: rest, -(maxInt64 + 1) ≤ i.stop)
    (sorted : (last :: rest).Pairwise (fun a b => a.start ≤ b.start)) :
    covers (rest.foldl mergeInterval64 (merged ++ [last])) = covers (merged ++ last :: rest) := by
  induction rest generalizing merged last with
  | nil => rfl
  | cons interval rest ih =>
    obtain ⟨first, sorted⟩ := List.pairwise_cons.mp sorted
    obtain ⟨second, tail⟩ := List.pairwise_cons.mp sorted
    have ordered := first interval (by simp)
    have lastLow := low last (by simp)
    rw [List.foldl_cons, mergeInterval64_append]
    by_cases merges : canMerge64 last interval = true
    · rw [if_pos merges, ih]
      · ext x
        have joined := covers_mergeSlotRanges (x := x) ordered (canMerge64_touches lastLow ordered merges)
        simp only [mem_covers_append, mem_covers_cons, covers_nil, Set.mem_empty_iff_false, or_false] at joined ⊢
        rw [joined, or_assoc]
      · intro i member
        rcases List.mem_cons.mp member with rfl | member
        · simp only [mergeSlotRanges]
          omega
        · exact low i (by simp [member])
      · refine List.pairwise_cons.mpr ⟨fun i member => ?_, tail⟩
        have later := second i member
        simp only [mergeSlotRanges]
        omega
    · have split : merged ++ [last, interval] = (merged ++ [last]) ++ [interval] := by simp
      rw [if_neg merges, split, ih _ _ (fun i member => low i (List.mem_cons_of_mem _ member)) sorted]
      simp only [List.append_assoc, List.cons_append, List.nil_append]

theorem covers_mergeSorted64 (low : ∀ i ∈ l, -(maxInt64 + 1) ≤ i.stop)
    (sorted : l.Pairwise (fun a b : SlotRange => a.start ≤ b.start)) : covers (mergeSorted64 l) = covers l := by
  cases l with
  | nil => rfl
  | cons first rest => exact covers_foldl_mergeInterval64 [] first rest low sorted

/-- Without a range that ends at the largest integer no successor wraps. -/
theorem foldl_mergeInterval64 (merged : List SlotRange) (last : SlotRange) (rest : List SlotRange)
    (fits : ∀ i ∈ last :: rest, InInt64 (i.stop + 1)) :
    rest.foldl mergeInterval64 (merged ++ [last]) = rest.foldl mergeInterval (merged ++ [last]) := by
  induction rest generalizing merged last with
  | nil => rfl
  | cons interval rest ih =>
    have here := fits last (by simp)
    have there := fits interval (by simp)
    rw [List.foldl_cons, List.foldl_cons, mergeInterval64_append, mergeInterval_append, canMerge64_eq here there]
    by_cases merges : canMerge last interval = true
    · rw [if_pos merges]
      apply ih
      intro i member
      rcases List.mem_cons.mp member with rfl | member
      · simp only [InInt64, mergeSlotRanges] at here there ⊢
        omega
      · exact fits i (by simp [member])
    · have split : merged ++ [last, interval] = (merged ++ [last]) ++ [interval] := by simp
      rw [if_neg merges, split]
      apply ih
      exact fun i member => fits i (List.mem_cons_of_mem _ member)

theorem mergeSorted64_eq (fits : ∀ i ∈ l, InInt64 (i.stop + 1)) : mergeSorted64 l = mergeSorted l := by
  cases l with
  | nil => rfl
  | cons first rest => exact foldl_mergeInterval64 [] first rest fits

/-- Where every end has a successor, the machine adds as the unbounded integers do. -/
theorem addSlotToSlotRanges64_eq (fits : ∀ i ∈ source, InInt64 (i.stop + 1)) (slotFits : InInt64 (slot.stop + 1)) :
    addSlotToSlotRanges64 sortByStart source slot = addSlotToSlotRanges source slot := by
  have all : ∀ i ∈ sortByStart (source ++ [slot]), InInt64 (i.stop + 1) := by
    intro i member
    rcases List.mem_append.mp ((sortByStart_perm _).mem_iff.mp member) with member | member
    · exact fits i member
    · rwa [List.mem_singleton.mp member]
  rw [addSlotToSlotRanges64, addSlotToSlotRanges, mergeSorted64_eq all]

end Add

/-- Adding is union, whatever the list holds. If no range ends at the largest integer, a
list that was not empty comes out in normal form. -/
theorem added_slots {sort : List SlotRange → List SlotRange} (sorts : SortsByStart sort)
    {source : List SlotRange} {slot : SlotRange} (valid : ∀ i ∈ slot :: source, i.Valid)
    (fits : ∀ i ∈ slot :: source, InInt64 i.start ∧ InInt64 i.stop) :
    (∀ x, x ∈ covers (addSlotToSlotRanges64 sort source slot) ↔ x ∈ covers source ∨ x ∈ slot.points) ∧
      (source ≠ [] → (∀ i ∈ slot :: source, i.stop < maxInt64) →
        Normal (addSlotToSlotRanges64 sort source slot)) := by
  have members : ∀ i ∈ sort (source ++ [slot]), i ∈ slot :: source := by
    intro i member
    have inside := (sorts.perm _).mem_iff.mp member
    rwa [List.mem_append, List.mem_singleton, or_comm, ← List.mem_cons] at inside
  have joined : covers (source ++ [slot]) = covers source ∪ slot.points := by
    ext x
    simp
  constructor
  · intro x
    have union : covers (addSlotToSlotRanges64 sort source slot) = covers source ∪ slot.points := by
      unfold addSlotToSlotRanges64
      split
      · exact joined
      · have low : ∀ i ∈ sort (source ++ [slot]), -(maxInt64 + 1) ≤ i.stop :=
          fun i member => (fits i (members i member)).2.1
        rw [covers_mergeSorted64 low (sorts.sorted _), covers_perm (sorts.perm _), joined]
    rw [union]
    rfl
  · intro nonempty below
    have successors : ∀ i ∈ sort (source ++ [slot]), InInt64 (i.stop + 1) := by
      intro i member
      have fit := (fits i (members i member)).2
      have room := below i (members i member)
      simp only [InInt64] at fit ⊢
      omega
    rw [addSlotToSlotRanges64, if_neg (by simpa using nonempty), mergeSorted64_eq successors]
    exact mergeSorted_normal (fun i member => valid i (members i member)) (sorts.sorted _)

theorem added_slots_swallowed : Normal (addSlotToSlotRanges64 sortByStart [⟨7, 9⟩, ⟨0, 5⟩, ⟨2, 3⟩] ⟨6, 6⟩) ∧
    addSlotToSlotRanges64 sortByStart [⟨7, 9⟩, ⟨0, 5⟩, ⟨2, 3⟩] ⟨6, 6⟩ = [⟨0, 9⟩] := by
  have valid : ∀ i ∈ ([⟨6, 6⟩, ⟨7, 9⟩, ⟨0, 5⟩, ⟨2, 3⟩] : List SlotRange), i.Valid := by decide
  have fits : ∀ i ∈ ([⟨6, 6⟩, ⟨7, 9⟩, ⟨0, 5⟩, ⟨2, 3⟩] : List SlotRange), InInt64 i.start ∧ InInt64 i.stop := by
    simp [InInt64, maxInt64]
  have below : ∀ i ∈ ([⟨6, 6⟩, ⟨7, 9⟩, ⟨0, 5⟩, ⟨2, 3⟩] : List SlotRange), i.stop < maxInt64 := by decide
  exact ⟨(added_slots sortByStart_sorts valid fits).2 (by simp) below, by decide +kernel⟩

/-- The successor of the largest integer is the smallest one: a range that reaches there
is never joined with what it contains. -/
theorem added_slots_at_the_largest :
    SortsByStart sortByStart ∧ (⟨0, maxInt64⟩ : SlotRange).Valid ∧ SlotRange.InBounds ⟨5, 5⟩ ∧
      addSlotToSlotRanges64 sortByStart [⟨0, maxInt64⟩] ⟨5, 5⟩ = [⟨0, maxInt64⟩, ⟨5, 5⟩] ∧
      ¬ (addSlotToSlotRanges64 sortByStart [⟨0, maxInt64⟩] ⟨5, 5⟩).Pairwise Before :=
  ⟨sortByStart_sorts, by decide, by decide, by decide +kernel, by decide +kernel⟩

section Remove

/-- `RemoveSlotFromSlotRanges` with the order that the sort leaves. -/
def removeSlotFromSlotRangesBy (sort : List SlotRange → List SlotRange) (source : List SlotRange) (slot : SlotRange) :
    List SlotRange :=
  let source := sort source
  if !source.any (fun slotRange => SlotRange.hasOverlap slotRange slot) then source
  else source.flatMap (removeFromRange slot)

variable {sort : List SlotRange → List SlotRange} (sorts : SortsByStart sort)
include sorts

theorem covers_removeBy (source : List SlotRange) (slot : SlotRange) :
    covers (removeSlotFromSlotRangesBy sort source slot) = covers source \ slot.points := by
  rw [removeSlotFromSlotRangesBy, removeFromRanges_eq_cut, covers_cut, covers_perm (sorts.perm source)]

theorem removeBy_valid (valid : ∀ i ∈ source, i.Valid) :
    ∀ i ∈ removeSlotFromSlotRangesBy sort source slot, i.Valid := by
  intro i member
  rw [removeSlotFromSlotRangesBy, removeFromRanges_eq_cut, cut] at member
  obtain ⟨whole, member, piece⟩ := List.mem_flatMap.mp member
  exact (mem_pieces (valid whole ((sorts.perm source).mem_iff.mp member)) piece).2.2

/-- Starts that are all different leave a sort no choice. -/
theorem SortsByStart.normal (normal : Normal source) : sort source = source := by
  apply List.Perm.eq_of_pairwise _ (sorts.sorted source) (normal.sorted.imp le_of_lt) (sorts.perm source)
  intro a b here there before after
  rcases normal.apart ((sorts.perm source).mem_iff.mp here) there with same | gap | gap
  · exact same
  · have longer := normal.valid a ((sorts.perm source).mem_iff.mp here)
    simp only [Before, Valid] at gap longer
    omega
  · have longer := normal.valid b there
    simp only [Before, Valid] at gap longer
    omega

end Remove

/-- Removing is difference, whatever the list holds, and keeps a normal form. -/
theorem removed_slots {sort : List SlotRange → List SlotRange} (sorts : SortsByStart sort)
    {source : List SlotRange} {slot : SlotRange} (valid : ∀ i ∈ source, i.Valid) (slotValid : slot.Valid) :
    (∀ x, x ∈ covers (removeSlotFromSlotRangesBy sort source slot) ↔ x ∈ covers source ∧ x ∉ slot.points) ∧
      (∀ i ∈ removeSlotFromSlotRangesBy sort source slot, i.Valid) ∧
      (source.Pairwise Before → (removeSlotFromSlotRangesBy sort source slot).Pairwise Before) := by
  refine ⟨fun x => ?_, removeBy_valid sorts valid, fun separated => ?_⟩
  · rw [covers_removeBy sorts]
    rfl
  · have normal : Normal source := ⟨valid, separated⟩
    rw [removeSlotFromSlotRangesBy, sorts.normal normal, removeFromRanges_eq_cut]
    exact (cut_normal normal slotValid).separated

/-- One removal trims two ranges and takes away the one between them. -/
theorem removed_slots_several :
    (removeSlotFromSlotRangesBy sortByStart [⟨0, 3⟩, ⟨5, 6⟩, ⟨8, 20⟩] ⟨2, 9⟩).Pairwise Before ∧
      removeSlotFromSlotRangesBy sortByStart [⟨0, 3⟩, ⟨5, 6⟩, ⟨8, 20⟩] ⟨2, 9⟩ = [⟨0, 1⟩, ⟨10, 20⟩] := by
  have valid : ∀ i ∈ ([⟨0, 3⟩, ⟨5, 6⟩, ⟨8, 20⟩] : List SlotRange), i.Valid := by decide
  have separated : ([⟨0, 3⟩, ⟨5, 6⟩, ⟨8, 20⟩] : List SlotRange).Pairwise Before := by decide
  exact ⟨(removed_slots sortByStart_sorts valid (by decide)).2.2 separated, by decide +kernel⟩

end Kvrocks
