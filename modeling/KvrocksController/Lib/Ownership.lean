import KvrocksController.Lib.Interval

/-! Families of interval lists that partition one interval: every integer of
the universe belongs to exactly one member of exactly one list. Reassigning an
owned interval, adding an empty list and dropping an empty list keep the
partition; the family is indexed by position, so a drop renumbers the rest. -/
namespace Kvrocks.Interval

/-- The list at position `k` covers `x`. -/
def Owns (f : List (List Interval)) (k : Nat) (x : Int) : Prop :=
  ∃ l, f[k]? = some l ∧ x ∈ covers l

structure Partition (u : Interval) (f : List (List Interval)) : Prop where
  normal : ∀ l ∈ f, Normal l
  inside : Owns f k x → x ∈ u.points
  total : x ∈ u.points → ∃ k, Owns f k x
  disjoint : Owns f j x → Owns f k x → j = k

theorem owns_append_empty : Owns (f ++ [[]]) k x ↔ Owns f k x := by
  simp only [Owns, List.getElem?_append]
  split
  · rfl
  · rename_i beyond
    constructor
    · rintro ⟨l, found, covered⟩
      rw [List.getElem?_singleton] at found
      split at found
      · obtain rfl := Option.some.inj found
        simp at covered
      · cases found
    · rintro ⟨l, found, _⟩
      exact False.elim (beyond (List.getElem?_eq_some_iff.mp found).1)

namespace Partition

/-- One list and one member of it contain a given integer of the universe. -/
theorem exactly_one (partition : Partition u f) (point : x ∈ u.points) :
    ∃! p : Nat × Nat, ∃ l i, f[p.1]? = some l ∧ l[p.2]? = some i ∧ i.start ≤ x ∧ x ≤ i.stop := by
  obtain ⟨k, l, found, covered⟩ := partition.total point
  obtain ⟨i, member, bounds⟩ := mem_covers.mp covered
  obtain ⟨n, position⟩ := List.mem_iff_getElem?.mp member
  refine ⟨(k, n), ⟨l, i, found, position, bounds⟩, ?_⟩
  rintro ⟨k', n'⟩ ⟨l', i', found', position', bounds'⟩
  have owned : Owns f k x := ⟨l, found, covered⟩
  have owned' : Owns f k' x := ⟨l', found', mem_covers.mpr ⟨i', List.mem_of_getElem? position', bounds'⟩⟩
  obtain rfl := partition.disjoint owned owned'
  obtain rfl := Option.some.inj (found.symm.trans found')
  have normal := partition.normal l (List.mem_of_getElem? found)
  have same : i = i' := by
    rcases normal.apart member (List.mem_of_getElem? position') with same | gap | gap
    · exact same
    · simp only [Before] at gap
      omega
    · simp only [Before] at gap
      omega
  subst same
  -- Starts strictly increase along the list, so one interval has one position.
  have unique : n = n' := by
    obtain ⟨bound, here⟩ := List.getElem?_eq_some_iff.mp position
    obtain ⟨bound', there⟩ := List.getElem?_eq_some_iff.mp position'
    have increasing := List.pairwise_iff_getElem.mp normal.sorted
    rcases Nat.lt_trichotomy n n' with before | equal | after
    · have := increasing n n' bound bound' before
      rw [here, there] at this
      omega
    · exact equal
    · have := increasing n' n bound' bound after
      rw [here, there] at this
      omega
  rw [unique]

/-- Abstract reassignment: exactly the points of `r` change owner, to `t`. -/
theorem reassign {r : Interval} (partition : Partition u f) (normal : ∀ l ∈ g, Normal l)
    (inside : r.points ⊆ u.points)
    (owner : ∀ k x, Owns g k x ↔ if x ∈ r.points then k = t else Owns f k x) :
    Partition u g where
  normal := normal
  inside := by
    intro k x owned
    have after := (owner k x).mp owned
    split at after
    · exact inside ‹_›
    · exact partition.inside after
  total := by
    intro x point
    by_cases moved : x ∈ r.points
    · exact ⟨t, (owner t x).mpr (by simp only [if_pos moved])⟩
    · obtain ⟨k, owned⟩ := partition.total point
      exact ⟨k, (owner k x).mpr (by simpa only [if_neg moved] using owned)⟩
  disjoint := by
    intro j x k first second
    have first := (owner j x).mp first
    have second := (owner k x).mp second
    by_cases moved : x ∈ r.points
    · rw [if_pos moved] at first second
      exact first.trans second.symm
    · rw [if_neg moved] at first second
      exact partition.disjoint first second

section Move
variable {remove add : List Interval → List Interval} {r : Interval}

/-- What the list at `k` becomes when `s` loses an interval and `t` gains it. -/
def moved (remove add : List Interval → List Interval) (s t k : Nat) (m : List Interval) : List Interval :=
  if k = t then add (if k = s then remove m else m) else if k = s then remove m else m

theorem getElem?_moved {f : List (List Interval)} :
    ((f.modify s remove).modify t add)[k]? = f[k]?.map (moved remove add s t k) := by
  simp only [List.getElem?_modify, eq_comm (a := s), eq_comm (a := t)]
  unfold moved
  cases f[k]? with
  | none => rfl
  | some m => split <;> split <;> rfl

theorem moved_spec (removes : ∀ l, Normal l → Normal (remove l) ∧ covers (remove l) = covers l \ r.points)
    (adds : ∀ l, Normal l → Normal (add l) ∧ covers (add l) = covers l ∪ r.points)
    (normal : Normal m) (absent : ∀ {x}, k ≠ s → x ∈ r.points → x ∉ covers m) :
    Normal (moved remove add s t k m) ∧
      ∀ x, x ∈ covers (moved remove add s t k m) ↔ if x ∈ r.points then k = t else x ∈ covers m := by
  have taken := removes m normal
  unfold moved
  by_cases atTarget : k = t
  · by_cases atSource : k = s
    · have joined := adds _ taken.1
      rw [if_pos atTarget, if_pos atSource]
      refine ⟨joined.1, fun x => ?_⟩
      rw [joined.2, taken.2]
      by_cases member : x ∈ r.points <;> simp [member, atTarget]
    · have joined := adds m normal
      rw [if_pos atTarget, if_neg atSource]
      refine ⟨joined.1, fun x => ?_⟩
      rw [joined.2]
      by_cases member : x ∈ r.points <;> simp [member, atTarget]
  · by_cases atSource : k = s
    · rw [if_neg atTarget, if_pos atSource]
      refine ⟨taken.1, fun x => ?_⟩
      rw [taken.2]
      by_cases member : x ∈ r.points <;> simp [member, atTarget]
    · rw [if_neg atTarget, if_neg atSource]
      refine ⟨normal, fun x => ?_⟩
      by_cases member : x ∈ r.points
      · simp [member, atTarget, absent atSource member]
      · simp [member]

/-- Exactly the points of `r` change owner, to `t`, when no list but the one at `s`
holds any of them. Nothing needs to be covered in full. -/
theorem owns_move (removes : ∀ l, Normal l → Normal (remove l) ∧ covers (remove l) = covers l \ r.points)
    (adds : ∀ l, Normal l → Normal (add l) ∧ covers (add l) = covers l ∪ r.points)
    (normal : ∀ l ∈ f, Normal l) (only : ∀ k x, x ∈ r.points → Owns f k x → k = s) (target : t < f.length) :
    (∀ l ∈ (f.modify s remove).modify t add, Normal l) ∧
      ∀ k x, Owns ((f.modify s remove).modify t add) k x ↔ if x ∈ r.points then k = t else Owns f k x := by
  have step : ∀ {k m}, f[k]? = some m → Normal (moved remove add s t k m) ∧
      ∀ x, x ∈ covers (moved remove add s t k m) ↔ if x ∈ r.points then k = t else x ∈ covers m := by
    intro k m found
    refine moved_spec removes adds (normal m (List.mem_of_getElem? found)) ?_
    exact fun other member covered => other (only _ _ member ⟨m, found, covered⟩)
  constructor
  · intro m member
    obtain ⟨k, found⟩ := List.mem_iff_getElem?.mp member
    rw [getElem?_moved, Option.map_eq_some_iff] at found
    obtain ⟨before, found, rfl⟩ := found
    exact (step found).1
  · intro k x
    simp only [Owns, getElem?_moved, Option.map_eq_some_iff]
    constructor
    · rintro ⟨_, ⟨m, found, rfl⟩, covered⟩
      have after := ((step found).2 x).mp covered
      split
      · simpa only [if_pos ‹_›] using after
      · exact ⟨m, found, by simpa only [if_neg ‹_›] using after⟩
    · intro after
      by_cases inside : x ∈ r.points
      · rw [if_pos inside] at after
        obtain ⟨m, found⟩ : ∃ m, f[k]? = some m := by
          rw [after]
          exact ⟨_, List.getElem?_eq_getElem target⟩
        exact ⟨_, ⟨m, found, rfl⟩, ((step found).2 x).mpr (by rwa [if_pos inside])⟩
      · rw [if_neg inside] at after
        obtain ⟨m, found, covered⟩ := after
        exact ⟨_, ⟨m, found, rfl⟩, ((step found).2 x).mpr (by rwa [if_neg inside])⟩

/-- The concrete move: `remove` takes `r` out of the list at `s` and `add` joins
it to the list at `t`. The two positions may coincide. -/
theorem move (removes : ∀ l, Normal l → Normal (remove l) ∧ covers (remove l) = covers l \ r.points)
    (adds : ∀ l, Normal l → Normal (add l) ∧ covers (add l) = covers l ∪ r.points)
    (partition : Partition u f) (source : f[s]? = some l) (owned : r.points ⊆ covers l)
    (target : t < f.length) :
    Partition u ((f.modify s remove).modify t add) := by
  have sourceOwns : ∀ {x}, x ∈ r.points → Owns f s x := fun member => ⟨l, source, owned member⟩
  have only (k : Nat) (x : Int) (member : x ∈ r.points) (owns : Owns f k x) : k = s :=
    partition.disjoint owns (sourceOwns member)
  obtain ⟨normal, owner⟩ := owns_move removes adds partition.normal only target
  exact partition.reassign normal (fun x member => partition.inside (sourceOwns member)) owner

end Move

theorem append_empty (partition : Partition u f) : Partition u (f ++ [[]]) where
  normal := by
    intro l member
    rcases List.mem_append.mp member with member | member
    · exact partition.normal l member
    · obtain rfl := List.mem_singleton.mp member
      exact .nil
  inside owned := partition.inside (owns_append_empty.mp owned)
  total point := (partition.total point).imp fun _ => owns_append_empty.mpr
  disjoint first second := partition.disjoint (owns_append_empty.mp first) (owns_append_empty.mp second)

/-- Dropping an empty list moves every later list one position down. -/
theorem erase_empty (partition : Partition u f) (empty : f[n]? = some []) :
    Partition u (f.eraseIdx n) := by
  have shifted (k : Nat) (x : Int) :
      Owns (f.eraseIdx n) k x ↔ Owns f (if k < n then k else k + 1) x := by
    simp only [Owns, List.getElem?_eraseIdx]
    split <;> rfl
  have placed (k : Nat) (x : Int) (owned : Owns f k x) :
      ∃ j, (if j < n then j else j + 1) = k := by
    by_cases same : k = n
    · obtain ⟨l, found, covered⟩ := owned
      rw [same, empty] at found
      obtain rfl := Option.some.inj found
      simp at covered
    · by_cases before : k < n
      · exact ⟨k, if_pos before⟩
      · exact ⟨k - 1, by rw [if_neg (by omega)]; omega⟩
  refine ⟨fun l member => partition.normal l (List.mem_of_mem_eraseIdx member), ?_, ?_, ?_⟩
  · intro k x owned
    exact partition.inside ((shifted k x).mp owned)
  · intro x point
    obtain ⟨k, owned⟩ := partition.total point
    obtain ⟨j, rfl⟩ := placed k x owned
    exact ⟨j, (shifted j x).mpr owned⟩
  · intro j x k first second
    have same := partition.disjoint ((shifted j x).mp first) ((shifted k x).mp second)
    split at same <;> split at same <;> omega

section Blocks
variable {bound : Nat → Int}

theorem bound_mono (increasing : ∀ i < n, bound i < bound (i + 1)) (upper : j ≤ n) (below : i ≤ j) :
    bound i ≤ bound j := by
  induction j with
  | zero => rw [Nat.le_zero.mp below]
  | succ j ih =>
    have step := increasing j (by omega)
    rcases Nat.le_succ_iff.mp below with below | rfl
    · have := ih (by omega) below
      omega
    · exact Int.le_refl _

/-- A point below some bound lies in the last block that starts at or before it. -/
theorem block_of (lower : bound 0 ≤ x) (below : x < bound j) : ∃ k < j, bound k ≤ x ∧ x < bound (k + 1) := by
  induction j with
  | zero => omega
  | succ j ih =>
    by_cases earlier : x < bound j
    · obtain ⟨k, inside, found⟩ := ih earlier
      exact ⟨k, by omega, found⟩
    · exact ⟨j, by omega, by omega, below⟩

theorem owns_blocks : Owns ((List.range n).map fun i => [⟨bound i, bound (i + 1) - 1⟩]) k x ↔
    k < n ∧ bound k ≤ x ∧ x < bound (k + 1) := by
  simp only [Owns, List.getElem?_map, Option.map_eq_some_iff]
  constructor
  · rintro ⟨_, ⟨i, found, rfl⟩, covered⟩
    obtain ⟨position, same⟩ := List.getElem?_eq_some_iff.mp found
    rw [List.getElem_range] at same
    subst same
    rw [List.length_range] at position
    simp only [mem_covers_cons, covers_nil, Set.mem_empty_iff_false, or_false] at covered
    omega
  · rintro ⟨position, lower, upper⟩
    refine ⟨_, ⟨k, List.getElem?_range position, rfl⟩, ?_⟩
    simp only [mem_covers_cons, covers_nil, Set.mem_empty_iff_false, or_false]
    omega

/-- Consecutive blocks between increasing bounds, one list a block. -/
theorem blocks (increasing : ∀ i < n, bound i < bound (i + 1)) :
    Partition ⟨bound 0, bound n - 1⟩ ((List.range n).map fun i => [⟨bound i, bound (i + 1) - 1⟩]) where
  normal := by
    intro l member
    obtain ⟨i, inside, rfl⟩ := List.mem_map.mp member
    have step := increasing i (List.mem_range.mp inside)
    exact .single (by simp only [Valid]; omega)
  inside := by
    intro k x owned
    obtain ⟨position, lower, upper⟩ := owns_blocks.mp owned
    have first : bound 0 ≤ bound k := bound_mono increasing (by omega) (by omega)
    have last : bound (k + 1) ≤ bound n := bound_mono increasing (by omega) (by omega)
    simp only [mem_points]
    omega
  total := by
    intro x point
    simp only [mem_points] at point
    obtain ⟨k, inside, found⟩ := block_of (j := n) point.1 (by omega)
    exact ⟨k, owns_blocks.mpr ⟨inside, found⟩⟩
  disjoint := by
    intro j x k first second
    obtain ⟨insideJ, lowerJ, upperJ⟩ := owns_blocks.mp first
    obtain ⟨insideK, lowerK, upperK⟩ := owns_blocks.mp second
    by_contra distinct
    rcases Nat.lt_or_gt_of_ne distinct with before | after
    · have : bound (j + 1) ≤ bound k := bound_mono increasing (by omega) (by omega)
      omega
    · have : bound (k + 1) ≤ bound j := bound_mono increasing (by omega) (by omega)
      omega

end Blocks

end Partition

/-- Valid intervals laid end to end from `low` to `high`. -/
def Tiles (low high : Int) : List Interval → Prop
  | [] => low = high + 1
  | i :: l => i.start = low ∧ i.Valid ∧ Tiles (i.stop + 1) high l

namespace Tiles

theorem low_le (tiles : Tiles low high l) : low ≤ high + 1 := by
  induction l generalizing low with
  | nil => exact Int.le_of_eq tiles
  | cons i l ih =>
    obtain ⟨rfl, valid, rest⟩ := tiles
    have bound := ih rest
    simp only [Valid] at valid
    omega

theorem mem_covers (tiles : Tiles low high l) : x ∈ covers l ↔ low ≤ x ∧ x ≤ high := by
  induction l generalizing low with
  | nil =>
    obtain rfl : low = high + 1 := tiles
    simp only [covers_nil, Set.mem_empty_iff_false, false_iff]
    omega
  | cons i l ih =>
    obtain ⟨rfl, valid, rest⟩ := tiles
    have bound := rest.low_le
    simp only [Valid] at valid
    rw [mem_covers_cons, ih rest]
    omega

theorem inside (tiles : Tiles low high l) (member : i ∈ l) : low ≤ i.start ∧ i.Valid ∧ i.stop ≤ high := by
  induction l generalizing low with
  | nil => cases member
  | cons j l ih =>
    obtain ⟨rfl, valid, rest⟩ := tiles
    have bound := rest.low_le
    rcases List.mem_cons.mp member with rfl | member
    · exact ⟨Int.le_refl _, valid, by omega⟩
    · obtain ⟨above, here, below⟩ := ih rest member
      simp only [Valid] at valid
      exact ⟨by omega, here, below⟩

theorem disjoint (tiles : Tiles low high l) : l.Pairwise fun a b => Disjoint a.points b.points := by
  induction l generalizing low with
  | nil => exact .nil
  | cons i l ih =>
    obtain ⟨rfl, _, rest⟩ := tiles
    refine List.pairwise_cons.mpr ⟨fun j member => Set.disjoint_left.mpr fun x here there => ?_, ih rest⟩
    have above := (rest.inside member).1
    simp only [mem_points] at here there
    omega

theorem blocks {bound : Nat → Int} (increasing : ∀ i < n, bound i < bound (i + 1)) :
    Tiles (bound 0) (bound n - 1) ((List.range n).map fun i => ⟨bound i, bound (i + 1) - 1⟩) := by
  induction n generalizing bound with
  | zero =>
    simp only [List.range_zero, List.map_nil, Tiles]
    omega
  | succ n ih =>
    have first := increasing 0 (by omega)
    have rest : Tiles (bound 1) (bound (n + 1) - 1) ((List.range n).map fun i => ⟨bound (i + 1), bound (i + 2) - 1⟩) :=
      ih fun i inside => increasing (i + 1) (by omega)
    rw [List.range_succ_eq_map, List.map_cons, List.map_map]
    refine ⟨rfl, by simp only [Valid]; omega, ?_⟩
    rwa [Int.sub_add_cancel]

end Tiles
end Kvrocks.Interval
