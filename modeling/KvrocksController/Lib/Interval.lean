import Mathlib.Data.Int.ConditionallyCompleteOrder
import Mathlib.Data.Int.Order.Basic
import Mathlib.Data.List.Sort
import Mathlib.Data.Set.Basic
import Mathlib.Data.Set.BooleanAlgebra
import Mathlib.Order.CompletePartialOrder
import Mathlib.Order.ConditionallyCompleteLattice.Basic
import Mathlib.Order.Interval.Set.Defs

/-! Finite unions of closed integer intervals, kept as lists. A list in normal
form is determined by the set it covers; coalescing a list sorted by start and
cutting a hole both reach the normal form. Nothing is assumed about where the
intervals come from or how many there are. -/
namespace Kvrocks

/-- Both ends are inclusive; a value with `stop < start` covers nothing. -/
structure Interval where
  start : Int
  stop : Int
deriving DecidableEq, Repr

namespace Interval

def Valid (i : Interval) : Prop := i.start ≤ i.stop

instance (i : Interval) : Decidable i.Valid := inferInstanceAs (Decidable (_ ≤ _))

def points (i : Interval) : Set Int := Set.Icc i.start i.stop

instance (i : Interval) (x : Int) : Decidable (x ∈ i.points) :=
  inferInstanceAs (Decidable (_ ∧ _))

@[simp] theorem mem_points {i : Interval} : x ∈ i.points ↔ i.start ≤ x ∧ x ≤ i.stop := Iff.rfl

/-- At least one integer lies strictly between the two intervals. -/
def Before (a b : Interval) : Prop := a.stop + 1 < b.start

instance (a b : Interval) : Decidable (Before a b) := inferInstanceAs (Decidable (_ < _))

/-- The integers covered by some member of the list. -/
def covers (l : List Interval) : Set Int := {x | ∃ i ∈ l, x ∈ i.points}

theorem mem_covers : x ∈ covers l ↔ ∃ i ∈ l, i.start ≤ x ∧ x ≤ i.stop := Iff.rfl

@[simp] theorem covers_nil : covers [] = ∅ := by
  ext x
  simp [mem_covers]

@[simp] theorem mem_covers_cons : x ∈ covers (i :: l) ↔ (i.start ≤ x ∧ x ≤ i.stop) ∨ x ∈ covers l := by
  simp [mem_covers]

@[simp] theorem mem_covers_append : x ∈ covers (l ++ m) ↔ x ∈ covers l ∨ x ∈ covers m := by
  simp only [mem_covers, List.mem_append, or_and_right, exists_or]

theorem covers_perm (same : l.Perm m) : covers l = covers m := by
  ext x
  simp only [mem_covers, same.mem_iff]

/-- Valid members in increasing order, no two of them adjacent. -/
structure Normal (l : List Interval) : Prop where
  valid : ∀ i ∈ l, i.Valid
  separated : l.Pairwise Before

instance (l : List Interval) : Decidable (Normal l) :=
  decidable_of_iff ((∀ i ∈ l, i.Valid) ∧ l.Pairwise Before)
    ⟨fun h => ⟨h.1, h.2⟩, fun h => ⟨h.valid, h.separated⟩⟩

namespace Normal

theorem nil : Normal [] := ⟨by simp, .nil⟩

theorem single (valid : i.Valid) : Normal [i] := ⟨by simpa using valid, by simp⟩

theorem cons_iff : Normal (i :: l) ↔ i.Valid ∧ (∀ j ∈ l, Before i j) ∧ Normal l := by
  constructor
  · rintro ⟨valid, separated⟩
    rw [List.pairwise_cons] at separated
    exact ⟨valid i (by simp), separated.1, fun j member => valid j (by simp [member]), separated.2⟩
  · rintro ⟨head, ahead, valid, separated⟩
    refine ⟨?_, List.pairwise_cons.mpr ⟨ahead, separated⟩⟩
    intro j member
    rcases List.mem_cons.mp member with rfl | member
    · exact head
    · exact valid j member

theorem tail (normal : Normal (i :: l)) : Normal l := (cons_iff.mp normal).2.2

/-- Everything the tail covers lies beyond the gap after the head. -/
theorem beyond (normal : Normal (i :: l)) (covered : x ∈ covers l) : i.stop + 1 < x := by
  obtain ⟨j, member, low, _⟩ := mem_covers.mp covered
  have gap := (cons_iff.mp normal).2.1 j member
  simp only [Before] at gap
  omega

theorem sorted (normal : Normal l) : l.Pairwise (fun a b => a.start < b.start) := by
  induction l with
  | nil => simp
  | cons i l ih =>
    obtain ⟨valid, ahead, rest⟩ := cons_iff.mp normal
    refine List.pairwise_cons.mpr ⟨fun j member => ?_, ih rest⟩
    have gap := ahead j member
    simp only [Valid, Before] at valid gap
    omega

theorem head_start (normal : Normal (i :: l)) (covered : x ∈ covers (i :: l)) : i.start ≤ x := by
  rcases mem_covers_cons.mp covered with inside | covered
  · exact inside.1
  · have valid := (cons_iff.mp normal).1
    have gap := normal.beyond covered
    simp only [Valid] at valid
    omega

/-- The tail covers exactly what lies beyond the head. -/
theorem mem_tail (normal : Normal (i :: l)) : x ∈ covers l ↔ x ∈ covers (i :: l) ∧ i.stop < x := by
  constructor
  · intro covered
    have gap := normal.beyond covered
    exact ⟨mem_covers_cons.mpr (.inr covered), by omega⟩
  · rintro ⟨covered, past⟩
    rcases mem_covers_cons.mp covered with inside | covered
    · omega
    · exact covered

theorem head_covered (normal : Normal (i :: l)) : i.start ∈ covers (i :: l) := by
  have valid : i.start ≤ i.stop := (cons_iff.mp normal).1
  simp [valid]

/-- A head that stops later would cover the gap after the other head. -/
theorem head_stop_le (first : Normal (i :: l)) (same : covers (i :: l) = covers (j :: m))
    (start : i.start = j.start) : j.stop ≤ i.stop := by
  have valid : i.start ≤ i.stop := (cons_iff.mp first).1
  by_contra longer
  have covered : i.stop + 1 ∈ covers (i :: l) := by
    rw [same]
    exact mem_covers_cons.mpr (.inl ⟨by omega, by omega⟩)
  have := first.beyond (first.mem_tail.mpr ⟨covered, by omega⟩)
  omega

/-- The first covered integer is the first start, and the first gap after it
is the first stop, so the covered set fixes the head and then the tail. -/
theorem unique (first : Normal l) (second : Normal m) (same : covers l = covers m) : l = m := by
  induction l generalizing m with
  | nil =>
    cases m with
    | nil => rfl
    | cons j m =>
      have member := second.head_covered
      rw [← same] at member
      simp at member
  | cons i l ih =>
    cases m with
    | nil =>
      have member := first.head_covered
      rw [same] at member
      simp at member
    | cons j m =>
      have start : i.start = j.start := by
        have left := second.head_start (same ▸ first.head_covered)
        have right := first.head_start (same ▸ second.head_covered)
        omega
      have stop : i.stop = j.stop := by
        have left := first.head_stop_le same start
        have right := second.head_stop_le same.symm start.symm
        omega
      have head : i = j := by
        cases i
        cases j
        simp_all
      subst head
      congr 1
      apply ih first.tail second.tail
      ext x
      rw [first.mem_tail, second.mem_tail, same]

theorem apart (normal : Normal l) (here : i ∈ l) (there : j ∈ l) :
    i = j ∨ Before i j ∨ Before j i := by
  induction l with
  | nil => simp at here
  | cons k l ih =>
    have ahead := (cons_iff.mp normal).2.1
    simp only [List.mem_cons] at here there
    rcases here with rfl | here
    · rcases there with rfl | there
      · exact .inl rfl
      · exact .inr (.inl (ahead j there))
    · rcases there with rfl | there
      · exact .inr (.inr (ahead i here))
      · exact ih normal.tail here there

/-- A normal list that covers an interval covers it with one member. -/
theorem contains_single {r : Interval} (normal : Normal l) (valid : r.Valid) (covered : r.points ⊆ covers l) :
    ∃ i ∈ l, i.start ≤ r.start ∧ r.stop ≤ i.stop := by
  simp only [Valid] at valid
  obtain ⟨i, member, low, high⟩ := mem_covers.mp (covered ⟨Int.le_refl _, valid⟩)
  refine ⟨i, member, low, ?_⟩
  by_contra short
  -- the point after `i` is in the interval too, in a member that touches `i`
  obtain ⟨j, other, below, above⟩ := mem_covers.mp (covered (show i.stop + 1 ∈ r.points by
    simp only [mem_points]
    omega))
  rcases normal.apart member other with rfl | gap | gap
  · omega
  · simp only [Before] at gap
    omega
  · simp only [Before] at gap
    omega

end Normal

/-- Join `current` with the members it touches, for a list sorted by start. -/
def coalesce (current : Interval) : List Interval → List Interval
  | [] => [current]
  | next :: rest =>
      if next.start ≤ current.stop + 1 then
        coalesce ⟨min next.start current.start, max next.stop current.stop⟩ rest
      else current :: coalesce next rest

theorem coalesce_lower (low : bound ≤ current.start) (rest : ∀ i ∈ l, bound ≤ i.start) :
    ∀ i ∈ coalesce current l, bound ≤ i.start := by
  induction l generalizing current with
  | nil => simpa [coalesce] using low
  | cons next l ih =>
    have here := rest next (by simp)
    have later : ∀ i ∈ l, bound ≤ i.start := fun i member => rest i (by simp [member])
    simp only [coalesce]
    split
    · exact ih (by simp only; omega) later
    · intro i member
      rcases List.mem_cons.mp member with rfl | member
      · exact low
      · exact ih here later i member

theorem coalesce_normal (valid : ∀ i ∈ current :: l, i.Valid)
    (sorted : (current :: l).Pairwise (fun a b => a.start ≤ b.start)) :
    Normal (coalesce current l) := by
  induction l generalizing current with
  | nil => exact .single (valid current (by simp))
  | cons next l ih =>
    obtain ⟨first, sorted⟩ := List.pairwise_cons.mp sorted
    obtain ⟨second, rest⟩ := List.pairwise_cons.mp sorted
    have here : current.start ≤ current.stop := valid current (by simp)
    have there : next.start ≤ next.stop := valid next (by simp)
    have order := first next (by simp)
    simp only [coalesce]
    split
    · apply ih
      · intro i member
        rcases List.mem_cons.mp member with rfl | member
        · simp only [Valid]
          omega
        · exact valid i (by simp [member])
      · refine List.pairwise_cons.mpr ⟨fun i member => ?_, rest⟩
        have later := second i member
        simp only
        omega
    · rename_i gap
      refine Normal.cons_iff.mpr ⟨here, fun i member => ?_,
        ih (fun i member => valid i (by simp [List.mem_cons.mp member])) sorted⟩
      have bound := coalesce_lower (le_refl next.start) second i member
      simp only [Before]
      omega

/-- The points stay the same even where a member covers nothing. -/
theorem covers_coalesce (sorted : (current :: l).Pairwise (fun a b => a.start ≤ b.start)) :
    covers (coalesce current l) = covers (current :: l) := by
  induction l generalizing current with
  | nil => rfl
  | cons next l ih =>
    obtain ⟨first, sorted⟩ := List.pairwise_cons.mp sorted
    obtain ⟨second, rest⟩ := List.pairwise_cons.mp sorted
    have order := first next (by simp)
    simp only [coalesce]
    split
    · rename_i touching
      rw [ih]
      · ext x
        simp only [mem_covers_cons]
        constructor
        · rintro (inside | covered)
          · by_cases within : x ≤ current.stop
            · exact .inl (by omega)
            · exact .inr (.inl (by omega))
          · exact .inr (.inr covered)
        · rintro (inside | inside | covered)
          · exact .inl (by omega)
          · exact .inl (by omega)
          · exact .inr covered
      · refine List.pairwise_cons.mpr ⟨fun i member => ?_, rest⟩
        have later := second i member
        simp only
        omega
    · ext x
      rw [mem_covers_cons, mem_covers_cons, ih sorted]

/-- What remains of `i` once `hole` is taken out of it. -/
def pieces (hole i : Interval) : List Interval :=
  if i.stop ≥ hole.start ∧ i.start ≤ hole.stop then
    (if i.start < hole.start then [⟨i.start, hole.start - 1⟩] else []) ++
      (if i.stop > hole.stop then [⟨hole.stop + 1, i.stop⟩] else [])
  else [i]

def cut (hole : Interval) (l : List Interval) : List Interval := l.flatMap (pieces hole)

theorem mem_pieces (valid : i.Valid) (member : p ∈ pieces hole i) :
    i.start ≤ p.start ∧ p.stop ≤ i.stop ∧ p.Valid := by
  unfold pieces at member
  simp only [Valid] at valid ⊢
  split at member
  · rcases List.mem_append.mp member with left | right
    · split at left
      · obtain rfl := List.mem_singleton.mp left
        simp only
        omega
      · simp at left
    · split at right
      · obtain rfl := List.mem_singleton.mp right
        simp only
        omega
      · simp at right
  · obtain rfl := List.mem_singleton.mp member
    exact ⟨le_refl _, le_refl _, valid⟩

theorem covers_pieces : x ∈ covers (pieces hole i) ↔ x ∈ i.points ∧ x ∉ hole.points := by
  unfold pieces
  simp only [mem_points, not_and, not_le]
  split
  · rw [mem_covers_append]
    split <;> split <;> simp only [mem_covers_cons, covers_nil, Set.mem_empty_iff_false,
      or_false, false_or, false_iff] <;> omega
  · simp only [mem_covers_cons, covers_nil, Set.mem_empty_iff_false, or_false]
    omega

theorem covers_cut : covers (cut hole l) = covers l \ hole.points := by
  ext x
  simp only [cut, Set.mem_sdiff]
  induction l with
  | nil => simp
  | cons i l ih =>
    rw [List.flatMap_cons, mem_covers_append, covers_pieces, ih, mem_covers_cons]
    simp only [mem_points]
    tauto

theorem cut_normal (normal : Normal l) (valid : hole.Valid) : Normal (cut hole l) := by
  simp only [Valid] at valid
  refine ⟨?_, List.pairwise_flatMap.mpr ⟨?_, ?_⟩⟩
  · intro p member
    obtain ⟨i, here, member⟩ := List.mem_flatMap.mp member
    exact (mem_pieces (normal.valid i here) member).2.2
  · intro i _
    unfold pieces
    split
    · split <;> split <;> simp [Before]
      omega
    · simp
  · refine normal.separated.imp_of_mem ?_
    intro i j here there gap p left q right
    have below := mem_pieces (normal.valid i here) left
    have above := mem_pieces (normal.valid j there) right
    simp only [Before] at gap ⊢
    omega

/-- A hole that meets no member leaves the list as it is. -/
theorem cut_disjoint (apart : ∀ i ∈ l, ¬ (i.stop ≥ hole.start ∧ i.start ≤ hole.stop)) :
    cut hole l = l := by
  induction l with
  | nil => rfl
  | cons i l ih =>
    rw [cut, List.flatMap_cons, pieces, if_neg (apart i (by simp))]
    rw [← cut, ih (fun j member => apart j (by simp [member]))]
    rfl

end Interval
end Kvrocks
