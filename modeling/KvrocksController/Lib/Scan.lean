import Mathlib.Data.List.MinMax

/-! Scans for a best element of a list, by a key in a linear order. A scan that replaces
its choice by a strictly better element settles on the first of the best ones, which is
`List.argmax`; one that also replaces it by an equal element settles on the last. -/
namespace Kvrocks.Scan
variable {α β : Type} [LinearOrder β] {f : α → β} {l : List α}

section First

/-- Which of the best elements is chosen is a matter of the order: one that comes first
is chosen. -/
theorem argmax_first (best : ∀ b ∈ l, f b ≤ f a) : (a :: l).argmax f = some a := by
  rw [List.argmax_cons]
  cases rest : l.argmax f with
  | none => rfl
  | some c => exact if_neg (not_lt.mpr (best c (List.argmax_mem rest)))

theorem argmax_append (f : α → β) (l : List α) (a : α) :
    (l ++ [a]).argmax f = match l.argmax f with
      | none => some a
      | some c => if f c < f a then some a else some c := by
  rw [List.argmax_concat]
  cases l.argmax f <;> rfl

end First

section Last

def lastMax (f : α → β) (l : List α) : Option α := l.reverse.argmax f

theorem lastMax_cons (f : α → β) (a : α) (l : List α) :
    lastMax f (a :: l) = match lastMax f l with
      | none => some a
      | some c => if f c < f a then some a else some c := by
  rw [lastMax, List.reverse_cons, argmax_append, ← lastMax]

/-- The step of the scan: of the choice so far and the next element one is left. -/
theorem lastMax_cons_cons (f : α → β) (a b : α) (l : List α) :
    lastMax f (a :: b :: l) = lastMax f ((if f a ≤ f b then b else a) :: l) := by
  rw [lastMax_cons, lastMax_cons, lastMax_cons]
  cases lastMax f l with
  | none =>
    by_cases order : f a ≤ f b
    · simp [order, not_lt.mpr order]
    · simp [order, not_le.mp order]
  | some c =>
    by_cases order : f a ≤ f b
    · by_cases above : f c < f b
      · simp [order, above, not_lt.mpr order]
      · simp [order, above, not_lt.mpr (order.trans (not_lt.mp above))]
    · by_cases above : f c < f b
      · simp [order, above, not_le.mp order, above.trans (not_le.mp order)]
      · simp [order, above]

theorem lastMax_eq_none : lastMax f l = none ↔ l = [] := by
  rw [lastMax, List.argmax_eq_none, List.reverse_eq_nil_iff]

/-- Nothing before the choice is better, and nothing behind it is as good. -/
theorem lastMax_split (chosen : lastMax f l = some a) :
    ∃ before after, l = before ++ a :: after ∧ (∀ b ∈ before, f b ≤ f a) ∧ ∀ b ∈ after, f b < f a := by
  induction l with
  | nil => cases chosen
  | cons x l ih =>
    rw [lastMax_cons] at chosen
    cases rest : lastMax f l with
    | none =>
      rw [rest] at chosen
      obtain rfl := Option.some.inj chosen
      obtain rfl := lastMax_eq_none.mp rest
      exact ⟨[], [], rfl, by simp, by simp⟩
    | some c =>
      simp only [rest] at chosen
      have greatest : ∀ b ∈ l, f b ≤ f c := fun b member =>
        List.le_of_mem_argmax (List.mem_reverse.mpr member) rest
      split at chosen
      · rename_i better
        obtain rfl := Option.some.inj chosen
        exact ⟨[], l, rfl, by simp, fun b member => (greatest b member).trans_lt better⟩
      · rename_i notBetter
        obtain rfl := Option.some.inj chosen
        obtain ⟨before, after, rfl, low, high⟩ := ih rest
        refine ⟨x :: before, after, rfl, fun b member => ?_, high⟩
        rcases List.mem_cons.mp member with rfl | member
        · exact not_lt.mp notBetter
        · exact low b member

end Last
end Kvrocks.Scan
