/-! A chain of handlers over one request. A handler that returns without aborting
hands over to the next one, whether it called for it or not: only an abort, or a
panic, ends the chain early. -/
namespace Kvrocks.HandlerChain

/-- How a handler leaves the chain: by calling for the rest as its last act, by
returning without that call, by aborting the chain, or by a panic. -/
inductive Flow where
  | next
  | returned
  | aborted
  | panicked
deriving DecidableEq, Repr

def Flow.goesOn : Flow → Bool
  | .next | .returned => true
  | .aborted | .panicked => false

/-- One handler entered, with the state before and after its own code. -/
structure Visit (H S : Type) where
  handler : H
  before : S
  after : S

variable {H S : Type}

section Exec
variable (perform : H → S → S × Flow)

def exec : List H → S → S × List (Visit H S)
  | [], s => (s, [])
  | handler :: rest, s =>
    let (after, flow) := perform handler s
    if flow.goesOn then
      let (last, visits) := exec rest after
      (last, ⟨handler, s, after⟩ :: visits)
    else (after, [⟨handler, s, after⟩])

variable {perform}

theorem exec_goesOn (goes : (perform handler s).2.goesOn = true) :
    exec perform (handler :: rest) s =
      ((exec perform rest (perform handler s).1).1,
        ⟨handler, s, (perform handler s).1⟩ :: (exec perform rest (perform handler s).1).2) := by
  simp only [exec, goes, ↓reduceIte]

theorem exec_stops (stops : (perform handler s).2.goesOn = false) :
    exec perform (handler :: rest) s = ((perform handler s).1, [⟨handler, s, (perform handler s).1⟩]) := by
  simp only [exec, stops, Bool.false_eq_true, ↓reduceIte]

/-- The first handler of a chain always runs. -/
theorem exec_visits_eq_nil : (exec perform chain s).2 = [] ↔ chain = [] := by
  cases chain with
  | nil => simp [exec]
  | cons handler rest =>
    cases goes : (perform handler s).2.goesOn with
    | true => simp [exec_goesOn goes]
    | false => simp [exec_stops goes]

end Exec

/-- No handler runs after one whose visit is `final`. -/
def EndsAt (final : Visit H S → Prop) (visits : List (Visit H S)) : Prop :=
  ∀ earlier visit later, visits = earlier ++ visit :: later → final visit → later = []

theorem endsAt_nil {final : Visit H S → Prop} : EndsAt final [] := by
  intro earlier visit later split
  simp at split

theorem endsAt_cons {final : Visit H S → Prop} :
    EndsAt final (visit :: visits) ↔ (final visit → visits = []) ∧ EndsAt final visits := by
  constructor
  · intro ends
    refine ⟨ends [] visit visits rfl, fun earlier inner later split => ?_⟩
    exact ends (visit :: earlier) inner later (by rw [split]; rfl)
  · rintro ⟨first, rest⟩ earlier inner later split
    cases earlier with
    | nil =>
      obtain ⟨rfl, rfl⟩ := List.cons.inj split
      exact first
    | cons head earlier =>
      obtain ⟨_, split⟩ := List.cons.inj split
      exact rest earlier inner later split

/-- A handler that lets the chain go on must not be final, unless it is the last one. -/
theorem endsAt_goesOn {perform : H → S → S × Flow} {final : Visit H S → Prop}
    (goes : (perform handler s).2.goesOn = true) :
    EndsAt final (exec perform (handler :: rest) s).2 ↔
      (final ⟨handler, s, (perform handler s).1⟩ → rest = []) ∧
        EndsAt final (exec perform rest (perform handler s).1).2 := by
  rw [exec_goesOn goes, endsAt_cons, exec_visits_eq_nil]

theorem endsAt_stops {perform : H → S → S × Flow} {final : Visit H S → Prop}
    (stops : (perform handler s).2.goesOn = false) : EndsAt final (exec perform (handler :: rest) s).2 := by
  rw [exec_stops stops, endsAt_cons]
  exact ⟨fun _ => rfl, endsAt_nil⟩

end Kvrocks.HandlerChain
