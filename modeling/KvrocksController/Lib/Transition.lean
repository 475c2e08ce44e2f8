/-! Labelled, possibly nondeterministic runs. A guard restricts the steps a run
may take, so a property can be stated for every run whose steps all meet a
condition on the state they start from. -/
namespace Kvrocks.Transition
variable {S L : Type _}

/-- `Run step s ls t`: some execution takes `s` to `t` with the labels `ls`. -/
inductive Run (step : S → L → S → Prop) : S → List L → S → Prop where
  | nil : Run step s [] s
  | cons (head : step s l m) (tail : Run step m ls t) : Run step s (l :: ls) t

/-- The steps of `step` that also meet `guard` where they start. -/
def Guarded (step : S → L → S → Prop) (guard : S → L → Prop) (s : S) (l : L) (t : S) : Prop :=
  guard s l ∧ step s l t

namespace Run
variable {step : S → L → S → Prop} {guard : S → L → Prop} {P : S → Prop}

theorem append (first : Run step s ls m) (second : Run step m ms t) : Run step s (ls ++ ms) t := by
  induction first with
  | nil => exact second
  | cons head _ ih => exact .cons head (ih second)

/-- What holds at the start and survives each step holds wherever a run ends. -/
theorem preserves (stable : ∀ s l t, P s → step s l t → P t) (run : Run step s ls t) (start : P s) :
    P t := by
  induction run with
  | nil => exact start
  | cons head _ ih => exact ih (stable _ _ _ start head)

/-- Where every step, from a state that keeps `P`, is a step of the specification, so is a run. -/
theorem refines {spec : T → L → T → Prop} {abstract : S → T}
    (each : ∀ s l t, P s → step s l t → P t ∧ spec (abstract s) l (abstract t)) (run : Run step s ls t) (start : P s) :
    Run spec (abstract s) ls (abstract t) := by
  induction run with
  | nil => exact .nil
  | cons head _ ih =>
    obtain ⟨kept, abstracted⟩ := each _ _ _ start head
    exact .cons abstracted (ih kept)

theorem mono {other : S → L → S → Prop} (each : ∀ s l t, step s l t → other s l t) (run : Run step s ls t) :
    Run other s ls t := by
  induction run with
  | nil => exact .nil
  | cons head _ ih => exact .cons (each _ _ _ head) ih

theorem unguarded (run : Run (Guarded step guard) s ls t) : Run step s ls t :=
  run.mono fun _ _ _ guarded => guarded.2

end Run

/-- What holds of every party's work still does once one party has new work. -/
theorem assigned {work : Nat → Option W} {P : W → Prop} (each : ∀ party w, work party = some w → P w)
    (own : ∀ w, after = some w → P w) :
    ∀ party w, (if party = chosen then after else work party) = some w → P w := by
  intro party w found
  split at found
  · exact own w found
  · exact each party w found

/-- What holds of one party's work still does, unless it is that party which has new work. -/
theorem kept {work : Nat → W} {P : W → Prop} (before : P (work party)) (own : party = chosen → P after) :
    P (if party = chosen then after else work party) := by
  split
  next same => exact own same
  · exact before

end Kvrocks.Transition
