import KvrocksController.Lib.Leases
import KvrocksController.Lib.Transition

/-! Campaigns on leases. A party calls the server with one lease until a call gets through,
and a live lease then has a place in the election. No call tells a party that its lease has
ended, so where that happens first the party calls for good. -/
namespace Kvrocks
open Transition

/-- What an election shows of its campaigns: the lease that a party calls with, if it calls,
and the leases that have a place. -/
structure Campaigns where
  leases : Leases
  calls : Nat → Option Nat
  placed : Nat → Prop

namespace Campaigns
variable {L : Type _} {s t : Campaigns} {ls : List L}

structure Sound (s : Campaigns) : Prop where
  granted : ∀ i n, s.calls i = some n → n < s.leases.granted ∧ s.leases.holder n = i
  live : ∀ n, s.placed n → s.leases.live n = true

/-- A call with a lease that has ended is made again, and a new place goes to the live lease
of a call. -/
structure Evolves (s t : Campaigns) : Prop where
  leases : Leases.Evolves s.leases t.leases
  again : ∀ i n, s.calls i = some n → s.leases.live n = false → t.calls i = some n
  taken : ∀ n, t.placed n → s.placed n ∨ ∃ i, s.calls i = some n ∧ s.leases.live n = true

def Step (s : Campaigns) (_ : L) (t : Campaigns) : Prop := s.Sound ∧ s.Evolves t

/-- The party calls with a lease that has ended. -/
structure Stuck (i n : Nat) (s : Campaigns) : Prop where
  calls : s.calls i = some n
  dead : s.leases.live n = false

/-- No lease of the party has a place. -/
def Ousted (i : Nat) (s : Campaigns) : Prop := ∀ n, s.placed n → s.leases.holder n ≠ i

theorem Stuck.step (stuck : Stuck i n s) (sound : s.Sound) (evolves : s.Evolves t) : Stuck i n t where
  calls := evolves.again i n stuck.calls stuck.dead
  dead := evolves.leases.dead (sound.granted i n stuck.calls).1 stuck.dead

/-- A party has one lease to call with, so the places that are taken go to others. -/
theorem Ousted.step (ousted : Ousted i s) (stuck : Stuck i n s) (sound : s.Sound) (evolves : s.Evolves t) :
    Ousted i t := by
  intro m placed own
  rcases evolves.taken m placed with before | ⟨j, calls, live⟩
  · have older := s.leases.fresh m (sound.live m before)
    rw [evolves.leases.holder older] at own
    exact ousted m before own
  · obtain ⟨older, owner⟩ := sound.granted j m calls
    rw [evolves.leases.holder older, owner] at own
    subst own
    have same : m = n := Option.some.inj (calls.symm.trans stuck.calls)
    exact Leases.ne_of_live live stuck.dead same

theorem Stuck.run (run : Run Step s ls t) (stuck : Stuck i n s) : Stuck i n t :=
  run.preserves (fun _ _ _ before step => before.step step.1 step.2) stuck

theorem Ousted.run (run : Run Step s ls t) (stuck : Stuck i n s) (ousted : Ousted i s) : Ousted i t := by
  have both : Stuck i n t ∧ Ousted i t := by
    refine run.preserves (P := fun s => Stuck i n s ∧ Ousted i s) ?_ ⟨stuck, ousted⟩
    rintro s _ t ⟨before, out⟩ ⟨sound, evolves⟩
    exact ⟨before.step sound evolves, out.step before sound evolves⟩
  exact both.2

end Campaigns
end Kvrocks
