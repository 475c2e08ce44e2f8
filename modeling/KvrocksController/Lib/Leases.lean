/-! Leases that a server grants to numbered parties, one after the other, and ends for
good. A party knows a lease by its number only, so what it may conclude from one that it
once was granted is what every later state of the server agrees on. -/
namespace Kvrocks

/-- `holder` is the party that a lease was granted to. -/
structure Leases where
  granted : Nat
  live : Nat → Bool
  holder : Nat → Nat
  fresh : ∀ n, live n = true → n < granted

namespace Leases

def start : Leases := ⟨0, fun _ => false, fun _ => 0, by simp⟩

/-- The new lease is number `granted`. -/
def grant (leases : Leases) (party : Nat) : Leases where
  granted := leases.granted + 1
  live := fun n => if n = leases.granted then true else leases.live n
  holder := fun n => if n = leases.granted then party else leases.holder n
  fresh := by
    intro n live
    split at live
    · omega
    · exact Nat.lt_succ_of_lt (leases.fresh n live)

def expire (leases : Leases) (lease : Nat) : Leases where
  granted := leases.granted
  live := fun n => if n = lease then false else leases.live n
  holder := leases.holder
  fresh := by
    intro n live
    split at live
    · cases live
    · exact leases.fresh n live

/-- What may happen to the leases in one step. -/
inductive Evolves (leases : Leases) : Leases → Prop where
  | same : Evolves leases leases
  | grant : Evolves leases (leases.grant party)
  | expire : Evolves leases (leases.expire lease)

variable {before after : Leases}

theorem holder_grant_self (leases : Leases) (party : Nat) : (leases.grant party).holder leases.granted = party := if_pos rfl

theorem live_grant (live : before.live n = true) (party : Nat) : (before.grant party).live n = true := by
  rw [← live]
  exact if_neg (Nat.ne_of_lt (before.fresh n live))

theorem live_expire (live : (before.expire lease).live n = true) : n ≠ lease ∧ before.live n = true := by
  simp only [expire] at live
  split at live
  · cases live
  · exact ⟨by assumption, live⟩

theorem live_expire_of_ne (other : n ≠ lease) (live : before.live n = true) : (before.expire lease).live n = true := by
  simp only [expire, if_neg other, live]

theorem ne_of_live {leases : Leases} (live : leases.live m = true) (dead : leases.live n = false) : m ≠ n := by
  rintro rfl
  rw [dead] at live
  cases live

namespace Evolves

theorem older (evolves : Evolves before after) (older : n < before.granted) : n < after.granted := by
  cases evolves with
  | same => exact older
  | grant => exact Nat.lt_succ_of_lt older
  | expire => exact older

theorem holder (evolves : Evolves before after) (older : n < before.granted) : after.holder n = before.holder n := by
  cases evolves with
  | same => rfl
  | grant => exact if_neg (Nat.ne_of_lt older)
  | expire => rfl

/-- A lease that has ended is not granted again. -/
theorem dead (evolves : Evolves before after) (older : n < before.granted) (dead : before.live n = false) :
    after.live n = false := by
  cases evolves with
  | same => exact dead
  | grant => exact (if_neg (Nat.ne_of_lt older)).trans dead
  | expire =>
    simp only [Leases.expire, dead]
    exact ite_self _

end Evolves
end Leases
end Kvrocks
