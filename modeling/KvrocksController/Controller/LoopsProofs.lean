import KvrocksController.Controller.Loops

/-! What each goroutine of a controller leaves alone, and where its checkers are: closed,
in the map under their cluster's key, or between their start and their insertion. -/
namespace Kvrocks.Controller
open Kvrocks.Transition

variable {self : String} {s t : State}

section Frames

/-- Only `syncLoop` moves itself and what it remembers. -/
theorem Step.sync_frame (step : Step self s l t) (other : ∀ faults, l ≠ .syncLoop faults) :
    t.syncLoop = s.syncLoop ∧ t.prevTermLeader = s.prevTermLeader ∧ t.resumed = s.resumed ∧ t.resume = s.resume := by
  cases step with
  | elect | notify => exact ⟨rfl, rfl, rfl, rfl⟩
  | write step => cases step <;> exact ⟨rfl, rfl, rfl, rfl⟩
  | emit step => cases step <;> exact ⟨rfl, rfl, rfl, rfl⟩
  | checker step => cases step <;> exact ⟨rfl, rfl, rfl, rfl⟩
  | eventLoop step => cases step <;> exact ⟨rfl, rfl, rfl, rfl⟩
  | syncLoop => exact absurd rfl (other _)

/-- What the invariants of the checkers look at. -/
structure SameCheckers (s t : State) : Prop where
  clusters : t.clusters = s.clusters
  checkers : t.checkers = s.checkers
  eventLoop : t.eventLoop = s.eventLoop
  syncLoop : t.syncLoop = s.syncLoop

theorem State.LockFree.idle (senders : s.senders = []) (calls : s.calls = []) : State.LockFree s ns cluster := by
  intro call member
  rw [senders, calls] at member
  cases member

/-- A handler's call while no other call is under way. -/
theorem WriteStep.emits_idle (senders : s.senders = []) (calls : s.calls = [])
    (done : Op.perform faults s.kv op = (kv, none)) (event : op.event = some e) :
    WriteStep s .api op faults { s with kv, calls := s.calls ++ [⟨.api, e⟩] } := by
  refine .emits ?_ (fun _ _ _ => .idle senders calls) done event
  rintro ns object rfl
  cases event

theorem WriteStep.sameCheckers (step : WriteStep s sender op faults t) : SameCheckers s t := by
  cases step <;> exact ⟨rfl, rfl, rfl, rfl⟩

theorem EmitStep.sameCheckers (step : EmitStep s call t) : SameCheckers s t := by
  cases step <;> exact ⟨rfl, rfl, rfl, rfl⟩

/-- The only call under way reaches the channel. -/
theorem EmitStep.alone (only : s.calls = [call]) (room : s.events.length < eventCapacity) :
    EmitStep s call { s with calls := [], events := s.events ++ [call.event] } := by
  have pending : s.calls = [] ++ call :: [] := only
  exact .sent pending room

/-- A step of its own loops leaves a checker's cluster and its context as they are, and
finds a closed checker with nothing left to do. -/
theorem CheckerStep.changes (step : CheckerStep s k t) :
    ∃ before after, s.checkers k = some before ∧ t = s.setChecker k after ∧ after.ns = before.ns ∧
      after.clusterName = before.clusterName ∧ after.cancelled = before.cancelled ∧ ¬ before.Closed := by
  cases step with
  | tick found here | sync found here _ | read found here _ | probed found here _ | probeReturned found here _ =>
    refine ⟨_, _, found, rfl, rfl, rfl, rfl, fun closed => ?_⟩
    rw [closed.2.1] at here
    cases here
  | migrationTick found here | migrated found here _ | migrationReturned found here _ =>
    refine ⟨_, _, found, rfl, rfl, rfl, rfl, fun closed => ?_⟩
    rw [closed.2.2] at here
    cases here

end Frames

def ClusterChecker.key (checker : ClusterChecker) : String := buildClusterKey checker.ns checker.clusterName

/-- The checker that a loop has started and not yet put in the map. -/
def EventPc.inserts : EventPc → Option (String × String × Nat)
  | .inserting ns cluster k => some (ns, cluster, k)
  | _ => none

def SyncPc.inserts : SyncPc → Option (String × String × Nat)
  | .inserting _ ns cluster k _ _ => some (ns, cluster, k)
  | _ => none

/-- The checker that a loop waits for, with the mutex held. -/
def EventPc.closes : EventPc → Option (String × Nat)
  | .closing ns cluster k => some (buildClusterKey ns cluster, k)
  | _ => none

def SyncPc.closes : SyncPc → Option (String × Nat)
  | .closing key k => some (key, k)
  | _ => none

namespace State

def Inserts (s : State) (ns cluster : String) (k : Nat) : Prop :=
  s.eventLoop.inserts = some (ns, cluster, k) ∨ s.syncLoop.inserts = some (ns, cluster, k)

def Closes (s : State) (key : String) (k : Nat) : Prop :=
  s.eventLoop.closes = some (key, k) ∨ s.syncLoop.closes = some (key, k)

section Updates
variable {k j : Nat}

theorem setChecker_self : (s.setChecker k checker).checkers k = some checker := if_pos rfl

theorem setChecker_other (differs : j ≠ k) : (s.setChecker k checker).checkers j = s.checkers j := if_neg differs

end Updates
end State

/-- Where every checker is. -/
structure Tracked (s : State) : Prop where
  kept : ∀ k c, s.checkers k = some c → c.Closed ∨ s.clusters c.key = some k ∨ s.Inserts c.ns c.clusterName k
  mapped : ∀ key k, s.clusters key = some k →
    ∃ c, s.checkers k = some c ∧ key = c.key ∧ (c.cancelled = true → s.Closes key k)
  inserting : ∀ ns cluster k, s.Inserts ns cluster k →
    (∃ c, s.checkers k = some c ∧ c.ns = ns ∧ c.clusterName = cluster ∧ c.cancelled = false) ∧
      ∀ key, s.clusters key ≠ some k
  apart : ∀ ns cluster k ns' cluster', s.eventLoop.inserts = some (ns, cluster, k) →
    s.syncLoop.inserts ≠ some (ns', cluster', k)
  closing : ∀ key k, s.Closes key k → s.clusters key = some k ∧ ∃ c, s.checkers k = some c ∧ c.cancelled = true
  exclusive : s.eventLoop.holdsMutex = false ∨ s.syncLoop.holdsMutex = false

/-- `addCluster` finds its key still free when it inserts. -/
def Uncontended (s : State) : Label → Prop
  | .eventLoop => ∀ ns cluster k, s.eventLoop = .inserting ns cluster k → s.clusters (buildClusterKey ns cluster) = none
  | .syncLoop _ => ∀ start ns cluster k clusters namespaces,
      s.syncLoop = .inserting start ns cluster k clusters namespaces → s.clusters (buildClusterKey ns cluster) = none
  | _ => True

namespace Tracked

theorem start (start : Start s) : Tracked s := by
  constructor
  · intro k c found
    rw [start.checkers k] at found
    cases found
  · intro key k found
    rw [start.clusters key] at found
    cases found
  · intro ns cluster k inserts
    simp [State.Inserts, start.eventLoop, start.syncLoop, EventPc.inserts, SyncPc.inserts] at inserts
  · intro ns cluster k ns' cluster' inserts
    simp [start.eventLoop, EventPc.inserts] at inserts
  · intro key k closes
    simp [State.Closes, start.eventLoop, start.syncLoop, EventPc.closes, SyncPc.closes] at closes
  · exact .inl (by rw [start.eventLoop]; rfl)

/-- The loops move between places where they neither carry nor close a checker. -/
theorem move (tracked : Tracked s) (clusters : t.clusters = s.clusters) (checkers : t.checkers = s.checkers)
    (eventInserts : t.eventLoop.inserts = s.eventLoop.inserts) (eventCloses : t.eventLoop.closes = s.eventLoop.closes)
    (syncInserts : t.syncLoop.inserts = s.syncLoop.inserts) (syncCloses : t.syncLoop.closes = s.syncLoop.closes)
    (exclusive : t.eventLoop.holdsMutex = false ∨ t.syncLoop.holdsMutex = false) : Tracked t := by
  have inserts (ns cluster : String) (k : Nat) : t.Inserts ns cluster k ↔ s.Inserts ns cluster k := by
    rw [State.Inserts, eventInserts, syncInserts, State.Inserts]
  have closes (key : String) (k : Nat) : t.Closes key k ↔ s.Closes key k := by
    rw [State.Closes, eventCloses, syncCloses, State.Closes]
  constructor
  · simpa only [clusters, checkers, inserts] using tracked.kept
  · simpa only [clusters, checkers, closes] using tracked.mapped
  · simpa only [clusters, checkers, inserts] using tracked.inserting
  · simpa only [eventInserts, syncInserts] using tracked.apart
  · simpa only [clusters, checkers, closes] using tracked.closing
  · exact exclusive

theorem same (tracked : Tracked s) (same : SameCheckers s t) : Tracked t := by
  obtain ⟨clusters, checkers, eventLoop, syncLoop⟩ := same
  refine tracked.move clusters checkers ?_ ?_ ?_ ?_ ?_
  all_goals simp only [eventLoop, syncLoop]
  exact tracked.exclusive

/-- A checker moves, still for its cluster and with its context as it was. -/
theorem setChecker (tracked : Tracked s) (found : s.checkers k = some before) (ns : after.ns = before.ns)
    (name : after.clusterName = before.clusterName) (cancelled : after.cancelled = before.cancelled)
    (still : before.Closed → after.Closed) : Tracked (s.setChecker k after) := by
  have key : after.key = before.key := by rw [ClusterChecker.key, ns, name, ClusterChecker.key]
  constructor
  · intro j c here
    by_cases same : j = k
    · subst same
      rw [State.setChecker_self] at here
      obtain rfl := Option.some.inj here
      rcases tracked.kept j before found with closed | place
      · exact .inl (still closed)
      · rw [← key, ← ns, ← name] at place
        exact .inr place
    · rw [State.setChecker_other same] at here
      exact tracked.kept j c here
  · intro other j mapped
    obtain ⟨c, here, at_, closes⟩ := tracked.mapped other j mapped
    by_cases same : j = k
    · subst same
      obtain rfl := Option.some.inj (found.symm.trans here)
      exact ⟨after, State.setChecker_self, at_.trans key.symm, cancelled ▸ closes⟩
    · exact ⟨c, (State.setChecker_other same).trans here, at_, closes⟩
  · intro ns' cluster j inserts
    obtain ⟨⟨c, here, sameNs, sameName, live⟩, unmapped⟩ := tracked.inserting ns' cluster j inserts
    refine ⟨?_, unmapped⟩
    by_cases same : j = k
    · subst same
      obtain rfl := Option.some.inj (found.symm.trans here)
      exact ⟨after, State.setChecker_self, ns.trans sameNs, name.trans sameName, cancelled.trans live⟩
    · exact ⟨c, (State.setChecker_other same).trans here, sameNs, sameName, live⟩
  · exact tracked.apart
  · intro other j closes
    obtain ⟨mapped, c, here, dead⟩ := tracked.closing other j closes
    refine ⟨mapped, ?_⟩
    by_cases same : j = k
    · subst same
      obtain rfl := Option.some.inj (found.symm.trans here)
      exact ⟨after, State.setChecker_self, cancelled.trans dead⟩
    · exact ⟨c, (State.setChecker_other same).trans here, dead⟩
  · exact tracked.exclusive

theorem checkerStep (tracked : Tracked s) (step : CheckerStep s k t) : Tracked t := by
  obtain ⟨before, after, found, rfl, ns, name, cancelled, alive⟩ := step.changes
  exact tracked.setChecker found ns name cancelled fun closed => absurd closed alive

/-- A checker is started and carried by one loop. -/
theorem starts (tracked : Tracked s) (fresh : s.checkers k = none) (clusters : t.clusters = s.clusters)
    (checkers : t.checkers = (s.setChecker k (newClusterChecker ns cluster)).checkers)
    (inserts : ∀ ns' cluster' j,
      t.Inserts ns' cluster' j ↔ s.Inserts ns' cluster' j ∨ some (ns, cluster, k) = some (ns', cluster', j))
    (apart : ∀ ns cluster k ns' cluster', t.eventLoop.inserts = some (ns, cluster, k) →
      t.syncLoop.inserts ≠ some (ns', cluster', k))
    (closes : ∀ key j, t.Closes key j ↔ s.Closes key j)
    (exclusive : t.eventLoop.holdsMutex = false ∨ t.syncLoop.holdsMutex = false) : Tracked t := by
  have older {j : Nat} {c : ClusterChecker} (here : s.checkers j = some c) : t.checkers j = some c := by
    have other : j ≠ k := by
      rintro rfl
      rw [fresh] at here
      cases here
    rw [checkers, State.setChecker_other other, here]
  have own : t.checkers k = some (newClusterChecker ns cluster) := by rw [checkers, State.setChecker_self]
  constructor
  · intro j c here
    rw [clusters, inserts]
    by_cases same : j = k
    · subst same
      obtain rfl := Option.some.inj (own.symm.trans here)
      exact .inr (.inr (.inr rfl))
    · rw [checkers, State.setChecker_other same] at here
      exact (tracked.kept j c here).imp_right (.imp_right .inl)
  · intro key j found
    rw [clusters] at found
    obtain ⟨c, here, at_, closing⟩ := tracked.mapped key j found
    exact ⟨c, older here, at_, fun cancelled => (closes key j).mpr (closing cancelled)⟩
  · intro ns' cluster' j inserting
    rw [clusters]
    rcases (inserts ns' cluster' j).mp inserting with before | this
    · obtain ⟨⟨c, here, rest⟩, unmapped⟩ := tracked.inserting ns' cluster' j before
      exact ⟨⟨c, older here, rest⟩, unmapped⟩
    · obtain ⟨rfl, rfl, rfl⟩ : ns = ns' ∧ cluster = cluster' ∧ k = j := by simpa using this
      refine ⟨⟨_, own, rfl, rfl, rfl⟩, fun key found => ?_⟩
      obtain ⟨c, here, _⟩ := tracked.mapped key k found
      rw [fresh] at here
      cases here
  · exact apart
  · intro key j closing
    rw [clusters]
    obtain ⟨found, c, here, cancelled⟩ := tracked.closing key j ((closes key j).mp closing)
    exact ⟨found, c, older here, cancelled⟩
  · exact exclusive

/-- A carried checker is put under a free key. -/
theorem inserted (tracked : Tracked s) (carried : s.Inserts ns cluster k)
    (absent : s.clusters (buildClusterKey ns cluster) = none)
    (clusters : t.clusters = (s.setCluster (buildClusterKey ns cluster) (some k)).clusters)
    (checkers : t.checkers = s.checkers)
    (inserts : ∀ ns' cluster' j, t.Inserts ns' cluster' j ↔ s.Inserts ns' cluster' j ∧ j ≠ k)
    (apart : ∀ ns cluster k ns' cluster', t.eventLoop.inserts = some (ns, cluster, k) →
      t.syncLoop.inserts ≠ some (ns', cluster', k))
    (closes : ∀ key j, t.Closes key j ↔ s.Closes key j)
    (exclusive : t.eventLoop.holdsMutex = false ∨ t.syncLoop.holdsMutex = false) : Tracked t := by
  obtain ⟨⟨c, here, rfl, rfl, live⟩, unmapped⟩ := tracked.inserting ns cluster k carried
  have own : t.clusters c.key = some k := by
    rw [clusters]
    exact if_pos rfl
  have elsewhere {key : String} (other : key ≠ c.key) : t.clusters key = s.clusters key := by
    rw [clusters]
    exact if_neg other
  have others {key : String} {j : Nat} (found : s.clusters key = some j) : t.clusters key = some j := by
    have other : key ≠ c.key := by
      rintro rfl
      rw [ClusterChecker.key, absent] at found
      cases found
    rw [elsewhere other, found]
  constructor
  · intro j d there
    rw [checkers] at there
    by_cases same : j = k
    · subst same
      obtain rfl := Option.some.inj (here.symm.trans there)
      exact .inr (.inl own)
    · rcases tracked.kept j d there with closed | found | carried
      · exact .inl closed
      · exact .inr (.inl (others found))
      · exact .inr (.inr ((inserts _ _ _).mpr ⟨carried, same⟩))
  · intro key j found
    rw [checkers]
    by_cases same : key = c.key
    · subst same
      obtain rfl := Option.some.inj (own.symm.trans found)
      exact ⟨c, here, rfl, fun cancelled => absurd cancelled (by simp [live])⟩
    · rw [elsewhere same] at found
      obtain ⟨d, there, at_, closing⟩ := tracked.mapped key j found
      exact ⟨d, there, at_, fun cancelled => (closes key j).mpr (closing cancelled)⟩
  · intro ns' cluster' j inserting
    obtain ⟨before, other⟩ := (inserts ns' cluster' j).mp inserting
    obtain ⟨carrier, nowhere⟩ := tracked.inserting ns' cluster' j before
    rw [checkers]
    refine ⟨carrier, fun key found => ?_⟩
    by_cases same : key = c.key
    · subst same
      exact other (Option.some.inj (found.symm.trans own))
    · exact nowhere key ((elsewhere same).symm.trans found)
  · exact apart
  · intro key j closing
    rw [checkers]
    obtain ⟨found, cancelled⟩ := tracked.closing key j ((closes key j).mp closing)
    exact ⟨others found, cancelled⟩
  · exact exclusive

/-- `Close` is called on a checker of the map. -/
theorem closes (tracked : Tracked s) (found : s.clusters key = some k) (checker : s.checkers k = some c)
    (free : ∀ key j, ¬ s.Closes key j) (clusters : t.clusters = s.clusters)
    (checkers : t.checkers = (s.setChecker k c.cancel).checkers)
    (eventInserts : t.eventLoop.inserts = s.eventLoop.inserts) (syncInserts : t.syncLoop.inserts = s.syncLoop.inserts)
    (closes : ∀ other j, t.Closes other j ↔ other = key ∧ j = k)
    (exclusive : t.eventLoop.holdsMutex = false ∨ t.syncLoop.holdsMutex = false) : Tracked t := by
  have inserts (ns cluster : String) (j : Nat) : t.Inserts ns cluster j ↔ s.Inserts ns cluster j := by
    rw [State.Inserts, eventInserts, syncInserts, State.Inserts]
  have own : t.checkers k = some c.cancel := by rw [checkers, State.setChecker_self]
  have others {j : Nat} (other : j ≠ k) : t.checkers j = s.checkers j := by
    rw [checkers, State.setChecker_other other]
  constructor
  · intro j d there
    rw [clusters, inserts]
    by_cases same : j = k
    · subst same
      obtain rfl := Option.some.inj (own.symm.trans there)
      rcases tracked.kept j c checker with closed | place
      · exact .inl ⟨rfl, closed.2⟩
      · exact .inr place
    · exact tracked.kept j d ((others same).symm.trans there)
  · intro other j mapped
    rw [clusters] at mapped
    obtain ⟨d, there, at_, closing⟩ := tracked.mapped other j mapped
    by_cases same : j = k
    · subst same
      obtain rfl := Option.some.inj (checker.symm.trans there)
      obtain ⟨e, again, alike, _⟩ := tracked.mapped key j found
      obtain rfl := Option.some.inj (checker.symm.trans again)
      exact ⟨c.cancel, own, at_, fun _ => (closes other j).mpr ⟨at_.trans alike.symm, rfl⟩⟩
    · exact ⟨d, (others same).trans there, at_, fun cancelled => absurd (closing cancelled) (free other j)⟩
  · intro ns cluster j inserting
    rw [clusters]
    obtain ⟨⟨d, there, rest⟩, unmapped⟩ := tracked.inserting ns cluster j ((inserts ns cluster j).mp inserting)
    have other : j ≠ k := by
      rintro rfl
      exact unmapped key found
    exact ⟨⟨d, (others other).trans there, rest⟩, unmapped⟩
  · simpa only [eventInserts, syncInserts] using tracked.apart
  · intro other j closing
    obtain ⟨rfl, rfl⟩ := (closes other j).mp closing
    exact ⟨clusters ▸ found, c.cancel, own, rfl⟩
  · exact exclusive

/-- Its loops have returned, and the closed checker leaves the map. -/
theorem closed (tracked : Tracked s) (closing : s.Closes key k) (checker : s.checkers k = some c)
    (returned : c.Returned) (clusters : t.clusters = (s.setCluster key none).clusters)
    (checkers : t.checkers = s.checkers) (eventInserts : t.eventLoop.inserts = s.eventLoop.inserts)
    (syncInserts : t.syncLoop.inserts = s.syncLoop.inserts) (only : ∀ other j, s.Closes other j → other = key ∧ j = k)
    (closes : ∀ other j, ¬ t.Closes other j)
    (exclusive : t.eventLoop.holdsMutex = false ∨ t.syncLoop.holdsMutex = false) : Tracked t := by
  obtain ⟨found, d, again, cancelled⟩ := tracked.closing key k closing
  obtain rfl := Option.some.inj (checker.symm.trans again)
  have inserts (ns cluster : String) (j : Nat) : t.Inserts ns cluster j ↔ s.Inserts ns cluster j := by
    rw [State.Inserts, eventInserts, syncInserts, State.Inserts]
  have gone : t.clusters key = none := by
    rw [clusters]
    exact if_pos rfl
  have others {other : String} (differs : other ≠ key) : t.clusters other = s.clusters other := by
    rw [clusters]
    exact if_neg differs
  constructor
  · intro j e there
    rw [checkers] at there
    rw [inserts]
    rcases tracked.kept j e there with done | mapped | carried
    · exact .inl done
    · by_cases same : e.key = key
      · obtain rfl := Option.some.inj (found.symm.trans (same ▸ mapped))
        obtain rfl := Option.some.inj (checker.symm.trans there)
        exact .inl ⟨cancelled, returned⟩
      · exact .inr (.inl ((others same).trans mapped))
    · exact .inr (.inr carried)
  · intro other j mapped
    rw [checkers]
    by_cases same : other = key
    · subst same
      rw [gone] at mapped
      cases mapped
    · rw [others same] at mapped
      obtain ⟨e, there, at_, closing⟩ := tracked.mapped other j mapped
      exact ⟨e, there, at_, fun dead => absurd (only other j (closing dead)).1 same⟩
  · intro ns cluster j inserting
    rw [checkers]
    obtain ⟨carrier, unmapped⟩ := tracked.inserting ns cluster j ((inserts ns cluster j).mp inserting)
    refine ⟨carrier, fun other mapped => ?_⟩
    by_cases same : other = key
    · subst same
      rw [gone] at mapped
      cases mapped
    · exact unmapped other ((others same).symm.trans mapped)
  · simpa only [eventInserts, syncInserts] using tracked.apart
  · exact fun other j closing => absurd closing (closes other j)
  · exact exclusive

section Loops

theorem EventPc.closes_none {pc : EventPc} (free : pc.holdsMutex = false) : pc.closes = none := by
  cases pc <;> first | rfl | cases free

theorem SyncPc.closes_none {pc : SyncPc} (free : pc.holdsMutex = false) : pc.closes = none := by
  cases pc <;> first | rfl | cases free

/-- `leaderEventLoop` moves between places where it has no checker in hand. -/
theorem eventMove (tracked : Tracked s) (here : s.eventLoop = pc) (plain : pc.inserts = none ∧ pc.closes = none)
    (next : t.eventLoop.inserts = none ∧ t.eventLoop.closes = none ∧ t.eventLoop.holdsMutex = false)
    (clusters : t.clusters = s.clusters) (checkers : t.checkers = s.checkers) (sync : t.syncLoop = s.syncLoop) :
    Tracked t := by
  refine tracked.move clusters checkers ?_ ?_ (by rw [sync]) (by rw [sync]) (.inl next.2.2)
  · rw [here, plain.1, next.1]
  · rw [here, plain.2, next.2.1]

theorem eventStep (tracked : Tracked s) (free : Uncontended s .eventLoop) (step : EventStep self s t) : Tracked t := by
  cases step with
  | receive here queued => exact tracked.eventMove here ⟨rfl, rfl⟩ ⟨rfl, rfl, rfl⟩ rfl rfl rfl
  | ignore here other => exact tracked.eventMove here ⟨rfl, rfl⟩ ⟨rfl, rfl, rfl⟩ rfl rfl rfl
  | dispatch here leads kind =>
    refine tracked.eventMove here ⟨rfl, rfl⟩ ?_ rfl rfl rfl
    unfold EventPayload.dispatch
    split <;> exact ⟨rfl, rfl, rfl⟩
  | known here free found => exact tracked.eventMove here ⟨rfl, rfl⟩ ⟨rfl, rfl, rfl⟩ rfl rfl rfl
  | unknown here free absent => exact tracked.eventMove here ⟨rfl, rfl⟩ ⟨rfl, rfl, rfl⟩ rfl rfl rfl
  | missing here free absent => exact tracked.eventMove here ⟨rfl, rfl⟩ ⟨rfl, rfl, rfl⟩ rfl rfl rfl
  | lookup here free found => exact tracked.eventMove here ⟨rfl, rfl⟩ ⟨rfl, rfl, rfl⟩ rfl rfl rfl
  | abandon here checker cancelled => exact tracked.eventMove here ⟨rfl, rfl⟩ ⟨rfl, rfl, rfl⟩ rfl rfl rfl
  | send here checker room =>
    have moved : Tracked { s with eventLoop := .select } :=
      tracked.eventMove here ⟨rfl, rfl⟩ ⟨rfl, rfl, rfl⟩ rfl rfl rfl
    exact moved.setChecker checker rfl rfl rfl fun closed => closed
  | start here free absent fresh =>
    refine tracked.starts fresh rfl rfl (fun ns' cluster' j => ?_) (fun _ _ j ns' cluster' carried other => ?_)
      (fun key j => ?_) (.inl rfl)
    · simp only [State.Inserts, State.setChecker, here, EventPc.inserts, reduceCtorEq, false_or]
      exact or_comm
    · simp only [State.setChecker, EventPc.inserts, Option.some.injEq, Prod.mk.injEq] at carried
      obtain ⟨⟨c, there, _⟩, _⟩ := tracked.inserting ns' cluster' j (.inr other)
      rw [← carried.2.2, fresh] at there
      cases there
    · simp only [State.Closes, State.setChecker, here, EventPc.closes]
  | insert here mutex =>
    rename_i ns cluster k
    have carried : s.eventLoop.inserts = some (ns, cluster, k) := by rw [here]; rfl
    refine tracked.inserted (.inl carried) (free ns cluster k here) rfl rfl (fun ns' cluster' j => ?_) nofun
      (fun key j => ?_) (.inl rfl)
    · simp only [State.Inserts, State.setCluster, here, EventPc.inserts, reduceCtorEq, false_or, Option.some.injEq,
        Prod.mk.injEq]
      constructor
      · intro other
        refine ⟨.inr other, ?_⟩
        rintro rfl
        exact tracked.apart ns cluster j ns' cluster' carried other
      · rintro ⟨⟨_, _, rfl⟩ | other, differs⟩
        · exact absurd rfl differs
        · exact other
    · simp only [State.Closes, State.setCluster, here, EventPc.closes]
  | close here mutex found checker =>
    have idle := SyncPc.closes_none mutex.2
    refine tracked.closes found checker (fun key j => ?_) rfl rfl ?_ rfl (fun other j => ?_) (.inr mutex.2)
    · simp [State.Closes, here, EventPc.closes, idle]
    · simp only [State.setChecker, here, EventPc.inserts]
    · simp only [State.Closes, State.setChecker, EventPc.closes, idle, Option.some.injEq, Prod.mk.injEq, reduceCtorEq,
        or_false]
      rw [@eq_comm _ other, @eq_comm _ j]
  | closed here checker returned =>
    have held : s.eventLoop.holdsMutex = true := by rw [here]; rfl
    have idle := SyncPc.closes_none (tracked.exclusive.resolve_left (by simp [held]))
    refine tracked.closed (.inl (by rw [here]; rfl)) checker returned rfl rfl ?_ rfl (fun other j closing => ?_)
      (fun other j => ?_) (.inl rfl)
    · simp only [State.setCluster, here, EventPc.inserts]
    · simp only [State.Closes, here, EventPc.closes, idle, Option.some.injEq, Prod.mk.injEq, reduceCtorEq,
        or_false] at closing
      exact ⟨closing.1.symm, closing.2.symm⟩
    · simp [State.Closes, State.setCluster, EventPc.closes, idle]

/-- `syncLoop` moves between places where it has no checker in hand. -/
theorem syncMove (tracked : Tracked s) (here : s.syncLoop = pc) (plain : pc.inserts = none ∧ pc.closes = none)
    (next : t.syncLoop.inserts = none ∧ t.syncLoop.closes = none)
    (clusters : t.clusters = s.clusters) (checkers : t.checkers = s.checkers) (event : t.eventLoop = s.eventLoop)
    (exclusive : t.eventLoop.holdsMutex = false ∨ t.syncLoop.holdsMutex = false) : Tracked t := by
  refine tracked.move clusters checkers (by rw [event]) (by rw [event]) ?_ ?_ exclusive
  · rw [here, plain.1, next.1]
  · rw [here, plain.2, next.2]

theorem became (tracked : Tracked s) (here : s.syncLoop = pc) (plain : pc.inserts = none ∧ pc.closes = none)
    (start : Bool) : Tracked (s.became self start) := by
  cases start with
  | true => exact tracked.syncMove here plain ⟨rfl, rfl⟩ rfl rfl rfl (.inr rfl)
  | false => exact tracked.syncMove here plain ⟨rfl, rfl⟩ rfl rfl rfl (.inr rfl)

theorem syncStep (tracked : Tracked s) (free : Uncontended s (.syncLoop faults)) (step : SyncStep self s faults t) :
    Tracked t := by
  cases step with
  | leads here _ _ => exact tracked.syncMove here ⟨rfl, rfl⟩ ⟨rfl, rfl⟩ rfl rfl rfl (.inr rfl)
  | leadsAlready here _ _ => exact tracked.syncMove here ⟨rfl, rfl⟩ ⟨rfl, rfl⟩ rfl rfl rfl (.inr rfl)
  | follows here _ => exact tracked.syncMove here ⟨rfl, rfl⟩ ⟨rfl, rfl⟩ rfl rfl rfl (.inr rfl)
  | listNamespace here _ => exact tracked.syncMove here ⟨rfl, rfl⟩ ⟨rfl, rfl⟩ rfl rfl rfl (.inr rfl)
  | namespacesFailed here _ => exact tracked.became here ⟨rfl, rfl⟩ _
  | listCluster here _ => exact tracked.syncMove here ⟨rfl, rfl⟩ ⟨rfl, rfl⟩ rfl rfl rfl (.inr rfl)
  | clustersFailed here _ => exact tracked.became here ⟨rfl, rfl⟩ _
  | resumed here =>
    have noted : Tracked { s with resumed := true } := tracked.same ⟨rfl, rfl, rfl, rfl⟩
    exact noted.became here ⟨rfl, rfl⟩ _
  | nextNamespace here => exact tracked.syncMove here ⟨rfl, rfl⟩ ⟨rfl, rfl⟩ rfl rfl rfl (.inr rfl)
  | known here _ _ => exact tracked.syncMove here ⟨rfl, rfl⟩ ⟨rfl, rfl⟩ rfl rfl rfl (.inr rfl)
  | read here => exact tracked.syncMove here ⟨rfl, rfl⟩ ⟨rfl, rfl⟩ rfl rfl rfl (.inr rfl)
  | receive here _ => exact tracked.syncMove here ⟨rfl, rfl⟩ ⟨rfl, rfl⟩ rfl rfl rfl (.inr rfl)
  | gained here _ _ => exact tracked.syncMove here ⟨rfl, rfl⟩ ⟨rfl, rfl⟩ rfl rfl rfl (.inr rfl)
  | kept here _ _ => exact tracked.syncMove here ⟨rfl, rfl⟩ ⟨rfl, rfl⟩ rfl rfl rfl (.inr rfl)
  | stillFollows here _ _ => exact tracked.syncMove here ⟨rfl, rfl⟩ ⟨rfl, rfl⟩ rfl rfl rfl (.inr rfl)
  | lost here _ _ => exact tracked.syncMove here ⟨rfl, rfl⟩ ⟨rfl, rfl⟩ rfl rfl rfl (.inr rfl)
  | lock here mutex => exact tracked.syncMove here ⟨rfl, rfl⟩ ⟨rfl, rfl⟩ rfl rfl rfl (.inl mutex.1)
  | suspended here _ => exact tracked.syncMove here ⟨rfl, rfl⟩ ⟨rfl, rfl⟩ rfl rfl rfl (.inr rfl)
  | start here mutex absent fresh =>
    refine tracked.starts fresh rfl rfl (fun ns' cluster' j => ?_) (fun ns' cluster' j _ _ carried other => ?_)
      (fun key j => ?_) (.inr rfl)
    · simp only [State.Inserts, State.setChecker, here, SyncPc.inserts, reduceCtorEq, or_false]
    · simp only [State.setChecker, SyncPc.inserts, Option.some.injEq, Prod.mk.injEq] at other
      obtain ⟨⟨c, there, _⟩, _⟩ := tracked.inserting ns' cluster' j (.inl carried)
      rw [← other.2.2, fresh] at there
      cases there
    · simp only [State.Closes, State.setChecker, here, SyncPc.closes]
  | insert here mutex =>
    rename_i start ns cluster k clusters namespaces
    have carried : s.syncLoop.inserts = some (ns, cluster, k) := by rw [here]; rfl
    refine tracked.inserted (.inr carried) (free _ ns cluster k _ _ here) rfl rfl (fun ns' cluster' j => ?_)
      (fun _ _ _ _ _ _ => nofun) (fun key j => ?_) (.inr rfl)
    · simp only [State.Inserts, State.setCluster, here, SyncPc.inserts, reduceCtorEq, or_false, Option.some.injEq,
        Prod.mk.injEq]
      constructor
      · intro other
        refine ⟨.inl other, ?_⟩
        rintro rfl
        exact tracked.apart ns' cluster' j ns cluster other carried
      · rintro ⟨other | ⟨_, _, rfl⟩, differs⟩
        · exact other
        · exact absurd rfl differs
    · simp only [State.Closes, State.setCluster, here, SyncPc.closes]
  | close here found checker =>
    have held : s.syncLoop.holdsMutex = true := by rw [here]; rfl
    have released := tracked.exclusive.resolve_right (by simp [held])
    have idle := EventPc.closes_none released
    refine tracked.closes found checker (fun key j => ?_) rfl rfl rfl ?_ (fun other j => ?_) (.inl released)
    · simp [State.Closes, here, SyncPc.closes, idle]
    · simp only [State.setChecker, here, SyncPc.inserts]
    · simp only [State.Closes, State.setChecker, SyncPc.closes, idle, Option.some.injEq, Prod.mk.injEq, reduceCtorEq,
        false_or]
      rw [@eq_comm _ other, @eq_comm _ j]
  | closed here checker returned =>
    have held : s.syncLoop.holdsMutex = true := by rw [here]; rfl
    have released := tracked.exclusive.resolve_right (by simp [held])
    have idle := EventPc.closes_none released
    refine tracked.closed (.inr (by rw [here]; rfl)) checker returned rfl rfl rfl ?_ (fun other j closing => ?_)
      (fun other j => ?_) (.inl released)
    · simp only [State.setCluster, here, SyncPc.inserts]
    · simp only [State.Closes, here, SyncPc.closes, idle, Option.some.injEq, Prod.mk.injEq, reduceCtorEq,
        false_or] at closing
      exact ⟨closing.1.symm, closing.2.symm⟩
    · simp [State.Closes, State.setCluster, SyncPc.closes, idle]

end Loops

/-- No checker is lost as long as no insertion overwrites another. -/
theorem step (tracked : Tracked s) (free : Uncontended s l) (step : Step self s l t) : Tracked t := by
  cases step with
  | elect | notify => exact tracked.same ⟨rfl, rfl, rfl, rfl⟩
  | write step => exact tracked.same step.sameCheckers
  | emit step => exact tracked.same step.sameCheckers
  | checker step => exact tracked.checkerStep step
  | eventLoop step => exact tracked.eventStep free step
  | syncLoop step => exact tracked.syncStep free step

end Tracked
end Kvrocks.Controller
