import KvrocksController.Concurrency.Followers

/-! The shutdown of a controller. `Close` suspends it as `syncLoop` does on the loss of the
leadership, and only then tells the two loops to return: what they insert in between is
closed by nobody. -/
namespace Kvrocks.Controller
open Kvrocks.Transition

/-- Where `Controller.Close` is. `closingAll` and `closing` are in `suspend`, with the mutex
held, `suspended` is before the channels are closed, `waiting` in `wg.Wait`. -/
inductive ClosePc where
  | running
  | suspending
  | closingAll
  | closing (key : String) (k : Nat)
  | suspended
  | waiting
  | returned
deriving DecidableEq, Repr

def ClosePc.holdsMutex : ClosePc → Bool
  | .closingAll | .closing _ _ => true
  | _ => false

/-- `suspend` has returned. -/
def ClosePc.past : ClosePc → Bool
  | .suspended | .waiting | .returned => true
  | _ => false

/-- The loop's next step takes the mutex. -/
def EventPc.locks : EventPc → Bool
  | .adding _ _ | .inserting _ _ _ | .removing _ _ | .updating _ _ => true
  | _ => false

def SyncPc.locks : SyncPc → Bool
  | .adding _ _ (_ :: _) _ | .inserting _ _ _ _ _ _ | .suspending => true
  | _ => false

/-- The checker that the step inserts. -/
def State.carried (s : State) : Label → Option Nat
  | .eventLoop => s.eventLoop.inserts.map (·.2.2)
  | .syncLoop _ => s.syncLoop.inserts.map (·.2.2)
  | _ => none

/-- A controller from `Start` on. `ready` says that `syncLoop` has sent on `readyCh`. `late`
is a ghost: the checkers inserted since `Close` found the map empty. -/
structure Lifetime where
  loops : State
  ready : Bool
  eventReturned : Bool
  syncReturned : Bool
  close : ClosePc
  late : List Nat

namespace Lifetime

/-- The goroutine has not returned, and does not wait for the mutex that `Close` holds. -/
def Runs (s : Lifetime) : Label → Prop
  | .eventLoop => s.eventReturned = false ∧ (s.close.holdsMutex = true → s.loops.eventLoop.locks = false)
  | .syncLoop _ => s.syncReturned = false ∧ (s.close.holdsMutex = true → s.loops.syncLoop.locks = false)
  | _ => True

inductive Label where
  | loops (l : Controller.Label)
  | close
  | eventReturns
  | syncReturns

/-- The server calls `Close` only behind `WaitForReady`, so nothing is sent on `readyCh`
once it is closed. -/
inductive Step (self : String) : Lifetime → Label → Lifetime → Prop where
  | loops (runs : s.Runs l) (step : Controller.Step self s.loops l t) :
      Step self s (.loops l) { s with
        loops := t
        ready := s.ready || decide (t.syncLoop = .select)
        late := s.late ++ (s.loops.carried l).toList }
  | begin (here : s.close = .running) (ready : s.ready = true) : Step self s .close { s with close := .suspending }
  | lock (here : s.close = .suspending) (free : s.loops.MutexFree) : Step self s .close { s with close := .closingAll }
  | close (here : s.close = .closingAll) (found : s.loops.clusters key = some k)
      (checker : s.loops.checkers k = some c) :
      Step self s .close { s with close := .closing key k, loops := s.loops.setChecker k c.cancel }
  | closed (here : s.close = .closing key k) (checker : s.loops.checkers k = some c) (returned : c.Returned) :
      Step self s .close { s with close := .closingAll, loops := s.loops.setCluster key none }
  | suspended (here : s.close = .closingAll) (empty : ∀ key, s.loops.clusters key = none) :
      Step self s .close { s with close := .suspended, late := [] }
  | closeCh (here : s.close = .suspended) : Step self s .close { s with close := .waiting }
  | eventReturns (closed : s.close = .waiting) (here : s.loops.eventLoop = .select) :
      Step self s .eventReturns { s with eventReturned := true }
  | syncReturns (closed : s.close = .waiting) (here : s.loops.syncLoop = .select) :
      Step self s .syncReturns { s with syncReturned := true }
  | returns (here : s.close = .waiting) (event : s.eventReturned = true) (sync : s.syncReturned = true) :
      Step self s .close { s with close := .returned }

structure Start (s : Lifetime) : Prop where
  loops : Controller.Start s.loops
  ready : s.ready = false
  eventReturned : s.eventReturned = false
  syncReturned : s.syncReturned = false
  close : s.close = .running

/-- As for the loops alone, no insertion overwrites another. -/
def Uncontended (s : Lifetime) : Label → Prop
  | .loops l => Controller.Uncontended s.loops l
  | _ => True

end Lifetime

section Unlocked
variable {self : String} {s t : State}

/-- Without the mutex `leaderEventLoop` moves alone, or sends to the checker it has looked up. -/
theorem EventStep.unlocked (step : EventStep self s t) (locks : s.eventLoop.locks = false)
    (holds : s.eventLoop.holdsMutex = false) :
    s.eventLoop.inserts = none ∧ t.eventLoop.inserts = none ∧ t.eventLoop.holdsMutex = false ∧
      t.syncLoop = s.syncLoop ∧ t.clusters = s.clusters ∧
      (t.checkers = s.checkers ∨
        ∃ k c, s.checkers k = some c ∧ t = { s with eventLoop := .select }.setChecker k { c with syncCh := true }) := by
  cases step with
  | receive here | ignore here | abandon here =>
    rw [here]
    exact ⟨rfl, rfl, rfl, rfl, rfl, .inl rfl⟩
  | dispatch here =>
    rw [here]
    unfold EventPayload.dispatch
    split <;> exact ⟨rfl, rfl, rfl, rfl, rfl, .inl rfl⟩
  | send here checker =>
    rw [here]
    exact ⟨rfl, rfl, rfl, rfl, rfl, .inr ⟨_, _, checker, rfl⟩⟩
  | known here | start here | insert here | unknown here | close here | missing here | lookup here =>
    rw [here] at locks
    cases locks
  | closed here =>
    rw [here] at holds
    cases holds

theorem State.became_moves (start : Bool) :
    (s.became self start).syncLoop.inserts = none ∧ (s.became self start).syncLoop.holdsMutex = false ∧
      (s.became self start).eventLoop = s.eventLoop ∧ (s.became self start).clusters = s.clusters ∧
      (s.became self start).checkers = s.checkers := by
  cases start <;> exact ⟨rfl, rfl, rfl, rfl, rfl⟩

/-- Without the mutex `syncLoop` moves alone. -/
theorem SyncStep.unlocked (step : SyncStep self s faults t) (locks : s.syncLoop.locks = false)
    (holds : s.syncLoop.holdsMutex = false) :
    s.syncLoop.inserts = none ∧ t.syncLoop.inserts = none ∧ t.syncLoop.holdsMutex = false ∧
      t.eventLoop = s.eventLoop ∧ t.clusters = s.clusters ∧ t.checkers = s.checkers := by
  cases step with
  | leads here | leadsAlready here | follows here | listNamespace here | listCluster here | nextNamespace here
  | read here | receive here | gained here | kept here | stillFollows here | lost here =>
    rw [here]
    exact ⟨rfl, rfl, rfl, rfl, rfl, rfl⟩
  | namespacesFailed here | clustersFailed here | resumed here =>
    rw [here]
    exact ⟨rfl, State.became_moves _⟩
  | known here | start here | insert here | lock here =>
    rw [here] at locks
    cases locks
  | close here | closed here | suspended here =>
    rw [here] at holds
    cases holds

end Unlocked

section Shut
variable {s t : State} {key : String} {k j : Nat}

/-- The checker as its `Close` leaves it. -/
def ClusterChecker.shut (c : ClusterChecker) : ClusterChecker :=
  { c with cancelled := true, probeLoop := .returned, migrationLoop := .returned }

/-- The state as `suspend` is going to leave it, once checker `k` has returned. -/
def State.shut (s : State) (key : String) (k : Nat) : State :=
  { s with
    clusters := fun other => if other = key then none else s.clusters other
    checkers := fun j => if j = k then (s.checkers k).map ClusterChecker.shut else s.checkers j }

theorem State.shut_setChecker_self (c : ClusterChecker) :
    (s.setChecker k c).shut key k = (s.shut key k).setChecker k c.shut := by
  simp only [State.shut, State.setChecker, if_true, Option.map_some, State.mk.injEq, true_and, and_true]
  funext j
  split <;> rfl

theorem State.shut_setChecker_other (other : j ≠ k) (c : ClusterChecker) :
    (s.setChecker j c).shut key k = (s.shut key k).setChecker j c := by
  simp only [State.shut, State.setChecker, if_neg (Ne.symm other), State.mk.injEq, true_and, and_true]
  funext i
  by_cases same : i = k
  · subst same
    rw [if_pos rfl, if_neg (Ne.symm other), if_pos rfl]
  · rw [if_neg same, if_neg same]

/-- Once the checker has returned, the state is that one but for the map. -/
theorem State.shut_returned (found : s.checkers k = some c) (closed : c.Closed) :
    s.shut key k = s.setCluster key none := by
  have same : c.shut = c := by
    obtain ⟨cancelled, probe, migration⟩ := closed
    cases c
    simp_all [ClusterChecker.shut]
  simp only [State.shut, State.setCluster, State.mk.injEq, true_and, and_true]
  funext j
  by_cases own : j = k
  · rw [if_pos own, own, found, Option.map_some, same]
  · rw [if_neg own]

theorem State.shut_cancel (found : s.checkers k = some c) : (s.setChecker k c.cancel).shut key k = s.shut key k := by
  simp only [State.shut, State.setChecker, if_true, found, State.mk.injEq, true_and, and_true]
  funext j
  by_cases own : j = k
  · rw [if_pos own, if_pos own]
    rfl
  · rw [if_neg own, if_neg own, if_neg own]

theorem SameCheckers.shut (same : SameCheckers s t) : SameCheckers (s.shut key k) (t.shut key k) := by
  obtain ⟨clusters, checkers, eventLoop, syncLoop⟩ := same
  constructor
  · simp only [State.shut, clusters]
  · simp only [State.shut, checkers]
  · exact eventLoop
  · exact syncLoop

namespace Tracked

/-- The mutex being free, any checker of the map may be taken out as closed. -/
theorem shut (tracked : Tracked s) (free : s.MutexFree) (found : s.clusters key = some k) : Tracked (s.shut key k) := by
  have idle (other : String) (j : Nat) : ¬ s.Closes other j := by
    simp [State.Closes, EventPc.closes_none free.1, SyncPc.closes_none free.2]
  have elsewhere {other : String} (differs : other ≠ key) : (s.shut key k).clusters other = s.clusters other :=
    if_neg differs
  have others {j : Nat} (differs : j ≠ k) : (s.shut key k).checkers j = s.checkers j := if_neg differs
  have gone : (s.shut key k).clusters key = none := if_pos rfl
  have own : (s.shut key k).checkers k = (s.checkers k).map ClusterChecker.shut := if_pos rfl
  have keyed {other : String} {j : Nat} (mapped : (s.shut key k).clusters other = some j) :
      other ≠ key ∧ s.clusters other = some j := by
    by_cases same : other = key
    · subst same
      rw [gone] at mapped
      cases mapped
    · exact ⟨same, elsewhere same ▸ mapped⟩
  constructor
  · intro j c there
    by_cases same : j = k
    · subst same
      rw [own, Option.map_eq_some_iff] at there
      obtain ⟨before, _, rfl⟩ := there
      exact .inl ⟨rfl, rfl, rfl⟩
    · rw [others same] at there
      rcases tracked.kept j c there with closed | mapped | carried
      · exact .inl closed
      · have differs : c.key ≠ key := by
          rintro rfl
          exact same (Option.some.inj (mapped.symm.trans found))
        exact .inr (.inl ((elsewhere differs).trans mapped))
      · exact .inr (.inr carried)
  · intro other j mapped
    obtain ⟨differs, before⟩ := keyed mapped
    obtain ⟨c, there, at_, closing⟩ := tracked.mapped other j before
    have apart : j ≠ k := by
      rintro rfl
      obtain ⟨d, again, alike, _⟩ := tracked.mapped key j found
      obtain rfl := Option.some.inj (there.symm.trans again)
      exact differs (at_.trans alike.symm)
    exact ⟨c, (others apart).trans there, at_, closing⟩
  · intro ns cluster j inserting
    obtain ⟨⟨c, there, rest⟩, unmapped⟩ := tracked.inserting ns cluster j inserting
    have apart : j ≠ k := by
      rintro rfl
      exact unmapped key found
    exact ⟨⟨c, (others apart).trans there, rest⟩, fun other mapped => unmapped other (keyed mapped).2⟩
  · exact tracked.apart
  · exact fun other j closing => absurd closing (idle other j)
  · exact .inl free.1

theorem shut_setChecker (tracked : Tracked (s.shut key k)) (found : s.checkers j = some before)
    (ns : after.ns = before.ns) (name : after.clusterName = before.clusterName)
    (cancelled : after.cancelled = before.cancelled) (still : before.Closed → after.Closed) :
    Tracked ((s.setChecker j after).shut key k) := by
  by_cases same : j = k
  · subst same
    rw [State.shut_setChecker_self]
    have there : (s.shut key j).checkers j = some before.shut := by simp [State.shut, found]
    exact tracked.setChecker there ns name rfl fun _ => ⟨rfl, rfl, rfl⟩
  · rw [State.shut_setChecker_other same]
    exact tracked.setChecker ((if_neg same).trans found) ns name cancelled still

end Tracked
end Shut

section Changes
variable {self : String} {s t : State}

/-- What happens to a checker that was started: its context is never restored, and its
loops return only behind a cancellation. -/
structure ClusterChecker.Evolves (c d : ClusterChecker) : Prop where
  cancelled : c.cancelled = true → d.cancelled = true
  probeLoop : d.probeLoop = .returned → c.probeLoop = .returned ∨ c.cancelled = true
  migrationLoop : d.migrationLoop = .returned → c.migrationLoop = .returned ∨ c.cancelled = true

inductive CheckerChange (s t : State) : Prop where
  | none (same : t.checkers = s.checkers)
  | started (k : Nat) (ns cluster : String) (fresh : s.checkers k = .none)
      (now : t.checkers = (s.setChecker k (newClusterChecker ns cluster)).checkers)
  | moved (k : Nat) (c d : ClusterChecker) (found : s.checkers k = some c) (evolves : c.Evolves d)
      (now : t.checkers = (s.setChecker k d).checkers)

theorem CheckerStep.change (step : CheckerStep s k t) : CheckerChange s t := by
  cases step with
  | tick found | sync found | read found | probed found =>
    refine .moved _ _ _ found ?_ rfl
    exact ⟨id, (by cases ·), .inl⟩
  | migrationTick found | migrated found =>
    refine .moved _ _ _ found ?_ rfl
    exact ⟨id, .inl, (by cases ·)⟩
  | probeReturned found _ cancelled =>
    refine .moved _ _ _ found ?_ rfl
    exact ⟨id, fun _ => .inr cancelled, .inl⟩
  | migrationReturned found _ cancelled =>
    refine .moved _ _ _ found ?_ rfl
    exact ⟨id, .inl, fun _ => .inr cancelled⟩

/-- The loops of the checkers leave every cluster and every context as they are. -/
theorem CheckerStep.keeps (step : CheckerStep s j t) (found : s.checkers k = some c) :
    ∃ d, t.checkers k = some d ∧ d.key = c.key ∧ d.cancelled = c.cancelled := by
  obtain ⟨before, after, there, rfl, ns, name, cancelled, _⟩ := step.changes
  by_cases own : k = j
  · subst own
    obtain rfl := Option.some.inj (there.symm.trans found)
    have key : after.key = before.key := by rw [ClusterChecker.key, ns, name, ClusterChecker.key]
    exact ⟨after, State.setChecker_self, key, cancelled⟩
  · exact ⟨c, (State.setChecker_other own).trans found, rfl, rfl⟩

theorem ClusterChecker.evolves_cancel (c : ClusterChecker) : c.Evolves c.cancel := ⟨fun _ => rfl, .inl, .inl⟩

theorem EventStep.change (step : EventStep self s t) : CheckerChange s t := by
  cases step with
  | receive | ignore | dispatch | known | insert | unknown | closed | missing | lookup | abandon => exact .none rfl
  | start _ _ _ fresh => exact .started _ _ _ fresh rfl
  | close _ _ _ checker => exact .moved _ _ _ checker (ClusterChecker.evolves_cancel _) rfl
  | send _ checker =>
    refine .moved _ _ _ checker ?_ rfl
    exact ⟨id, .inl, .inl⟩

theorem SyncStep.change (step : SyncStep self s faults t) : CheckerChange s t := by
  cases step with
  | leads | leadsAlready | follows | listNamespace | listCluster | nextNamespace | known | insert | read | receive
  | gained | kept | stillFollows | lost | lock | closed | suspended => exact .none rfl
  | namespacesFailed | clustersFailed | resumed => exact .none (State.became_moves _).2.2.2.2
  | start _ _ _ fresh => exact .started _ _ _ fresh rfl
  | close _ _ checker => exact .moved _ _ _ checker (ClusterChecker.evolves_cancel _) rfl

theorem Step.change (step : Step self s l t) : CheckerChange s t := by
  cases step with
  | elect | notify => exact .none rfl
  | write step => exact .none step.sameCheckers.checkers
  | emit step => exact .none step.sameCheckers.checkers
  | checker step => exact step.change
  | eventLoop step => exact step.change
  | syncLoop step => exact step.change

theorem CheckerChange.cancelled (change : CheckerChange s t) (found : s.checkers k = some c)
    (dead : c.cancelled = true) : ∃ d, t.checkers k = some d ∧ d.cancelled = true := by
  cases change with
  | none same => exact ⟨c, same ▸ found, dead⟩
  | started j _ _ fresh now =>
    have other : k ≠ j := by
      rintro rfl
      rw [fresh] at found
      cases found
    exact ⟨c, by rw [now, State.setChecker_other other, found], dead⟩
  | moved j before after there evolves now =>
    by_cases same : k = j
    · subst same
      obtain rfl := Option.some.inj (found.symm.trans there)
      exact ⟨after, by rw [now, State.setChecker_self], evolves.cancelled dead⟩
    · exact ⟨c, by rw [now, State.setChecker_other same, found], dead⟩

/-- A checker whose context stands has both its loops. -/
def Lively (s : State) : Prop :=
  ∀ k c, s.checkers k = some c → c.cancelled = false → c.probeLoop ≠ .returned ∧ c.migrationLoop ≠ .returned

theorem Lively.change (lively : Lively s) (change : CheckerChange s t) : Lively t := by
  intro k d there live
  cases change with
  | none same => exact lively k d (same ▸ there) live
  | started j ns cluster fresh now =>
    rw [now] at there
    by_cases same : k = j
    · subst same
      rw [State.setChecker_self] at there
      obtain rfl := Option.some.inj there
      simp [newClusterChecker]
    · rw [State.setChecker_other same] at there
      exact lively k d there live
  | moved j before after found evolves now =>
    rw [now] at there
    by_cases same : k = j
    · subst same
      rw [State.setChecker_self] at there
      obtain rfl := Option.some.inj there
      have lived : before.cancelled = false := by
        by_contra dead
        rw [evolves.cancelled (by simpa using dead)] at live
        cases live
      obtain ⟨probe, migration⟩ := lively k before found lived
      constructor
      · intro returned
        rcases evolves.probeLoop returned with already | dead
        · exact probe already
        · rw [lived] at dead
          cases dead
      · intro returned
        rcases evolves.migrationLoop returned with already | dead
        · exact migration already
        · rw [lived] at dead
          cases dead
    · rw [State.setChecker_other same] at there
      exact lively k d there live

/-- Only an insertion puts a checker into the map. -/
theorem Step.mapped (step : Step self s l t) (mapped : t.clusters key = some k) :
    s.clusters key = some k ∨ s.carried l = some k := by
  cases step with
  | elect | notify => exact .inl mapped
  | write step => exact .inl (step.sameCheckers.clusters ▸ mapped)
  | emit step => exact .inl (step.sameCheckers.clusters ▸ mapped)
  | checker step =>
    obtain ⟨_, _, _, rfl, _⟩ := step.changes
    exact .inl mapped
  | eventLoop step =>
    cases step with
    | receive | ignore | dispatch | known | start | unknown | close | missing | lookup | send | abandon =>
      exact .inl mapped
    | insert here =>
      simp only [State.setCluster] at mapped
      split at mapped
      · simp only [State.carried, here, EventPc.inserts, Option.map_some]
        exact .inr mapped
      · exact .inl mapped
    | closed =>
      simp only [State.setCluster] at mapped
      split at mapped
      · cases mapped
      · exact .inl mapped
  | syncLoop step =>
    cases step with
    | leads | leadsAlready | follows | listNamespace | listCluster | nextNamespace | known | start | read | receive
    | gained | kept | stillFollows | lost | lock | close | suspended => exact .inl mapped
    | namespacesFailed | clustersFailed | resumed =>
      rw [(State.became_moves _).2.2.2.1] at mapped
      exact .inl mapped
    | insert here =>
      simp only [State.setCluster] at mapped
      split at mapped
      · simp only [State.carried, here, SyncPc.inserts, Option.map_some]
        exact .inr mapped
      · exact .inl mapped
    | closed =>
      simp only [State.setCluster] at mapped
      split at mapped
      · cases mapped
      · exact .inl mapped

/-- Only `leaderEventLoop` moves itself. -/
theorem Step.event_frame (step : Step self s l t) (other : l ≠ .eventLoop) : t.eventLoop = s.eventLoop := by
  cases step with
  | elect | notify => rfl
  | write step => exact step.sameCheckers.eventLoop
  | emit step => exact step.sameCheckers.eventLoop
  | checker step =>
    obtain ⟨_, _, _, rfl, _⟩ := step.changes
    rfl
  | eventLoop => exact absurd rfl other
  | syncLoop step =>
    cases step with
    | leads | leadsAlready | follows | listNamespace | listCluster | nextNamespace | known | start | insert | read
    | receive | gained | kept | stillFollows | lost | lock | close | closed | suspended => rfl
    | namespacesFailed | clustersFailed | resumed => exact (State.became_moves _).2.2.1

end Changes

namespace Lifetime
variable {self : String} {s t : Lifetime}

/-- The loops, where `Close` waits for a checker as it is going to leave them. -/
def view (s : Lifetime) : State :=
  match s.close with
  | .closing key k => s.loops.shut key k
  | _ => s.loops

theorem view_closing (here : s.close = .closing key k) : s.view = s.loops.shut key k := by
  rw [view, here]

theorem view_plain (elsewhere : ∀ key k, s.close ≠ .closing key k) : s.view = s.loops := by
  unfold view
  split
  · rename_i key k here
    exact absurd here (elsewhere key k)
  · rfl

/-- Where every checker is, and who has the mutex. -/
structure Accounted (s : Lifetime) : Prop where
  tracked : Tracked s.view
  closing : ∀ key k, s.close = .closing key k → ∃ c, s.loops.checkers k = some c ∧ c.cancelled = true
  exclusive : s.close.holdsMutex = true → s.loops.MutexFree

/-- The loops and the checkers go on while `Close` waits for checker `k`. -/
theorem Accounted.shut_step {loops next : State} (tracked : Tracked (loops.shut key k)) (free : loops.MutexFree)
    (event : l = .eventLoop → loops.eventLoop.locks = false)
    (sync : ∀ faults, l = .syncLoop faults → loops.syncLoop.locks = false) (step : Controller.Step self loops l next) :
    Tracked (next.shut key k) := by
  cases step with
  | elect | notify => exact tracked.same ⟨rfl, rfl, rfl, rfl⟩
  | write step => exact tracked.same step.sameCheckers.shut
  | emit step => exact tracked.same step.sameCheckers.shut
  | checker step =>
    obtain ⟨before, after, found, rfl, ns, name, cancelled, alive⟩ := step.changes
    exact tracked.shut_setChecker found ns name cancelled fun closed => absurd closed alive
  | eventLoop step =>
    obtain ⟨carried, carries, released, stays, clusters, checkers⟩ := step.unlocked (event rfl) free.1
    have moved {there : State} (inserts : there.eventLoop.inserts = none) (holds : there.eventLoop.holdsMutex = false)
        (stays : there.syncLoop = loops.syncLoop) (clusters : there.clusters = loops.clusters)
        (checkers : there.checkers = loops.checkers) : Tracked (there.shut key k) := by
      refine tracked.move ?_ ?_ (inserts.trans carried.symm) ?_ (congrArg SyncPc.inserts stays)
        (congrArg SyncPc.closes stays) (.inl holds)
      · simp only [State.shut, clusters]
      · simp only [State.shut, checkers]
      · exact (Tracked.EventPc.closes_none holds).trans (Tracked.EventPc.closes_none free.1).symm
    rcases checkers with same | ⟨j, c, found, rfl⟩
    · exact moved carries released stays clusters same
    · have tracked : Tracked (State.shut { loops with eventLoop := .select } key k) := moved rfl rfl rfl rfl rfl
      exact tracked.shut_setChecker found rfl rfl rfl fun closed => closed
  | syncLoop step =>
    obtain ⟨carried, carries, released, stays, clusters, checkers⟩ := step.unlocked (sync _ rfl) free.2
    refine tracked.move ?_ ?_ (congrArg EventPc.inserts stays) (congrArg EventPc.closes stays)
      (carries.trans carried.symm) ?_ (.inr released)
    · simp only [State.shut, clusters]
    · simp only [State.shut, checkers]
    · exact (Tracked.SyncPc.closes_none released).trans (Tracked.SyncPc.closes_none free.2).symm

/-- No loop gets the mutex that `Close` holds. -/
theorem Runs.mutexFree (runs : s.Runs l) (holds : s.close.holdsMutex = true) (free : s.loops.MutexFree)
    (step : Controller.Step self s.loops l next) : next.MutexFree := by
  cases step with
  | elect | notify => exact free
  | write step =>
    obtain ⟨_, _, event, sync⟩ := step.sameCheckers
    rwa [State.MutexFree, event, sync]
  | emit step =>
    obtain ⟨_, _, event, sync⟩ := step.sameCheckers
    rwa [State.MutexFree, event, sync]
  | checker step =>
    obtain ⟨_, _, _, rfl, _⟩ := step.changes
    exact free
  | eventLoop step =>
    obtain ⟨_, _, released, stays, _⟩ := step.unlocked (runs.2 holds) free.1
    exact ⟨released, stays ▸ free.2⟩
  | syncLoop step =>
    obtain ⟨_, _, released, stays, _⟩ := step.unlocked (runs.2 holds) free.2
    exact ⟨stays ▸ free.1, released⟩

theorem Accounted.start (start : Start s) : Accounted s where
  tracked := by
    rw [view_plain (by simp [start.close])]
    exact .start start.loops
  closing key k here := by
    rw [start.close] at here
    cases here
  exclusive holds := by
    rw [start.close] at holds
    cases holds

/-- `Close` moves on without the mutex, or lets go of it. -/
theorem Accounted.moves (accounted : Accounted s) (elsewhere : ∀ key k, s.close ≠ .closing key k)
    (loops : t.loops = s.loops)
    (close : t.close.holdsMutex = true → t.close = .closingAll ∧ s.loops.MutexFree) : Accounted t := by
  have plain : ∀ key k, t.close ≠ .closing key k := by
    intro key k here
    rw [here] at close
    cases (close rfl).1
  refine ⟨?_, fun key k here => absurd here (plain key k), fun holds => loops ▸ (close holds).2⟩
  rw [view_plain plain, loops, ← view_plain elsewhere]
  exact accounted.tracked

theorem Accounted.advances (accounted : Accounted s) (uncontended : Controller.Uncontended s.loops l) (runs : s.Runs l)
    (step : Controller.Step self s.loops l t.loops) (close : t.close = s.close) : Accounted t := by
  have tracked := accounted.tracked
  refine ⟨?_, fun key k here => ?_, fun holds => ?_⟩
  · by_cases closing : ∃ key k, s.close = .closing key k
    · obtain ⟨key, k, here⟩ := closing
      have holds : s.close.holdsMutex = true := by rw [here]; rfl
      rw [view_closing here] at tracked
      rw [view_closing (close.trans here)]
      apply Accounted.shut_step tracked (accounted.exclusive holds) ?_ ?_ step
      · rintro rfl
        exact runs.2 holds
      · rintro faults rfl
        exact runs.2 holds
    · have plain : ∀ key k, s.close ≠ .closing key k := fun key k here => closing ⟨key, k, here⟩
      rw [view_plain plain] at tracked
      rw [view_plain (close ▸ plain)]
      exact tracked.step uncontended step
  · obtain ⟨c, found, dead⟩ := accounted.closing key k (close.symm.trans here)
    exact step.change.cancelled found dead
  · rw [close] at holds
    exact runs.mutexFree holds (accounted.exclusive holds) step

theorem Accounted.step (accounted : Accounted s) (step : Guarded (Step self) Uncontended s l t) : Accounted t := by
  obtain ⟨uncontended, step⟩ := step
  cases step with
  | loops runs step => exact accounted.advances uncontended runs step rfl
  | begin here => exact accounted.moves (by simp [here]) rfl (by simp [ClosePc.holdsMutex])
  | lock here free => exact accounted.moves (by simp [here]) rfl fun _ => ⟨rfl, free⟩
  | close here found checker =>
    have free := accounted.exclusive (by rw [here]; rfl)
    have tracked := accounted.tracked
    rw [view_plain (by simp [here])] at tracked
    refine ⟨?_, ?_, fun _ => free⟩
    · rw [view_closing rfl]
      dsimp only
      rw [State.shut_cancel checker]
      exact tracked.shut free found
    · rintro key k ⟨⟩
      exact ⟨_, State.setChecker_self, rfl⟩
  | closed here checker returned =>
    have free := accounted.exclusive (by rw [here]; rfl)
    obtain ⟨c, found, dead⟩ := accounted.closing _ _ here
    obtain rfl := Option.some.inj (checker.symm.trans found)
    have tracked := accounted.tracked
    rw [view_closing here, State.shut_returned checker ⟨dead, returned⟩] at tracked
    refine ⟨?_, ?_, fun _ => free⟩
    · rw [view_plain (by simp)]
      exact tracked
    · intro key k closing
      cases closing
  | suspended here => exact accounted.moves (by simp [here]) rfl (by simp [ClosePc.holdsMutex])
  | closeCh here => exact accounted.moves (by simp [here]) rfl (by simp [ClosePc.holdsMutex])
  | eventReturns closed => exact accounted.moves (by simp [closed]) rfl (by simp [closed, ClosePc.holdsMutex])
  | syncReturns closed => exact accounted.moves (by simp [closed]) rfl (by simp [closed, ClosePc.holdsMutex])
  | returns here => exact accounted.moves (by simp [here]) rfl (by simp [ClosePc.holdsMutex])

/-- Behind `suspend` the map holds only what was inserted since; the loops that have
returned were in their `select`. -/
structure Settled (s : Lifetime) : Prop where
  lively : Lively s.loops
  late : s.close.past = true → ∀ key k, s.loops.clusters key = some k → k ∈ s.late
  event : s.eventReturned = true → s.loops.eventLoop = .select
  sync : s.syncReturned = true → s.loops.syncLoop = .select
  returned : s.close = .returned → s.eventReturned = true ∧ s.syncReturned = true

theorem Settled.start (start : Start s) : Settled s where
  lively k c found := by
    rw [start.loops.checkers k] at found
    cases found
  late past := by
    rw [start.close] at past
    cases past
  event returned := by
    rw [start.eventReturned] at returned
    cases returned
  sync returned := by
    rw [start.syncReturned] at returned
    cases returned
  returned here := by
    rw [start.close] at here
    cases here

/-- `Close` goes on inside `suspend`, or before it. -/
theorem Settled.suspends (settled : Settled s) (change : CheckerChange s.loops t.loops) (past : t.close.past = false)
    (event : t.eventReturned = s.eventReturned ∧ t.loops.eventLoop = s.loops.eventLoop)
    (sync : t.syncReturned = s.syncReturned ∧ t.loops.syncLoop = s.loops.syncLoop) : Settled t where
  lively := settled.lively.change change
  late behind := by
    rw [past] at behind
    cases behind
  event := by
    rw [event.1, event.2]
    exact settled.event
  sync := by
    rw [sync.1, sync.2]
    exact settled.sync
  returned here := by
    rw [here] at past
    cases past

theorem Settled.step (settled : Settled s) (step : Step self s l t) : Settled t := by
  cases step with
  | loops runs step =>
    refine ⟨settled.lively.change step.change, fun past key k mapped => ?_, fun returned => ?_, fun returned => ?_,
      settled.returned⟩
    · rcases step.mapped mapped with before | carried
      · exact List.mem_append_left _ (settled.late past key k before)
      · rw [carried]
        exact List.mem_append_right _ List.mem_cons_self
    · rw [step.event_frame ?_]
      · exact settled.event returned
      · rintro rfl
        rw [runs.1] at returned
        cases returned
    · rw [(step.sync_frame ?_).1]
      · exact settled.sync returned
      · rintro faults rfl
        rw [runs.1] at returned
        cases returned
  | begin | lock => exact settled.suspends (.none rfl) rfl ⟨rfl, rfl⟩ ⟨rfl, rfl⟩
  | close here found checker =>
    exact settled.suspends (.moved _ _ _ checker (ClusterChecker.evolves_cancel _) rfl) rfl ⟨rfl, rfl⟩ ⟨rfl, rfl⟩
  | closed => exact settled.suspends (.none rfl) rfl ⟨rfl, rfl⟩ ⟨rfl, rfl⟩
  | suspended here empty =>
    refine ⟨settled.lively, fun _ key k mapped => ?_, settled.event, settled.sync, fun here => by cases here⟩
    rw [empty key] at mapped
    cases mapped
  | closeCh here =>
    have past : s.close.past = true := by rw [here]; rfl
    exact ⟨settled.lively, fun _ => settled.late past, settled.event, settled.sync, fun here => by cases here⟩
  | eventReturns closed here =>
    refine ⟨settled.lively, settled.late, fun _ => here, settled.sync, fun returned => ?_⟩
    rw [closed] at returned
    cases returned
  | syncReturns closed here =>
    refine ⟨settled.lively, settled.late, settled.event, fun _ => here, fun returned => ?_⟩
    rw [closed] at returned
    cases returned
  | returns here event sync =>
    have past : s.close.past = true := by rw [here]; rfl
    exact ⟨settled.lively, fun _ => settled.late past, settled.event, settled.sync, fun _ => ⟨event, sync⟩⟩

/-- What goes on behind `Close`: nobody receives an event, looks at the map or cancels. -/
structure Onward (s t : Lifetime) : Prop where
  close : t.close = .returned
  event : t.eventReturned = true
  sync : t.syncReturned = true
  checkers : ∀ k c, s.loops.checkers k = some c →
    ∃ d, t.loops.checkers k = some d ∧ d.key = c.key ∧ d.cancelled = c.cancelled
  events : s.loops.events <+: t.loops.events
  senders : s.loops.senders <+: t.loops.senders

theorem Onward.loops {m : Lifetime} (onward : Onward s m) (runs : m.Runs l)
    (step : Controller.Step self m.loops l next) :
    (∀ k c, s.loops.checkers k = some c → ∃ d, next.checkers k = some d ∧ d.key = c.key ∧ d.cancelled = c.cancelled) ∧
      s.loops.events <+: next.events ∧ s.loops.senders <+: next.senders := by
  cases step with
  | elect | notify => exact ⟨onward.checkers, onward.events, onward.senders⟩
  | write step =>
    have checkers := step.sameCheckers.checkers
    rw [checkers]
    cases step <;> exact ⟨onward.checkers, onward.events, onward.senders⟩
  | emit step =>
    have checkers := step.sameCheckers.checkers
    rw [checkers]
    cases step with
    | sent => exact ⟨onward.checkers, onward.events.trans (List.prefix_append ..), onward.senders⟩
    | blocks => exact ⟨onward.checkers, onward.events, onward.senders.trans (List.prefix_append ..)⟩
  | checker step =>
    refine ⟨fun k c there => ?_, ?_⟩
    · obtain ⟨d, now, key, same⟩ := onward.checkers k c there
      obtain ⟨e, later, kept, still⟩ := step.keeps now
      exact ⟨e, later, kept.trans key, still.trans same⟩
    · obtain ⟨_, _, _, rfl, _⟩ := step.changes
      exact ⟨onward.events, onward.senders⟩
  | eventLoop =>
    rw [Runs, onward.event] at runs
    cases runs.1
  | syncLoop =>
    rw [Runs, onward.sync] at runs
    cases runs.1

theorem Onward.step {m : Lifetime} (onward : Onward s m) (step : Step self m l t) : Onward s t := by
  have closed := onward.close
  cases step with
  | loops runs step =>
    obtain ⟨checkers, events, senders⟩ := onward.loops runs step
    exact ⟨closed, onward.event, onward.sync, checkers, events, senders⟩
  | begin here | lock here | close here | closed here | suspended here | closeCh here | eventReturns here
  | syncReturns here | returns here =>
    rw [closed] at here
    cases here

/-- Once `Close` has returned, every checker is closed but those that a loop inserted behind
its `suspend`. Those keep running whatever happens from there on, no event is received any
more, and a call that waits for room in the channel keeps its cluster locked. -/
theorem close_leaves_late_checkers {s₀ : Lifetime} (start : Start s₀)
    (run : Run (Guarded (Step self) Uncontended) s₀ ls s) (closed : s.close = .returned) :
    (∀ k c, s.loops.checkers k = some c →
      c.Closed ∨ k ∈ s.late ∧ s.loops.clusters c.key = some k ∧ c.cancelled = false) ∧
    ∀ ms t, Run (Step self) s ms t →
      (∀ k c, s.loops.checkers k = some c → ¬ c.Closed → ∃ d, t.loops.checkers k = some d ∧ d.key = c.key ∧
        d.cancelled = false ∧ d.probeLoop ≠ .returned ∧ d.migrationLoop ≠ .returned) ∧
      s.loops.events <+: t.loops.events ∧
      ∀ call ∈ s.loops.senders, call.event.type = .eventCluster →
        ¬ t.loops.LockFree call.event.ns call.event.cluster := by
  have accounted := run.preserves (fun _ _ _ accounted step => Accounted.step accounted step) (Accounted.start start)
  have settled := run.unguarded.preserves (fun _ _ _ settled step => Settled.step settled step) (Settled.start start)
  obtain ⟨event, sync⟩ := settled.returned closed
  have tracked := accounted.tracked
  rw [view_plain (by simp [closed])] at tracked
  have left (k : Nat) (c : ClusterChecker) (found : s.loops.checkers k = some c) :
      c.Closed ∨ k ∈ s.late ∧ s.loops.clusters c.key = some k ∧ c.cancelled = false := by
    rcases tracked.kept k c found with done | mapped | carried
    · exact .inl done
    · refine .inr ⟨settled.late (by rw [closed]; rfl) _ k mapped, mapped, ?_⟩
      obtain ⟨d, there, _, closing⟩ := tracked.mapped _ k mapped
      obtain rfl := Option.some.inj (found.symm.trans there)
      by_contra dead
      have waits := closing (by simpa using dead)
      simp [State.Closes, settled.event event, settled.sync sync, EventPc.closes, SyncPc.closes] at waits
    · simp [State.Inserts, settled.event event, settled.sync sync, EventPc.inserts, SyncPc.inserts] at carried
  refine ⟨left, fun ms t further => ?_⟩
  have here : Onward s s :=
    ⟨closed, event, sync, fun k c found => ⟨c, found, rfl, rfl⟩, List.prefix_rfl, List.prefix_rfl⟩
  have onward := further.preserves (fun _ _ _ onward step => Onward.step onward step) here
  have lively := (further.preserves (fun _ _ _ settled step => Settled.step settled step) settled).lively
  refine ⟨fun k c found runs => ?_, onward.events, fun call waits kind free => ?_⟩
  · obtain ⟨d, there, key, same⟩ := onward.checkers k c found
    have live : d.cancelled = false := same.trans ((left k c found).resolve_left runs).2.2
    exact ⟨d, there, key, live, lively k d there live⟩
  · exact free call (List.mem_append_left _ (onward.senders.subset waits)) kind rfl

section Samples
open Orphans

/-- A controller that was just started over `loops`. -/
def opened (loops : State) : Lifetime := ⟨loops, false, false, false, .running, []⟩

/-- `Close` has not been called, and may be where `syncLoop` is in its `select`. -/
structure Open (s : Lifetime) : Prop where
  close : s.close = .running
  event : s.eventReturned = false
  sync : s.syncReturned = false
  ready : s.loops.syncLoop = .select → s.ready = true

theorem Open.step (opened : s.Open) (step : Controller.Step self s.loops l next) :
    ∃ t, Step self s (.loops l) t ∧ t.loops = next ∧ t.Open := by
  have runs : s.Runs l := by
    cases l with
    | eventLoop => exact ⟨opened.event, by simp [opened.close, ClosePc.holdsMutex]⟩
    | syncLoop => exact ⟨opened.sync, by simp [opened.close, ClosePc.holdsMutex]⟩
    | elect | notify | write | emit | checker => trivial
  refine ⟨_, .loops runs step, rfl, opened.close, opened.event, opened.sync, fun here => ?_⟩
  exact Bool.or_eq_true_iff.mpr (.inr (decide_eq_true here))

/-- Until `Close` is called the loops run as they would without it. -/
theorem lift_run {loops next : State} (run : Run (Guarded (Controller.Step self) (Heeded self)) loops ls next) :
    ∀ s : Lifetime, s.loops = loops → s.Open →
      ∃ t : Lifetime, Run (Guarded (Step self) Uncontended) s (ls.map .loops) t ∧ t.loops = next ∧ t.Open := by
  induction run with
  | nil => exact fun s here opened => ⟨s, .nil, here, opened⟩
  | cons head _ ih =>
    rintro s rfl opened
    obtain ⟨m, first, between, opened⟩ := opened.step head.2
    obtain ⟨t, rest, there, still⟩ := ih m between opened
    exact ⟨t, .cons ⟨head.1.1, first⟩ rest, there, still⟩

/-- A cluster was just created when the controller is closed: its event is handled behind
`suspend`, and its checker stays. -/
theorem close_leaves_late_checkers_event :
    ∃ ls s c, Start (opened (started withNamespace "a")) ∧
      Run (Guarded (Step "a") Uncontended) (opened (started withNamespace "a")) ls s ∧ s.close = .returned ∧
      s.loops.checkers 0 = some c ∧ ¬ c.Closed ∧ 0 ∈ s.late ∧
      ∀ ms t, Run (Step "a") s ms t → ∃ d, t.loops.checkers 0 = some d ∧ d.key = "ns/c" ∧ d.cancelled = false ∧
        d.probeLoop ≠ .returned ∧ d.migrationLoop ≠ .returned := by
  have start : Start (opened (started withNamespace "a")) := ⟨started_start _ _, rfl, rfl, rfl, rfl⟩
  obtain ⟨⟨loops, ready, event, sync, close, late⟩, before, here, still⟩ :=
    lift_run (leading_reached.append passed_reached) (opened (started withNamespace "a")) rfl
      ⟨rfl, rfl, rfl, by simp [opened, started]⟩
  obtain ⟨rfl, rfl, rfl, waits⟩ := still
  obtain rfl : loops = passed := here
  obtain rfl : ready = true := waits rfl
  have idle : Controller.Uncontended passed .eventLoop := by
    intro _ _ _ here
    cases here
  have free : Controller.Uncontended { passed with eventLoop := .inserting "ns" "c" 0 } .eventLoop := fun _ _ _ _ => rfl
  have runs {s : Lifetime} (event : s.eventReturned = false) (close : s.close = .waiting) : s.Runs .eventLoop :=
    ⟨event, by simp [close, ClosePc.holdsMutex]⟩
  have closing : ∃ s, Run (Guarded (Step "a") Uncontended) ⟨passed, true, false, false, .running, late⟩
      [.close, .close, .close, .close, .loops .eventLoop, .loops .eventLoop, .eventReturns, .syncReturns, .close] s ∧
      s.close = .returned ∧ s.loops.checkers 0 = some (newClusterChecker "ns" "c") := ⟨_,
    .cons ⟨trivial, .begin rfl rfl⟩ <|
    .cons ⟨trivial, .lock rfl ⟨rfl, rfl⟩⟩ <|
    .cons ⟨trivial, .suspended rfl fun _ => rfl⟩ <|
    .cons ⟨trivial, .closeCh rfl⟩ <|
    .cons ⟨idle, .loops (runs rfl rfl) (.eventLoop (.start (k := 0) rfl ⟨rfl, rfl⟩ rfl rfl))⟩ <|
    .cons ⟨free, .loops (runs rfl rfl) (.eventLoop (.insert rfl ⟨rfl, rfl⟩))⟩ <|
    .cons ⟨trivial, .eventReturns rfl rfl⟩ <|
    .cons ⟨trivial, .syncReturns rfl rfl⟩ <|
    .cons ⟨trivial, .returns rfl rfl rfl⟩ <|
    .nil, rfl, rfl⟩
  obtain ⟨s, after, closed, found⟩ := closing
  have run := before.append after
  have runs : ¬ (newClusterChecker "ns" "c").Closed := by simp [ClusterChecker.Closed, newClusterChecker]
  obtain ⟨left, further⟩ := close_leaves_late_checkers start run closed
  obtain ⟨late, _⟩ := (left 0 _ found).resolve_left runs
  refine ⟨_, s, _, start, run, closed, found, runs, late, fun ms t rest => ?_⟩
  exact (further ms t rest).1 0 _ found runs

end Samples

end Lifetime
end Kvrocks.Controller
