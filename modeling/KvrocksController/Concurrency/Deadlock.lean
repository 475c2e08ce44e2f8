import KvrocksController.Concurrency.Failover
import KvrocksController.Concurrency.Followers
import KvrocksController.Controller.Pending

/-! Whether the loops of a controller can wait for one another. `leaderEventLoop` alone
makes room in the channel of events, and it waits for checkers that send to that channel:
in `sendSyncEvent`, in `Close`, and for the mutex that `suspend` holds across `Close`. -/
namespace Kvrocks.Controller
open Kvrocks.Transition ClusterStore
open Orphans (withNamespace)
open Failover (failing pair swapped slaves pair_decodes)

variable {self : String} {s t : State}

/-- `leaderEventLoop` waits for checker `k`, or for the mutex while `k` is closed behind it. -/
def Awaits (s : State) (k : Nat) : Prop :=
  ∃ c, s.checkers k = some c ∧ match s.eventLoop with
    | .syncing j => j = k ∧ c.syncCh = true ∧ c.cancelled = false
    | .closing _ _ j => j = k ∧ ¬ c.Returned
    | .adding _ _ | .inserting _ _ _ | .removing _ _ | .updating _ _ => (∃ key, s.syncLoop = .closing key k) ∧ ¬ c.Returned
    | .select | .received _ => False

/-- A loop of a checker that `leaderEventLoop` waits for waits for room in the channel. -/
def Deadlocked (s : State) : Prop :=
  ∃ k, Awaits s k ∧ ∃ call ∈ s.senders, call.sender = .probe k ∨ call.sender = .migration k

namespace State

/-- The events that were promised by a write and not yet received. -/
def outstanding (s : State) : Nat := s.events.length + s.senders.length + s.calls.length

/-- One of the controller's loops waits for a checker. -/
def Waits (s : State) : Prop :=
  (∃ k c, s.eventLoop = .syncing k ∧ s.checkers k = some c ∧ c.syncCh = true ∧ c.cancelled = false) ∨
    s.eventLoop.closes ≠ none ∨ s.syncLoop.closes ≠ none

end State

/-- A loop begins to wait for a checker only if all that is outstanding fits in the
channel, and while it waits no call is made whose event would not fit. -/
def Relaxed (s : State) : Label → Prop
  | .write _ op _ => op.event ≠ none → s.Waits → s.outstanding < eventCapacity
  | .eventLoop => ∀ ns cluster k c, s.clusters (buildClusterKey ns cluster) = some k → s.checkers k = some c →
      (s.eventLoop = .updating ns cluster ∧ c.syncCh = true ∧ c.cancelled = false) ∨ s.eventLoop = .removing ns cluster →
      s.outstanding ≤ eventCapacity
  | .syncLoop _ => ∀ key k, s.syncLoop = .closingAll → s.clusters key = some k → s.outstanding ≤ eventCapacity
  | _ => True

/-- What is outstanding while a loop waits fits in the channel, so no sender waits. -/
structure Roomy (s : State) : Prop where
  queued : Queued s
  fits : s.Waits → s.outstanding ≤ eventCapacity

/-- A wait that is there after a step was there before. -/
theorem State.Waits.before (waits : t.Waits) (eventLoop : t.eventLoop = s.eventLoop)
    (checkers : ∀ k c, t.checkers k = some c → c.syncCh = true → c.cancelled = false →
      ∃ d, s.checkers k = some d ∧ d.syncCh = true ∧ d.cancelled = false)
    (syncLoop : t.syncLoop.closes ≠ none → s.syncLoop.closes ≠ none) : s.Waits := by
  rcases waits with ⟨k, c, syncing, found, full, live⟩ | closing | closing
  · obtain ⟨d, before, rest⟩ := checkers k c found full live
    exact .inl ⟨k, d, eventLoop ▸ syncing, before, rest⟩
  · exact .inr (.inl (eventLoop ▸ closing))
  · exact .inr (.inr (syncLoop closing))

/-- `leaderEventLoop` has moved on to a place where it waits for no checker. -/
theorem State.Waits.elsewhere (waits : t.Waits) (syncing : ∀ k, t.eventLoop ≠ .syncing k) (closes : t.eventLoop.closes = none)
    (syncLoop : t.syncLoop = s.syncLoop) : s.Waits := by
  rcases waits with ⟨k, c, here, _⟩ | closing | closing
  · exact absurd here (syncing k)
  · exact absurd closes closing
  · exact .inr (.inr (syncLoop ▸ closing))

/-- The loops of a checker take from its channel and never fill it. -/
theorem CheckerStep.syncCh (step : CheckerStep s k t) (found : t.checkers j = some c) (full : c.syncCh = true)
    (live : c.cancelled = false) : ∃ d, s.checkers j = some d ∧ d.syncCh = true ∧ d.cancelled = false := by
  by_cases same : j = k
  · subst same
    cases step with
    | sync found' here queued =>
      rw [State.setChecker_self] at found
      obtain rfl := Option.some.inj found
      cases full
    | tick before | read before | probed before | probeReturned before | migrationTick before | migrated before
    | migrationReturned before =>
      rw [State.setChecker_self] at found
      obtain rfl := Option.some.inj found
      exact ⟨_, before, full, live⟩
  · obtain ⟨_, _, _, rfl, _⟩ := step.changes
    rw [State.setChecker_other same] at found
    exact ⟨c, found, full, live⟩

namespace Roomy

theorem start (start : Start s) : Roomy s := by
  constructor
  · exact .start start.calls start.senders
  · intro _
    simp [State.outstanding, start.events, start.senders, start.calls]

theorem frame (roomy : Roomy s) (queued : Queued t) (outstanding : t.outstanding ≤ s.outstanding)
    (waits : t.Waits → s.Waits) : Roomy t where
  queued := queued
  fits := fun later => outstanding.trans (roomy.fits (waits later))

theorem writeStep (roomy : Roomy s) (relaxed : Relaxed s (.write sender op faults))
    (step : WriteStep s sender op faults t) : Roomy t := by
  obtain ⟨_, _, queued, _⟩ := roomy.queued.writeStep step
  cases step with
  | emits called free done event =>
    refine ⟨queued, fun waits => ?_⟩
    have room := relaxed (by simp [event]) waits
    simp only [State.outstanding, List.length_append, List.length_cons, List.length_nil] at room ⊢
    omega
  | silent => exact roomy.frame queued le_rfl fun waits => waits

theorem emitStep (roomy : Roomy s) (step : EmitStep s call t) : Roomy t := by
  obtain ⟨queued, _⟩ := roomy.queued.emitStep step
  cases step with
  | sent pending _ | blocks pending _ =>
    refine roomy.frame queued ?_ fun waits => waits
    simp only [State.outstanding, pending, List.length_append, List.length_cons, List.length_nil]
    omega

theorem eventStep (roomy : Roomy s) (relaxed : Relaxed s .eventLoop) (step : EventStep self s t) : Roomy t := by
  have queued := roomy.queued.eventStep step
  cases step with
  | receive here first =>
    refine roomy.frame queued ?_ fun waits => waits.elsewhere (fun _ => nofun) rfl rfl
    cases senders : s.senders <;> simp [State.outstanding, first, senders]
  | dispatch here _ _ =>
    refine roomy.frame queued le_rfl fun waits => waits.elsewhere ?_ ?_ rfl
    · intro k
      unfold EventPayload.dispatch
      split <;> exact nofun
    · unfold EventPayload.dispatch
      split <;> rfl
  | lookup here free found =>
    rename_i k ns cluster
    refine ⟨queued, fun waits => ?_⟩
    rcases waits with ⟨j, c, syncing, checker, full⟩ | closing | closing
    · obtain rfl : k = j := EventPc.syncing.inj syncing
      exact relaxed ns cluster k c found checker (.inl ⟨here, full⟩)
    · exact absurd rfl closing
    · exact roomy.fits (.inr (.inr closing))
  | close here free found checker =>
    exact ⟨queued, fun _ => relaxed _ _ _ _ found checker (.inr here)⟩
  | ignore | known | start | insert | unknown | closed | missing | send | abandon =>
    exact roomy.frame queued le_rfl fun waits => waits.elsewhere (fun _ => nofun) rfl rfl

theorem became {start : Bool} (roomy : Roomy s) : Roomy (s.became self start) := by
  cases start with
  | true | false =>
    exact roomy.frame (roomy.queued.frame rfl rfl rfl) le_rfl fun waits =>
      waits.before rfl (fun _ c found full live => ⟨c, found, full, live⟩) fun closing => absurd rfl closing

theorem syncStep (roomy : Roomy s) (relaxed : Relaxed s (.syncLoop faults)) (step : SyncStep self s faults t) :
    Roomy t := by
  have only := step.only
  have queued := roomy.queued.frame only.calls only.senders only.events
  cases step with
  | close here found checker => exact ⟨queued, fun _ => relaxed _ _ here found⟩
  | start here free absent fresh =>
    rename_i k
    refine roomy.frame queued le_rfl fun waits => waits.before rfl (fun j c found full live => ?_) fun closing => ?_
    · by_cases own : j = k
      · subst own
        rw [State.setChecker_self] at found
        obtain rfl := Option.some.inj found
        cases full
      · rw [State.setChecker_other own] at found
        exact ⟨c, found, full, live⟩
    · exact absurd rfl closing
  | namespacesFailed | clustersFailed => exact roomy.became
  | resumed =>
    have noted : Roomy { s with resumed := true } := roomy.frame (roomy.queued.frame rfl rfl rfl) le_rfl fun waits => waits
    exact noted.became
  | leads | leadsAlready | follows | listNamespace | listCluster | nextNamespace | known | insert | read | receive
  | gained | kept | stillFollows | lost | lock | closed | suspended =>
    exact roomy.frame queued le_rfl fun waits =>
      waits.before rfl (fun _ c found full live => ⟨c, found, full, live⟩) fun closing => absurd rfl closing

theorem step (roomy : Roomy s) (step : Guarded (Step self) Relaxed s l t) : Roomy t := by
  obtain ⟨relaxed, step⟩ := step
  cases step with
  | elect | notify => exact roomy.frame (roomy.queued.frame rfl rfl rfl) le_rfl fun waits => waits
  | write step => exact roomy.writeStep relaxed step
  | emit step => exact roomy.emitStep step
  | checker step =>
    have taken {j : Nat} {c : ClusterChecker} := step.syncCh (j := j) (c := c)
    obtain ⟨_, _, _, rfl, _⟩ := step.changes
    exact roomy.frame (roomy.queued.frame rfl rfl rfl) le_rfl fun waits =>
      waits.before rfl (fun _ _ found full live => taken found full live) fun closing => closing
  | eventLoop step => exact roomy.eventStep relaxed step
  | syncLoop step => exact roomy.syncStep relaxed step

/-- Where all fits in the channel, nobody waits there. -/
theorem no_senders (roomy : Roomy s) (waits : s.Waits) : s.senders = [] := by
  by_contra senders
  -- a waiting sender comes on top of a full channel
  have full := roomy.queued.full senders
  have fits := roomy.fits waits
  have some := List.length_pos_iff.mpr senders
  simp only [State.outstanding] at fits
  omega

end Roomy

/-- What `Awaits` calls waiting is having no step. -/
theorem Awaits.stuck (awaits : Awaits s k) : ¬ EventStep self s t := by
  obtain ⟨c, found, how⟩ := awaits
  intro step
  have held (closing : ∃ key, s.syncLoop = .closing key k) : ¬ s.MutexFree := by
    obtain ⟨key, closing⟩ := closing
    simp [State.MutexFree, closing, SyncPc.holdsMutex]
  cases step with
  | receive here _ | ignore here _ | dispatch here _ _ =>
    rw [here] at how
    cases how
  | known here free _ | start here free _ _ | insert here free | unknown here free _ | close here free _ _
  | missing here free _ | lookup here free _ =>
    rw [here] at how
    exact held how.1 free
  | closed here checker returned =>
    rw [here] at how
    obtain ⟨rfl, waits⟩ := how
    obtain rfl := Option.some.inj (checker.symm.trans found)
    exact waits returned
  | send here checker room =>
    rw [here] at how
    obtain ⟨rfl, full, _⟩ := how
    obtain rfl := Option.some.inj (checker.symm.trans found)
    simp [room] at full
  | abandon here checker cancelled =>
    rw [here] at how
    obtain ⟨rfl, _, live⟩ := how
    obtain rfl := Option.some.inj (checker.symm.trans found)
    simp [cancelled] at live

theorem Awaits.waits (awaits : Awaits s k) : s.Waits := by
  obtain ⟨c, found, how⟩ := awaits
  cases here : s.eventLoop with
  | syncing j =>
    rw [here] at how
    obtain ⟨rfl, full⟩ := how
    exact .inl ⟨j, c, here, found, full⟩
  | closing ns cluster j => exact .inr (.inl (by simp [here, EventPc.closes]))
  | adding | inserting | removing | updating =>
    rw [here] at how
    obtain ⟨⟨key, closing⟩, _⟩ := how
    exact .inr (.inr (by simp [closing, SyncPc.closes]))
  | select | received =>
    rw [here] at how
    cases how

/-- In every relaxed run no loop that waits for a checker is waited for in turn. -/
theorem loops_never_deadlock {s₀ s : State} (start : Start s₀) (run : Run (Guarded (Step self) Relaxed) s₀ ls s) :
    ¬ Deadlocked s := by
  rintro ⟨k, awaits, call, waiting, _⟩
  have roomy := run.preserves (fun _ _ _ roomy step => Roomy.step roomy step) (Roomy.start start)
  rw [roomy.no_senders awaits.waits] at waiting
  cases waiting

section Samples

def updated : EventPayload := ⟨"ns", "c", .eventCluster, .update⟩

def written (kv : KV) (object : Cluster) : KV := kv.insert (Kvrocks.buildClusterKey "ns" "c") (.json object.marshalJSON)

def HoldsPair (kv : KV) (version : Int) : Prop :=
  kv[Kvrocks.buildClusterKey "ns" "c"]? = some (.json (pair version).marshalJSON)

theorem holdsPair_written (kv : KV) (version : Int) : HoldsPair (written kv (pair version)) version :=
  Std.ExtTreeMap.getElem?_insert_self

/-- Where little is outstanding, every step is relaxed. -/
theorem relaxed_few (few : s.outstanding < eventCapacity) : Relaxed s l := by
  cases l with
  | elect | notify | emit | checker => trivial
  | write => exact fun _ _ => few
  | eventLoop => exact fun _ _ _ _ _ _ _ => few.le
  | syncLoop => exact fun _ _ _ _ => few.le

section Updates
variable {kv : KV} {version : Int}

theorem pair_updated (holds : HoldsPair kv version) (lower : 0 ≤ version) (upper : version < 1000) (shards : List Shard) :
    (Op.updateCluster "ns" ⟨"c", version, shards⟩).perform .none kv = (written kv ⟨"c", version + 1, shards⟩, none) := by
  have read : getClusterWithoutLock (etcd .none) "ns" "c" kv = .ok (pair version) :=
    flat_read_ok.mpr ⟨_, holds, pair_decodes version⟩
  have next : nextVersion version = version + 1 := by
    apply nextVersion_eq <;> simp only [Strconv.maxInt64] <;> omega
  have passes : ¬ (pair version).version > version := lt_irrefl _
  simp only [Op.perform, updateCluster, read, if_neg passes, next]
  rfl

/-- The leader "a" watches "ns/c" with checker 0, and nothing is on its way. -/
structure Probing (c : ClusterChecker) (version : Int) (s : State) : Prop where
  leader : s.leader = "a"
  syncLoop : s.syncLoop = .starting
  mapped : s.clusters (buildClusterKey "ns" "c") = some 0
  checker : s.checkers 0 = some c
  calls : s.calls = []
  senders : s.senders = []
  holds : HoldsPair s.kv version

/-- An update through the API reaches the channel. -/
theorem Probing.emits (probing : Probing c version s) (lower : 0 ≤ version) (upper : version < 1000)
    (room : s.events.length < eventCapacity) :
    ∃ t, Run (Guarded (Step "a") Relaxed) s
        [.write .api (.updateCluster "ns" (pair version)) .none, .emit ⟨.api, updated⟩] t ∧
      Probing c (version + 1) t ∧ t.events = s.events ++ [updated] ∧ t.eventLoop = s.eventLoop := by
  have few : s.outstanding < eventCapacity := by simpa [State.outstanding, probing.calls, probing.senders] using room
  have alone : s.calls ++ [⟨.api, updated⟩] = [⟨.api, updated⟩] := by rw [probing.calls]; rfl
  have stores := pair_updated probing.holds lower upper (pair version).shards
  have run : Run (Guarded (Step "a") Relaxed) s
      [.write .api (.updateCluster "ns" (pair version)) .none, .emit ⟨.api, updated⟩] _ :=
    .cons ⟨relaxed_few few, .write (.emits_idle probing.senders probing.calls stores rfl)⟩ <|
    .cons ⟨trivial, .emit (.alone alone room)⟩ .nil
  exact ⟨_, run, ⟨probing.leader, probing.syncLoop, probing.mapped, probing.checker, rfl, probing.senders,
    holdsPair_written _ _⟩, rfl, rfl⟩

/-- Update after update, until the channel holds as many events as asked for. -/
theorem Probing.floods (probing : Probing c version s) (n : Nat) (lower : 0 ≤ version) (upper : version + n < 1000)
    (room : s.events.length + n ≤ eventCapacity) :
    ∃ ls t, Run (Guarded (Step "a") Relaxed) s ls t ∧ Probing c (version + n) t ∧
      t.events.length = s.events.length + n ∧ t.eventLoop = s.eventLoop := by
  induction n generalizing s version with
  | zero => exact ⟨[], s, .nil, by simpa using probing, rfl, rfl⟩
  | succ n ih =>
    obtain ⟨m, first, probing, events, eventLoop⟩ := probing.emits lower (by omega) (by omega)
    obtain ⟨ls, t, rest, probing, length, same⟩ := ih probing (by omega) (by omega) (by simp [events]; omega)
    refine ⟨_, t, first.append rest, ?_, by simp [length, events]; omega, same.trans eventLoop⟩
    convert probing using 1
    omega

/-- `leaderEventLoop` handles one update, up to the send to the checker. -/
theorem Probing.syncs (probing : Probing c version s) (lower : 0 ≤ version) (upper : version < 1000)
    (idle : s.eventLoop = .select) (empty : s.events = []) :
    ∃ t, Run (Guarded (Step "a") Relaxed) s
        [.write .api (.updateCluster "ns" (pair version)) .none, .emit ⟨.api, updated⟩, .eventLoop, .eventLoop, .eventLoop] t ∧
      Probing c (version + 1) t ∧ t.events = [] ∧ t.eventLoop = .syncing 0 := by
  obtain ⟨m, first, probing, events, eventLoop⟩ := probing.emits lower upper (by simp [empty, eventCapacity])
  have queued : m.events = updated :: [] := by rw [events, empty]; rfl
  have few : m.outstanding < eventCapacity := by
    simp [State.outstanding, queued, probing.calls, probing.senders, eventCapacity]
  have none : m.senders.head? = none := by rw [probing.senders]; rfl
  have free : m.syncLoop.holdsMutex = false := by rw [probing.syncLoop]; rfl
  have fewer {pc : EventPc} : State.outstanding { m with
      eventLoop := pc, events := [] ++ (m.senders.head?.map (·.event)).toList, senders := m.senders.tail } <
        eventCapacity := by
    simp [State.outstanding, probing.calls, probing.senders, eventCapacity]
  have run : Run (Guarded (Step "a") Relaxed) m [.eventLoop, .eventLoop, .eventLoop] _ :=
    .cons ⟨relaxed_few few, .eventLoop (.receive (eventLoop.trans idle) queued)⟩ <|
    .cons ⟨relaxed_few fewer, .eventLoop (.dispatch rfl probing.leader rfl)⟩ <|
    .cons ⟨relaxed_few fewer, .eventLoop (.lookup rfl ⟨rfl, free⟩ probing.mapped)⟩ .nil
  refine ⟨_, first.append run, ⟨probing.leader, probing.syncLoop, probing.mapped, probing.checker, probing.calls, ?_,
    probing.holds⟩, ?_, rfl⟩
  · simp [probing.senders]
  · simp [none]

end Updates

def probed : ClusterChecker := { newClusterChecker "ns" "c" with probeLoop := .busy }

def toProbing : List Label :=
  [.write .api (.createCluster "ns" (pair 1)) .none, .emit ⟨.api, created⟩, .eventLoop, .eventLoop, .eventLoop, .eventLoop,
    .checker 0, .checker 0]

/-- A pair is created and watched, and its first probe round is under way. -/
theorem probing_reached :
    ∃ s, Run (Guarded (Step "a") Relaxed) (started withNamespace "a") toProbing s ∧ Probing probed 1 s ∧
      s.eventLoop = .select ∧ s.events = [] := by
  have stores : (Op.createCluster "ns" (pair 1)).perform .none withNamespace = (written withNamespace (pair 1), none) := by
    have absent : found (existsCluster (etcd .none) "ns" "c" withNamespace) = false := by decide +kernel
    simp only [Op.perform, ClusterStore.createCluster, pair, absent]
    rfl
  have run : Run (Guarded (Step "a") Relaxed) (started withNamespace "a") toProbing _ :=
    .cons ⟨relaxed_few (by decide), .write (.emits_idle rfl rfl stores rfl)⟩ <|
    .cons ⟨trivial, .emit (.alone rfl (by decide))⟩ <|
    .cons ⟨relaxed_few (by decide), .eventLoop (.receive rfl rfl)⟩ <|
    .cons ⟨relaxed_few (by decide), .eventLoop (.dispatch rfl rfl rfl)⟩ <|
    .cons ⟨relaxed_few (by decide), .eventLoop (.start (k := 0) rfl ⟨rfl, rfl⟩ rfl rfl)⟩ <|
    .cons ⟨relaxed_few (by decide), .eventLoop (.insert rfl ⟨rfl, rfl⟩)⟩ <|
    .cons ⟨trivial, .checker (.tick rfl rfl)⟩ <|
    .cons ⟨trivial, .checker (.read rfl rfl (.idle rfl rfl))⟩ .nil
  exact ⟨_, run, ⟨rfl, rfl, rfl, rfl, rfl, rfl, holdsPair_written _ _⟩, rfl, rfl⟩

/-- Two updates later `leaderEventLoop` waits in `sendSyncEvent` for the probe loop. -/
theorem waiting_reached :
    ∃ ls s, Run (Guarded (Step "a") Relaxed) (started withNamespace "a") ls s ∧
      Probing { probed with syncCh := true } 3 s ∧ s.events = [] ∧ s.eventLoop = .syncing 0 := by
  obtain ⟨s₁, first, probing, idle, empty⟩ := probing_reached
  obtain ⟨s₂, second, probing, empty, syncing⟩ := probing.syncs (by decide) (by decide) idle empty
  have few : s₂.outstanding < eventCapacity := by
    simp [State.outstanding, empty, probing.calls, probing.senders, eventCapacity]
  have sent : Run (Guarded (Step "a") Relaxed) s₂ [.eventLoop] _ :=
    .cons ⟨relaxed_few few, .eventLoop (.send syncing probing.checker rfl)⟩ .nil
  have full : Probing { probed with syncCh := true } 2
      ({ s₂ with eventLoop := .select }.setChecker 0 { probed with syncCh := true }) :=
    ⟨probing.leader, probing.syncLoop, probing.mapped, rfl, probing.calls, probing.senders, probing.holds⟩
  obtain ⟨s₃, third, probing, empty, syncing⟩ := full.syncs (by decide) (by decide) rfl empty
  exact ⟨_, s₃, ((first.append second).append sent).append third, probing, empty, syncing⟩

/-- The failover of a probe round is written. -/
theorem Probing.failsOver (probing : Probing c version s) (busy : c.probeLoop = .busy) (named : c.ns = "ns" ∧ c.clusterName = "c")
    (lower : 0 ≤ version) (upper : version < 1000) :
    WriteStep s (.probe 0) (.updateCluster "ns" (swapped version)) .none
      { s with kv := written s.kv (swapped (version + 1)), calls := s.calls ++ [⟨.probe 0, updated⟩] } := by
  refine .emits ⟨c, swapped version, probing.checker, busy, named.2.symm, .inl ?_⟩
    (fun _ _ _ => .idle probing.senders probing.calls) (pair_updated probing.holds lower upper _) rfl
  rw [named.1]

end Samples

/-- The failover of a probe round finds room while `leaderEventLoop` waits for that round. -/
theorem failover_finds_room :
    ∃ ls s, Run (Guarded (Step "a") Relaxed) (started withNamespace "a") ls s ∧ Awaits s 0 ∧ s.events = [updated] ∧
      ¬ Deadlocked s := by
  obtain ⟨ls, s, run, probing, empty, syncing⟩ := waiting_reached
  have few : s.outstanding < eventCapacity := by
    simp [State.outstanding, empty, probing.calls, probing.senders, eventCapacity]
  have room : s.events.length < eventCapacity := by simp [empty, eventCapacity]
  have alone : s.calls ++ [⟨.probe 0, updated⟩] = [⟨.probe 0, updated⟩] := by rw [probing.calls]; rfl
  have sent : Run (Guarded (Step "a") Relaxed) s
      [.write (.probe 0) (.updateCluster "ns" (swapped 3)) .none, .emit ⟨.probe 0, updated⟩] _ :=
    .cons ⟨relaxed_few few, .write (probing.failsOver rfl ⟨rfl, rfl⟩ (by decide) (by decide))⟩ <|
    .cons ⟨trivial, .emit (.alone alone room)⟩ .nil
  have whole := run.append sent
  refine ⟨_, _, whole, ⟨_, probing.checker, ?_⟩, ?_, loops_never_deadlock (started_start _ _) whole⟩
  · simp [syncing, probed, newClusterChecker]
  · simp [empty]

/-- A hundred updates later the same failover finds the channel full: the probe loop waits
for `leaderEventLoop`, which waits for the probe loop. -/
theorem loops_deadlock :
    ∃ ls version s, Start (started withNamespace "a") ∧
      Run (Step "a") (started withNamespace "a") (ls ++ [.write (.probe 0) (.updateCluster "ns" (swapped version)) .none,
        .emit ⟨.probe 0, updated⟩]) s ∧
      (pair version).promoteNewMaster slaves 0 failing.id "" = .ok (swapped version, "r") ∧
      s.events.length = 100 ∧ s.senders = [⟨.probe 0, updated⟩] ∧ Deadlocked s ∧ ∀ t, ¬ EventStep "a" s t := by
  obtain ⟨ls, s, run, probing, empty, syncing⟩ := waiting_reached
  obtain ⟨more, t, flood, probing, length, same⟩ :=
    probing.floods 100 (by decide) (by decide) (by simp [empty, eventCapacity])
  rw [empty, List.length_nil, Nat.zero_add] at length
  have stuck := same.trans syncing
  have full : eventCapacity ≤ t.events.length := by simp [length, eventCapacity]
  have alone : t.calls ++ [⟨.probe 0, updated⟩] = [] ++ ⟨.probe 0, updated⟩ :: [] := by rw [probing.calls]
  have blocked : Run (Step "a") t
      [.write (.probe 0) (.updateCluster "ns" (swapped (3 + (100 : Nat)))) .none, .emit ⟨.probe 0, updated⟩] _ :=
    .cons (.write (probing.failsOver rfl ⟨rfl, rfl⟩ (by decide) (by decide))) <|
    .cons (.emit (.blocks alone full)) .nil
  have awaits : Awaits { t with
      kv := written t.kv (swapped (3 + (100 : Nat) + 1)), calls := [], senders := t.senders ++ [⟨.probe 0, updated⟩] } 0 := by
    refine ⟨_, probing.checker, ?_⟩
    simp [stuck, probed, newClusterChecker]
  refine ⟨ls ++ more, _, _, started_start _ _, (run.append flood).unguarded.append blocked, rfl, length, ?_, ?_, ?_⟩
  · simp [probing.senders]
  · exact ⟨0, awaits, ⟨.probe 0, updated⟩, by simp, .inl rfl⟩
  · exact fun _ => awaits.stuck

end Kvrocks.Controller
