import KvrocksController.Controller.LoopsProofs

/-! The events on their way to `leaderEventLoop`: for each cluster the creations and
removals still to be handled, in the order that the cluster's lock gave them. -/
namespace Kvrocks.Controller

variable {self : String} {s t : State}

/-- What an event says of the existence of a cluster. -/
def EventPayload.about (ns cluster : String) (e : EventPayload) : Option Command :=
  if e.type = .eventCluster ∧ e.ns = ns ∧ e.cluster = cluster ∧ e.command ≠ .update then some e.command else none

/-- What a call that ended with `err` tells of a cluster. -/
def Op.tells (op : Op) (err : Option Error) (ns cluster : String) : Option Command :=
  if err = none then op.event.bind (·.about ns cluster) else none

def EventPc.handling (ns cluster : String) : EventPc → Option Command
  | .received e => e.about ns cluster
  | .adding own name | .inserting own name _ => if own = ns ∧ name = cluster then some .create else none
  | .removing own name | .closing own name _ => if own = ns ∧ name = cluster then some .remove else none
  | .select | .updating _ _ | .syncing _ => none

/-- The lock that a call holds until it returns from `EmitEvent`. -/
def Emission.lock (call : Emission) : Option String :=
  if call.event.type = .eventCluster then some (buildClusterKey call.event.ns call.event.cluster) else none

namespace State

/-- What is queued about a cluster, in the order in which it will be received. -/
def queued (s : State) (ns cluster : String) : List Command :=
  s.events.filterMap (·.about ns cluster) ++ (s.senders ++ s.calls).filterMap (·.event.about ns cluster)

def pending (s : State) (ns cluster : String) : List Command :=
  (s.eventLoop.handling ns cluster).toList ++ s.queued ns cluster

def locked (s : State) : List String := (s.senders ++ s.calls).filterMap (·.lock)

theorem lockFree_iff : s.LockFree ns cluster ↔ buildClusterKey ns cluster ∉ s.locked := by
  simp only [LockFree, locked, List.mem_filterMap, Emission.lock, Option.ite_none_right_eq_some, Option.some.injEq,
    not_exists, not_and]

end State

/-- Senders wait only at a full channel, and each lock has one holder. -/
structure Queued (s : State) : Prop where
  full : s.senders ≠ [] → eventCapacity ≤ s.events.length
  locks : s.locked.Nodup

theorem about_lock {call : Emission} (about : call.event.about ns cluster = some command) :
    call.lock = some (buildClusterKey ns cluster) := by
  simp only [EventPayload.about, Option.ite_none_right_eq_some] at about
  obtain ⟨⟨type, rfl, rfl, _⟩, _⟩ := about
  simp only [Emission.lock, if_pos type]

theorem event_lock {op : Op} (event : op.event = some e) (lock : (⟨sender, e⟩ : Emission).lock = some key) :
    ∃ ns cluster, op.locks = some (ns, cluster) ∧ key = buildClusterKey ns cluster := by
  simp only [Emission.lock, Option.ite_none_right_eq_some, Option.some.injEq] at lock
  obtain ⟨type, rfl⟩ := lock
  cases op with
  | createNamespace | removeNamespace =>
    cases event
    cases type
  | setCluster => cases event
  | createCluster | removeCluster | updateCluster =>
    cases event
    exact ⟨_, _, rfl, rfl⟩

/-- A call may pass the others on its way: none of them is about its cluster. -/
theorem about_front {before after : List Emission} (locks : ((before ++ call :: after).filterMap (·.lock)).Nodup)
    (ns cluster : String) :
    (before ++ call :: after).filterMap (·.event.about ns cluster) =
      (call.event.about ns cluster).toList ++ (before ++ after).filterMap (·.event.about ns cluster) := by
  cases about : call.event.about ns cluster with
  | none => simp [about]
  | some command =>
    have held := about_lock about
    have others : before.filterMap (·.event.about ns cluster) = [] := by
      rw [List.filterMap_eq_nil_iff]
      intro other member
      cases alike : other.event.about ns cluster with
      | none => rfl
      | some also =>
        rw [List.filterMap_append, List.filterMap_cons, held, List.nodup_append] at locks
        have twice := locks.2.2 _ (List.mem_filterMap.mpr ⟨other, member, about_lock alike⟩) _ List.mem_cons_self
        exact absurd rfl twice
    simp [others, about]

namespace Queued

theorem start (calls : s.calls = []) (senders : s.senders = []) : Queued s := by
  constructor
  · exact fun waits => absurd senders waits
  · simp [State.locked, calls, senders]

theorem frame (queued : Queued s) (calls : t.calls = s.calls) (senders : t.senders = s.senders)
    (events : t.events = s.events) : Queued t := by
  constructor
  · rw [senders, events]
    exact queued.full
  · rw [State.locked, calls, senders]
    exact queued.locks

/-- A call that passes others on its way to the channel changes no cluster's order. -/
theorem emitStep (queued : Queued s) (step : EmitStep s call t) :
    Queued t ∧ ∀ ns cluster, t.pending ns cluster = s.pending ns cluster := by
  obtain ⟨full, locks⟩ := queued
  cases step with
  | sent under room =>
    rename_i before after
    -- where there is room nobody waits, so the call is overtaken by no sender
    have none : s.senders = [] := by
      by_contra waits
      have := full waits
      omega
    rw [State.locked, none, under, List.nil_append] at locks
    constructor
    · constructor
      · exact fun waits => absurd none waits
      · rw [State.locked, none, List.nil_append]
        exact locks.sublist (((List.sublist_cons_self _ _).append_left _).filterMap _)
    · intro ns cluster
      simp only [State.pending, State.queued, none, under, List.nil_append, about_front locks ns cluster]
      cases about : call.event.about ns cluster <;> simp [about]
  | blocks under isFull =>
    rename_i before after
    rw [State.locked, under] at locks
    have own : ((before ++ call :: after).filterMap (·.lock)).Nodup :=
      locks.sublist ((List.sublist_append_right _ _).filterMap _)
    have moved : (s.senders ++ [call] ++ (before ++ after)).Perm (s.senders ++ (before ++ call :: after)) := by
      rw [List.append_assoc, List.singleton_append]
      exact List.perm_middle.symm.append_left _
    constructor
    · constructor
      · exact fun _ => isFull
      · exact (moved.filterMap _).nodup_iff.mpr locks
    · intro ns cluster
      simp only [State.pending, State.queued, under]
      have split : (s.senders ++ (before ++ call :: after)).filterMap (·.event.about ns cluster) =
          s.senders.filterMap (·.event.about ns cluster) ++ _ := List.filterMap_append
      rw [split, about_front own ns cluster]
      cases about : call.event.about ns cluster <;> simp [about]

theorem writeStep (queued : Queued s) (step : WriteStep s sender op faults t) :
    ∃ err, op.perform faults s.kv = (t.kv, err) ∧ Queued t ∧ ∀ ns cluster, t.pending ns cluster =
      s.pending ns cluster ++ (op.tells err ns cluster).toList := by
  cases step with
  | emits called free done event =>
    rename_i kv e
    refine ⟨none, done, ⟨queued.full, ?_⟩, fun ns cluster => ?_⟩
    · simp only [State.locked, ← List.append_assoc]
      rw [List.filterMap_append, List.nodup_append]
      refine ⟨queued.locks, ?_, ?_⟩
      · cases lock : (⟨sender, e⟩ : Emission).lock <;> simp [lock]
      · intro key held other own same
        subst same
        obtain ⟨call, only, lock⟩ := List.mem_filterMap.mp own
        rw [List.mem_singleton] at only
        subst only
        obtain ⟨ns, cluster, locks, rfl⟩ := event_lock event lock
        exact State.lockFree_iff.mp (free ns cluster locks) held
    · cases about : e.about ns cluster <;> simp [State.pending, State.queued, Op.tells, event, about]
  | silent called free done quiet =>
    rename_i kv err
    refine ⟨err, done, queued.frame rfl rfl rfl, fun ns cluster => ?_⟩
    rcases quiet with failed | silent
    · simp [State.pending, State.queued, Op.tells, failed]
    · simp [State.pending, State.queued, Op.tells, silent]

theorem eventStep (queued : Queued s) (step : EventStep self s t) : Queued t := by
  cases step with
  | receive here first =>
    rename_i event rest
    constructor
    · intro waits
      cases senders : s.senders with
      | nil => simp [senders] at waits
      | cons call others =>
        have full := queued.full (by simp [senders])
        rw [first] at full
        simpa using full
    · exact queued.locks.sublist (((List.tail_sublist _).append_right _).filterMap _)
  | ignore | dispatch | known | start | insert | unknown | close | closed | missing | lookup | send | abandon =>
    exact queued.frame rfl rfl rfl

end Queued

/-- The queues, the store and the other loop, as `syncLoop` leaves them. -/
structure SyncOnly (s t : State) : Prop where
  leader : t.leader = s.leader
  kv : t.kv = s.kv
  calls : t.calls = s.calls
  senders : t.senders = s.senders
  events : t.events = s.events
  eventLoop : t.eventLoop = s.eventLoop

theorem SyncStep.only (step : SyncStep self s faults t) : SyncOnly s t := by
  cases step with
  | namespacesFailed | clustersFailed | resumed =>
    unfold State.became
    split <;> exact ⟨rfl, rfl, rfl, rfl, rfl, rfl⟩
  | leads | leadsAlready | follows | listNamespace | listCluster | nextNamespace | known | start | insert | read | receive
  | gained | kept | stillFollows | lost | lock | close | closed | suspended => exact ⟨rfl, rfl, rfl, rfl, rfl, rfl⟩

/-- `leaderEventLoop` has finished the head of what is pending for a cluster. -/
structure Handles (own name : String) (command : Command) (s t : State) : Prop where
  pending : ∀ ns cluster, s.pending ns cluster =
    (if own = ns ∧ name = cluster then some command else none).toList ++ t.pending ns cluster
  others : ∀ key, key ≠ buildClusterKey own name → t.clusters key = s.clusters key
  mapped : (t.clusters (buildClusterKey own name)).isSome ↔ command = .create

/-- The node leads: `leaderEventLoop` leaves what is pending and the map alone, or finishes
a command. -/
theorem EventStep.handles (leads : s.leader = self) (step : EventStep self s t) :
    (t.clusters = s.clusters ∧ ∀ ns cluster, t.pending ns cluster = s.pending ns cluster) ∨
      ∃ own name command, Handles own name command s t := by
  cases step with
  | receive here first =>
    rename_i event rest
    refine .inl ⟨rfl, fun ns cluster => ?_⟩
    simp only [State.pending, State.queued, here, first, EventPc.handling]
    cases s.senders with
    | nil => cases about : event.about ns cluster <;> simp [about]
    | cons call others =>
      cases about : event.about ns cluster <;> cases next : call.event.about ns cluster <;> simp [about, next]
  | ignore here other =>
    refine .inl ⟨rfl, fun ns cluster => ?_⟩
    have type := other.resolve_left (not_not.mpr leads)
    simp [State.pending, State.queued, here, EventPc.handling, EventPayload.about, type]
  | dispatch here _ kind =>
    refine .inl ⟨rfl, fun ns cluster => ?_⟩
    simp only [State.pending, State.queued, here, EventPayload.dispatch]
    split <;> simp_all [EventPc.handling, EventPayload.about]
  | known here free found =>
    rename_i k own name
    refine .inr ⟨own, name, .create, fun ns cluster => ?_, fun _ _ => rfl, by simp [found]⟩
    simp [State.pending, State.queued, here, EventPc.handling]
  | insert here free =>
    refine .inr ⟨_, _, .create, fun ns cluster => ?_, fun _ other => if_neg other, by simp [State.setCluster]⟩
    simp [State.pending, State.queued, State.setCluster, here, EventPc.handling]
  | unknown here free absent =>
    rename_i own name
    refine .inr ⟨own, name, .remove, fun ns cluster => ?_, fun _ _ => rfl, by simp [absent]⟩
    simp [State.pending, State.queued, here, EventPc.handling]
  | closed here checker returned =>
    refine .inr ⟨_, _, .remove, fun ns cluster => ?_, fun _ other => if_neg other, by simp [State.setCluster]⟩
    simp [State.pending, State.queued, State.setCluster, here, EventPc.handling]
  | start here | close here | send here =>
    refine .inl ⟨rfl, fun ns cluster => ?_⟩
    simp [State.pending, State.queued, State.setChecker, here, EventPc.handling]
  | missing here | lookup here | abandon here =>
    refine .inl ⟨rfl, fun ns cluster => ?_⟩
    simp [State.pending, State.queued, here, EventPc.handling]

end Kvrocks.Controller
