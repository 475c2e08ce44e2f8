import KvrocksController.Concurrency.Followers
import KvrocksController.Controller.Records

/-! Whether each stored cluster has exactly one live checker on a stable leader.
`addCluster` looks up and inserts in two critical sections, from either loop, and
`resume` works on lists that the events may have outdated. -/
namespace Kvrocks.Controller
open Kvrocks.Transition ClusterStore
open Orphans (withNamespace sample)

variable {self : String} {s t : State}

/-- The node has become the leader, at start-up or later: nothing is queued and no checker
runs, and `syncLoop` is about to see that it leads. -/
structure Elected (node : String) (s : State) : Prop where
  leads : s.leader = node
  calls : s.calls = []
  events : s.events = []
  senders : s.senders = []
  clusters : ∀ key, s.clusters key = none
  checkers : ∀ k c, s.checkers k = some c → c.Closed
  eventLoop : s.eventLoop = .select
  syncLoop : s.syncLoop = .starting ∨ s.syncLoop = .notified
  other : s.prevTermLeader ≠ node
  orderly : Orderly s.kv

/-- Both loops wait, and no event is on its way. -/
structure Quiet (s : State) : Prop where
  eventLoop : s.eventLoop = .select
  syncLoop : s.syncLoop = .select
  events : s.events = []
  senders : s.senders = []
  calls : s.calls = []

/-- The leader stays, no insertion meets another, no listing fails, and what `resume`
inserts is still stored or its removal is still to be handled. -/
def Steady (self : String) (s : State) (l : Label) : Prop :=
  Uncontended s l ∧ match l with
    | .elect leader => leader = self
    | .write _ op faults => op.Fits s.kv faults
    | .syncLoop faults => match s.syncLoop with
      | .resuming _ => faults.read (.list nsPrefix) = none
      | .listing _ (ns :: _) => faults.read (.list (buildClusterPrefix ns)) = none
      | .inserting _ ns cluster _ _ _ => Stored s.kv ns cluster ∨ .remove ∈ s.pending ns cluster
      | _ => True
    | _ => True

/-- Each stored cluster's one live checker is in the map, and no other cluster has one. -/
def WatchedOnce (s : State) : Prop :=
  (∀ ns cluster, Stored s.kv ns cluster → ∃ k c, s.clusters (buildClusterKey ns cluster) = some k ∧
      s.checkers k = some c ∧ c.ns = ns ∧ c.clusterName = cluster ∧ c.cancelled = false ∧
      ∀ j d, s.checkers j = some d → d.ns = ns → d.clusterName = cluster → ¬ d.Closed → j = k) ∧
    ∀ k c, s.checkers k = some c → ¬ c.Closed → Stored s.kv c.ns c.clusterName

namespace State

def Mapped (s : State) (ns cluster : String) : Prop := (s.clusters (buildClusterKey ns cluster)).isSome

/-- `resume` will still come to the cluster. -/
def Ahead (self : String) (s : State) (ns cluster : String) : Prop :=
  match s.syncLoop with
  | .starting | .resuming _ => True
  | .notified => s.prevTermLeader ≠ self
  | .listing _ namespaces => ns ∈ namespaces
  | .adding _ own clusters namespaces => (own = ns ∧ cluster ∈ clusters) ∨ ns ∈ namespaces
  | .inserting _ own name _ clusters namespaces => (own = ns ∧ cluster ∈ name :: clusters) ∨ ns ∈ namespaces
  | .reading _ | .select | .suspending | .closingAll | .closing _ _ => False

/-- Where `syncLoop` can be while the node leads, with the names it has listed. -/
def InPlace (self : String) (s : State) : Prop :=
  match s.syncLoop with
  | .starting => s.prevTermLeader ≠ self
  | .resuming _ | .reading _ | .notified => True
  | .listing _ namespaces => ∀ ns ∈ namespaces, NoSlash ns
  | .adding _ own clusters namespaces =>
    NoSlash own ∧ (∀ cluster ∈ clusters, NoSlash cluster) ∧ ∀ ns ∈ namespaces, NoSlash ns
  | .inserting _ own name _ clusters namespaces =>
    NoSlash own ∧ (∀ cluster ∈ name :: clusters, NoSlash cluster) ∧ ∀ ns ∈ namespaces, NoSlash ns
  | .select => s.prevTermLeader = self
  | .suspending | .closingAll | .closing _ _ => False

end State

/-- What is pending for a cluster ends with what the store holds, and where nothing is
pending the map agrees with the store, but for what `resume` still has to add. -/
structure Attends (node : String) (s : State) : Prop where
  tracked : Tracked s
  queued : Queued s
  leads : s.leader = node
  orderly : Orderly s.kv
  place : s.InPlace node
  named : ∀ key k, s.clusters key = some k → ∃ ns cluster, NoSlash ns ∧ NoSlash cluster ∧ key = buildClusterKey ns cluster
  plain : ∀ ns cluster, s.pending ns cluster ≠ [] → NoSlash ns ∧ NoSlash cluster
  last : ∀ ns cluster command, (s.pending ns cluster).getLast? = some command →
    (Stored s.kv ns cluster ↔ command = .create)
  added : ∀ ns cluster, s.pending ns cluster = [] → Stored s.kv ns cluster →
    s.Mapped ns cluster ∨ s.Ahead node ns cluster
  kept : ∀ ns cluster, NoSlash ns → NoSlash cluster → s.pending ns cluster = [] → s.Mapped ns cluster →
    Stored s.kv ns cluster

namespace Attends

theorem of_elected (elected : Elected self s) : Attends self s := by
  have nothing (ns cluster : String) : s.pending ns cluster = [] := by
    simp [State.pending, State.queued, elected.eventLoop, elected.events, elected.senders, elected.calls, EventPc.handling]
  have unmapped (ns cluster : String) : ¬ s.Mapped ns cluster := by simp [State.Mapped, elected.clusters]
  have idle : s.syncLoop.inserts = none ∧ s.syncLoop.closes = none := by
    rcases elected.syncLoop with here | here <;> rw [here] <;> exact ⟨rfl, rfl⟩
  constructor
  · constructor
    · exact fun k c found => .inl (elected.checkers k c found)
    · simp [elected.clusters]
    · simp [State.Inserts, elected.eventLoop, EventPc.inserts, idle.1]
    · simp [elected.eventLoop, EventPc.inserts]
    · simp [State.Closes, elected.eventLoop, EventPc.closes, idle.2]
    · exact .inl (by rw [elected.eventLoop]; rfl)
  · exact .start elected.calls elected.senders
  · exact elected.leads
  · exact elected.orderly
  · unfold State.InPlace
    rcases elected.syncLoop with here | here <;> rw [here]
    · exact elected.other
    · trivial
  · simp [elected.clusters]
  · simp [nothing]
  · simp [nothing]
  · intro ns cluster _ _
    refine .inr ?_
    unfold State.Ahead
    rcases elected.syncLoop with here | here <;> rw [here]
    · trivial
    · exact elected.other
  · exact fun ns cluster _ _ _ mapped => absurd mapped (unmapped ns cluster)

theorem ahead_congr (syncLoop : t.syncLoop = s.syncLoop) (prev : t.prevTermLeader = s.prevTermLeader) :
    t.Ahead self ns cluster ↔ s.Ahead self ns cluster := by
  rw [State.Ahead, State.Ahead, syncLoop, prev]

theorem inPlace_congr (syncLoop : t.syncLoop = s.syncLoop) (prev : t.prevTermLeader = s.prevTermLeader) :
    t.InPlace self ↔ s.InPlace self := by
  rw [State.InPlace, State.InPlace, syncLoop, prev]

/-- The map, the store and what is pending stay as they are. -/
theorem frame (attends : Attends self s) (tracked : Tracked t) (queued : Queued t) (leader : t.leader = s.leader)
    (kv : t.kv = s.kv) (clusters : t.clusters = s.clusters)
    (pending : ∀ ns cluster, t.pending ns cluster = s.pending ns cluster) (place : t.InPlace self)
    (ahead : ∀ ns cluster, Stored s.kv ns cluster → s.Ahead self ns cluster →
      s.Mapped ns cluster ∨ t.Ahead self ns cluster) : Attends self t := by
  have mapped (ns cluster : String) : t.Mapped ns cluster ↔ s.Mapped ns cluster := by
    rw [State.Mapped, clusters, State.Mapped]
  constructor
  · exact tracked
  · exact queued
  · exact leader.trans attends.leads
  · exact kv ▸ attends.orderly
  · exact place
  · exact clusters ▸ attends.named
  · simpa only [pending] using attends.plain
  · simpa only [pending, kv] using attends.last
  · intro ns cluster nothing stored
    rw [pending] at nothing
    rw [kv] at stored
    rw [mapped]
    rcases attends.added ns cluster nothing stored with there | later
    · exact .inl there
    · exact ahead ns cluster stored later
  · simpa only [pending, kv, mapped] using attends.kept

/-- A call has written, and what it tells comes behind all that is pending. -/
theorem writeStep (attends : Attends self s) (fits : op.Fits s.kv faults) (step : WriteStep s sender op faults t) :
    Attends self t := by
  obtain ⟨err, done, queued, pending⟩ := attends.queued.writeStep step
  have told := op.perform_told attends.orderly fits done
  have tracked := attends.tracked.same step.sameCheckers
  obtain ⟨clusters, _, _, syncLoop⟩ := step.sameCheckers
  have leader : t.leader = s.leader := by cases step <;> rfl
  have prev : t.prevTermLeader = s.prevTermLeader := by cases step <;> rfl
  have mapped (ns cluster : String) : t.Mapped ns cluster ↔ s.Mapped ns cluster := by
    rw [State.Mapped, clusters, State.Mapped]
  have nothing {ns cluster : String} (empty : t.pending ns cluster = []) :
      s.pending ns cluster = [] ∧ op.tells err ns cluster = none := by
    rw [pending, List.append_eq_nil_iff] at empty
    exact ⟨empty.1, by simpa using empty.2⟩
  constructor
  · exact tracked
  · exact queued
  · exact leader.trans attends.leads
  · exact told.orderly
  · exact (inPlace_congr syncLoop prev).mpr attends.place
  · exact clusters ▸ attends.named
  · intro ns cluster more
    rw [pending] at more
    cases tells : op.tells err ns cluster with
    | none =>
      rw [tells] at more
      exact attends.plain ns cluster (by simpa using more)
    | some command => exact told.plain ns cluster command tells
  · intro ns cluster command ends
    rw [pending] at ends
    cases tells : op.tells err ns cluster with
    | none =>
      rw [tells] at ends
      rw [told.others ns cluster tells]
      exact attends.last ns cluster command (by simpa using ends)
    | some own =>
      rw [tells] at ends
      obtain rfl : own = command := by simpa using ends
      exact told.named ns cluster own tells
  · intro ns cluster empty stored
    obtain ⟨before, tells⟩ := nothing empty
    rw [mapped, ahead_congr syncLoop prev]
    exact attends.added ns cluster before ((told.others ns cluster tells).mp stored)
  · intro ns cluster plain noSlash empty there
    obtain ⟨before, tells⟩ := nothing empty
    rw [told.others ns cluster tells]
    exact attends.kept ns cluster plain noSlash before ((mapped ns cluster).mp there)

/-- `leaderEventLoop` has finished a command: behind the last one the map and the store agree. -/
theorem handled (attends : Attends self s) (handles : Handles own name command s t) (tracked : Tracked t)
    (queued : Queued t) (leader : t.leader = s.leader) (kv : t.kv = s.kv) (syncLoop : t.syncLoop = s.syncLoop)
    (prev : t.prevTermLeader = s.prevTermLeader) : Attends self t := by
  have own_pending : s.pending own name = command :: t.pending own name := by simp [handles.pending own name]
  obtain ⟨plainOwn, plainName⟩ := attends.plain own name (by simp [own_pending])
  have other_pending {ns cluster : String} (other : ¬ (own = ns ∧ name = cluster)) :
      s.pending ns cluster = t.pending ns cluster := by simp [handles.pending ns cluster, other]
  have other_mapped {ns cluster : String} (other : ¬ (own = ns ∧ name = cluster)) :
      t.Mapped ns cluster ↔ s.Mapped ns cluster := by
    rw [State.Mapped, handles.others, State.Mapped]
    intro same
    obtain ⟨rfl, rfl⟩ := key_unique plainOwn plainName same
    exact other ⟨rfl, rfl⟩
  have later {ns cluster : String} {final : Command} (ends : (t.pending ns cluster).getLast? = some final) :
      (s.pending ns cluster).getLast? = some final := by
    rw [handles.pending, List.getLast?_append, ends]
    rfl
  constructor
  · exact tracked
  · exact queued
  · exact leader.trans attends.leads
  · exact kv ▸ attends.orderly
  · exact (inPlace_congr syncLoop prev).mpr attends.place
  · intro key k found
    by_cases same : key = buildClusterKey own name
    · exact ⟨own, name, plainOwn, plainName, same⟩
    · rw [handles.others key same] at found
      exact attends.named key k found
  · intro ns cluster more
    refine attends.plain ns cluster fun empty => more ?_
    rw [handles.pending, List.append_eq_nil_iff] at empty
    exact empty.2
  · intro ns cluster final ends
    rw [kv]
    exact attends.last ns cluster final (later ends)
  · intro ns cluster empty stored
    rw [kv] at stored
    by_cases same : own = ns ∧ name = cluster
    · obtain ⟨rfl, rfl⟩ := same
      -- the command was the last one, so it says what the store holds
      have creation := (attends.last own name command (by rw [own_pending, empty]; rfl)).mp stored
      exact .inl (handles.mapped.mpr creation)
    · rw [other_mapped same, ahead_congr syncLoop prev]
      exact attends.added ns cluster ((other_pending same).trans empty) stored
  · intro ns cluster plain noSlash empty there
    rw [kv]
    by_cases same : own = ns ∧ name = cluster
    · obtain ⟨rfl, rfl⟩ := same
      exact (attends.last own name command (by rw [own_pending, empty]; rfl)).mpr (handles.mapped.mp there)
    · exact attends.kept ns cluster plain noSlash ((other_pending same).trans empty) ((other_mapped same).mp there)

theorem eventStep (attends : Attends self s) (free : Uncontended s .eventLoop) (step : EventStep self s t) :
    Attends self t := by
  have tracked := attends.tracked.eventStep free step
  have queued := attends.queued.eventStep step
  obtain ⟨leader, kv, syncLoop, prev⟩ : t.leader = s.leader ∧ t.kv = s.kv ∧ t.syncLoop = s.syncLoop ∧
      t.prevTermLeader = s.prevTermLeader := by
    cases step <;> exact ⟨rfl, rfl, rfl, rfl⟩
  rcases step.handles attends.leads with ⟨clusters, pending⟩ | ⟨own, name, command, handles⟩
  · refine attends.frame tracked queued leader kv clusters pending ?_ fun ns cluster _ ahead => .inr ?_
    · exact (inPlace_congr syncLoop prev).mpr attends.place
    · exact (ahead_congr syncLoop prev).mpr ahead
  · exact attends.handled handles tracked queued leader kv syncLoop prev

/-- `resume` has put a checker in the map. -/
theorem inserted (attends : Attends self s) {start : Bool} (here : s.syncLoop = .inserting start own name k clusters namespaces)
    (still : Stored s.kv own name ∨ .remove ∈ s.pending own name)
    (tracked : Tracked ({ s with syncLoop := .adding start own clusters namespaces }.setCluster
      (buildClusterKey own name) (some k))) :
    Attends self ({ s with syncLoop := .adding start own clusters namespaces }.setCluster
      (buildClusterKey own name) (some k)) := by
  obtain ⟨plainOwn, plainNames, plainRest⟩ : NoSlash own ∧ (∀ cluster ∈ name :: clusters, NoSlash cluster) ∧
      ∀ ns ∈ namespaces, NoSlash ns := by
    have place := attends.place
    rwa [State.InPlace, here] at place
  have plainName := plainNames name List.mem_cons_self
  constructor
  · exact tracked
  · exact attends.queued.frame rfl rfl rfl
  · exact attends.leads
  · exact attends.orderly
  · exact ⟨plainOwn, fun cluster member => plainNames cluster (List.mem_cons_of_mem _ member), plainRest⟩
  · intro key j found
    simp only [State.setCluster] at found
    split at found
    · exact ⟨own, name, plainOwn, plainName, by assumption⟩
    · exact attends.named key j found
  · exact attends.plain
  · exact attends.last
  · intro ns cluster nothing stored
    by_cases same : buildClusterKey ns cluster = buildClusterKey own name
    · simp [State.Mapped, State.setCluster, same]
    · simp only [State.Mapped, State.setCluster, if_neg same]
      rcases attends.added ns cluster nothing stored with there | ahead
      · exact .inl there
      · rw [State.Ahead, here] at ahead
        obtain ⟨rfl, listed⟩ | later := ahead
        · rcases List.mem_cons.mp listed with rfl | rest
          · exact absurd rfl same
          · exact .inr (.inl ⟨rfl, rest⟩)
        · exact .inr (.inr later)
  · intro ns cluster _ _ nothing there
    by_cases same : buildClusterKey ns cluster = buildClusterKey own name
    · obtain ⟨rfl, rfl⟩ := key_unique plainOwn plainName same
      -- a removal that is still to be handled would be pending
      refine still.resolve_right fun removal => ?_
      change s.pending ns cluster = [] at nothing
      rw [nothing] at removal
      cases removal
    · simp only [State.Mapped, State.setCluster, if_neg same] at there
      exact attends.kept ns cluster ‹_› ‹_› nothing there

/-- `syncLoop` moves on without touching the map. -/
theorem syncMove (attends : Attends self s) (tracked : Tracked t) (only : SyncOnly s t) (clusters : t.clusters = s.clusters)
    (place : t.InPlace self) (ahead : ∀ ns cluster, Stored s.kv ns cluster → s.Ahead self ns cluster →
      s.Mapped ns cluster ∨ t.Ahead self ns cluster) : Attends self t := by
  obtain ⟨leader, kv, calls, senders, events, eventLoop⟩ := only
  refine attends.frame tracked (attends.queued.frame calls senders events) leader kv clusters ?_ place ahead
  intro ns cluster
  simp only [State.pending, State.queued, calls, senders, events, eventLoop]

/-- `resume` ends with nothing left to add. -/
theorem became (attends : Attends self s) {start : Bool} (tracked : Tracked (s.became self start))
    (done : ∀ ns cluster, ¬ s.Ahead self ns cluster) : Attends self (s.became self start) := by
  have none (ns cluster : String) (_ : Stored s.kv ns cluster) (ahead : s.Ahead self ns cluster) :
      s.Mapped ns cluster ∨ (s.became self start).Ahead self ns cluster := absurd ahead (done ns cluster)
  cases start with
  | true => exact attends.syncMove tracked ⟨rfl, rfl, rfl, rfl, rfl, rfl⟩ rfl trivial none
  | false => exact attends.syncMove tracked ⟨rfl, rfl, rfl, rfl, rfl, rfl⟩ rfl rfl none

theorem listNamespace (attends : Attends self s) {start : Bool}
    (listed : listNamespace (etcd faults) s.kv = .ok namespaces)
    (tracked : Tracked { s with syncLoop := .listing start namespaces, resume := ⟨s.kv, [], []⟩ }) :
    Attends self { s with syncLoop := .listing start namespaces, resume := ⟨s.kv, [], []⟩ } := by
  refine attends.syncMove tracked ⟨rfl, rfl, rfl, rfl, rfl, rfl⟩ rfl ?_ ?_
  · exact fun ns member => (attends.orderly.tidy.listNamespace_sound listed member).1
  · intro ns cluster stored _
    obtain ⟨value, there⟩ := attends.orderly.spaced ns cluster stored
    exact .inr (listNamespace_complete listed (attends.orderly.plain stored).1 there)

theorem listCluster (attends : Attends self s) {start : Bool} {resume : Resume}
    (here : s.syncLoop = .listing start (own :: namespaces))
    (listed : listCluster (etcd faults) own s.kv = .ok clusters)
    (tracked : Tracked { s with syncLoop := .adding start own clusters namespaces, resume }) :
    Attends self { s with syncLoop := .adding start own clusters namespaces, resume } := by
  have place : ∀ ns ∈ own :: namespaces, NoSlash ns := by
    have place := attends.place
    rwa [State.InPlace, here] at place
  have plainOwn := place own List.mem_cons_self
  refine attends.syncMove tracked ⟨rfl, rfl, rfl, rfl, rfl, rfl⟩ rfl ?_ ?_
  · refine ⟨plainOwn, fun cluster member => ?_, fun ns member => place ns (List.mem_cons_of_mem _ member)⟩
    exact (attends.orderly.tidy.listCluster_sound plainOwn listed member).1
  · intro ns cluster stored ahead
    rw [State.Ahead, here] at ahead
    rcases List.mem_cons.mp ahead with rfl | later
    · exact .inr (.inl ⟨rfl, listCluster_complete listed (attends.orderly.plain stored).2 stored.choose_spec⟩)
    · exact .inr (.inr later)

theorem syncStep (attends : Attends self s) (steady : Steady self s (.syncLoop faults)) (step : SyncStep self s faults t) :
    Attends self t := by
  have tracked := attends.tracked.syncStep steady.1 step
  have only := step.only
  have guard := steady.2
  have place := attends.place
  unfold State.InPlace at place
  cases step with
  | follows _ other => exact absurd attends.leads other
  | stillFollows _ other _ => exact absurd attends.leads other
  | lost _ other _ => exact absurd attends.leads other
  | leadsAlready here _ same =>
    rw [here] at place
    exact absurd same place
  | lock here _ | close here _ _ | closed here _ _ | suspended here _ =>
    rw [here] at place
    exact place.elim
  | leads here _ _ =>
    exact attends.syncMove tracked only rfl trivial fun _ _ _ _ => .inr trivial
  | gained here _ _ =>
    exact attends.syncMove tracked only rfl trivial fun _ _ _ _ => .inr trivial
  | listNamespace here listed => exact attends.listNamespace listed tracked
  | listCluster here listed => exact attends.listCluster here listed tracked
  | namespacesFailed here failed =>
    rw [here] at guard
    rw [etcd_listNamespace_ok.mpr ⟨guard, rfl⟩] at failed
    cases failed
  | clustersFailed here failed =>
    rw [here] at guard
    rw [etcd_listCluster_ok.mpr ⟨guard, rfl⟩] at failed
    cases failed
  | resumed here =>
    have noted : Attends self { s with resumed := true } :=
      attends.syncMove (attends.tracked.same ⟨rfl, rfl, rfl, rfl⟩) ⟨rfl, rfl, rfl, rfl, rfl, rfl⟩ rfl attends.place
        fun _ _ _ ahead => .inr ahead
    refine noted.became tracked fun ns cluster ahead => ?_
    simp [State.Ahead, here] at ahead
  | nextNamespace here =>
    rw [here] at place
    refine attends.syncMove tracked only rfl place.2.2 fun ns cluster _ ahead => .inr ?_
    simpa [State.Ahead, here] using ahead
  | known here _ found =>
    rw [here] at place
    refine attends.syncMove tracked only rfl ?_ fun ns cluster _ ahead => ?_
    · exact ⟨place.1, fun cluster member => place.2.1 cluster (List.mem_cons_of_mem _ member), place.2.2⟩
    · rw [State.Ahead, here] at ahead
      rcases ahead with ⟨rfl, listed⟩ | later
      · rcases List.mem_cons.mp listed with rfl | rest
        · exact .inl (by simp [State.Mapped, found])
        · exact .inr (.inl ⟨rfl, rest⟩)
      · exact .inr (.inr later)
  | start here _ _ _ =>
    rw [here] at place
    refine attends.syncMove tracked only rfl place fun ns cluster _ ahead => .inr ?_
    rwa [State.Ahead, here] at ahead
  | insert here _ =>
    rw [here] at guard
    exact attends.inserted here guard tracked
  | read here =>
    refine attends.syncMove tracked only rfl attends.leads fun ns cluster _ ahead => ?_
    simp [State.Ahead, here] at ahead
  | receive here _ =>
    refine attends.syncMove tracked only rfl trivial fun ns cluster _ ahead => ?_
    simp [State.Ahead, here] at ahead
  | kept here _ same =>
    refine attends.syncMove tracked only rfl same fun ns cluster _ ahead => ?_
    simp [State.Ahead, here, same] at ahead

theorem step (attends : Attends self s) (step : Guarded (Step self) (Steady self) s l t) : Attends self t := by
  obtain ⟨steady, step⟩ := step
  have tracked := attends.tracked.step steady.1 step
  cases step with
  | elect =>
    obtain rfl : _ = self := steady.2
    refine attends.frame tracked (attends.queued.frame rfl rfl rfl) attends.leads.symm rfl rfl (fun _ _ => rfl) attends.place ?_
    exact fun _ _ _ ahead => .inr ahead
  | notify =>
    refine attends.frame tracked (attends.queued.frame rfl rfl rfl) rfl rfl rfl (fun _ _ => rfl) attends.place ?_
    exact fun _ _ _ ahead => .inr ahead
  | write step => exact attends.writeStep steady.2 step
  | emit step =>
    obtain ⟨queued, pending⟩ := attends.queued.emitStep step
    cases step with
    | sent | blocks =>
      exact attends.frame tracked queued rfl rfl rfl pending attends.place fun _ _ _ ahead => .inr ahead
  | checker step =>
    obtain ⟨before, after, _, rfl, _⟩ := step.changes
    refine attends.frame tracked (attends.queued.frame rfl rfl rfl) rfl rfl rfl (fun _ _ => rfl) attends.place ?_
    exact fun _ _ _ ahead => .inr ahead
  | eventLoop step => exact attends.eventStep steady.1 step
  | syncLoop step => exact attends.syncStep steady step

theorem watchedOnce (attends : Attends self s) (quiet : Quiet s) : WatchedOnce s := by
  have nothing (ns cluster : String) : s.pending ns cluster = [] := by
    simp [State.pending, State.queued, quiet.eventLoop, quiet.events, quiet.senders, quiet.calls, EventPc.handling]
  have placed {j : Nat} {d : ClusterChecker} (here : s.checkers j = some d) (live : ¬ d.Closed) :
      s.clusters d.key = some j := by
    rcases attends.tracked.kept j d here with closed | mapped | carried
    · exact absurd closed live
    · exact mapped
    · simp [State.Inserts, quiet.eventLoop, quiet.syncLoop, EventPc.inserts, SyncPc.inserts] at carried
  constructor
  · intro ns cluster stored
    have mapped : s.Mapped ns cluster := by
      refine (attends.added ns cluster (nothing ns cluster) stored).resolve_right fun ahead => ?_
      simp [State.Ahead, quiet.syncLoop] at ahead
    obtain ⟨k, found⟩ := Option.isSome_iff_exists.mp mapped
    obtain ⟨c, here, key, closes⟩ := attends.tracked.mapped _ k found
    obtain ⟨plain, noSlash⟩ := attends.orderly.plain stored
    obtain ⟨rfl, rfl⟩ := key_unique plain noSlash key.symm
    refine ⟨k, c, found, here, rfl, rfl, ?_, fun j d there sameNs sameName live => ?_⟩
    · by_contra cancelled
      have closing := closes (by simpa using cancelled)
      simp [State.Closes, quiet.eventLoop, quiet.syncLoop, EventPc.closes, SyncPc.closes] at closing
    · have own := placed there live
      rw [ClusterChecker.key, sameNs, sameName] at own
      exact Option.some.inj (own.symm.trans found)
  · intro k c here live
    have found := placed here live
    obtain ⟨ns, cluster, plain, noSlash, key⟩ := attends.named _ k found
    obtain ⟨rfl, rfl⟩ := key_unique plain noSlash key
    have mapped : s.Mapped c.ns c.clusterName := Option.isSome_iff_exists.mpr ⟨k, found⟩
    exact attends.kept _ _ plain noSlash (nothing _ _) mapped

end Attends

/-- In every steady run of a leader, each stored cluster has exactly one live checker
whenever both loops are idle and nothing is queued. -/
theorem one_live_checker {s₀ s : State} (elected : Elected self s₀) (run : Run (Guarded (Step self) (Steady self)) s₀ ls s)
    (quiet : Quiet s) : WatchedOnce s := by
  have attends := run.preserves (fun _ _ _ attends step => Attends.step attends step) (Attends.of_elected elected)
  exact attends.watchedOnce quiet

section Samples

theorem orderly_empty : Orderly ∅ := by
  constructor
  · intro key value found
    simp at found
  · rintro ns cluster ⟨value, found⟩
    simp at found

theorem orderly_withNamespace : Orderly withNamespace := orderly_empty.insert_namespace (by decide)

theorem orderly_stored : Orderly stored :=
  orderly_withNamespace.insert_cluster (by decide) (by decide) ⟨_, Std.ExtTreeMap.getElem?_insert_self⟩

theorem started_elected {kv : KV} (orderly : Orderly kv) : Elected "a" (started kv "a") := by
  constructor
  case syncLoop => exact .inl rfl
  case other =>
    show "" ≠ "a"
    decide
  case orderly => exact orderly
  case checkers => exact nofun
  all_goals intros
  all_goals rfl

theorem uncontended_idle (event : s.eventLoop.inserts = none) (sync : s.syncLoop.inserts = none) : Uncontended s l := by
  cases l with
  | elect | notify | write | emit | checker => trivial
  | eventLoop =>
    intro ns cluster k here
    simp [here, EventPc.inserts] at event
  | syncLoop faults =>
    intro start ns cluster k clusters namespaces here
    simp [here, SyncPc.inserts] at sync

/-- The leader "a" has resumed over the cluster "c". -/
def resumedOver : State :=
  ({ started stored "a" with
    syncLoop := .select, prevTermLeader := "a", resumed := true, resume := ⟨stored, [("ns", stored)], [("ns", "c")]⟩
  }.setChecker 0 (newClusterChecker "ns" "c")).setCluster (buildClusterKey "ns" "c") (some 0)

theorem resumedOver_reached :
    Run (Guarded (Step "a") (Steady "a")) (started stored "a") (List.replicate 8 (.syncLoop .none)) resumedOver := by
  have namespaces : listNamespace (etcd .none) stored = .ok ["ns"] := by decide +kernel
  have clusters : listCluster (etcd .none) "ns" stored = .ok ["c"] := by decide +kernel
  have free : (started stored "a").MutexFree := ⟨rfl, rfl⟩
  have still : Stored stored "ns" "c" := ⟨_, Std.ExtTreeMap.getElem?_insert_self⟩
  exact
    .cons ⟨⟨uncontended_idle rfl rfl, trivial⟩, .syncLoop (.leads rfl rfl (by decide))⟩ <|
    .cons ⟨⟨uncontended_idle rfl rfl, rfl⟩, .syncLoop (.listNamespace rfl namespaces)⟩ <|
    .cons ⟨⟨uncontended_idle rfl rfl, rfl⟩, .syncLoop (.listCluster rfl clusters)⟩ <|
    .cons ⟨⟨uncontended_idle rfl rfl, trivial⟩, .syncLoop (.start (k := 0) rfl free rfl rfl)⟩ <|
    .cons ⟨⟨fun _ _ _ _ _ _ _ => rfl, .inl still⟩, .syncLoop (.insert rfl free)⟩ <|
    .cons ⟨⟨uncontended_idle rfl rfl, trivial⟩, .syncLoop (.nextNamespace rfl)⟩ <|
    .cons ⟨⟨uncontended_idle rfl rfl, trivial⟩, .syncLoop (.resumed rfl)⟩ <|
    .cons ⟨⟨uncontended_idle rfl rfl, trivial⟩, .syncLoop (.read rfl)⟩ .nil

def removed : EventPayload := ⟨"ns", "c", .eventCluster, .remove⟩

def removal : List Label :=
  [.write .api (.removeCluster "ns" "c") .none, .emit ⟨.api, removed⟩, .eventLoop, .eventLoop, .eventLoop,
    .checker 0, .checker 0, .eventLoop]

end Samples

/-- A leader that comes up over one cluster, which is then removed. -/
theorem one_live_checker_removed :
    Quiet resumedOver ∧ Stored resumedOver.kv "ns" "c" ∧ WatchedOnce resumedOver ∧
      ∃ s, Run (Guarded (Step "a") (Steady "a")) (started stored "a") (List.replicate 8 (.syncLoop .none) ++ removal) s ∧
        Quiet s ∧ ¬ Stored s.kv "ns" "c" ∧ WatchedOnce s := by
  have gone : ((Op.removeCluster "ns" "c").perform .none stored) =
      (stored.erase (Kvrocks.buildClusterKey "ns" "c"), none) := by
    have present : found (existsCluster (etcd .none) "ns" "c" stored) = true := by decide +kernel
    simp only [Op.perform, ClusterStore.removeCluster, present]
    rfl
  have mapped : resumedOver.clusters (buildClusterKey "ns" "c") = some 0 := rfl
  have run : Run (Guarded (Step "a") (Steady "a")) resumedOver removal _ :=
    .cons ⟨⟨trivial, by rintro _ ⟨⟩⟩, .write (.emits_idle rfl rfl gone rfl)⟩ <|
    .cons ⟨⟨trivial, trivial⟩, .emit (.alone rfl (by decide))⟩ <|
    .cons ⟨⟨uncontended_idle rfl rfl, trivial⟩, .eventLoop (.receive rfl rfl)⟩ <|
    .cons ⟨⟨uncontended_idle rfl rfl, trivial⟩, .eventLoop (.dispatch rfl rfl rfl)⟩ <|
    .cons ⟨⟨uncontended_idle rfl rfl, trivial⟩, .eventLoop (.close (k := 0) rfl ⟨rfl, rfl⟩ mapped rfl)⟩ <|
    .cons ⟨⟨trivial, trivial⟩, .checker (.probeReturned rfl rfl rfl)⟩ <|
    .cons ⟨⟨trivial, trivial⟩, .checker (.migrationReturned rfl rfl rfl)⟩ <|
    .cons ⟨⟨uncontended_idle rfl rfl, trivial⟩, .eventLoop (.closed rfl rfl ⟨rfl, rfl⟩)⟩ .nil
  have whole := resumedOver_reached.append run
  have calm : Quiet resumedOver := ⟨rfl, rfl, rfl, rfl, rfl⟩
  refine ⟨calm, ⟨_, Std.ExtTreeMap.getElem?_insert_self⟩,
    one_live_checker (started_elected orderly_stored) resumedOver_reached calm, _, whole, ⟨rfl, rfl, rfl, rfl, rfl⟩, ?_,
    one_live_checker (started_elected orderly_stored) whole ⟨rfl, rfl, rfl, rfl, rfl⟩⟩
  rintro ⟨value, there⟩
  cases Std.ExtTreeMap.getElem?_erase_self.symm.trans there

/-- A cluster is created while `resume` runs: both loops find no checker, and both start one. -/
theorem two_live_checkers :
    ∃ s, Elected "a" (started withNamespace "a") ∧ Run (Step "a") (started withNamespace "a")
        [.syncLoop .none, .syncLoop .none, .write .api (.createCluster "ns" sample) .none, .emit ⟨.api, created⟩,
          .eventLoop, .eventLoop, .syncLoop .none, .syncLoop .none, .eventLoop, .syncLoop .none, .eventLoop,
          .syncLoop .none, .syncLoop .none, .syncLoop .none] s ∧
      Quiet s ∧ Stored s.kv "ns" "c" ∧ s.checkers 0 = some (newClusterChecker "ns" "c") ∧
      s.checkers 1 = some (newClusterChecker "ns" "c") ∧ s.clusters (buildClusterKey "ns" "c") = some 1 ∧
      ¬ WatchedOnce s := by
  have namespaces : listNamespace (etcd .none) withNamespace = .ok ["ns"] := by decide +kernel
  have clusters : listCluster (etcd .none) "ns" stored = .ok ["c"] := by decide +kernel
  have absent : withNamespace[Kvrocks.buildClusterKey "ns" "c"]? = none := by decide +kernel
  have written : (Op.createCluster "ns" sample).perform .none withNamespace = (stored, none) :=
    (Orphans.sample_written absent).1
  have run : Run (Step "a") (started withNamespace "a") [.syncLoop .none, .syncLoop .none,
      .write .api (.createCluster "ns" sample) .none, .emit ⟨.api, created⟩,
      .eventLoop, .eventLoop, .syncLoop .none, .syncLoop .none, .eventLoop, .syncLoop .none, .eventLoop,
      .syncLoop .none, .syncLoop .none, .syncLoop .none] _ :=
    .cons (.syncLoop (.leads rfl rfl (by decide))) <|
    .cons (.syncLoop (.listNamespace rfl namespaces)) <|
    .cons (.write (.emits_idle rfl rfl written rfl)) <|
    .cons (.emit (.alone rfl (by decide))) <|
    .cons (.eventLoop (.receive rfl rfl)) <|
    .cons (.eventLoop (.dispatch rfl rfl rfl)) <|
    .cons (.syncLoop (.listCluster rfl clusters)) <|
    .cons (.syncLoop (.start (k := 0) rfl ⟨rfl, rfl⟩ rfl rfl)) <|
    .cons (.eventLoop (.start (k := 1) rfl ⟨rfl, rfl⟩ rfl rfl)) <|
    .cons (.syncLoop (.insert rfl ⟨rfl, rfl⟩)) <|
    .cons (.eventLoop (.insert rfl ⟨rfl, rfl⟩)) <|
    .cons (.syncLoop (.nextNamespace rfl)) <|
    .cons (.syncLoop (.resumed rfl)) <|
    .cons (.syncLoop (.read rfl)) .nil
  have there : Stored stored "ns" "c" := ⟨_, Std.ExtTreeMap.getElem?_insert_self⟩
  have live : ¬ (newClusterChecker "ns" "c").Closed := by simp [ClusterChecker.Closed, newClusterChecker]
  refine ⟨_, started_elected orderly_withNamespace, run, ⟨rfl, rfl, rfl, rfl, rfl⟩, there, rfl, rfl, rfl, ?_⟩
  rintro ⟨once, _⟩
  obtain ⟨k, _, _, _, _, _, _, only⟩ := once "ns" "c" there
  have first := only 0 _ rfl rfl rfl live
  have second := only 1 _ rfl rfl rfl live
  omega

end Kvrocks.Controller
