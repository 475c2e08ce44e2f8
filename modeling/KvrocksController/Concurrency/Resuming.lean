import KvrocksController.Concurrency.Orphans
import KvrocksController.Controller.LoopsProofs

/-! Whether a controller that counts itself as the handled leader watches the clusters.
`prevTermLeader` is set from reads made apart from the one that decided on `resume`, and
whether `resume` failed or not. -/
namespace Kvrocks.Controller
open Kvrocks.Transition ClusterStore

variable {self : String} {s t : State}

/-- The clusters of `ns` were listed, and `addCluster` was called for each that was stored
then, but for those `left`. -/
def Resume.Covers (resume : Resume) (ns : String) (left : List String) : Prop :=
  ∃ kv, (ns, kv) ∈ resume.listed ∧
    ∀ cluster value, NoSlash cluster → kv[Kvrocks.buildClusterKey ns cluster]? = some value →
      (ns, cluster) ∈ resume.called ∨ cluster ∈ left

/-- `resume` has come to all namespaces that were stored when it listed them. -/
def Resume.Complete (resume : Resume) : Prop :=
  ∀ ns value, NoSlash ns → resume.listedAt[appendPrefix ns]? = some value → resume.Covers ns []

/-- Waiting in its `select`, `syncLoop` counts the node as the handled leader only once a
`resume` has completed since the node became leader. -/
def Watching (self : String) (s : State) : Prop :=
  s.syncLoop = .select → s.prevTermLeader = self → s.resumed = true ∧ s.resume.Complete

/-- No listing of `resume` fails, and the `Leader()` that is remembered does not return the
node itself behind a start-up that did not lead, nor behind `suspend`. -/
def Attended (self : String) (s : State) : Label → Prop
  | .syncLoop faults => match s.syncLoop with
    | .resuming _ => faults.read (.list nsPrefix) = none
    | .listing _ (ns :: _) => faults.read (.list (buildClusterPrefix ns)) = none
    | .reading resume => s.leader = self → resume = true
    | _ => True
  | _ => True

/-- All namespaces are covered but for `namespaces`, and `own` but for `clusters`. -/
def Resume.Underway (resume : Resume) (own : String) (clusters namespaces : List String) : Prop :=
  ∀ ns value, NoSlash ns → resume.listedAt[appendPrefix ns]? = some value →
    ns ∈ namespaces ∨ resume.Covers ns (if ns = own then clusters else [])

/-- What `syncLoop` has behind it at each of its places. -/
def ResumeKnown (self : String) (s : State) : Prop :=
  match s.syncLoop with
  | .starting | .resuming _ | .suspending | .closingAll | .closing _ _ => True
  | .listing _ namespaces => s.resume.Underway "" [] namespaces
  | .adding _ own clusters namespaces | .inserting _ own _ _ clusters namespaces =>
    s.resume.Underway own clusters namespaces
  | .reading resume => resume = true → s.resumed = true ∧ s.resume.Complete
  | .select | .notified => s.prevTermLeader = self → s.resumed = true ∧ s.resume.Complete

namespace Resume
variable {resume : Resume}

theorem Covers.call (covers : resume.Covers ns (if ns = own then cluster :: clusters else [])) :
    (resume.call own cluster).Covers ns (if ns = own then clusters else []) := by
  obtain ⟨kv, listed, added⟩ := covers
  refine ⟨kv, listed, fun name value plain stored => ?_⟩
  rcases added name value plain stored with called | left
  · exact .inl (List.mem_append_left _ called)
  · split at left
    · rename_i same
      subst same
      rw [if_pos rfl]
      rcases List.mem_cons.mp left with rfl | left
      · exact .inl (List.mem_append_right _ List.mem_cons_self)
      · exact .inr left
    · cases left

theorem Underway.call (underway : resume.Underway own (cluster :: clusters) namespaces) :
    (resume.call own cluster).Underway own clusters namespaces := by
  intro ns value plain stored
  rcases underway ns value plain stored with ahead | covers
  · exact .inl ahead
  · exact .inr covers.call

theorem Underway.next (underway : resume.Underway own [] namespaces) : resume.Underway "" [] namespaces := by
  intro ns value plain stored
  simpa only [ite_self] using underway ns value plain stored

theorem Underway.done (underway : resume.Underway own [] []) : resume.Complete := by
  intro ns value plain stored
  rcases underway ns value plain stored with ahead | covers
  · cases ahead
  · simpa only [ite_self] using covers

theorem underway_listNamespace {kv : KV} (listed : listNamespace (etcd faults) kv = .ok namespaces) :
    (Resume.mk kv [] []).Underway "" [] namespaces := by
  intro ns value plain stored
  exact .inl (listNamespace_complete listed plain stored)

theorem Underway.listCluster {kv : KV} (underway : resume.Underway "" [] (own :: namespaces))
    (listed : listCluster (etcd faults) own kv = .ok clusters) :
    Underway { resume with listed := resume.listed ++ [(own, kv)] } own clusters namespaces := by
  intro ns value plain stored
  by_cases same : ns = own
  · subst same
    refine .inr ⟨kv, List.mem_append_right _ List.mem_cons_self, fun cluster record name there => ?_⟩
    rw [if_pos rfl]
    exact .inr (listCluster_complete listed name there)
  · rcases underway ns value plain stored with ahead | ⟨before, here, added⟩
    · rcases List.mem_cons.mp ahead with rfl | ahead
      · exact absurd rfl same
      · exact .inl ahead
    · rw [ite_self] at added
      rw [if_neg same]
      exact .inr ⟨before, List.mem_append_left _ here, added⟩

end Resume

theorem ResumeKnown.became (complete : s.resumed = true ∧ s.resume.Complete) :
    ResumeKnown self (s.became self start) := by
  unfold State.became
  cases start with
  | true | false => exact fun _ => complete

theorem ResumeKnown.syncStep (known : ResumeKnown self s) (attended : Attended self s (.syncLoop faults))
    (step : SyncStep self s faults t) : ResumeKnown self t := by
  unfold Attended at attended
  unfold ResumeKnown at known
  cases step with
  | leads here leads other => trivial
  | leadsAlready here leads same => exact nofun
  | follows here follows => exact nofun
  | listNamespace here listed => exact Resume.underway_listNamespace listed
  | namespacesFailed here failed =>
    simp only [here] at attended
    rw [etcd_listNamespace_ok.mpr ⟨attended, rfl⟩] at failed
    cases failed
  | listCluster here listed =>
    simp only [here] at known
    exact known.listCluster listed
  | clustersFailed here failed =>
    simp only [here] at attended
    rw [etcd_listCluster_ok.mpr ⟨attended, rfl⟩] at failed
    cases failed
  | resumed here =>
    simp only [here] at known
    exact ResumeKnown.became ⟨rfl, known.done⟩
  | nextNamespace here =>
    simp only [here] at known
    exact known.next
  | known here free found =>
    simp only [here] at known
    exact known.call
  | start here free absent fresh =>
    simp only [here] at known
    exact known.call
  | insert here free =>
    simp only [here] at known
    exact known
  | read here =>
    simp only [here] at known attended
    intro leads
    rw [if_pos leads]
    exact known (attended leads)
  | receive here queued =>
    simp only [here] at known
    exact known
  | gained here leads other => trivial
  | kept here leads same =>
    simp only [here] at known
    exact known
  | stillFollows here follows other => exact fun same => absurd same other
  | lost here follows same => trivial
  | lock here free => trivial
  | close here found checker => trivial
  | closed here checker returned => trivial
  | suspended here empty => exact nofun

theorem ResumeKnown.step (known : ResumeKnown self s) (step : Guarded (Step self) (Attended self) s l t) :
    ResumeKnown self t := by
  obtain ⟨attended, step⟩ := step
  by_cases other : ∀ faults, l ≠ .syncLoop faults
  · obtain ⟨pc, prev, resumed, resume⟩ := step.sync_frame other
    unfold ResumeKnown at known ⊢
    rw [pc, prev, resumed, resume]
    exact known
  · cases step with
    | elect | notify | write | emit | checker | eventLoop => exact absurd (fun _ => nofun) other
    | syncLoop step => exact known.syncStep attended step

/-- In every attended run, `prevTermLeader` is the node's own ID only behind a complete
`resume`. -/
theorem handled_leader_watches {s₀ s : State} (start : Start s₀) (run : Run (Guarded (Step self) (Attended self)) s₀ ls s) :
    Watching self s := by
  have first : ResumeKnown self s₀ := by
    unfold ResumeKnown
    rw [start.syncLoop]
    trivial
  have known := run.preserves (fun _ _ _ known step => ResumeKnown.step known step) first
  intro here handled
  unfold ResumeKnown at known
  simp only [here] at known
  exact known handled

section Samples

/-- Just started, over `kv`, with `leader` leading. -/
def started (kv : KV) (leader : String) : State where
  leader := leader
  notifications := 0
  kv := kv
  calls := []
  events := []
  senders := []
  clusters := fun _ => none
  checkers := fun _ => none
  eventLoop := .select
  syncLoop := .starting
  prevTermLeader := ""
  resumed := false
  resume := ⟨∅, [], []⟩

theorem started_start (kv : KV) (leader : String) : Start (started kv leader) := by
  constructor
  all_goals intros
  all_goals rfl

/-- The namespace "ns" with the cluster "c". -/
def stored : KV :=
  Orphans.withNamespace.insert (Kvrocks.buildClusterKey "ns" "c") (.json Orphans.sample.marshalJSON)

end Samples

/-- A leader that comes up over one stored cluster. -/
theorem handled_leader_watches_cluster :
    ∃ s, Run (Guarded (Step "a") (Attended "a")) (started stored "a") (List.replicate 8 (.syncLoop .none)) s ∧
      s.syncLoop = .select ∧ s.prevTermLeader = "a" ∧ Watching "a" s ∧ s.resume.called = [("ns", "c")] ∧
      s.clusters (buildClusterKey "ns" "c") = some 0 := by
  have namespaces : listNamespace (etcd .none) stored = .ok ["ns"] := by decide +kernel
  have clusters : listCluster (etcd .none) "ns" stored = .ok ["c"] := by decide +kernel
  have free : (started stored "a").MutexFree := ⟨rfl, rfl⟩
  have run : Run (Guarded (Step "a") (Attended "a")) (started stored "a") (List.replicate 8 (.syncLoop .none)) _ :=
    .cons ⟨trivial, .syncLoop (.leads rfl rfl (by decide))⟩ <|
    .cons ⟨rfl, .syncLoop (.listNamespace rfl namespaces)⟩ <|
    .cons ⟨rfl, .syncLoop (.listCluster rfl clusters)⟩ <|
    .cons ⟨trivial, .syncLoop (.start (k := 0) rfl free rfl rfl)⟩ <|
    .cons ⟨trivial, .syncLoop (.insert rfl free)⟩ <|
    .cons ⟨trivial, .syncLoop (.nextNamespace rfl)⟩ <|
    .cons ⟨trivial, .syncLoop (.resumed rfl)⟩ <|
    .cons ⟨fun _ => rfl, .syncLoop (.read rfl)⟩ <|
    .nil
  exact ⟨_, run, rfl, rfl, handled_leader_watches (started_start _ _) run, rfl, rfl⟩

def unreachable : Faults := ⟨fun _ => some (.new "etcdserver: request timed out"), .done⟩

/-- The first listing fails, and the node still counts itself as the handled leader. -/
theorem handled_leader_blind :
    ∃ s, Start (started stored "a") ∧
      Run (Step "a") (started stored "a") [.syncLoop .none, .syncLoop unreachable, .syncLoop .none] s ∧
      s.syncLoop = .select ∧ s.prevTermLeader = "a" ∧ s.leader = "a" ∧ s.resumed = false ∧ s.resume.called = [] ∧
      s.clusters (buildClusterKey "ns" "c") = none ∧ ¬ Watching "a" s := by
  have run : Run (Step "a") (started stored "a") [.syncLoop .none, .syncLoop unreachable, .syncLoop .none] _ :=
    .cons (.syncLoop (.leads rfl rfl (by decide))) <|
    .cons (.syncLoop (.namespacesFailed rfl rfl)) <|
    .cons (.syncLoop (.read rfl)) <|
    .nil
  refine ⟨_, started_start _ _, run, rfl, rfl, rfl, rfl, rfl, rfl, fun watching => ?_⟩
  have done := (watching rfl rfl).1
  cases done

end Kvrocks.Controller
