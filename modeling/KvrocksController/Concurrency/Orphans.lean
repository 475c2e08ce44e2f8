import KvrocksController.Lib.Transition
import KvrocksController.Store.Listing

/-! Requests that create and remove namespaces and clusters, interleaved at the engine
calls that no lock orders: a namespace is checked before a cluster is written into it,
and listed before it is deleted. -/
namespace Kvrocks.Orphans
open Kvrocks.Transition ClusterStore

/-- What a request does next, its checks so far having passed. -/
inductive Phase where
  /-- `RequiredNamespace` found the namespace, `CreateCluster` is next. -/
  | creating (ns : String) (object : Cluster)
  /-- `CreateNamespace` found none, its `Set` is next. -/
  | adding (ns : String)
  /-- `RemoveNamespace` found the namespace, `ListCluster` is next. -/
  | listing (ns : String)
  /-- `ListCluster` showed nothing, the `Delete` is next. -/
  | deleting (ns : String)
deriving DecidableEq, Repr

/-- `disturbed` is a ghost: since its last check another request deleted the namespace
that this one is creating in, or wrote a cluster of the one it is deleting. -/
structure Request where
  phase : Phase
  disturbed : Bool
deriving DecidableEq, Repr

structure State where
  kv : KV
  requests : Nat → Option Request

def Phase.createsIn (ns : String) : Phase → Bool
  | .creating own _ => own = ns
  | _ => false

def Phase.deletes (ns : String) : Phase → Bool
  | .deleting own => own = ns
  | _ => false

namespace State

def assign (s : State) (client : Nat) (request : Option Request) : State :=
  { s with requests := fun other => if other = client then request else s.requests other }

def proceed (s : State) (client : Nat) (phase : Phase) : State := s.assign client (some ⟨phase, false⟩)

def disturb (s : State) (affected : Phase → Bool) : State :=
  { s with requests := fun client => (s.requests client).map fun request =>
      if affected request.phase then { request with disturbed := true } else request }

end State

inductive Label where
  | requireNamespace (client : Nat) (ns : String) (object : Cluster) (faults : Faults)
  | createCluster (client : Nat) (faults : Faults)
  | removeCluster (ns cluster : String) (faults : Faults)
  | createNamespace (client : Nat) (ns : String) (faults : Faults)
  | setNamespace (client : Nat) (faults : Faults)
  | removeNamespace (client : Nat) (ns : String) (faults : Faults)
  | listCluster (client : Nat) (faults : Faults)
  | deleteNamespace (client : Nat) (faults : Faults)

inductive Step : State → Label → State → Prop where
  | required (found : existsNamespace (etcd faults) ns s.kv = .ok true) :
      Step s (.requireNamespace client ns object faults) (s.proceed client (.creating ns object))
  | notRequired (missing : existsNamespace (etcd faults) ns s.kv ≠ .ok true) :
      Step s (.requireNamespace client ns object faults) s
  | written (holds : s.requests client = some ⟨.creating ns object, disturbed⟩)
      (result : createCluster (etcd faults) ns object s.kv = (kv, err)) (changed : kv ≠ s.kv) :
      Step s (.createCluster client faults) ((State.assign { s with kv } client none).disturb (Phase.deletes ns))
  | notWritten (holds : s.requests client = some ⟨.creating ns object, disturbed⟩)
      (result : createCluster (etcd faults) ns object s.kv = (s.kv, err)) :
      Step s (.createCluster client faults) (s.assign client none)
  | removedCluster (result : ClusterStore.removeCluster (etcd faults) ns cluster s.kv = (kv, err)) :
      Step s (.removeCluster ns cluster faults) { s with kv }
  | absent (missing : found (existsNamespace (etcd faults) ns s.kv) = false) :
      Step s (.createNamespace client ns faults) (s.proceed client (.adding ns))
  | taken (there : found (existsNamespace (etcd faults) ns s.kv) = true) :
      Step s (.createNamespace client ns faults) s
  | added (holds : s.requests client = some ⟨.adding ns, disturbed⟩)
      (result : (etcd faults).set (appendPrefix ns) (.text ns) s.kv = (kv, err)) :
      Step s (.setNamespace client faults) (State.assign { s with kv } client none)
  | removing (there : found (existsNamespace (etcd faults) ns s.kv) = true) :
      Step s (.removeNamespace client ns faults) (s.proceed client (.listing ns))
  | notRemoving (missing : found (existsNamespace (etcd faults) ns s.kv) = false) :
      Step s (.removeNamespace client ns faults) s
  | emptied (holds : s.requests client = some ⟨.listing ns, disturbed⟩)
      (listed : ClusterStore.listCluster (etcd faults) ns s.kv = .ok []) :
      Step s (.listCluster client faults) (s.proceed client (.deleting ns))
  | refused (holds : s.requests client = some ⟨.listing ns, disturbed⟩)
      (listed : ClusterStore.listCluster (etcd faults) ns s.kv ≠ .ok []) :
      Step s (.listCluster client faults) (s.assign client none)
  | deleted (holds : s.requests client = some ⟨.deleting ns, disturbed⟩)
      (result : (etcd faults).delete (appendPrefix ns) s.kv = (kv, err)) (changed : kv ≠ s.kv) :
      Step s (.deleteNamespace client faults) ((State.assign { s with kv } client none).disturb (Phase.createsIn ns))
  | notDeleted (holds : s.requests client = some ⟨.deleting ns, disturbed⟩)
      (result : (etcd faults).delete (appendPrefix ns) s.kv = (s.kv, err)) :
      Step s (.deleteNamespace client faults) (s.assign client none)

structure Start (s : State) : Prop where
  empty : s.kv = ∅
  idle : ∀ client, s.requests client = none

/-- Names that a listing shows and that no other record shares its key with, and no
request overtaken between its last check and its write. -/
def Undisturbed (s : State) : Label → Prop
  | .requireNamespace _ ns object _ => Plain ns ∧ NoSlash object.name
  | .createNamespace _ ns _ => Plain ns
  | .createCluster client _ | .deleteNamespace client _ => ∀ request, s.requests client = some request → request.disturbed = false
  | _ => True

/-- The clusters stored in a namespace. -/
def Holding (kv : KV) (ns : String) (cluster : String) : Prop :=
  ∃ record, kv[buildClusterKey ns cluster]? = some (.json record)

def Present (kv : KV) (ns : String) : Prop := ∃ value, kv[appendPrefix ns]? = some value

/-- What a request may rely on while it is undisturbed. -/
def Relies (kv : KV) (request : Request) : Prop :=
  match request.phase with
  | .creating ns object => Plain ns ∧ NoSlash object.name ∧ (request.disturbed = false → Present kv ns)
  | .adding ns => Plain ns
  | .listing _ => True
  | .deleting ns => request.disturbed = false → ∀ cluster, ¬ Holding kv ns cluster

structure Holds (s : State) : Prop where
  clusters : ∀ ns cluster, Holding s.kv ns cluster → Plain ns ∧ NoSlash cluster ∧ Present s.kv ns
  requests : ∀ client request, s.requests client = some request → Relies s.kv request

section Keys
variable {kv : KV}

/-- Writing a cluster leaves every other plain cluster and every namespace as it was. -/
theorem holding_insert (plain : Plain ns) (noSlash : NoSlash cluster)
    (there : Holding (kv.insert (buildClusterKey ns cluster) value) other name) :
    (other = ns ∧ name = cluster) ∨ Holding kv other name := by
  obtain ⟨record, stored⟩ := there
  rw [Std.ExtTreeMap.getElem?_insert] at stored
  split at stored
  · rename_i same
    exact .inl (plain.clusterKey_unique noSlash (Std.LawfulEqOrd.compare_eq_iff_eq.mp same))
  · exact .inr ⟨record, stored⟩

theorem present_insert (there : Present kv ns) : Present (kv.insert key value) ns := by
  obtain ⟨found, stored⟩ := there
  rw [Present, Std.ExtTreeMap.getElem?_insert]
  split
  · exact ⟨value, rfl⟩
  · exact ⟨found, stored⟩

theorem present_erase (there : Present kv ns) (other : key ≠ appendPrefix ns) : Present (kv.erase key) ns := by
  obtain ⟨found, stored⟩ := there
  rw [Present, Std.ExtTreeMap.getElem?_erase]
  split
  · rename_i same
    exact absurd (Std.LawfulEqOrd.compare_eq_iff_eq.mp same) other
  · exact ⟨found, stored⟩

/-- Deleting a key brings no cluster about. -/
theorem holding_erase (there : Holding (kv.erase key) ns cluster) : Holding kv ns cluster := by
  obtain ⟨record, stored⟩ := there
  rw [Std.ExtTreeMap.getElem?_erase] at stored
  split at stored
  · cases stored
  · exact ⟨record, stored⟩

/-- Neither does writing a namespace. -/
theorem holding_text (there : Holding (kv.insert key (.text text)) ns cluster) : Holding kv ns cluster := by
  obtain ⟨record, stored⟩ := there
  rw [Std.ExtTreeMap.getElem?_insert] at stored
  split at stored
  · cases stored
  · exact ⟨record, stored⟩

end Keys

/-- What a request relies on survives when its namespace does, or gets no new cluster. -/
theorem Relies.mono {kv after : KV} (relied : Relies kv request)
    (keeps : ∀ ns object, request.phase = .creating ns object → Plain ns → Present kv ns → Present after ns)
    (gains : ∀ ns cluster, request.phase = .deleting ns → Holding after ns cluster → Holding kv ns cluster) :
    Relies after request := by
  obtain ⟨phase, disturbed⟩ := request
  cases phase with
  | creating ns object =>
    obtain ⟨plain, noSlash, present⟩ := relied
    exact ⟨plain, noSlash, fun calm => keeps ns object rfl plain (present calm)⟩
  | adding ns => exact relied
  | listing ns => trivial
  | deleting ns => exact fun calm cluster stored => relied calm cluster (gains ns cluster rfl stored)

/-- A disturbed request relies on nothing in the store. -/
theorem Relies.disturbed {kv after : KV} (relied : Relies kv request) :
    Relies after { request with disturbed := true } := by
  obtain ⟨phase, disturbed⟩ := request
  cases phase with
  | creating ns object => exact ⟨relied.1, relied.2.1, nofun⟩
  | adding ns => exact relied
  | listing ns => trivial
  | deleting ns => exact nofun

namespace Holds
variable {s t : State}

theorem assign (holds : Holds s) (own : ∀ request, after = some request → Relies s.kv request) :
    Holds (s.assign client after) where
  clusters := holds.clusters
  requests := assigned holds.requests own

/-- One request has ended, those it affected are disturbed, the others rely on what
they did. -/
theorem disturb {s : State} {kv : KV}
    (clusters : ∀ ns cluster, Holding kv ns cluster → Plain ns ∧ NoSlash cluster ∧ Present kv ns)
    (affects : ∀ other request, s.requests other = some request →
      if affected request.phase then Relies s.kv request else Relies kv request) :
    Holds ((State.assign { s with kv } client none).disturb affected) where
  clusters := clusters
  requests := by
    intro other request found
    simp only [State.disturb, State.assign, Option.map_eq_some_iff] at found
    obtain ⟨before, found, rfl⟩ := found
    split at found
    · cases found
    · have relied := affects other before found
      split
      · rename_i hit
        rw [if_pos hit] at relied
        exact relied.disturbed
      · rename_i missed
        rwa [if_neg missed] at relied

/-- A cluster is written into a namespace that exists. -/
theorem write (holds : Holds s) (plain : Plain ns) (noSlash : NoSlash cluster) (there : Present s.kv ns) :
    Holds ((State.assign { s with kv := s.kv.insert (buildClusterKey ns cluster) value } client none).disturb
      (Phase.deletes ns)) := by
  refine disturb ?_ ?_
  · intro other name stored
    rcases holding_insert plain noSlash stored with ⟨rfl, rfl⟩ | before
    · exact ⟨plain, noSlash, present_insert there⟩
    · obtain ⟨otherPlain, otherName, present⟩ := holds.clusters other name before
      exact ⟨otherPlain, otherName, present_insert present⟩
  · intro other request found
    have relied := holds.requests other request found
    split
    · exact relied
    · rename_i spared
      refine relied.mono (fun _ _ _ _ present => present_insert present) fun own name phase stored => ?_
      rcases holding_insert plain noSlash stored with ⟨here, _⟩ | before
      · simp [phase, Phase.deletes, here] at spared
      · exact before

/-- A namespace that holds no cluster is deleted. -/
theorem deleteNamespace (holds : Holds s) (empty : ∀ cluster, ¬ Holding s.kv ns cluster) :
    Holds ((State.assign { s with kv := s.kv.erase (appendPrefix ns) } client none).disturb (Phase.createsIn ns)) := by
  refine disturb ?_ ?_
  · intro other name stored
    obtain ⟨plain, noSlash, present⟩ := holds.clusters other name (holding_erase stored)
    refine ⟨plain, noSlash, present_erase present fun same => ?_⟩
    obtain rfl := appendPrefix_inj.mp same
    exact empty name (holding_erase stored)
  · intro other request found
    have relied := holds.requests other request found
    split
    · exact relied
    · rename_i spared
      refine relied.mono (fun own object phase _ present => ?_) fun _ _ _ stored => holding_erase stored
      refine present_erase present fun same => ?_
      simp [phase, Phase.createsIn, appendPrefix_inj.mp same] at spared

theorem setNamespace (holds : Holds s) : Holds { s with kv := s.kv.insert (appendPrefix ns) (.text ns) } where
  clusters := by
    intro other name stored
    obtain ⟨plain, noSlash, present⟩ := holds.clusters other name (holding_text stored)
    exact ⟨plain, noSlash, present_insert present⟩
  requests := by
    intro other request found
    exact (holds.requests other request found).mono (fun _ _ _ _ present => present_insert present)
      fun _ _ _ stored => holding_text stored

theorem removeCluster (holds : Holds s) : Holds { s with kv := s.kv.erase (buildClusterKey ns cluster) } where
  clusters := by
    intro other name stored
    obtain ⟨plain, noSlash, present⟩ := holds.clusters other name (holding_erase stored)
    exact ⟨plain, noSlash, present_erase present plain.ne_clusterKey⟩
  requests := by
    intro other request found
    exact (holds.requests other request found).mono
      (fun _ _ _ plain present => present_erase present plain.ne_clusterKey) fun _ _ _ stored => holding_erase stored

theorem step (holds : Holds s) (step : Guarded Step Undisturbed s l t) : Holds t := by
  obtain ⟨calm, step⟩ := step
  cases step with
  | required found =>
    refine holds.assign ?_
    rintro _ ⟨⟩
    rw [etcd_existsNamespace, flat_existsNamespace_ok] at found
    exact ⟨calm.1, calm.2, fun _ => Option.isSome_iff_exists.mp found.2⟩
  | notRequired | taken | notRemoving => exact holds
  | written found result changed =>
    obtain ⟨plain, noSlash, present⟩ := holds.requests _ _ found
    rw [etcd_createCluster] at result
    rcases flat_createCluster_cases _ _ s.kv _ with ⟨_, refused⟩ | ⟨_, _, written⟩
    · rw [result] at refused
      cases refused
      exact absurd rfl changed
    · rw [result] at written
      cases written
      exact holds.write plain noSlash (present (calm _ found))
  | notWritten | refused | notDeleted => exact holds.assign nofun
  | removedCluster result =>
    rw [etcd_removeCluster] at result
    rcases flat_removeCluster_cases _ _ _ s.kv with ⟨_, refused⟩ | ⟨_, _, erased⟩
    · rw [result] at refused
      cases refused
      exact holds
    · rw [result] at erased
      cases erased
      exact holds.removeCluster
  | absent missing =>
    refine holds.assign ?_
    rintro _ ⟨⟩
    exact calm
  | added found result =>
    rename_i faults ns kv err client disturbed
    have written : kv = s.kv ∨ kv = s.kv.insert (appendPrefix ns) (.text ns) := finish_cases result
    rcases written with rfl | rfl
    · exact holds.assign nofun
    · exact holds.setNamespace.assign nofun
  | removing there =>
    refine holds.assign ?_
    rintro _ ⟨⟩
    trivial
  | emptied found listed =>
    refine holds.assign ?_
    rintro _ ⟨⟩
    intro _ cluster stored
    obtain ⟨_, noSlash, _⟩ := holds.clusters _ cluster stored
    obtain ⟨record, stored⟩ := stored
    cases listCluster_complete listed noSlash stored
  | deleted found result changed =>
    rename_i faults ns kv err client disturbed
    have empty := holds.requests _ _ found (calm _ found)
    have erased : kv = s.kv ∨ kv = s.kv.erase (appendPrefix ns) := finish_cases result
    rcases erased with rfl | rfl
    · exact absurd rfl changed
    · exact holds.deleteNamespace empty

end Holds

/-- In every run of undisturbed requests with plain names, each stored cluster belongs
to a namespace that exists, and a namespace about to be deleted holds no cluster. -/
theorem no_orphan_clusters {s₀ s : State} (start : Start s₀) (run : Run (Guarded Step Undisturbed) s₀ ls s) :
    (∀ ns cluster record, s.kv[buildClusterKey ns cluster]? = some (.json record) →
      existsNamespace (etcd .none) ns s.kv = .ok true) ∧
    ∀ client faults t, Guarded Step Undisturbed s (.deleteNamespace client faults) t →
      ∃ ns disturbed, s.requests client = some ⟨.deleting ns, disturbed⟩ ∧
        ∀ cluster record, s.kv[buildClusterKey ns cluster]? ≠ some (.json record) := by
  have holds : Holds s := by
    refine run.preserves (fun _ _ _ holds step => holds.step step) ⟨?_, ?_⟩
    · rintro ns cluster ⟨record, stored⟩
      simp [start.empty] at stored
    · intro client request found
      rw [start.idle client] at found
      cases found
  constructor
  · intro ns cluster record stored
    rw [etcd_existsNamespace, flat_existsNamespace_ok]
    exact ⟨rfl, Option.isSome_iff_exists.mpr (holds.clusters ns cluster ⟨record, stored⟩).2.2⟩
  · rintro client faults t ⟨calm, step⟩
    cases step with
    | deleted found | notDeleted found =>
      exact ⟨_, _, found, fun cluster record stored => holds.requests _ _ found (calm _ found) cluster ⟨record, stored⟩⟩

section Samples

def initial : State := ⟨∅, fun _ => none⟩

def sample : Cluster := ⟨"c", 1, []⟩

def withNamespace : KV := (∅ : KV).insert (appendPrefix "ns") (.text "ns")

def checked : List Label :=
  [.createNamespace 0 "ns" .none, .setNamespace 0 .none, .requireNamespace 1 "ns" sample .none]

/-- A namespace is made, and a request to create a cluster in it has passed its check. -/
theorem sample_checked : ∃ s, Run (Guarded Step Undisturbed) initial checked s ∧ s.kv = withNamespace ∧
    s.requests 1 = some ⟨.creating "ns" sample, false⟩ := by
  have plain : Plain "ns" := by decide
  have noSlash : NoSlash sample.name := by decide
  have missing : found (existsNamespace (etcd .none) "ns" initial.kv) = false := by decide +kernel
  have there : existsNamespace (etcd .none) "ns" withNamespace = .ok true := by decide +kernel
  have run : Run (Guarded Step Undisturbed) initial checked _ :=
    .cons ⟨plain, .absent missing⟩ (.cons ⟨trivial, .added rfl rfl⟩ (.cons ⟨⟨plain, noSlash⟩, .required there⟩ .nil))
  exact ⟨_, run, rfl, rfl⟩

theorem sample_written {kv : KV} (absent : kv[buildClusterKey "ns" "c"]? = none) :
    createCluster (etcd .none) "ns" sample kv =
        (kv.insert (buildClusterKey "ns" "c") (.json sample.marshalJSON), none) ∧
      kv.insert (buildClusterKey "ns" "c") (.json sample.marshalJSON) ≠ kv := by
  constructor
  · have free : found (existsCluster (etcd .none) "ns" sample.name kv) = false := by
      simp only [found, existsCluster, etcd, flat, Faults.reading, orFailed, Faults.none, sample, absent, Option.isSome_none]
    simp only [createCluster, free]
    rfl
  · intro same
    rw [← same, Std.ExtTreeMap.getElem?_insert_self] at absent
    cases absent

end Samples

/-- A cluster created with nothing in between. -/
theorem no_orphan_sample :
    ∃ s, Run (Guarded Step Undisturbed) initial (checked ++ [.createCluster 1 .none]) s ∧
      s.kv[buildClusterKey "ns" "c"]? = some (.json sample.marshalJSON) ∧
      existsNamespace (etcd .none) "ns" s.kv = .ok true := by
  obtain ⟨s, run, kv, request⟩ := sample_checked
  have absent : s.kv[buildClusterKey "ns" "c"]? = none := by
    rw [kv]
    decide +kernel
  obtain ⟨result, changed⟩ := sample_written absent
  have calm : Undisturbed s (.createCluster 1 .none) := by
    intro other found
    obtain rfl := Option.some.inj (request.symm.trans found)
    rfl
  have whole := run.append (.cons ⟨calm, .written request result changed⟩ .nil)
  have stored : (s.kv.insert (buildClusterKey "ns" "c") (.json sample.marshalJSON))[buildClusterKey "ns" "c"]? =
      some (.json sample.marshalJSON) := Std.ExtTreeMap.getElem?_insert_self
  exact ⟨_, whole, stored, (no_orphan_clusters ⟨rfl, fun _ => rfl⟩ whole).1 "ns" "c" _ stored⟩

/-- The namespace is removed between the check and the write. -/
theorem orphan_cluster :
    ∃ s, Start initial ∧
      Run Step initial (checked ++ [.removeNamespace 2 "ns" .none, .listCluster 2 .none, .deleteNamespace 2 .none,
        .createCluster 1 .none]) s ∧
      s.kv[buildClusterKey "ns" "c"]? = some (.json sample.marshalJSON) ∧
      existsNamespace (etcd .none) "ns" s.kv = .ok false := by
  obtain ⟨s, run, kv, request⟩ := sample_checked
  have there : found (existsNamespace (etcd .none) "ns" s.kv) = true := by
    rw [kv]
    decide +kernel
  have empty : ClusterStore.listCluster (etcd .none) "ns" s.kv = .ok [] := by
    rw [kv]
    decide +kernel
  have shrinks : s.kv.erase (appendPrefix "ns") ≠ s.kv := by
    intro same
    have gone : (s.kv.erase (appendPrefix "ns"))[appendPrefix "ns"]? = none := Std.ExtTreeMap.getElem?_erase_self
    rw [same, kv, withNamespace, Std.ExtTreeMap.getElem?_insert_self] at gone
    cases gone
  have absent : (s.kv.erase (appendPrefix "ns"))[buildClusterKey "ns" "c"]? = none := by
    rw [kv]
    decide +kernel
  obtain ⟨result, changed⟩ := sample_written absent
  have pending : ((State.assign { ((s.proceed 2 (.listing "ns")).proceed 2 (.deleting "ns")) with
      kv := s.kv.erase (appendPrefix "ns") } 2 none).disturb (Phase.createsIn "ns")).requests 1 =
        some ⟨.creating "ns" sample, true⟩ := by
    simp [State.disturb, State.proceed, State.assign, request, Phase.createsIn]
  have erased : (etcd .none).delete (appendPrefix "ns") s.kv = (s.kv.erase (appendPrefix "ns"), none) := rfl
  have rest : Run Step s [.removeNamespace 2 "ns" .none, .listCluster 2 .none, .deleteNamespace 2 .none,
      .createCluster 1 .none] _ :=
    .cons (.removing there) (.cons (.emptied rfl empty) (.cons (.deleted rfl erased shrinks)
      (.cons (.written pending result changed) .nil)))
  refine ⟨_, ⟨rfl, fun _ => rfl⟩, run.unguarded.append rest, Std.ExtTreeMap.getElem?_insert_self, ?_⟩
  show existsNamespace (etcd .none) "ns"
    ((s.kv.erase (appendPrefix "ns")).insert (buildClusterKey "ns" "c") (.json sample.marshalJSON)) = .ok false
  rw [kv]
  decide +kernel

end Kvrocks.Orphans
