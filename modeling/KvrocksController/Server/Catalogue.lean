import KvrocksController.Server.Acknowledged
import KvrocksController.Server.Records
import KvrocksController.Store.ExactListing
import Mathlib.Data.Set.Insert

/-! What the server is for: a catalogue of namespaces and clusters. Every run of requests
that the leader serves over etcd is a run of the catalogue, with the same answers: what is
not acknowledged does nothing, and what is acknowledged does one thing. -/
namespace Kvrocks.Server
open Kvrocks.Transition ClusterStore Isolation

@[ext] structure Catalogue where
  namespaces : Set String
  clusters : String → String → Option Cluster

/-- A request, and the body of its acknowledgement if it got one. -/
structure Exchange where
  call : Addresses.Call
  answer : Option Json

namespace Catalogue

def empty : Catalogue := ⟨∅, fun _ _ => none⟩

def put (v : Catalogue) (ns : String) (cluster : Cluster) : Catalogue :=
  { v with clusters := fun ns' name => if ns' = ns ∧ name = cluster.name then some cluster else v.clusters ns' name }

def drop (v : Catalogue) (ns cluster : String) : Catalogue :=
  { v with clusters := fun ns' name => if ns' = ns ∧ name = cluster then none else v.clusters ns' name }

/-- A node of this address is in some cluster. -/
def Uses (v : Catalogue) (addr : String) : Prop :=
  ∃ ns name cluster, ns ∈ v.namespaces ∧ v.clusters ns name = some cluster ∧ addr ∈ cluster.addrs

/-- What an acknowledged request does, and its answer. A cluster is kept as it is read back,
and an edit starts from the one that is kept and counts its version on. -/
inductive Acts (env : Env KV) (request : Request) (v : Catalogue) : Endpoint → Json → Catalogue → Prop where
  | outside (outside : endpoint.outside = true) : Acts env request v endpoint body v
  | listNamespace (once : names.Nodup) (all : ∀ ns, ns ∈ names ↔ ns ∈ v.namespaces) :
      Acts env request v .listNamespace (answerData (.obj [("namespaces", strings names)])) v
  | existsNamespace (there : request.nsParam ∈ v.namespaces) :
      Acts env request v .existsNamespace (answerData .null) v
  | listCluster (there : request.nsParam ∈ v.namespaces) (once : names.Nodup)
      (all : ∀ name, name ∈ names ↔ ∃ cluster, v.clusters request.nsParam name = some cluster) :
      Acts env request v .listCluster (answerData (.obj [("clusters", strings names)])) v
  | getCluster (found : v.clusters request.nsParam request.clusterParam = some cluster) :
      Acts env request v .getCluster (shows cluster) v
  | listShard (found : v.clusters request.nsParam request.clusterParam = some cluster) :
      Acts env request v .listShard (answerData (.obj [("shards", .arr (cluster.shards.map (·.marshalJSON)))])) v
  | getShard (found : v.clusters request.nsParam request.clusterParam = some cluster)
      (own : ShardOf request cluster shard) :
      Acts env request v .getShard (answerData (.obj [("shard", shard.marshalJSON)])) v
  | listNode (found : v.clusters request.nsParam request.clusterParam = some cluster)
      (own : ShardOf request cluster shard) :
      Acts env request v .listNode (answerData (.obj [("nodes", .arr (shard.nodes.map (·.marshalJSON)))])) v
  | createNamespace (bound : Context.decodeBody NamespaceHandler.decode request.body = .ok ns)
      (fresh : ns ∉ v.namespaces) :
      Acts env request v .createNamespace (answerData (.obj [("namespace", .str ns)]))
        { v with namespaces := insert ns v.namespaces }
  | removeNamespace (there : request.nsParam ∈ v.namespaces)
      (unused : ∀ name, v.clusters request.nsParam name = none) :
      Acts env request v .removeNamespace .null { v with namespaces := v.namespaces \ {request.nsParam} }
  | createCluster (there : request.nsParam ∈ v.namespaces)
      (bound : Context.decodeBody ClusterHandler.CreateClusterRequest.decode request.body = .ok req)
      (unused : ∀ addr ∈ req.nodes, ¬ v.Uses addr)
      (made : newCluster env.draw req.name req.nodes req.replicas = .ok cluster)
      (fresh : v.clusters request.nsParam req.name = none) :
      Acts env request v .createCluster (shows (cluster.setPassword req.password))
        (v.put request.nsParam (cluster.setPassword req.password).stored)
  | importCluster (there : request.nsParam ∈ v.namespaces)
      (bound : Context.decodeBody NodesRequest.decode request.body = .ok req) (named : req.nodes = addr :: rest)
      (reported : env.getClusterNodesString (newClusterNode (env.draw.fresh 0 0) addr req.password) = .ok text)
      (parsed : parseCluster text = .ok cluster)
      (unused : ∀ addr ∈ cluster.addrs, ¬ v.Uses addr)
      (fresh : v.clusters request.nsParam request.clusterParam = none)
      (renamed : imported = { cluster.setPassword req.password with name := request.clusterParam }) :
      Acts env request v .importCluster (shows imported) (v.put request.nsParam imported.stored)
  | removeCluster (found : v.clusters request.nsParam request.clusterParam = some cluster) :
      Acts env request v .removeCluster .null (v.drop request.nsParam request.clusterParam)
  | edit (found : v.clusters request.nsParam request.clusterParam = some cluster)
      (edit : Edit env request cluster endpoint next)
      (answered : EditAnswer env request cluster next (nextVersion next.version) endpoint body) :
      Acts env request v endpoint body
        (v.put request.nsParam (Cluster.stored { next with version := nextVersion next.version }))

inductive Step : Catalogue → Exchange → Catalogue → Prop where
  | acts (acts : Acts call.env call.request v call.route.endpoint body v') : Step v ⟨call, some body⟩ v'
  | refused : Step v ⟨call, none⟩ v

end Catalogue

/-- The catalogue in a map: the records under names without a slash. -/
def catalogue (kv : KV) : Catalogue where
  namespaces := {ns | NoSlash ns ∧ ∃ value, kv[appendPrefix ns]? = some value}
  clusters ns name := if NoSlash ns ∧ NoSlash name then (getCluster (flat .none) ns name kv).toOption else none

namespace Catalogue
variable {kv kv' : KV}

theorem clusters_eq (nsPlain : NoSlash ns) (plain : NoSlash name) :
    (catalogue kv).clusters ns name = (getCluster (flat .none) ns name kv).toOption :=
  if_pos ⟨nsPlain, plain⟩

theorem clusters_found (nsPlain : NoSlash ns) (plain : NoSlash name)
    (found : getCluster (flat .none) ns name kv = .ok cluster) : (catalogue kv).clusters ns name = some cluster := by
  rw [clusters_eq nsPlain plain, found]
  rfl

theorem clusters_read (nsPlain : NoSlash ns) (plain : NoSlash name)
    (read : getCluster (etcd faults) ns name kv = .ok cluster) : (catalogue kv).clusters ns name = some cluster :=
  clusters_found nsPlain plain (flat_read_sound read)

theorem clusters_decoded (nsPlain : NoSlash ns) (plain : NoSlash name) (stored : kv[buildClusterKey ns name]? = some value)
    (decoded : decode value = .ok cluster) : (catalogue kv).clusters ns name = some cluster :=
  clusters_found nsPlain plain (flat_read_ok.mpr ⟨value, stored, decoded⟩)

theorem clusters_stored (found : (catalogue kv).clusters ns name = some cluster) :
    NoSlash ns ∧ NoSlash name ∧ ∃ value, kv[buildClusterKey ns name]? = some value ∧ decode value = .ok cluster := by
  simp only [catalogue] at found
  split at found
  · rename_i plain
    refine ⟨plain.1, plain.2, flat_read_ok.mp ?_⟩
    cases read : getCluster (flat .none) ns name kv with
    | error err =>
      rw [read] at found
      cases found
    | ok c =>
      rw [read] at found
      obtain rfl := Option.some.inj found
      exact read
  · cases found

theorem clusters_absent (absent : kv[buildClusterKey ns name]? = none) : (catalogue kv).clusters ns name = none := by
  cases found : (catalogue kv).clusters ns name with
  | none => rfl
  | some cluster =>
    obtain ⟨_, _, value, stored, _⟩ := clusters_stored found
    rw [absent] at stored
    cases stored

section Writes

/-- What a write elsewhere leaves of the namespaces. -/
theorem namespaces_congr {after : KV} (same : ∀ ns, NoSlash ns → after[appendPrefix ns]? = kv[appendPrefix ns]?) :
    (catalogue after).namespaces = (catalogue kv).namespaces := by
  ext ns
  constructor
  · rintro ⟨plain, value, stored⟩
    exact ⟨plain, value, (same ns plain).symm.trans stored⟩
  · rintro ⟨plain, value, stored⟩
    exact ⟨plain, value, (same ns plain).trans stored⟩

theorem clusters_congr {after : KV} (same : NoSlash ns → NoSlash name →
    after[buildClusterKey ns name]? = kv[buildClusterKey ns name]?) :
    (catalogue after).clusters ns name = (catalogue kv).clusters ns name := by
  simp only [catalogue]
  split
  · rename_i plain
    rw [flat_read_congr (same plain.1 plain.2)]
  · rfl

theorem key_apart (nsPlain : NoSlash ns) (plain : NoSlash name) (other : ¬ (ns' = ns ∧ name' = name)) :
    buildClusterKey ns name ≠ buildClusterKey ns' name' :=
  fun same => other (nsPlain.plain.clusterKey_unique plain same)

/-- A record that is written is in the catalogue, and nothing else changes. -/
theorem insert_cluster {object : Cluster} (nsPlain : NoSlash ns) (plain : NoSlash object.name) (bounds : object.InBounds) :
    catalogue (kv.insert (buildClusterKey ns object.name) (.json object.marshalJSON)) =
      (catalogue kv).put ns object.stored := by
  refine Catalogue.ext ?_ ?_
  · apply namespaces_congr
    exact fun ns' spaced => Entries.insert_other spaced.plain.ne_clusterKey
  · funext ns' name
    by_cases own : ns' = ns ∧ name = object.stored.name
    · simp only [put, if_pos own]
      obtain ⟨rfl, rfl⟩ := own
      exact clusters_decoded nsPlain plain Std.ExtTreeMap.getElem?_insert_self (Cluster.unmarshal_marshal bounds)
    · simp only [put, if_neg own]
      apply clusters_congr
      exact fun _ _ => Entries.insert_other (key_apart nsPlain plain own)

theorem erase_cluster (nsPlain : NoSlash ns) (plain : NoSlash name) :
    catalogue (kv.erase (buildClusterKey ns name)) = (catalogue kv).drop ns name := by
  refine Catalogue.ext ?_ ?_
  · apply namespaces_congr
    exact fun ns' spaced => Entries.erase_other spaced.plain.ne_clusterKey
  · funext ns' name'
    by_cases own : ns' = ns ∧ name' = name
    · simp only [drop, if_pos own]
      obtain ⟨rfl, rfl⟩ := own
      apply clusters_absent
      rw [Std.ExtTreeMap.getElem?_erase_self]
    · simp only [drop, if_neg own]
      apply clusters_congr
      exact fun _ _ => Entries.erase_other (key_apart nsPlain plain own)

theorem insert_namespace (plain : NoSlash ns) (value : Value) :
    catalogue (kv.insert (appendPrefix ns) value) =
      { catalogue kv with namespaces := insert ns (catalogue kv).namespaces } := by
  refine Catalogue.ext ?_ ?_
  · ext ns'
    rw [Set.mem_insert_iff]
    by_cases same : ns' = ns
    · subst same
      exact iff_of_true ⟨plain, value, Std.ExtTreeMap.getElem?_insert_self⟩ (.inl rfl)
    · have apart : appendPrefix ns ≠ appendPrefix ns' := fun key => same (appendPrefix_inj.mp key).symm
      simp only [catalogue, Set.mem_ofPred_eq, same, false_or, Entries.insert_other apart]
  · funext ns' name
    apply clusters_congr
    exact fun _ _ => Entries.insert_other plain.plain.ne_clusterKey.symm

theorem erase_namespace (plain : NoSlash ns) :
    catalogue (kv.erase (appendPrefix ns)) =
      { catalogue kv with namespaces := (catalogue kv).namespaces \ {ns} } := by
  refine Catalogue.ext ?_ ?_
  · ext ns'
    rw [Set.mem_sdiff, Set.mem_singleton_iff]
    by_cases same : ns' = ns
    · subst same
      simp [catalogue]
    · have apart : appendPrefix ns ≠ appendPrefix ns' := fun key => same (appendPrefix_inj.mp key).symm
      simp only [catalogue, Set.mem_ofPred_eq, same, not_false_eq_true, and_true, Entries.erase_other apart]
  · funext ns' name
    apply clusters_congr
    exact fun _ _ => Entries.erase_other plain.plain.ne_clusterKey.symm

end Writes

/-- Every record is under a name without a slash, and reads as a cluster of that name. -/
structure Sound (kv : KV) : Prop where
  tidy : Tidy kv
  records : Entries.All (fun key value => ∀ ns name, NoSlash ns → NoSlash name → key = buildClusterKey ns name →
    ∃ cluster, decode value = .ok cluster ∧ cluster.name = name) kv

namespace Sound

theorem start : Sound ∅ := ⟨.empty, .empty⟩

theorem insert_namespace (sound : Sound kv) (plain : NoSlash ns) : Sound (kv.insert (appendPrefix ns) value) where
  tidy := tidy_insert sound.tidy (.inl ⟨ns, plain, rfl⟩)
  records := sound.records.insert fun _ _ _ _ same => absurd same.symm plain.plain.ne_clusterKey

theorem erase (sound : Sound kv) : Sound (kv.erase key) := ⟨tidy_erase sound.tidy, sound.records.erase⟩

theorem insert_cluster {object : Cluster} (sound : Sound kv) (nsPlain : NoSlash ns) (plain : NoSlash object.name)
    (bounds : object.InBounds) : Sound (kv.insert (buildClusterKey ns object.name) (.json object.marshalJSON)) where
  tidy := tidy_insert sound.tidy (.inr ⟨ns, _, nsPlain, plain, rfl⟩)
  records := by
    refine sound.records.insert fun ns' name _ _ same => ?_
    obtain ⟨_, rfl⟩ := nsPlain.plain.clusterKey_unique plain same
    exact ⟨object.stored, Cluster.unmarshal_marshal bounds, rfl⟩

theorem named (sound : Sound kv) (nsPlain : NoSlash ns) (plain : NoSlash name)
    (stored : kv[buildClusterKey ns name]? = some value) : ∃ cluster, decode value = .ok cluster ∧ cluster.name = name :=
  sound.records _ value stored ns name nsPlain plain rfl

/-- A cluster that is read has the name it was asked for, and its ranges are in bounds. -/
theorem read (sound : Sound kv) (nsPlain : NoSlash ns) (plain : NoSlash name)
    (read : getCluster (etcd faults) ns name kv = .ok cluster) : cluster.name = name ∧ cluster.InBounds := by
  obtain ⟨value, stored, decoded⟩ := flat_read_ok.mp (flat_read_sound read)
  obtain ⟨found, same, named⟩ := sound.named nsPlain plain stored
  obtain rfl := Except.ok.inj (decoded.symm.trans same)
  cases value with
  | text content => cases decoded
  | json j => exact ⟨named, Cluster.unmarshal_inBounds decoded⟩

theorem clusters_iff (sound : Sound kv) (nsPlain : NoSlash ns) :
    (∃ cluster, (catalogue kv).clusters ns name = some cluster) ↔
      NoSlash name ∧ ∃ value, kv[buildClusterKey ns name]? = some value := by
  constructor
  · rintro ⟨cluster, found⟩
    obtain ⟨_, plain, value, stored, _⟩ := clusters_stored found
    exact ⟨plain, value, stored⟩
  · rintro ⟨plain, value, stored⟩
    obtain ⟨cluster, decoded, _⟩ := sound.named nsPlain plain stored
    exact ⟨cluster, clusters_decoded nsPlain plain stored decoded⟩

end Sound

section Calls

theorem etcd_existing (plain : NoSlash ns) (found : existsNamespace (etcd faults) ns kv = .ok has) :
    has = true ↔ ns ∈ (catalogue kv).namespaces := by
  rw [etcd_existsNamespace, flat_existsNamespace_ok] at found
  obtain ⟨_, rfl⟩ := found
  rw [Option.isSome_iff_exists]
  exact (and_iff_right plain).symm

theorem listed_namespaces (sound : Sound kv) (read : listNamespace (etcd faults) kv = .ok names) :
    names.Nodup ∧ ∀ ns, ns ∈ names ↔ ns ∈ (catalogue kv).namespaces := by
  obtain ⟨_, rfl⟩ := etcd_listNamespace_ok.mp read
  obtain ⟨entries, same, shown⟩ := etcd_scans nsPrefix kv
  obtain rfl := Except.ok.inj same
  obtain ⟨once, members⟩ := scanned_namespaces sound.tidy
  exact ⟨shown.nodup_iff.mpr once, fun ns => shown.mem_iff.trans (members ns)⟩

theorem listed_clusters (sound : Sound kv) (nsPlain : NoSlash ns) (read : listCluster (etcd faults) ns kv = .ok names) :
    names.Nodup ∧ ∀ name, name ∈ names ↔ ∃ cluster, (catalogue kv).clusters ns name = some cluster := by
  obtain ⟨_, rfl⟩ := etcd_listCluster_ok.mp read
  obtain ⟨entries, same, shown⟩ := etcd_scans (buildClusterPrefix ns) kv
  obtain rfl := Except.ok.inj same
  obtain ⟨once, members⟩ := scanned_clusters sound.tidy nsPlain
  refine ⟨shown.nodup_iff.mpr once, fun name => ?_⟩
  rw [shown.mem_iff, members, sound.clusters_iff nsPlain]

theorem checked_unused (checked : checkNewNodes (etcd faults) nodes kv = .ok ()) :
    ∀ addr ∈ nodes, ¬ (catalogue kv).Uses addr := by
  rintro addr brought ⟨ns, name, cluster, ⟨nsPlain, _, there⟩, found, used⟩
  obtain ⟨_, plain, value, stored, decoded⟩ := clusters_stored found
  obtain ⟨namespaces, listed, inside⟩ := checkNewNodes_ok checked
  obtain ⟨clusters, shown, read⟩ := inside ns (listNamespace_complete listed nsPlain there)
  obtain ⟨c, got, unused⟩ := read name (listCluster_complete shown plain stored)
  obtain rfl := Option.some.inj (found.symm.trans (clusters_read nsPlain plain got))
  exact unused addr brought used

theorem finish_done {outcome : WriteOutcome} {before after left : KV} (ended : outcome.finish before after = (left, none)) :
    left = after := by
  cases outcome with
  | done => exact (Prod.ext_iff.mp ended).1.symm
  | refused err | unacknowledged err => cases (Prod.ext_iff.mp ended).2

theorem createNamespace_acts (sound : Sound kv) (plain : NoSlash ns)
    (answered : existsNamespace (etcd faults) ns kv = .ok has)
    (done : createNamespace (etcd faults) ns kv = (kv', none)) :
    Sound kv' ∧ ns ∉ (catalogue kv).namespaces ∧
      catalogue kv' = { catalogue kv with namespaces := insert ns (catalogue kv).namespaces } := by
  have there := etcd_existing plain answered
  unfold createNamespace at done
  rw [answered] at done
  cases has with
  | true => cases done
  | false =>
    obtain rfl : kv' = kv.insert (appendPrefix ns) (.text ns) := finish_done done
    exact ⟨sound.insert_namespace plain, fun member => Bool.false_ne_true (there.mpr member), insert_namespace plain _⟩

theorem removeNamespace_acts (sound : Sound kv) (plain : NoSlash ns)
    (done : removeNamespace (etcd faults) ns kv = (kv', none)) :
    Sound kv' ∧ ns ∈ (catalogue kv).namespaces ∧ (∀ name, (catalogue kv).clusters ns name = none) ∧
      catalogue kv' = { catalogue kv with namespaces := (catalogue kv).namespaces \ {ns} } := by
  unfold removeNamespace at done
  split at done
  · cases done
  · rename_i present
    split at done
    · cases done
    · rename_i clusters listed
      split at done
      · cases done
      · rename_i none
        obtain rfl : kv' = kv.erase (appendPrefix ns) := finish_done done
        refine ⟨sound.erase, ?_, fun name => ?_, erase_namespace plain⟩
        · cases checked : existsNamespace (etcd faults) ns kv with
          | error err => simp [checked, found] at present
          | ok has =>
            apply (etcd_existing plain checked).mp
            simpa [checked, found] using present
        · obtain rfl : clusters = [] := List.length_eq_zero_iff.mp (not_not.mp none)
          cases found : (catalogue kv).clusters ns name with
          | none => rfl
          | some cluster => cases ((listed_clusters sound plain listed).2 name).mpr ⟨cluster, found⟩

theorem created_acts {object : Cluster} (sound : Sound kv) (nsPlain : NoSlash ns)
    (answered : existsCluster (etcd faults) ns object.name kv = .ok has)
    (done : createCluster (etcd faults) ns object kv = (kv', none)) (plain : NoSlash object.name)
    (bounds : object.InBounds) :
    Sound kv' ∧ (catalogue kv).clusters ns object.name = none ∧ catalogue kv' = (catalogue kv).put ns object.stored := by
  rw [etcd_createCluster] at done
  rcases flat_createCluster_cases faults ns kv object with ⟨err, failed⟩ | ⟨absent, err, written⟩
  · rw [failed] at done
    cases done
  · obtain rfl := congrArg Prod.fst (written.symm.trans done)
    have free := absent (flat_existsCluster_answers answered)
    exact ⟨sound.insert_cluster nsPlain plain bounds, clusters_absent free, insert_cluster nsPlain plain bounds⟩

theorem removed_acts (sound : Sound kv) (nsPlain : NoSlash ns) (plain : NoSlash name)
    (done : removeCluster (etcd faults) ns name kv = (kv', none)) :
    Sound kv' ∧ catalogue kv' = (catalogue kv).drop ns name := by
  rw [etcd_removeCluster] at done
  rcases flat_removeCluster_cases faults ns name kv with ⟨err, failed⟩ | ⟨_, err, written⟩
  · rw [failed] at done
    cases done
  · obtain rfl := congrArg Prod.fst (written.symm.trans done)
    exact ⟨sound.erase, erase_cluster nsPlain plain⟩

theorem updated_acts {object : Cluster} (sound : Sound kv) (nsPlain : NoSlash ns) (plain : NoSlash object.name)
    (bounds : object.InBounds) (done : updateCluster (etcd faults) ns kv object = ⟨kv', version, none⟩) :
    Sound kv' ∧ version = nextVersion object.version ∧
      catalogue kv' = (catalogue kv).put ns (Cluster.stored { object with version := nextVersion object.version }) := by
  rw [etcd_updateCluster] at done
  rcases flat_updateCluster_cases faults ns kv object with ⟨_, err, failed⟩ | ⟨_, err, _, _, written⟩
  · rw [failed] at done
    cases done
  · rw [written] at done
    cases done
    let next : Cluster := { object with version := nextVersion object.version }
    have plain : NoSlash next.name := plain
    exact ⟨sound.insert_cluster nsPlain plain bounds, rfl, insert_cluster nsPlain plain bounds⟩

theorem edit_name {env : Env KV} (edit : Edit env request cluster endpoint next) : next.name = cluster.name := by
  cases edit with
  | migrateSlot _ migrated => exact (Cluster.migrateSlot_addrs migrated).2
  | createShard _ created => exact (ShardHandler.create_addrs created).2
  | removeShard removed => exact (ShardHandler.remove_addrs removed).2
  | failover promoted => exact (Cluster.promoteNewMaster_addrs promoted).2
  | createNode _ added => exact (Cluster.addNode_addrs added).2.1
  | removeNode removed => exact (Cluster.removeNode_addrs removed).2

end Calls

/-- No name has a slash, a check that a namespace or a cluster is new is answered, and nobody
asks for more shards than slots. -/
structure Clean (kv : KV) (env : Env KV) (request : Request) (endpoint : Endpoint) : Prop where
  ns : NoSlash request.nsParam
  cluster : NoSlash request.clusterParam
  newNamespace : endpoint = .createNamespace →
    ∀ ns, Context.decodeBody NamespaceHandler.decode request.body = .ok ns →
      NoSlash ns ∧ ∃ has, existsNamespace env.mutator ns kv = .ok has
  newCluster : endpoint = .createCluster →
    ∀ req, Context.decodeBody ClusterHandler.CreateClusterRequest.decode request.body = .ok req →
      NoSlash req.name ∧ req.nodes.length / (max req.replicas 1).toNat ≤ 16384 ∧
        ∃ has, existsCluster env.mutator request.nsParam req.name kv = .ok has
  imported : endpoint = .importCluster →
    ∃ has, existsCluster env.mutator request.nsParam request.clusterParam kv = .ok has

def Orderly (kv : KV) (l : Exchange) : Prop := Clean kv l.call.env l.call.request l.call.route.endpoint

/-- The leader over etcd serves a request, and hears of each write whether it was done. -/
structure Serves (kv : KV) (l : Exchange) (kv' : KV) : Prop where
  engine : ∃ reads, l.call.env.engine = etcd reads ∧ reads.External
  mutator : ∃ writes, l.call.env.mutator = etcd writes ∧ ∀ err, writes.write ≠ .unacknowledged err
  passes : Passes l.call.env
  registered : l.call.route ∈ initHandlers
  answered : ∀ body, l.answer = some body ↔ Acknowledges (serve l.call.env l.call.request l.call.route kv).1 body
  after : (serve l.call.env l.call.request l.call.route kv).1.store = kv'

section Done
variable {env : Env KV}

theorem done_acts (sound : Sound kv) (engine : env.engine = etcd reads) (external : reads.External)
    (mutator : env.mutator = etcd writes) (clean : Clean kv env request endpoint)
    (done : Done env request kv endpoint body kv') :
    Sound kv' ∧ Acts env request (catalogue kv) endpoint body (catalogue kv') := by
  obtain ⟨nsPlain, plain, newNamespace, newCluster, imported⟩ := clean
  cases done with
  | outside outside => exact ⟨sound, .outside outside⟩
  | listedNamespaces read =>
    rw [engine] at read
    obtain ⟨once, all⟩ := listed_namespaces sound read
    exact ⟨sound, .listNamespace once all⟩
  | existingNamespace there =>
    rw [engine] at there
    exact ⟨sound, .existsNamespace ((etcd_existing nsPlain there).mp rfl)⟩
  | listedClusters there read =>
    rw [engine] at there read
    obtain ⟨once, all⟩ := listed_clusters sound nsPlain read
    exact ⟨sound, .listCluster ((etcd_existing nsPlain there).mp rfl) once all⟩
  | unlistedClusters there failed missing =>
    -- etcd has no answer that the handler takes for an empty namespace
    rw [engine] at failed
    rw [external _ _ (etcd_listCluster_error failed)] at missing
    cases missing
  | gotCluster read =>
    rw [engine] at read
    exact ⟨sound, .getCluster (clusters_read nsPlain plain read)⟩
  | listedShards read =>
    rw [engine] at read
    exact ⟨sound, .listShard (clusters_read nsPlain plain read)⟩
  | gotShard read own =>
    rw [engine] at read
    exact ⟨sound, .getShard (clusters_read nsPlain plain read) own⟩
  | listedNodes read own =>
    rw [engine] at read
    exact ⟨sound, .listNode (clusters_read nsPlain plain read) own⟩
  | createdNamespace bound done =>
    obtain ⟨plain, has, answered⟩ := newNamespace rfl _ bound
    rw [mutator] at answered done
    obtain ⟨sound, fresh, view⟩ := createNamespace_acts sound plain answered done
    rw [view]
    exact ⟨sound, .createNamespace bound fresh⟩
  | removedNamespace done =>
    rw [mutator] at done
    obtain ⟨sound, there, unused, view⟩ := removeNamespace_acts sound nsPlain done
    rw [view]
    exact ⟨sound, .removeNamespace there unused⟩
  | createdCluster there bound fresh made done =>
    obtain ⟨plain, few, has, answered⟩ := newCluster rfl _ bound
    rw [engine] at there fresh
    rw [mutator] at answered done
    have there := etcd_existing nsPlain there
    obtain ⟨_, _, _, _, _, named, _⟩ := newCluster_ok made
    obtain ⟨sound, absent, view⟩ := created_acts sound nsPlain (named ▸ answered) done (named ▸ plain)
      ((Cluster.InBounds.created made few).setPassword _)
    rw [view]
    exact ⟨sound, .createCluster (there.mp rfl) bound (checked_unused fresh) made (named ▸ absent)⟩
  | importedCluster there bound named reported parsed fresh done =>
    obtain ⟨has, answered⟩ := imported rfl
    rw [engine] at there fresh
    rw [mutator] at answered done
    have there := etcd_existing nsPlain there
    obtain ⟨sound, absent, view⟩ := created_acts sound nsPlain answered done plain
      ((Cluster.InBounds.parsed parsed sortShards_perm).setPassword _)
    rw [Cluster.map_addr_getNodes, Cluster.setPassword_addrs] at fresh
    rw [view]
    exact ⟨sound, .importCluster (there.mp rfl) bound named reported parsed (checked_unused fresh) absent rfl⟩
  | removedCluster read done =>
    rw [engine] at read
    rw [mutator] at done
    obtain ⟨sound, view⟩ := removed_acts sound nsPlain plain done
    rw [view]
    exact ⟨sound, .removeCluster (clusters_read nsPlain plain read)⟩
  | edited read edit done answered =>
    rw [engine] at read
    rw [mutator] at done
    obtain ⟨named, bounds⟩ := sound.read nsPlain plain read
    have same := edit_name edit
    obtain ⟨sound, rfl, view⟩ := updated_acts sound nsPlain (same.trans named ▸ plain) (Records.edit_inBounds bounds edit) done
    rw [view]
    exact ⟨sound, .edit (clusters_read nsPlain plain read) edit answered⟩

end Done

theorem Serves.acts (sound : Sound kv) (step : Guarded Serves Orderly kv l kv') :
    Sound kv' ∧ Step (catalogue kv) l (catalogue kv') := by
  obtain ⟨clean, ⟨reads, engine, external⟩, ⟨writes, mutator, heard⟩, passes, registered, answered, rfl⟩ := step
  obtain ⟨call, answer⟩ := l
  have settles : Settles kv (Done call.env call.request kv call.route.endpoint)
      (serve call.env call.request call.route kv).1 :=
    serve_settles passes (mutator ▸ etcd_definite heard) registered
  rcases settles with ⟨kept, unacknowledged⟩ | ⟨body, acknowledged, done⟩
  · cases answer with
    | none => exact ⟨kept.symm ▸ sound, kept.symm ▸ .refused⟩
    | some body => exact absurd ((answered body).mp rfl) (unacknowledged body)
  · obtain rfl := (answered body).mpr acknowledged
    obtain ⟨sound, acts⟩ := done_acts sound engine external mutator clean done
    exact ⟨sound, .acts acts⟩

section Samples
open Addresses (server)

def responses (call : Addresses.Call) (kv : KV) : List Response := (serve call.env call.request call.route kv).1.responses

def left (call : Addresses.Call) (kv : KV) : KV := (serve call.env call.request call.route kv).1.store

theorem served_by (call : Addresses.Call) (own : call.env = server) :
    (∃ reads, call.env.engine = etcd reads ∧ reads.External) ∧
      (∃ writes, call.env.mutator = etcd writes ∧ ∀ err, writes.write ≠ .unacknowledged err) ∧ Passes call.env := by
  rw [own]
  refine ⟨⟨.none, rfl, ?_⟩, ⟨.none, rfl, ?_⟩, by decide, .inl rfl⟩
  · rintro _ _ ⟨⟩
  · rintro err ⟨⟩

variable (call : Addresses.Call) (kv : KV) (own : call.env = server) (registered : call.route ∈ initHandlers)
include own registered

theorem Serves.acknowledged (codes : (responses call kv).map (·.code) = [code]) (success : 200 ≤ code ∧ code < 300) :
    ∃ body, Serves kv ⟨call, some body⟩ (left call kv) := by
  obtain ⟨⟨_, location, body⟩, only, rfl⟩ := List.map_eq_singleton_iff.mp codes
  obtain ⟨engine, mutator, passes⟩ := served_by call own
  refine ⟨body, engine, mutator, passes, registered, fun other => ?_, rfl⟩
  constructor
  · intro same
    obtain rfl := Option.some.inj same
    exact ⟨_, location, only, success⟩
  · rintro ⟨_, _, again, _⟩
    cases only.symm.trans again
    rfl

theorem Serves.refused (codes : (responses call kv).map (·.code) = [code]) (failed : 300 ≤ code) :
    Serves kv ⟨call, none⟩ (left call kv) := by
  obtain ⟨engine, mutator, passes⟩ := served_by call own
  refine ⟨engine, mutator, passes, registered, fun body => ?_, rfl⟩
  constructor
  · intro same
    cases same
  · rintro ⟨success, location, only, _, upper⟩
    have only : responses call kv = [⟨success, location, body⟩] := only
    rw [only] at codes
    obtain rfl : success = code := List.singleton_inj.mp codes
    omega

end Samples

end Catalogue
end Kvrocks.Server
