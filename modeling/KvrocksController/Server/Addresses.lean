import KvrocksController.Lib.Entries
import KvrocksController.Lib.Transition
import KvrocksController.Server.Changes

/-! Whether the stored clusters share node addresses, over every sequence of requests.
`CheckNewNodes` compares the addresses of a request with those of the clusters that the
listings show, and `addNode` with those of one shard; nothing compares the addresses of
a new shard, or those of one request with each other. -/
namespace Kvrocks.Server.Addresses
open Kvrocks.Transition ClusterStore

/-- One request, the route that serves it and the server as it finds it. -/
structure Call where
  env : Env KV
  request : Request
  route : Route

/-- Over etcd, each of whose calls may fail on its own. -/
inductive Step : KV → Call → KV → Prop where
  | served (engine : call.env.engine = etcd reads) (mutator : call.env.mutator = etcd writes)
      (registered : call.route ∈ initHandlers) :
      Step kv call (serve call.env call.request call.route kv).1.store

theorem Step.change (step : Step kv call after) : Change call.env call.request kv call.route.endpoint after := by
  cases step with
  | served engine mutator registered => exact (serve_effect call.env call.request kv registered).change engine mutator

def Stored (kv : KV) (key : String) (cluster : Cluster) : Prop := kv[key]? = some (.json cluster.marshalJSON)

/-- Every record is that of a cluster; no address stands twice in one, or in two. -/
structure Unique (kv : KV) : Prop where
  encoded : ∀ key j, kv[key]? = some (.json j) → ∃ cluster, Stored kv key cluster
  within : ∀ key cluster, Stored kv key cluster → cluster.addrs.Nodup
  across : ∀ key other cluster cluster', key ≠ other → Stored kv key cluster → Stored kv other cluster' →
    cluster.addrs.Disjoint cluster'.addrs

def New (kv : KV) (addr : String) : Prop := ∀ key cluster, Stored kv key cluster → addr ∉ cluster.addrs

/-- What the code leaves unchecked: the names have no slash, which would hide the cluster
from the listings, and the addresses of a request are distinct; those of a new shard are
not stored anywhere, and that of a new node is not outside the shard it is added to. -/
def Fresh (kv : KV) (env : Env KV) (request : Request) : Endpoint → Prop
  | .createCluster => NoSlash request.nsParam ∧
      ∀ req, Context.decodeBody ClusterHandler.CreateClusterRequest.decode request.body = .ok req →
        NoSlash req.name ∧ req.nodes.Nodup
  | .importCluster => NoSlash request.nsParam ∧ NoSlash request.clusterParam ∧
      ∀ req addr rest text cluster, Context.decodeBody NodesRequest.decode request.body = .ok req →
        req.nodes = addr :: rest →
        env.getClusterNodesString (newClusterNode (env.draw.fresh 0 0) addr req.password) = .ok text →
        parseCluster text = .ok cluster → cluster.addrs.Nodup
  | .createShard => ∀ req, Context.decodeBody NodesRequest.decode request.body = .ok req →
      req.nodes.Nodup ∧ ∀ addr ∈ req.nodes, New kv addr
  | .createNode => ∀ req, Context.decodeBody NodeHandler.CreateNodeRequest.decode request.body = .ok req →
      ∀ key cluster (i : Nat) own, Stored kv key cluster → cluster.shardAddrs[i]? = some own → req.addr ∈ own →
        key = buildClusterKey request.nsParam request.clusterParam ∧ ShardHandler.shardIndex request = i
  | _ => True

def Careful (kv : KV) (call : Call) : Prop := Fresh kv call.env call.request call.route.endpoint

/-- Where the records are, beside what they hold. -/
structure Holds (kv : KV) : Prop where
  placed : ∀ key j, kv[key]? = some (.json j) → ∃ ns cluster, j = Cluster.marshalJSON cluster ∧
    key = buildClusterKey ns cluster.name ∧ NoSlash ns ∧ NoSlash cluster.name ∧
    ∃ value, kv[appendPrefix ns]? = some value
  within : ∀ key cluster, Stored kv key cluster → cluster.addrs.Nodup
  across : ∀ key other cluster cluster', key ≠ other → Stored kv key cluster → Stored kv other cluster' →
    cluster.addrs.Disjoint cluster'.addrs

theorem Stored.shardAddrs (stored : Stored kv key cluster) (again : Stored kv key other) :
    cluster.shardAddrs = other.shardAddrs := by
  have same := stored.symm.trans again
  simp only [Option.some.injEq, Value.json.injEq] at same
  exact (Cluster.marshal_inj same).1

theorem Stored.addrs (stored : Stored kv key cluster) (again : Stored kv key other) : cluster.addrs = other.addrs := by
  rw [Cluster.addrs, stored.shardAddrs again, Cluster.addrs]

namespace Holds
variable {kv after : KV} {object : Cluster}

theorem unique (holds : Holds kv) : Unique kv where
  encoded := by
    intro key j stored
    obtain ⟨_, cluster, rfl, _⟩ := holds.placed key j stored
    exact ⟨cluster, stored⟩
  within := holds.within
  across := holds.across

/-- Records may go, as long as the namespaces of the others stay. -/
theorem mono (holds : Holds kv) (fewer : ∀ (key : String) (j : Json), after[key]? = some (.json j) → kv[key]? = some (.json j))
    (present : ∀ ns name j, NoSlash ns → NoSlash name → after[buildClusterKey ns name]? = some (.json j) →
      (∃ value, kv[appendPrefix ns]? = some value) → ∃ value, after[appendPrefix ns]? = some value) : Holds after where
  placed := by
    intro key j stored
    obtain ⟨ns, cluster, rfl, rfl, nsPlain, plain, there⟩ := holds.placed key j (fewer key j stored)
    exact ⟨ns, cluster, rfl, rfl, nsPlain, plain, present ns cluster.name _ nsPlain plain stored there⟩
  within := fun key cluster stored => holds.within key cluster (fewer key _ stored)
  across := fun key other _ _ apart stored also =>
    holds.across key other _ _ apart (fewer key _ stored) (fewer other _ also)

theorem text (holds : Holds kv) : Holds (kv.insert key (.text content)) := by
  refine holds.mono (fun other j stored => ?_) fun ns name j _ _ _ there => Entries.insert_present there
  rcases Entries.insert_cases stored with ⟨_, ⟨⟩⟩ | before
  exact before

theorem erase (holds : Holds kv)
    (unused : ∀ ns name j, NoSlash ns → NoSlash name → kv[buildClusterKey ns name]? = some (.json j) →
      key ≠ appendPrefix ns) : Holds (kv.erase key) := by
  refine holds.mono (fun other j => Entries.erase_kept) fun ns name j nsPlain plain stored there => ?_
  rwa [Entries.erase_other (unused ns name j nsPlain plain (Entries.erase_kept stored))]

theorem put (holds : Holds kv) (nsPlain : NoSlash ns) (plain : NoSlash object.name)
    (there : ∃ value, kv[appendPrefix ns]? = some value) (distinct : object.addrs.Nodup)
    (apart : ∀ other cluster, other ≠ buildClusterKey ns object.name → Stored kv other cluster →
      object.addrs.Disjoint cluster.addrs) :
    Holds (kv.insert (buildClusterKey ns object.name) (.json object.marshalJSON)) := by
  have own : Stored (kv.insert (buildClusterKey ns object.name) (.json object.marshalJSON))
      (buildClusterKey ns object.name) object := Std.ExtTreeMap.getElem?_insert_self
  have others (key : String) (other : key ≠ buildClusterKey ns object.name) :
      (kv.insert (buildClusterKey ns object.name) (.json object.marshalJSON))[key]? = kv[key]? :=
    Entries.insert_other other.symm
  constructor
  · intro key j stored
    by_cases here : key = buildClusterKey ns object.name
    · subst here
      have same := own.symm.trans stored
      simp only [Option.some.injEq, Value.json.injEq] at same
      exact ⟨ns, object, same.symm, rfl, nsPlain, plain, Entries.insert_present there⟩
    · obtain ⟨otherNs, cluster, encoded, at_, otherPlain, name, found⟩ :=
        holds.placed key j ((others key here).symm.trans stored)
      exact ⟨otherNs, cluster, encoded, at_, otherPlain, name, Entries.insert_present found⟩
  · intro key cluster stored
    by_cases here : key = buildClusterKey ns object.name
    · subst here
      exact own.addrs stored ▸ distinct
    · exact holds.within key cluster ((others key here).symm.trans stored)
  · intro key other cluster cluster' differ stored also
    by_cases here : key = buildClusterKey ns object.name
    · subst here
      rw [← own.addrs stored]
      exact apart other cluster' (Ne.symm differ) ((others other (Ne.symm differ)).symm.trans also)
    · have before : Stored kv key cluster := (others key here).symm.trans stored
      by_cases there : other = buildClusterKey ns object.name
      · subst there
        rw [← own.addrs also]
        exact fun addr used here' => apart key cluster here before here' used
      · exact holds.across key other _ _ differ before ((others other there).symm.trans also)

/-- Without a slash in the names, `CheckNewNodes` sees every stored address. -/
theorem checked (holds : Holds kv) (checked : checkNewNodes (etcd faults) nodes kv = .ok ()) :
    ∀ addr ∈ nodes, New kv addr := by
  intro addr brought key cluster stored
  obtain ⟨ns, encoded, same, rfl, nsPlain, plain, value, there⟩ := holds.placed key _ stored
  obtain ⟨namespaces, listed, inside⟩ := checkNewNodes_ok checked
  obtain ⟨clusters, shown, read⟩ := inside ns (listNamespace_complete listed nsPlain there)
  obtain ⟨c, got, unused⟩ := read encoded.name (listCluster_complete shown plain stored)
  obtain ⟨found, at_, decoded⟩ := flat_read_ok.mp (flat_read_sound got)
  obtain rfl := Option.some.inj (stored.symm.trans at_)
  have decodedAddrs : c.addrs = cluster.addrs := by
    rw [Cluster.addrs, Cluster.unmarshal_shardAddrs decoded, Cluster.addrs]
  exact decodedAddrs ▸ unused addr brought

/-- What a cluster that was read becomes, with addresses that no record has. -/
theorem edit (holds : Holds kv) (object : Cluster) (stored : Stored kv (buildClusterKey ns name) cluster)
    (named : object.name = cluster.name) (sub : object.addrs.Subperm (added ++ cluster.addrs)) (distinct : added.Nodup)
    (unused : ∀ addr ∈ added, New kv addr) :
    Holds (kv.insert (buildClusterKey ns object.name) (.json object.marshalJSON)) := by
  obtain ⟨ns', encoded, same, key, nsPlain, plain, there⟩ := holds.placed _ _ stored
  have header : cluster.name = encoded.name := (Cluster.marshal_inj same).2
  obtain ⟨rfl, rfl⟩ := nsPlain.plain.clusterKey_unique plain key.symm
  rw [← header, ← named] at plain
  have whole : (added ++ cluster.addrs).Nodup := by
    refine distinct.append (holds.within _ _ stored) fun addr brought used => ?_
    exact unused addr brought _ _ stored used
  have kept : object.addrs.Nodup := by
    obtain ⟨shuffled, perm, fewer⟩ := sub
    exact perm.nodup_iff.mp (whole.sublist fewer)
  refine holds.put nsPlain plain there kept fun other cluster' elsewhere also addr here used => ?_
  rcases List.mem_append.mp (sub.subset here) with brought | kept
  · exact unused addr brought _ _ also used
  · rw [named, header] at elsewhere
    exact holds.across _ _ _ _ (Ne.symm elsewhere) stored also kept used

end Holds

theorem read_stored {kv : KV} (holds : Holds kv) (read : getCluster (etcd faults) ns name kv = .ok cluster) :
    ∃ record, Stored kv (buildClusterKey ns name) record ∧ cluster.shardAddrs = record.shardAddrs ∧
      cluster.name = record.name := by
  obtain ⟨value, stored, decoded⟩ := flat_read_ok.mp (flat_read_sound read)
  cases value with
  | text content => cases decoded
  | json j =>
    obtain ⟨_, record, rfl, _⟩ := holds.placed _ _ stored
    exact ⟨record, stored, Cluster.unmarshal_shardAddrs decoded, (decode_marshal_header decoded).1⟩

/-- The addresses an edit brings in are new where the request is careful. -/
theorem edit_brings {kv : KV} (careful : Fresh kv env request endpoint) (edit : Edit env request cluster endpoint next)
    (stored : Stored kv (buildClusterKey request.nsParam request.clusterParam) record)
    (same : cluster.shardAddrs = record.shardAddrs) :
    next.name = cluster.name ∧ ∃ added, next.addrs.Subperm (added ++ record.addrs) ∧ added.Nodup ∧
      ∀ addr ∈ added, New kv addr := by
  have whole : cluster.addrs = record.addrs := by rw [Cluster.addrs, same, Cluster.addrs]
  rw [← whole]
  cases edit with
  | migrateSlot bound migrated =>
    obtain ⟨addrs, name⟩ := Cluster.migrateSlot_addrs migrated
    exact ⟨name, [], addrs ▸ List.Subperm.refl _, List.nodup_nil, List.forall_mem_nil _⟩
  | createShard bound created =>
    obtain ⟨addrs, name⟩ := ShardHandler.create_addrs created
    obtain ⟨distinct, unused⟩ := careful _ bound
    exact ⟨name, _, addrs ▸ List.perm_append_comm.subperm, distinct, unused⟩
  | removeShard removed =>
    obtain ⟨addrs, name⟩ := ShardHandler.remove_addrs removed
    exact ⟨name, [], addrs.subperm, List.nodup_nil, List.forall_mem_nil _⟩
  | failover promoted =>
    obtain ⟨addrs, name⟩ := Cluster.promoteNewMaster_addrs promoted
    exact ⟨name, [], addrs ▸ List.Subperm.refl _, List.nodup_nil, List.forall_mem_nil _⟩
  | createNode bound added =>
    rename_i req
    obtain ⟨addrs, name, i, own, index, here, absent⟩ := Cluster.addNode_addrs added
    refine ⟨name, [req.addr], addrs.subperm, List.nodup_singleton _, ?_⟩
    intro addr brought key other also used
    obtain rfl := List.mem_singleton.mp brought
    -- the address can only be in the shard that `addNode` has checked
    obtain ⟨found, member, inside⟩ := List.mem_flatten.mp used
    obtain ⟨j, position⟩ := List.getElem?_of_mem member
    obtain ⟨rfl, at_⟩ := careful req bound key other j found also position inside
    obtain rfl : i = j := by
      rw [index] at at_
      exact Int.ofNat.inj at_
    rw [also.shardAddrs stored, ← same, here] at position
    obtain rfl := Option.some.inj position
    exact absent inside
  | removeNode removed =>
    obtain ⟨addrs, name⟩ := Cluster.removeNode_addrs removed
    exact ⟨name, [], addrs.subperm, List.nodup_nil, List.forall_mem_nil _⟩

theorem Holds.created {kv : KV} {object : Cluster} (holds : Holds kv) (nsPlain : NoSlash ns) (plain : NoSlash object.name)
    (there : ∃ value, kv[appendPrefix ns]? = some value) (distinct : object.addrs.Nodup)
    (unused : ∀ addr ∈ object.addrs, New kv addr) :
    Holds (kv.insert (buildClusterKey ns object.name) (.json object.marshalJSON)) :=
  holds.put nsPlain plain there distinct fun other cluster _ also addr here => unused addr here other cluster also

theorem Holds.change {kv : KV} (holds : Holds kv) (careful : Fresh kv env request endpoint)
    (change : Change env request kv endpoint after) : Holds after := by
  cases change with
  | none => exact holds
  | createdNamespace bound => exact holds.text
  | removedNamespace unused =>
    refine holds.erase fun ns name j _ plain stored same => ?_
    obtain rfl := appendPrefix_inj.mp same
    exact unused name _ plain stored
  | createdCluster there bound fresh made =>
    rename_i req _ cluster
    obtain ⟨nsPlain, named⟩ := careful
    obtain ⟨plain, distinct⟩ := named _ bound
    obtain ⟨_, _, _, _, _, name, _⟩ := newCluster_ok made
    rw [← newCluster_addrs made, ← cluster.setPassword_addrs req.password] at distinct fresh
    have named : NoSlash (cluster.setPassword req.password).name := name ▸ plain
    exact holds.created nsPlain named there distinct (holds.checked fresh)
  | importedCluster there bound named reported parsed fresh renamed =>
    rename_i req _ _ _ cluster _ _
    obtain ⟨nsPlain, plain, distinct⟩ := careful
    have once := distinct _ _ _ _ _ bound named reported parsed
    rw [← cluster.setPassword_addrs req.password] at once fresh
    subst renamed
    exact holds.created nsPlain plain there once (holds.checked fresh)
  | removedCluster => exact holds.erase fun ns name j nsPlain _ _ same => nsPlain.plain.ne_clusterKey same
  | edited read edit _ counted =>
    obtain ⟨record, stored, same, header⟩ := read_stored holds read
    obtain ⟨name, added, sub, distinct, unused⟩ := edit_brings careful edit stored same
    subst counted
    exact holds.edit _ stored (name.trans header) sub distinct unused

theorem Holds.step {kv : KV} (holds : Holds kv) (step : Guarded Step Careful kv call after) : Holds after :=
  holds.change step.1 step.2.change

theorem Holds.start : Holds ∅ := by
  constructor
  · intro key j stored
    simp at stored
  · intro key cluster stored
    simp [Stored] at stored
  · intro key other cluster cluster' _ stored
    simp [Stored] at stored

/-- In every run of careful requests from the empty store, no two stored nodes have one address. -/
theorem addresses_unique (run : Run (Guarded Step Careful) ∅ calls kv) : Unique kv :=
  (run.preserves (fun _ _ _ holds step => holds.step step) Holds.start).unique

/-- The addresses that a cluster is read with are those of its record. -/
theorem Unique.read {kv : KV} (unique : Unique kv) (read : getCluster (etcd faults) ns name kv = .ok cluster) :
    cluster.addrs.Nodup := by
  obtain ⟨value, stored, decoded⟩ := flat_read_ok.mp (flat_read_sound read)
  cases value with
  | text content => cases decoded
  | json j =>
    obtain ⟨record, here⟩ := unique.encoded _ _ stored
    obtain rfl := Value.json.inj (Option.some.inj (stored.symm.trans here))
    rw [Cluster.addrs, Cluster.unmarshal_shardAddrs decoded]
    exact unique.within _ _ here

section Samples

def server : Env KV := { leading with engine := etcd .none, mutator := etcd .none }

def createNamespace : Call := ⟨server, namespaceRequest, createNamespaceRoute⟩

def createClusterRoute : Route := ⟨"POST", clustersPath, some .requiredNamespace, .createCluster⟩

def createCluster (name : String) (nodes : List String) : Call where
  env := server
  request := { namespaceRequest with nsParam := "ns", body := some (.obj [("name", .str name), ("nodes", strings nodes)]) }
  route := createClusterRoute

def createShardRoute : Route := ⟨"POST", shardsPath, some .requiredCluster, .createShard⟩

def createShard (name : String) (nodes : List String) : Call where
  env := server
  request := { namespaceRequest with nsParam := "ns", clusterParam := name, body := some (.obj [("nodes", strings nodes)]) }
  route := createShardRoute

def addrsOf (name : String) (kv : KV) : Except Error (List String) := (getCluster (etcd .none) "ns" name kv).map (·.addrs)

theorem repeated_not_unique {kv : KV} (shown : addrsOf name kv = .ok addrs) (twice : ¬ addrs.Nodup) : ¬ Unique kv := by
  intro unique
  obtain ⟨cluster, read, rfl⟩ := map_ok shown
  exact twice (unique.read read)

theorem createCluster_decodes (name : String) (nodes : List String) :
    Context.decodeBody ClusterHandler.CreateClusterRequest.decode (createCluster name nodes).request.body =
      .ok ⟨name, nodes, "", 0⟩ := by
  have read : Json.list jsonMismatch (Json.string jsonMismatch) (strings nodes) = .ok (nodes.map id) :=
    Json.list_arr fun _ _ => rfl
  rw [List.map_id] at read
  have field : Json.member "nodes" [("name", .str name), ("nodes", strings nodes)] .null = strings nodes := rfl
  simp only [createCluster, Context.decodeBody, ClusterHandler.CreateClusterRequest.decode, Json.fields, bind,
    Except.bind, field, read]
  rfl

theorem createCluster_careful (plain : NoSlash name) (distinct : nodes.Nodup) :
    Careful kv (createCluster name nodes) := by
  have nsPlain : NoSlash "ns" := by decide
  refine ⟨nsPlain, fun req bound => ?_⟩
  obtain rfl := Except.ok.inj ((createCluster_decodes name nodes).symm.trans bound)
  exact ⟨plain, distinct⟩

end Samples

/-- Two clusters with different addresses. -/
theorem addresses_unique_pair :
    ∃ kv, Run (Guarded Step Careful) ∅ [createNamespace, createCluster "c" ["a:1"], createCluster "d" ["b:1", "b:2"]] kv ∧
      Unique kv ∧ addrsOf "c" kv = .ok ["a:1"] ∧ addrsOf "d" kv = .ok ["b:1", "b:2"] := by
  have run : Run (Guarded Step Careful) ∅
      [createNamespace, createCluster "c" ["a:1"], createCluster "d" ["b:1", "b:2"]] _ :=
    .cons ⟨trivial, .served rfl rfl (by decide)⟩
      (.cons ⟨createCluster_careful (by decide) (by decide), .served rfl rfl (by decide)⟩
        (.cons ⟨createCluster_careful (by decide) (by decide), .served rfl rfl (by decide)⟩ .nil))
  exact ⟨_, run, addresses_unique run, by decide +kernel, by decide +kernel⟩

/-- One request names an address twice, and a new shard takes the address of another cluster's node. -/
theorem addresses_repeat :
    ∃ kv, Run Step ∅ [createNamespace, createCluster "c" ["a:1", "a:1"], createCluster "d" ["b:1"],
        createShard "d" ["a:1"]] kv ∧
      addrsOf "c" kv = .ok ["a:1", "a:1"] ∧ addrsOf "d" kv = .ok ["b:1", "a:1"] ∧ ¬ Unique kv := by
  have run : Run Step ∅ [createNamespace, createCluster "c" ["a:1", "a:1"], createCluster "d" ["b:1"],
      createShard "d" ["a:1"]] _ :=
    .cons (.served rfl rfl (by decide)) (.cons (.served rfl rfl (by decide)) (.cons (.served rfl rfl (by decide))
      (.cons (.served rfl rfl (by decide)) .nil)))
  refine ⟨_, run, ?repeated, by decide +kernel, repeated_not_unique ?repeated (by decide)⟩
  decide +kernel

end Kvrocks.Server.Addresses
