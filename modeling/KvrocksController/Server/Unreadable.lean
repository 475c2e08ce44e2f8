import KvrocksController.Server.Addresses
import KvrocksController.Store.Creation

/-! A record that cannot be read. `NewCluster` makes a cluster of more shards than slots,
whose record has a range that ends before it starts. From then on `CheckNewNodes`, which
reads every cluster, fails, so no cluster can be created or imported anywhere; and since
removing a cluster begins with reading it, no request takes the record away. -/
namespace Kvrocks.Server.Unreadable
open Kvrocks.Transition HandlerChain ClusterStore Addresses

section Guard
variable {σ : Type} {env : Env σ} {request : Request} {s : σ} {c : Context σ}

/-- A route behind `RequiredCluster` does nothing for a cluster that cannot be read. -/
theorem serve_requiredCluster {route : Route} (guarded : route.guard = some .requiredCluster)
    (unread : ∀ cluster, getCluster env.engine request.nsParam request.clusterParam s ≠ .ok cluster) :
    (serve env request route s).1.store = s := by
  have faithful : Faithful env request s (ready s) := ⟨rfl, by simp [ready, Context.start]⟩
  have passed := middleware_faithful faithful .redirectIfNotLeader
  rw [serve_final]
  cases goes : (performs env request (.middleware .redirectIfNotLeader) (ready s)).2.goesOn with
  | false =>
    rw [exec_stops goes]
    exact passed.store
  | true =>
    rw [exec_goesOn goes]
    simp only [Route.guarded, guarded, Option.toList_some, List.map_cons, List.map_nil, List.cons_append, List.nil_append]
    have checked := middleware_faithful passed .requiredCluster
    cases passes : (performs env request (.middleware .requiredCluster)
        (performs env request (.middleware .redirectIfNotLeader) (ready s)).1).2.goesOn with
    | false =>
      rw [exec_stops passes]
      exact checked.store
    | true =>
      obtain ⟨cluster, read⟩ := requiredCluster_passes passes
      exact absurd (passed.store ▸ read) (unread cluster)

theorem removeCluster_guarded : ∀ route ∈ initHandlers, route.endpoint = .removeCluster →
    route.guard = some .requiredCluster := by decide

end Guard

/-- Path parameters have no slash, and no namespace with one is created. -/
def Plain (_ : KV) (call : Call) : Prop :=
  NoSlash call.request.nsParam ∧ NoSlash call.request.clusterParam ∧
    ∀ ns, Context.decodeBody NamespaceHandler.decode call.request.body = .ok ns → NoSlash ns

/-- The record at this name is not that of a cluster, its namespace is there, and every
record was there at the start. -/
structure Locked (ns name : String) (j : Json) (start kv : KV) : Prop where
  record : kv[buildClusterKey ns name]? = some (.json j)
  present : ∃ value, kv[appendPrefix ns]? = some value
  fewer : Entries.All (fun key value => ∀ j, value = .json j → ∃ j, start[key]? = some (.json j)) kv

section Locked
variable {ns name : String} {j : Json} {start kv after : KV}
  (nsPlain : NoSlash ns) (plain : NoSlash name) (broken : ∀ cluster, Cluster.unmarshalJSON j ≠ .ok cluster)

namespace Locked

theorem unread (broken : ∀ cluster, Cluster.unmarshalJSON j ≠ .ok cluster) (locked : Locked ns name j start kv) :
    getCluster (etcd faults) ns name kv ≠ .ok cluster := by
  intro read
  obtain ⟨value, stored, decoded⟩ := flat_read_ok.mp (flat_read_sound read)
  obtain rfl := Option.some.inj (locked.record.symm.trans stored)
  exact broken cluster decoded

include nsPlain plain broken in
/-- `CheckNewNodes` comes across the record. -/
theorem unchecked (locked : Locked ns name j start kv) : checkNewNodes (etcd faults) nodes kv ≠ .ok () := by
  intro checked
  obtain ⟨value, there⟩ := locked.present
  obtain ⟨namespaces, listed, inside⟩ := checkNewNodes_ok checked
  obtain ⟨clusters, shown, read⟩ := inside ns (listNamespace_complete listed nsPlain there)
  obtain ⟨cluster, got, _⟩ := read name (listCluster_complete shown plain locked.record)
  exact locked.unread broken got

theorem text (locked : Locked ns name j start kv) (other : key ≠ buildClusterKey ns name) :
    Locked ns name j start (kv.insert key (.text content)) where
  record := (Entries.insert_other other).trans locked.record
  present := Entries.insert_present locked.present
  fewer := locked.fewer.insert (by rintro j ⟨⟩)

theorem erase (locked : Locked ns name j start kv) (other : key ≠ buildClusterKey ns name)
    (kept : key ≠ appendPrefix ns) : Locked ns name j start (kv.erase key) where
  record := (Entries.erase_other other).trans locked.record
  present := by
    rw [Entries.erase_other kept]
    exact locked.present
  fewer := locked.fewer.erase

/-- Another record is replaced. -/
theorem put (locked : Locked ns name j start kv) (other : key ≠ buildClusterKey ns name)
    (there : kv[key]? = some (.json old)) : Locked ns name j start (kv.insert key (.json new)) where
  record := (Entries.insert_other other).trans locked.record
  present := Entries.insert_present locked.present
  fewer := locked.fewer.insert fun _ _ => locked.fewer key _ there old rfl

/-- What is replaced could be read. -/
theorem replaced (broken : ∀ cluster, Cluster.unmarshalJSON j ≠ .ok cluster) (locked : Locked ns name j start kv)
    (read : getCluster (flat .none) other title kv = .ok old) :
    Locked ns name j start (kv.insert (buildClusterKey other title) (.json new)) := by
  obtain ⟨value, stored, decoded⟩ := flat_read_ok.mp read
  cases value with
  | text content => cases decoded
  | json found =>
    refine locked.put (fun same => ?_) stored
    rw [same, locked.record] at stored
    obtain rfl := Value.json.inj (Option.some.inj stored)
    exact broken old decoded

include nsPlain plain broken in
theorem change {env : Env KV} (locked : Locked ns name j start kv) (pathPlain : NoSlash request.nsParam)
    (bodyPlain : ∀ ns, Context.decodeBody NamespaceHandler.decode request.body = .ok ns → NoSlash ns)
    (elsewhere : endpoint = .removeCluster →
      buildClusterKey request.nsParam request.clusterParam ≠ buildClusterKey ns name)
    (change : Change env request kv endpoint after) : Locked ns name j start after := by
  cases change with
  | none => exact locked
  | createdNamespace bound => exact locked.text (bodyPlain _ bound).plain.ne_clusterKey.symm
  | removedNamespace unused =>
    refine locked.erase pathPlain.plain.ne_clusterKey.symm fun same => ?_
    obtain rfl := appendPrefix_inj.mp same
    exact unused name _ plain locked.record
  | createdCluster there bound fresh made => exact absurd fresh (locked.unchecked nsPlain plain broken)
  | importedCluster there bound named reported parsed fresh renamed =>
    exact absurd fresh (locked.unchecked nsPlain plain broken)
  | removedCluster => exact locked.erase (elsewhere rfl) nsPlain.plain.ne_clusterKey
  | edited read edit replaced counted =>
    subst counted
    exact locked.replaced broken replaced

include nsPlain plain broken in
theorem step (locked : Locked ns name j start kv) (step : Guarded Step Plain kv call after) :
    Locked ns name j start after := by
  obtain ⟨⟨pathPlain, clusterPlain, bodyPlain⟩, step⟩ := step
  by_cases own : call.route.endpoint = .removeCluster ∧ call.request.nsParam = ns ∧ call.request.clusterParam = name
  · -- the request would remove the record, but cannot read it
    obtain ⟨kind, rfl, rfl⟩ := own
    cases step with
    | served engine mutator registered =>
      have kept : (serve call.env call.request call.route kv).1.store = kv := by
        refine serve_requiredCluster (removeCluster_guarded _ registered kind) fun cluster => ?_
        rw [engine]
        exact locked.unread broken
      rw [kept]
      exact locked
  · refine locked.change nsPlain plain broken pathPlain bodyPlain (fun kind same => own ⟨kind, ?_⟩) step.change
    exact nsPlain.plain.clusterKey_unique plain same.symm

end Locked

include nsPlain plain broken in
/-- No request adds a cluster. -/
theorem Locked.refuses (locked : Locked ns name j start kv) (step : Step kv call after)
    (adds : call.route.endpoint = .createCluster ∨ call.route.endpoint = .importCluster) : after = kv := by
  have change := step.change
  generalize call.route.endpoint = endpoint at adds change
  cases change with
  | none => rfl
  | createdNamespace | removedNamespace | removedCluster => simp at adds
  | createdCluster there bound fresh made => exact absurd fresh (locked.unchecked nsPlain plain broken)
  | importedCluster there bound named reported parsed fresh renamed =>
    exact absurd fresh (locked.unchecked nsPlain plain broken)
  | edited read edit replaced counted => rcases adds with rfl | rfl <;> cases edit

end Locked

section Oversized

/-- A record is read only if all its ranges are. -/
theorem shard_ranges_read (read : Shard.unmarshalJSON (Shard.marshalJSON shard) = .ok s) (member : range ∈ shard.slotRanges) :
    ∃ parsed, parseSlotRange range.string = .ok parsed := by
  obtain ⟨field, members, read⟩ := bind_ok read
  obtain rfl := Except.ok.inj members
  obtain ⟨slotRanges, ranges, read⟩ := bind_ok read
  simp only [Shard.members_eq, Shard.member_slotRanges] at ranges
  obtain ⟨parsed, _, item⟩ := mapM_each ranges (List.mem_map_of_mem member)
  exact ⟨parsed, item⟩

theorem cluster_ranges_read (read : Cluster.unmarshalJSON (Cluster.marshalJSON cluster) = .ok c)
    (member : shard ∈ cluster.shards) (listed : range ∈ shard.slotRanges) :
    ∃ parsed, parseSlotRange range.string = .ok parsed := by
  obtain ⟨field, members, read⟩ := bind_ok read
  obtain rfl := Except.ok.inj members
  obtain ⟨version, _, read⟩ := bind_ok read
  obtain ⟨name, _, read⟩ := bind_ok read
  obtain ⟨shards, decoded, read⟩ := bind_ok read
  simp only [Cluster.member_shards] at decoded
  obtain ⟨s, _, item⟩ := mapM_each decoded (List.mem_map_of_mem member)
  exact shard_ranges_read item listed

/-- The record of more shards than slots. -/
theorem oversized_broken (made : newCluster draw name nodes replicas = .ok cluster)
    (many : 16384 < nodes.length / (max replicas 1).toNat) (password : String) (c : Cluster) :
    Cluster.unmarshalJSON (cluster.setPassword password).marshalJSON ≠ .ok c := by
  intro read
  obtain ⟨_, rfl⟩ := newCluster_creates.mp made
  have listed : [(⟨0, -1⟩ : SlotRange)] ∈ (newClusterShards draw nodes (max replicas 1).toNat).map (·.slotRanges) := by
    rw [newClusterShards_ranges]
    exact List.mem_map_of_mem (calculateSlotRanges_many many)
  obtain ⟨shard, member, ranges⟩ := List.mem_map.mp listed
  obtain ⟨parsed, accepted⟩ := cluster_ranges_read read (List.mem_map_of_mem member)
    (show (⟨0, -1⟩ : SlotRange) ∈ shard.slotRanges by simp [ranges])
  have refused : ∀ parsed, parseSlotRange (SlotRange.string ⟨0, -1⟩) ≠ .ok parsed := by
    intro parsed
    have known : parseSlotRange (SlotRange.string ⟨0, -1⟩) = 
        .error (.wrap "" (.of .invalidArgument) ", cannot have more than one range") := by decide +kernel
    rw [known]
    simp
  exact refused parsed accepted

theorem created_locked {kv : KV} (there : ∃ value, kv[appendPrefix ns]? = some value) :
    Locked ns name j (kv.insert (buildClusterKey ns name) (.json j)) (kv.insert (buildClusterKey ns name) (.json j)) where
  record := Std.ExtTreeMap.getElem?_insert_self
  present := Entries.insert_present there
  fewer := by
    rintro key _ stored j rfl
    exact ⟨j, stored⟩

/-- The state after a request for more shards than slots that was not refused. -/
theorem oversized_locked {kv s : KV} (creates : Step kv call s) (kind : call.route.endpoint = .createCluster)
    (bound : Context.decodeBody ClusterHandler.CreateClusterRequest.decode call.request.body = .ok req)
    (many : 16384 < req.nodes.length / (max req.replicas 1).toNat) (changed : s ≠ kv) :
    ∃ j, (∀ cluster, Cluster.unmarshalJSON j ≠ .ok cluster) ∧ Locked call.request.nsParam req.name j s s := by
  have change := creates.change
  rw [kind] at change
  cases change with
  | none => exact absurd rfl changed
  | edited read edit => cases edit
  | createdCluster there decoded fresh made =>
    obtain rfl := Except.ok.inj (bound.symm.trans decoded)
    obtain ⟨_, _, _, _, _, name, _⟩ := newCluster_ok made
    rw [name]
    exact ⟨_, oversized_broken made many req.password, created_locked there⟩

/-- A request for more shards than slots, once it is stored, is there for good. Whatever is
requested afterwards, the record stays and cannot be read, its namespace stays, no cluster is
created or imported, and no record is new. -/
theorem oversized_cluster_locks {kv s t : KV} (creates : Guarded Step Plain kv call s)
    (kind : call.route.endpoint = .createCluster)
    (bound : Context.decodeBody ClusterHandler.CreateClusterRequest.decode call.request.body = .ok req)
    (many : 16384 < req.nodes.length / (max req.replicas 1).toNat) (plain : NoSlash req.name) (changed : s ≠ kv)
    (run : Run (Guarded Step Plain) s calls t) :
    (∃ j, t[buildClusterKey call.request.nsParam req.name]? = some (.json j)) ∧
      (∀ faults cluster, getCluster (etcd faults) call.request.nsParam req.name t ≠ .ok cluster) ∧
      (∃ value, t[appendPrefix call.request.nsParam]? = some value) ∧
      (∀ (key : String) j, t[key]? = some (.json j) → ∃ j, s[key]? = some (.json j)) ∧
      ∀ next after, Step t next after →
        next.route.endpoint = .createCluster ∨ next.route.endpoint = .importCluster → after = t := by
  obtain ⟨⟨nsPlain, _⟩, creates⟩ := creates
  obtain ⟨j, broken, start⟩ := oversized_locked creates kind bound many changed
  have locked : Locked call.request.nsParam req.name j s t :=
    run.preserves (fun _ _ _ locked step => locked.step nsPlain plain broken step) start
  exact ⟨⟨j, locked.record⟩, fun faults cluster => locked.unread broken, locked.present,
    fun key j stored => locked.fewer key _ stored j rfl,
    fun next after step adds => locked.refuses nsPlain plain broken step adds⟩

section Samples

/-- A namespace without a cluster. -/
def stocked : KV := (∅ : KV).insert (appendPrefix "ns") (.text "ns")

def deleteCluster (name : String) : Call where
  env := server
  request := { namespaceRequest with nsParam := "ns", clusterParam := name, body := none }
  route := ⟨"DELETE", clustersPath ++ "/:cluster", some .requiredCluster, .removeCluster⟩

theorem createCluster_plain (kv : KV) (name : String) (nodes : List String) : Plain kv (createCluster name nodes) := by
  refine ⟨by change NoSlash "ns"; decide, by change NoSlash ""; decide, fun ns bound => ?_⟩
  obtain rfl : "" = ns := Except.ok.inj bound
  decide

theorem deleteCluster_plain (kv : KV) (plain : NoSlash name) : Plain kv (deleteCluster name) := by
  refine ⟨by change NoSlash "ns"; decide, plain, ?_⟩
  rintro ns ⟨⟩

theorem create_stored (made : newCluster server.draw "c" nodes 0 = .ok cluster) :
    (serve server (createCluster "c" nodes).request createClusterRoute stocked).1.store =
      stocked.insert (buildClusterKey "ns" "c") (.json (cluster.setPassword "").marshalJSON) := by
  have leads : (performs server (createCluster "c" nodes).request (.middleware .redirectIfNotLeader)
    (ready stocked)) = (ready stocked, .next) := by rfl
  have there : existsNamespace server.engine "ns" stocked = .ok true := by decide +kernel
  have inside : (performs server (createCluster "c" nodes).request (.middleware .requiredNamespace)
    (ready stocked)) = (ready stocked, .next) := by
    simp only [performs, Handler.perform, Middleware.perform, requiredNamespace]
    rw [show (createCluster "c" nodes).request.nsParam = "ns" from rfl, show (ready stocked).store = stocked from rfl, there]
    rfl
  have namespaces : listNamespace server.engine stocked = .ok ["ns"] := by decide +kernel
  have clusters : listCluster server.engine "ns" stocked = .ok [] := by decide +kernel
  have fresh : checkNewNodes server.engine nodes stocked = .ok () := by
    simp only [checkNewNodes, namespaces]
    simp [clusters, bind, Except.bind, pure, Except.pure]
  have body := createCluster_decodes "c" nodes
  have named : (cluster.setPassword "").name = "c" := by
    obtain ⟨_, _, _, _, _, name, _⟩ := newCluster_ok made
    exact name
  have written : ClusterStore.createCluster server.mutator "ns" (cluster.setPassword "") stocked =
      (stocked.insert (buildClusterKey "ns" "c") (.json (cluster.setPassword "").marshalJSON), none) := by
    have absent : existsCluster server.mutator "ns" "c" stocked = .ok false := by decide +kernel
    unfold ClusterStore.createCluster
    rw [named, absent]
    simp only [putCluster, named]
    rfl
  rw [serve_final, exec_goesOn (by rw [leads]; rfl), leads]
  have guarded : createClusterRoute.guarded = [.middleware .requiredNamespace, .endpoint .createCluster] := rfl
  rw [guarded]
  rw [exec_goesOn (by rw [inside]; rfl), inside, endpoint_exec]
  simp only [Endpoint.perform, ClusterHandler.create, Context.bindJSON, body]
  simp only [show (ready stocked).store = stocked from rfl, fresh, Context.orError, made, bind, Except.bind]
  have unasked : ClusterHandler.checkClusterModes server (createCluster "c" nodes).request (cluster.setPassword "")
      (ready stocked) = .ok () := by
    have header : namespaceRequest.dontCheckClusterMode.toLower ≠ "yes" := by decide +kernel
    exact if_neg header
  have nsParam : (createCluster "c" nodes).request.nsParam = "ns" := rfl
  simp only [unasked, Context.mutate, nsParam, show (ready stocked).store = stocked from rfl, written]
  rfl

theorem create_changes (made : newCluster server.draw "c" nodes 0 = .ok cluster) :
    ∃ s, Step stocked (createCluster "c" nodes) s ∧ s ≠ stocked := by
  refine ⟨_, .served rfl rfl (by change createClusterRoute ∈ initHandlers; decide), ?_⟩
  change (serve server (createCluster "c" nodes).request createClusterRoute stocked).1.store ≠ stocked
  rw [create_stored made]
  intro same
  have absent : stocked[buildClusterKey "ns" "c"]? = none := by decide +kernel
  rw [← same, Std.ExtTreeMap.getElem?_insert_self] at absent
  cases absent

theorem many_creatable : ∃ nodes : List String, nodes.length = 16385 ∧ Creatable nodes 0 := by
  have length : manyAddresses.length = 16385 := by simp [manyAddresses]
  refine ⟨manyAddresses, length, creatable_iff.mpr ⟨fun empty => ?_, by decide, Nat.one_dvd _⟩⟩
  rw [empty] at length
  cases length

end Samples

/-- One shard more than there are slots. Neither the cluster is removed nor another one made. -/
theorem oversized_cluster_locks_store : ∃ nodes s t, nodes.length = 16385 ∧
    Guarded Step Plain stocked (createCluster "c" nodes) s ∧ s ≠ stocked ∧
    Run (Guarded Step Plain) s [deleteCluster "c", createCluster "d" ["e:1"]] t ∧
    (∃ j, t[buildClusterKey "ns" "c"]? = some (.json j)) ∧
    ∀ faults cluster, getCluster (etcd faults) "ns" "c" t ≠ .ok cluster := by
  obtain ⟨nodes, length, creatable⟩ := many_creatable
  obtain ⟨s, creates, changed⟩ := create_changes (newCluster_creates.mpr ⟨creatable, rfl⟩)
  obtain ⟨t, run⟩ : ∃ t, Run (Guarded Step Plain) s [deleteCluster "c", createCluster "d" ["e:1"]] t :=
    ⟨_, .cons ⟨deleteCluster_plain _ (by decide), .served rfl rfl (by decide)⟩
      (.cons ⟨createCluster_plain _ _ _, .served rfl rfl (by decide)⟩ .nil)⟩
  have many : 16384 < nodes.length / (max (0 : Int) 1).toNat := by
    rw [length]
    decide
  obtain ⟨record, unread, _⟩ := oversized_cluster_locks ⟨createCluster_plain _ _ _, creates⟩ rfl
    (createCluster_decodes "c" nodes) many (by decide : NoSlash "c") changed run
  exact ⟨nodes, s, t, length, ⟨createCluster_plain _ _ _, creates⟩, changed, run, record, unread⟩

end Oversized
end Kvrocks.Server.Unreadable
