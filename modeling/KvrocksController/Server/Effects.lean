import KvrocksController.Server.LeaderOnly

/-! What serving a request can do to the store: which store call an endpoint ends in,
and what it has checked before. A handler's code is read through rules for the store
it leaves. -/
namespace Kvrocks.Server
open HandlerChain ClusterStore

variable {σ : Type} {env : Env σ} {request : Request} {s : σ} {c : Context σ} {P : σ → Prop}

/-- The store that a handler's code leaves, whichever way it ends. -/
def Leaves (body : Body σ (Served σ)) (P : σ → Prop) : Prop := P body.run.1.store

namespace Leaves

theorem bind {x : Body σ α} {f : α → Body σ (Served σ)} (early : ∀ served, x = .error served → P served.1.store)
    (rest : ∀ a, x = .ok a → Leaves (f a) P) : Leaves (x >>= f) P := by
  cases x with
  | error served => exact early served rfl
  | ok a => exact rest a rfl

theorem orError {call : Except Error α} {f : α → Body σ (Served σ)} (kept : P c.store)
    (rest : ∀ a, call = .ok a → Leaves (f a) P) : Leaves (c.orError call >>= f) P := by
  cases call with
  | error e => exact kept
  | ok a => exact rest a rfl

theorem bindJSON {decode : Json → Except Error α} {f : α → Body σ (Served σ)} (kept : P c.store)
    (rest : ∀ a, Context.decodeBody decode request.body = .ok a → Leaves (f a) P) :
    Leaves (c.bindJSON request decode >>= f) P := by
  unfold Context.bindJSON
  cases bound : Context.decodeBody decode request.body with
  | error e => exact kept
  | ok a => exact rest a bound

theorem shouldBindJSON {decode : Json → Except Error α} {f : α → Body σ (Served σ)} (kept : P c.store)
    (rest : ∀ a, Context.decodeBody decode request.body = .ok a → Leaves (f a) P) :
    Leaves (c.shouldBindJSON request decode >>= f) P := by
  unfold Context.shouldBindJSON
  cases bound : Context.decodeBody decode request.body with
  | error e => exact kept
  | ok a => exact rest a bound

theorem mustGet {key : Option α} {f : α → Body σ (Served σ)} (kept : P c.store)
    (rest : ∀ a, key = some a → Leaves (f a) P) : Leaves (c.mustGet key >>= f) P := by
  cases key with
  | none => exact kept
  | some a => exact rest a rfl

theorem badRequest {f : α → Body σ (Served σ)} (kept : P c.store) : Leaves (c.badRequest e >>= f) P := kept

theorem mutate {call : σ → σ × Option Error} {f : Context σ → Body σ (Served σ)} (done : P (call c.store).1)
    (rest : ∀ after : Context σ, P after.store → Leaves (f after) P) :
    Leaves (c.mutate mutation call >>= f) P := by
  unfold Context.mutate
  cases called : call c.store with
  | mk after err =>
    rw [called] at done
    cases err with
    | none => exact rest _ done
    | some e => exact done

/-- A check that answers a bad request where `p` holds. -/
theorem refuse {p : Prop} [Decidable p] {f : Unit → Body σ (Served σ)} (kept : P c.store)
    (rest : ¬ p → Leaves (f ()) P) : Leaves (if p then c.badRequest e >>= f else f ()) P := by
  by_cases holds : p
  · rw [if_pos holds]
    exact kept
  · rw [if_neg holds]
    exact rest holds

theorem updateCluster {f : Context σ × Cluster → Body σ (Served σ)}
    (done : P (ClusterStore.updateCluster env.mutator ns c.store cluster).store)
    (rest : ∀ after : Context σ × Cluster, P after.1.store → Leaves (f after) P) :
    Leaves (c.updateCluster env ns cluster >>= f) P := by
  unfold Context.updateCluster
  rw [bind_assoc]
  exact mutate done fun after left => rest (after, _) left

end Leaves

/-- What an endpoint that edits a stored cluster makes of it. -/
inductive Edit (env : Env σ) (request : Request) (cluster : Cluster) : Endpoint → Cluster → Prop where
  | migrateSlot (bound : Context.decodeBody ClusterHandler.MigrateSlotRequest.decode request.body = .ok req)
      (migrated : cluster.migrateSlot env.replies req.slot req.target req.slotOnly = (next, none)) :
      Edit env request cluster .migrateSlot next
  | createShard (bound : Context.decodeBody NodesRequest.decode request.body = .ok req)
      (created : Kvrocks.ShardHandler.create env.draw req.nodes req.password cluster = .ok next) :
      Edit env request cluster .createShard next
  | removeShard (removed : Kvrocks.ShardHandler.remove shardIdx cluster = .ok next) :
      Edit env request cluster .removeShard next
  | failover (promoted : cluster.promoteNewMaster env.replies (ShardHandler.shardIndex request) "" preferred =
        .ok (next, newMasterNodeID)) :
      Edit env request cluster .failover next
  | createNode (bound : Context.decodeBody NodeHandler.CreateNodeRequest.decode request.body = .ok req)
      (added : cluster.addNode env.draw (ShardHandler.shardIndex request) req.addr req.role req.password = .ok next) :
      Edit env request cluster .createNode next
  | removeNode (removed : cluster.removeNode (ShardHandler.shardIndex request) request.idParam = (next, none)) :
      Edit env request cluster .removeNode next

/-- The store after a request, by the endpoint that served it. -/
inductive Effect (env : Env σ) (request : Request) (s : σ) : Endpoint → σ → Prop where
  | none : Effect env request s endpoint s
  | createdNamespace (bound : Context.decodeBody NamespaceHandler.decode request.body = .ok ns) :
      Effect env request s .createNamespace (createNamespace env.mutator ns s).1
  | removedNamespace : Effect env request s .removeNamespace (removeNamespace env.mutator request.nsParam s).1
  | createdCluster (there : existsNamespace env.engine request.nsParam s = .ok true)
      (bound : Context.decodeBody ClusterHandler.CreateClusterRequest.decode request.body = .ok req)
      (fresh : checkNewNodes env.engine req.nodes s = .ok ())
      (made : newCluster env.draw req.name req.nodes req.replicas = .ok cluster) :
      Effect env request s .createCluster
        (createCluster env.mutator request.nsParam (cluster.setPassword req.password) s).1
  | importedCluster (there : existsNamespace env.engine request.nsParam s = .ok true)
      (bound : Context.decodeBody NodesRequest.decode request.body = .ok req) (named : req.nodes = addr :: rest)
      (reported : env.getClusterNodesString (newClusterNode (env.draw.fresh 0 0) addr req.password) = .ok text)
      (parsed : parseCluster text = .ok cluster)
      (fresh : checkNewNodes env.engine ((cluster.setPassword req.password).getNodes.map (·.addr)) s = .ok ()) :
      Effect env request s .importCluster
        (createCluster env.mutator request.nsParam
          { cluster.setPassword req.password with name := request.clusterParam } s).1
  | removedCluster :
      Effect env request s .removeCluster (removeCluster env.mutator request.nsParam request.clusterParam s).1
  | edited (read : getCluster env.engine request.nsParam request.clusterParam s = .ok cluster)
      (edit : Edit env request cluster endpoint next) :
      Effect env request s endpoint (updateCluster env.mutator request.nsParam s next).store

section Endpoints

/-- What a handler finds in the context it runs in. -/
structure Faithful (env : Env σ) (request : Request) (s : σ) (c : Context σ) : Prop where
  store : c.store = s
  cluster : ∀ cluster, c.cluster = some cluster →
    getCluster env.engine request.nsParam request.clusterParam s = .ok cluster

theorem forM_error {xs : List α} {f : α → Body σ Unit} (stopped : xs.forM f = .error served) :
    ∃ x ∈ xs, f x = .error served := by
  induction xs with
  | nil => cases stopped
  | cons x xs ih =>
    change (f x >>= fun _ => xs.forM f) = _ at stopped
    cases first : f x with
    | error early =>
      rw [first] at stopped
      cases stopped
      exact ⟨x, List.mem_cons_self, first⟩
    | ok a =>
      rw [first] at stopped
      obtain ⟨y, member, here⟩ := ih stopped
      exact ⟨y, List.mem_cons_of_mem _ member, here⟩

/-- Asking the nodes whether they are in cluster mode writes nothing. -/
theorem checkClusterModes_error (stopped : ClusterHandler.checkClusterModes env request cluster c = .error served) :
    served.1.store = c.store := by
  unfold ClusterHandler.checkClusterModes at stopped
  split at stopped
  · obtain ⟨node, _, here⟩ := forM_error stopped
    cases asked : env.checkClusterMode node with
    | error e =>
      simp only [asked, Context.orError] at here
      cases here
      rfl
    | ok version =>
      simp only [asked, Context.orError] at here
      change (if version ≠ -1 then _ else _) = _ at here
      split at here
      · cases here
        rfl
      · cases here
  · cases stopped

theorem createNamespace_effect :
    Effect env request c.store .createNamespace (NamespaceHandler.create env request c).1.store := by
  unfold NamespaceHandler.create
  refine Leaves.bindJSON (P := Effect env request c.store .createNamespace) .none fun ns bound => ?_
  refine Leaves.refuse .none fun _ => ?_
  exact Leaves.mutate (.createdNamespace bound) fun _ left => left

theorem removeNamespace_effect :
    Effect env request c.store .removeNamespace (NamespaceHandler.remove env request c).1.store := by
  unfold NamespaceHandler.remove
  exact Leaves.mutate (P := Effect env request c.store .removeNamespace) .removedNamespace fun _ left => left

theorem createCluster_effect (there : existsNamespace env.engine request.nsParam c.store = .ok true) :
    Effect env request c.store .createCluster (ClusterHandler.create env request c).1.store := by
  unfold ClusterHandler.create
  refine Leaves.bindJSON (P := Effect env request c.store .createCluster) .none fun req bound => ?_
  refine Leaves.orError .none fun _ fresh => ?_
  dsimp only
  split
  · rename_i cluster made
    have created := Effect.createdCluster there bound fresh made
    refine Leaves.bind (x := ClusterHandler.checkClusterModes env request _ c) (fun served stopped => ?_) fun _ _ => ?_
    · rw [checkClusterModes_error stopped]
      exact .none
    · exact Leaves.mutate created fun _ left => left
  · exact .none

theorem importCluster_effect (there : existsNamespace env.engine request.nsParam c.store = .ok true) :
    Effect env request c.store .importCluster (ClusterHandler.importHandler env request c).1.store := by
  unfold ClusterHandler.importHandler
  refine Leaves.bindJSON (P := Effect env request c.store .importCluster) .none fun req bound => ?_
  dsimp only
  split
  · exact .none
  · rename_i named
    refine Leaves.orError .none fun text reported => ?_
    refine Leaves.orError .none fun cluster parsed => ?_
    refine Leaves.orError .none fun _ fresh => ?_
    have imported := Effect.importedCluster there bound named reported parsed fresh
    exact Leaves.mutate imported fun _ left => left

theorem removeCluster_effect :
    Effect env request c.store .removeCluster (ClusterHandler.remove env request c).1.store := by
  unfold ClusterHandler.remove
  exact Leaves.mutate (P := Effect env request c.store .removeCluster) .removedCluster fun _ left => left

theorem migrateSlot_effect :
    Effect env request c.store .migrateSlot (ClusterHandler.migrateSlot env request c).1.store := by
  unfold ClusterHandler.migrateSlot
  dsimp only
  split
  · exact .none
  · refine Leaves.orError (P := Effect env request c.store .migrateSlot) .none fun cluster read => ?_
    refine Leaves.bindJSON .none fun req bound => ?_
    split
    · rename_i next migrated
      have edited := Effect.edited read (.migrateSlot bound migrated)
      exact Leaves.updateCluster edited fun _ left => left
    · exact .none
    · exact .none

section Guarded
variable (faithful : Faithful env request c.store c)
include faithful

theorem createShard_effect :
    Effect env request c.store .createShard (ShardHandler.create env request c).1.store := by
  unfold ShardHandler.create
  refine Leaves.bindJSON (P := Effect env request c.store .createShard) .none fun req bound => ?_
  refine Leaves.refuse .none fun _ => ?_
  refine Leaves.mustGet .none fun cluster found => ?_
  dsimp only
  split
  · rename_i next created
    have edited := Effect.edited (faithful.cluster cluster found) (.createShard bound created)
    exact Leaves.updateCluster edited fun _ left => left
  · exact .none

theorem removeShard_effect :
    Effect env request c.store .removeShard (ShardHandler.remove env request c).1.store := by
  unfold ShardHandler.remove
  dsimp only
  split
  · refine Leaves.mustGet (P := Effect env request c.store .removeShard) .none fun cluster found => ?_
    split
    · rename_i next removed
      have edited := Effect.edited (faithful.cluster cluster found) (.removeShard removed)
      exact Leaves.updateCluster edited fun _ left => left
    · exact .none
  · exact .none

theorem failover_effect :
    Effect env request c.store .failover (ShardHandler.failover env request c).1.store := by
  unfold ShardHandler.failover
  refine Leaves.mustGet (P := Effect env request c.store .failover) .none fun cluster found => ?_
  refine Leaves.shouldBindJSON .none fun preferred bound => ?_
  refine Leaves.refuse .none fun _ => ?_
  refine Leaves.orError .none fun (next, newMasterNodeID) promoted => ?_
  have edited := Effect.edited (faithful.cluster cluster found) (.failover promoted)
  exact Leaves.updateCluster edited fun _ left => left

theorem createNode_effect :
    Effect env request c.store .createNode (NodeHandler.create env request c).1.store := by
  unfold NodeHandler.create
  refine Leaves.mustGet (P := Effect env request c.store .createNode) .none fun cluster found => ?_
  refine Leaves.shouldBindJSON .none fun req bound => ?_
  refine Leaves.orError .none fun next added => ?_
  have edited := Effect.edited (faithful.cluster cluster found) (.createNode bound added)
  exact Leaves.updateCluster edited fun _ left => left

theorem removeNode_effect :
    Effect env request c.store .removeNode (NodeHandler.remove env request c).1.store := by
  unfold NodeHandler.remove
  refine Leaves.mustGet (P := Effect env request c.store .removeNode) .none fun cluster found => ?_
  dsimp only
  split
  · rename_i next removed
    have edited := Effect.edited (faithful.cluster cluster found) (.removeNode removed)
    exact Leaves.updateCluster edited fun _ left => left
  · exact .none
  · exact .none

end Guarded

theorem existsNamespace_effect :
    Effect env request c.store .existsNamespace (NamespaceHandler.existsHandler env request c).1.store := by
  unfold NamespaceHandler.existsHandler
  refine Leaves.orError (P := Effect env request c.store .existsNamespace) .none fun ok _ => ?_
  cases ok <;> exact Effect.none

theorem listCluster_effect :
    Effect env request c.store .listCluster (ClusterHandler.list env request c).1.store := by
  unfold ClusterHandler.list
  split
  · exact .none
  · split <;> exact .none

theorem updatePeer_effect :
    Effect env request c.store .updatePeer (RaftHandler.updatePeer request c).1.store := by
  unfold RaftHandler.updatePeer
  refine Leaves.bindJSON (P := Effect env request c.store .updatePeer) .none fun req _ => ?_
  dsimp only
  split
  · refine Leaves.mustGet .none fun raftNode _ => ?_
    split
    · split
      · exact .none
      · generalize raftNode.addPeer _ _ = err
        cases err <;> exact Effect.none
    · split
      · exact .none
      · split
        · exact .none
        · generalize raftNode.removePeer _ = err
          cases err <;> exact Effect.none
  · exact .none

theorem endpoint_effect (faithful : Faithful env request s c)
    (there : endpoint = .createCluster ∨ endpoint = .importCluster →
      existsNamespace env.engine request.nsParam s = .ok true) :
    Effect env request s endpoint (endpoint.perform env request c).1.store := by
  obtain rfl := faithful.store
  cases endpoint with
  | pprof | metrics | noRoute => exact .none
  | updatePeer => exact updatePeer_effect
  | listPeers => exact Leaves.mustGet (P := Effect env request c.store _) .none fun _ _ => Effect.none
  | listNamespace => exact Leaves.orError (P := Effect env request c.store _) .none fun _ _ => Effect.none
  | existsNamespace => exact existsNamespace_effect
  | createNamespace => exact createNamespace_effect
  | removeNamespace => exact removeNamespace_effect
  | listCluster => exact listCluster_effect
  | createCluster => exact createCluster_effect (there (.inl rfl))
  | importCluster => exact importCluster_effect (there (.inr rfl))
  | removeCluster => exact removeCluster_effect
  | migrateSlot => exact migrateSlot_effect
  | getCluster | listShard | getShard | listNode =>
    exact Leaves.mustGet (P := Effect env request c.store _) .none fun _ _ => Effect.none
  | createShard => exact createShard_effect faithful
  | removeShard => exact removeShard_effect faithful
  | failover => exact failover_effect faithful
  | createNode => exact createNode_effect faithful
  | removeNode => exact removeNode_effect faithful

end Endpoints

section Chain

/-- No middleware writes to the store, and what it puts in the context it has read there. -/
theorem middleware_faithful (faithful : Faithful env request s c) (m : Middleware) :
    Faithful env request s (m.perform env request c).1 := by
  obtain ⟨rfl, cluster⟩ := faithful
  cases m with
  | collectMetrics | setStore => exact ⟨rfl, cluster⟩
  | redirectIfNotLeader =>
    simp only [Middleware.perform, redirectIfNotLeader]
    split
    · exact ⟨rfl, cluster⟩
    · split
      · exact ⟨rfl, cluster⟩
      · split
        · split <;> exact ⟨rfl, cluster⟩
        · exact ⟨rfl, cluster⟩
  | requiredNamespace =>
    simp only [Middleware.perform, requiredNamespace]
    split
    · exact ⟨rfl, cluster⟩
    · split <;> exact ⟨rfl, cluster⟩
  | requiredCluster =>
    simp only [Middleware.perform, requiredCluster]
    split
    · exact ⟨rfl, cluster⟩
    · split
      · exact ⟨rfl, cluster⟩
      · rename_i read
        exact ⟨rfl, fun found same => Option.some.inj same ▸ read⟩
  | requiredClusterShard =>
    simp only [Middleware.perform, requiredClusterShard]
    split
    · exact ⟨rfl, cluster⟩
    · split
      · exact ⟨rfl, cluster⟩
      · rename_i read
        split
        · exact ⟨rfl, cluster⟩
        · split
          · exact ⟨rfl, cluster⟩
          · exact ⟨rfl, fun found same => Option.some.inj same ▸ read⟩
  | requiredRaftEngine =>
    simp only [Middleware.perform, requiredRaftEngine]
    split
    · exact ⟨rfl, cluster⟩
    · split <;> exact ⟨rfl, cluster⟩

theorem requiredNamespace_passes (goes : (Middleware.requiredNamespace.perform env request c).2.goesOn = true) :
    existsNamespace env.engine request.nsParam c.store = .ok true := by
  simp only [Middleware.perform, requiredNamespace] at goes
  split at goes
  · cases goes
  · split at goes
    · cases goes
    · cases goes
    · assumption

theorem requiredCluster_passes (goes : (Middleware.requiredCluster.perform env request c).2.goesOn = true) :
    ∃ cluster, getCluster env.engine request.nsParam request.clusterParam c.store = .ok cluster := by
  simp only [Middleware.perform, requiredCluster] at goes
  split at goes
  · cases goes
  · split at goes
    · cases goes
    · exact ⟨_, ‹_›⟩

theorem endpoint_exec (endpoint : Endpoint) (c : Context σ) :
    (exec (performs env request) [.endpoint endpoint] c).1 = (endpoint.perform env request c).1 := by
  cases goes : (performs env request (.endpoint endpoint) c).2.goesOn with
  | true => rw [exec_goesOn goes]; rfl
  | false => rw [exec_stops goes]; rfl

/-- Behind the middlewares of the engine, in the contexts they leave. -/
theorem guarded_effect {route : Route} (registered : route ∈ initHandlers) (faithful : Faithful env request s c) :
    Effect env request s route.endpoint (exec (performs env request) route.guarded c).1.store := by
  have needs : ∀ route ∈ initHandlers, route.endpoint = .createCluster ∨ route.endpoint = .importCluster →
      route.guard = some .requiredNamespace := by decide
  have needed := needs route registered
  unfold Route.guarded
  cases kind : route.guard with
  | none =>
    rw [kind] at needed
    simp only [Option.toList_none, List.map_nil, List.nil_append, endpoint_exec]
    exact endpoint_effect faithful fun creates => nomatch needed creates
  | some guard =>
    rw [kind] at needed
    simp only [Option.toList_some, List.map_cons, List.map_nil, List.cons_append, List.nil_append]
    have passed := middleware_faithful faithful guard
    cases goes : (performs env request (.middleware guard) c).2.goesOn with
    | true =>
      rw [exec_goesOn goes, endpoint_exec]
      refine endpoint_effect passed fun creates => ?_
      obtain rfl := Option.some.inj (needed creates)
      exact faithful.store ▸ requiredNamespace_passes goes
    | false =>
      rw [exec_stops goes]
      exact passed.store.symm ▸ .none

/-- What a request leaves in the store, whoever leads. -/
theorem serve_effect (env : Env σ) (request : Request) (s : σ) {route : Route} (registered : route ∈ initHandlers) :
    Effect env request s route.endpoint (serve env request route s).1.store := by
  have faithful : Faithful env request s (ready s) := ⟨rfl, nofun⟩
  have passed := middleware_faithful faithful .redirectIfNotLeader
  rw [serve_final]
  cases goes : (performs env request (.middleware .redirectIfNotLeader) (ready s)).2.goesOn with
  | true =>
    rw [exec_goesOn goes]
    exact guarded_effect registered passed
  | false =>
    rw [exec_stops goes]
    exact passed.store.symm ▸ .none

end Chain
end Kvrocks.Server
