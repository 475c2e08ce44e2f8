import KvrocksController.Server.LeaderOnly
import KvrocksController.Store.Consul

/-! The server over two engines that answer alike: every request gets the same responses.
The handlers are compared line by line through rules for the calls they are made of. -/
namespace Kvrocks.Server
open HandlerChain ClusterStore

/-- What a server sees during one request, but for its engine. -/
structure Surroundings where
  leader : String
  id : String
  raft : Option RaftNode
  replies : NodeReplies
  checkClusterMode : ClusterNode → Except Error Int
  getClusterNodesString : ClusterNode → Except Error String
  draw : Draw
  page : String → Response

def Surroundings.env (around : Surroundings) (engine mutator : Engine σ) : Env σ where
  engine := engine
  mutator := mutator
  leader := around.leader
  id := around.id
  raft := around.raft
  replies := around.replies
  checkClusterMode := around.checkClusterMode
  getClusterNodesString := around.getClusterNodesString
  draw := around.draw
  page := around.page

/-- The same context over another store. -/
def Context.onStore (c : Context σ) (t : τ) : Context τ where
  store := t
  responses := c.responses
  mutations := c.mutations
  hasStore := c.hasStore
  isRedirect := c.isRedirect
  cluster := c.cluster
  shard := c.shard
  raftNode := c.raftNode

variable {σ τ : Type} {R : σ → τ → Prop} {c : Context σ} {t : τ} {request : Request}

/-- Two ends of a handler that differ in the store only, and there are related. -/
def Matches (R : σ → τ → Prop) (left : Served σ) (right : Served τ) : Prop :=
  ∃ t, R left.1.store t ∧ right = (left.1.onStore t, left.2)

theorem Matches.ite {p : Prop} [Decidable p] {yes no : Served σ} {yes' no' : Served τ} (holds : Matches R yes yes')
    (fails : Matches R no no') : Matches R (if p then yes else no) (if p then yes' else no') := by
  split
  · exact holds
  · exact fails

/-- The code of one handler over both engines. -/
def Agrees (R : σ → τ → Prop) (left : Body σ (Served σ)) (right : Body τ (Served τ)) : Prop :=
  Matches R left.run right.run

namespace Agrees
variable (related : R c.store t)
include related

theorem orError {call : Except Error α} {f : α → Body σ (Served σ)} {g : α → Body τ (Served τ)}
    (rest : ∀ a, Agrees R (f a) (g a)) : Agrees R (c.orError call >>= f) ((c.onStore t).orError call >>= g) := by
  cases call with
  | error e => exact ⟨t, related, rfl⟩
  | ok a => exact rest a

theorem bindJSON {decode : Json → Except Error α} {f : α → Body σ (Served σ)} {g : α → Body τ (Served τ)}
    (rest : ∀ a, Agrees R (f a) (g a)) :
    Agrees R (c.bindJSON request decode >>= f) ((c.onStore t).bindJSON request decode >>= g) := by
  unfold Context.bindJSON
  cases Context.decodeBody decode request.body with
  | error e => exact ⟨t, related, rfl⟩
  | ok a => exact rest a

theorem shouldBindJSON {decode : Json → Except Error α} {f : α → Body σ (Served σ)} {g : α → Body τ (Served τ)}
    (rest : ∀ a, Agrees R (f a) (g a)) :
    Agrees R (c.shouldBindJSON request decode >>= f) ((c.onStore t).shouldBindJSON request decode >>= g) := by
  unfold Context.shouldBindJSON
  cases Context.decodeBody decode request.body with
  | error e => exact ⟨t, related, rfl⟩
  | ok a => exact rest a

theorem mustGet {key : Option α} {f : α → Body σ (Served σ)} {g : α → Body τ (Served τ)}
    (rest : ∀ a, Agrees R (f a) (g a)) : Agrees R (c.mustGet key >>= f) ((c.onStore t).mustGet key >>= g) := by
  cases key with
  | none => exact ⟨t, related, rfl⟩
  | some a => exact rest a

theorem badRequest {f : α → Body σ (Served σ)} {g : α → Body τ (Served τ)} :
    Agrees R (c.badRequest e >>= f) ((c.onStore t).badRequest e >>= g) := ⟨t, related, rfl⟩

theorem refuse {p : Prop} [Decidable p] {f : Unit → Body σ (Served σ)} {g : Unit → Body τ (Served τ)}
    (rest : Agrees R (f ()) (g ())) :
    Agrees R (if p then c.badRequest e >>= f else f ()) (if p then (c.onStore t).badRequest e >>= g else g ()) := by
  by_cases holds : p
  · simp only [if_pos holds]
    exact badRequest related
  · simp only [if_neg holds]
    exact rest

omit related in
theorem mutate {call : σ → σ × Option Error} {call' : τ → τ × Option Error} {f : Context σ → Body σ (Served σ)}
    {g : Context τ → Body τ (Served τ)} (called : Alike R (call c.store) (call' t))
    (rest : ∀ after u, R after.store u → Agrees R (f after) (g (after.onStore u))) :
    Agrees R (c.mutate mutation call >>= f) ((c.onStore t).mutate mutation call' >>= g) := by
  unfold Context.mutate
  have left := called.1
  have ends := called.2
  simp only [Context.onStore]
  cases outcome : call c.store with
  | mk s err =>
    cases outcome' : call' t with
    | mk u err' =>
      rw [outcome, outcome'] at left ends
      obtain rfl : err = err' := left
      cases err with
      | none => exact rest _ u ends
      | some e => exact ⟨u, ends, rfl⟩

end Agrees

section Handlers
variable {around : Surroundings} {e w : Engine σ} {f v : Engine τ} (related : R c.store t)
include related

theorem checkClusterModes_agrees (cluster : Cluster) {rest : Body σ (Served σ)} {rest' : Body τ (Served τ)}
    (then_ : Agrees R rest rest') :
    Agrees R (ClusterHandler.checkClusterModes (around.env e w) request cluster c >>= fun _ => rest)
      (ClusterHandler.checkClusterModes (around.env f v) request cluster (c.onStore t) >>= fun _ => rest') := by
  unfold ClusterHandler.checkClusterModes
  split
  · -- the nodes are asked one after the other, and the first bad answer ends the request
    induction cluster.getNodes with
    | nil => exact then_
    | cons node nodes ih =>
      simp only [List.forM, bind_assoc]
      refine Agrees.orError related fun version => ?_
      split
      · exact Agrees.badRequest related
      · exact ih
  · exact then_

theorem updatePeer_matches :
    Matches R (RaftHandler.updatePeer request c) (RaftHandler.updatePeer request (c.onStore t)) := by
  unfold RaftHandler.updatePeer
  refine Agrees.bindJSON related fun req => ?_
  dsimp only
  split
  · refine Agrees.mustGet related fun raftNode => ?_
    split
    · split
      · exact ⟨t, related, rfl⟩
      · generalize raftNode.addPeer _ _ = err
        cases err <;> exact ⟨t, related, rfl⟩
    · split
      · exact Agrees.badRequest related
      · split
        · exact Agrees.badRequest related
        · generalize raftNode.removePeer _ = err
          cases err <;> exact ⟨t, related, rfl⟩
  · exact Agrees.badRequest related

section Reads
variable (simulates : e.Simulates f R)
include simulates

theorem listNamespace_matches :
    Matches R (NamespaceHandler.list (around.env e w) c) (NamespaceHandler.list (around.env f v) (c.onStore t)) := by
  unfold NamespaceHandler.list
  rw [show listNamespace (around.env f v).engine (c.onStore t).store = listNamespace (around.env e w).engine c.store from
    (simulates.listNamespace related).symm]
  exact Agrees.orError related fun namespaces => ⟨t, related, rfl⟩

theorem existsNamespace_matches : Matches R (NamespaceHandler.existsHandler (around.env e w) request c)
    (NamespaceHandler.existsHandler (around.env f v) request (c.onStore t)) := by
  unfold NamespaceHandler.existsHandler
  rw [show existsNamespace (around.env f v).engine request.nsParam (c.onStore t).store =
      existsNamespace (around.env e w).engine request.nsParam c.store from
    (simulates.existsNamespace related request.nsParam).symm]
  refine Agrees.orError related fun ok => ?_
  cases ok <;> exact ⟨t, related, rfl⟩

theorem listCluster_matches : Matches R (ClusterHandler.list (around.env e w) request c)
    (ClusterHandler.list (around.env f v) request (c.onStore t)) := by
  unfold ClusterHandler.list
  rw [show listCluster (around.env f v).engine request.nsParam (c.onStore t).store =
      listCluster (around.env e w).engine request.nsParam c.store from
    (simulates.listCluster related request.nsParam).symm]
  split
  · exact ⟨t, related, rfl⟩
  · split <;> exact ⟨t, related, rfl⟩

theorem middleware_matches (m : Middleware) :
    Matches R (m.perform (around.env e w) request c) (m.perform (around.env f v) request (c.onStore t)) := by
  have same (flow : Flow) : Matches R (c, flow) (c.onStore t, flow) := ⟨t, related, rfl⟩
  cases m with
  | collectMetrics | setStore => exact ⟨t, related, rfl⟩
  | redirectIfNotLeader =>
    refine Matches.ite (same _) (Matches.ite ⟨t, related, rfl⟩ (Matches.ite (Matches.ite ?_ ?_) (same _)))
    · exact ⟨t, related, rfl⟩
    · exact ⟨t, related, rfl⟩
  | requiredNamespace =>
    refine Matches.ite (same _) ?_
    rw [show existsNamespace (around.env f v).engine request.nsParam (c.onStore t).store =
      existsNamespace (around.env e w).engine request.nsParam c.store from (simulates.existsNamespace related _).symm]
    split <;> exact ⟨t, related, rfl⟩
  | requiredCluster =>
    refine Matches.ite (same _) ?_
    rw [show getCluster (around.env f v).engine request.nsParam request.clusterParam (c.onStore t).store =
      getCluster (around.env e w).engine request.nsParam request.clusterParam c.store from
        (simulates.getCluster related _ _).symm]
    split <;> exact ⟨t, related, rfl⟩
  | requiredClusterShard =>
    refine Matches.ite (same _) ?_
    rw [show getCluster (around.env f v).engine request.nsParam request.clusterParam (c.onStore t).store =
      getCluster (around.env e w).engine request.nsParam request.clusterParam c.store from
        (simulates.getCluster related _ _).symm]
    split
    · exact ⟨t, related, rfl⟩
    · split
      · exact ⟨t, related, rfl⟩
      · split <;> exact ⟨t, related, rfl⟩
  | requiredRaftEngine =>
    refine Matches.ite (same _) ?_
    dsimp only [Surroundings.env]
    split <;> exact ⟨t, related, rfl⟩

end Reads

section Mutators
variable (mutates : w.Simulates v R)
include mutates

theorem Agrees.updateCluster {ns : String} {cluster : Cluster} {rest : Context σ × Cluster → Body σ (Served σ)}
    {rest' : Context τ × Cluster → Body τ (Served τ)}
    (then_ : ∀ after u next, R after.store u → Agrees R (rest (after, next)) (rest' (after.onStore u, next))) :
    Agrees R (c.updateCluster (around.env e w) ns cluster >>= rest)
      ((c.onStore t).updateCluster (around.env f v) ns cluster >>= rest') := by
  obtain ⟨version, called⟩ := mutates.updateCluster related ns cluster
  simp only [Context.updateCluster, bind_assoc, pure_bind]
  refine Agrees.mutate called fun after u left => ?_
  exact version ▸ then_ after u _ left

theorem createNamespace_matches : Matches R (NamespaceHandler.create (around.env e w) request c)
    (NamespaceHandler.create (around.env f v) request (c.onStore t)) := by
  unfold NamespaceHandler.create
  refine Agrees.bindJSON related fun ns => ?_
  refine Agrees.refuse related ?_
  exact Agrees.mutate (mutates.createNamespace related ns) fun after u left => ⟨u, left, rfl⟩

theorem removeNamespace_matches : Matches R (NamespaceHandler.remove (around.env e w) request c)
    (NamespaceHandler.remove (around.env f v) request (c.onStore t)) := by
  unfold NamespaceHandler.remove
  exact Agrees.mutate (mutates.removeNamespace related request.nsParam) fun after u left => ⟨u, left, rfl⟩

theorem removeCluster_matches : Matches R (ClusterHandler.remove (around.env e w) request c)
    (ClusterHandler.remove (around.env f v) request (c.onStore t)) := by
  unfold ClusterHandler.remove
  exact Agrees.mutate (mutates.removeCluster related request.nsParam request.clusterParam)
    fun after u left => ⟨u, left, rfl⟩

theorem createShard_matches : Matches R (ShardHandler.create (around.env e w) request c)
    (ShardHandler.create (around.env f v) request (c.onStore t)) := by
  unfold ShardHandler.create
  refine Agrees.bindJSON related fun req => ?_
  refine Agrees.refuse related ?_
  refine Agrees.mustGet related fun cluster => ?_
  dsimp only [Surroundings.env]
  split
  · exact Agrees.updateCluster related mutates fun after u next left => ⟨u, left, rfl⟩
  · exact Agrees.badRequest related

theorem removeShard_matches : Matches R (ShardHandler.remove (around.env e w) request c)
    (ShardHandler.remove (around.env f v) request (c.onStore t)) := by
  unfold ShardHandler.remove
  dsimp only
  split
  · refine Agrees.mustGet related fun cluster => ?_
    split
    · exact Agrees.updateCluster related mutates fun after u next left => ⟨u, left, rfl⟩
    · exact Agrees.badRequest related
  · exact Agrees.badRequest related

theorem failover_matches : Matches R (ShardHandler.failover (around.env e w) request c)
    (ShardHandler.failover (around.env f v) request (c.onStore t)) := by
  unfold ShardHandler.failover
  refine Agrees.mustGet related fun cluster => ?_
  refine Agrees.shouldBindJSON related fun preferred => ?_
  refine Agrees.refuse related ?_
  refine Agrees.orError related fun promoted => ?_
  exact Agrees.updateCluster related mutates fun after u next left => ⟨u, left, rfl⟩

theorem createNode_matches : Matches R (NodeHandler.create (around.env e w) request c)
    (NodeHandler.create (around.env f v) request (c.onStore t)) := by
  unfold NodeHandler.create
  refine Agrees.mustGet related fun cluster => ?_
  refine Agrees.shouldBindJSON related fun req => ?_
  refine Agrees.orError related fun added => ?_
  exact Agrees.updateCluster related mutates fun after u next left => ⟨u, left, rfl⟩

theorem removeNode_matches : Matches R (NodeHandler.remove (around.env e w) request c)
    (NodeHandler.remove (around.env f v) request (c.onStore t)) := by
  unfold NodeHandler.remove
  refine Agrees.mustGet related fun cluster => ?_
  dsimp only
  split
  · exact Agrees.updateCluster related mutates fun after u next left => ⟨u, left, rfl⟩
  · exact ⟨t, related, rfl⟩
  · exact ⟨t, related, rfl⟩

end Mutators

section Requests
variable (simulates : e.Simulates f R) (mutates : w.Simulates v R)
include simulates mutates

theorem createCluster_matches : Matches R (ClusterHandler.create (around.env e w) request c)
    (ClusterHandler.create (around.env f v) request (c.onStore t)) := by
  unfold ClusterHandler.create
  refine Agrees.bindJSON related fun req => ?_
  rw [show checkNewNodes (around.env f v).engine req.nodes (c.onStore t).store =
      checkNewNodes (around.env e w).engine req.nodes c.store from (simulates.checkNewNodes related req.nodes).symm]
  refine Agrees.orError related fun _ => ?_
  dsimp only [Surroundings.env]
  split
  · rename_i cluster _
    refine checkClusterModes_agrees related (cluster.setPassword req.password) ?_
    exact Agrees.mutate (mutates.createCluster related request.nsParam _) fun after u left => ⟨u, left, rfl⟩
  · exact Agrees.badRequest related

theorem importCluster_matches : Matches R (ClusterHandler.importHandler (around.env e w) request c)
    (ClusterHandler.importHandler (around.env f v) request (c.onStore t)) := by
  unfold ClusterHandler.importHandler
  refine Agrees.bindJSON related fun req => ?_
  dsimp only [Surroundings.env]
  split
  · exact Agrees.badRequest related
  · refine Agrees.orError related fun text => ?_
    refine Agrees.orError related fun cluster => ?_
    rw [show checkNewNodes f _ (c.onStore t).store = checkNewNodes e _ c.store from
      (simulates.checkNewNodes related _).symm]
    refine Agrees.orError related fun _ => ?_
    exact Agrees.mutate (mutates.createCluster related request.nsParam _) fun after u left => ⟨u, left, rfl⟩

theorem migrateSlot_matches : Matches R (ClusterHandler.migrateSlot (around.env e w) request c)
    (ClusterHandler.migrateSlot (around.env f v) request (c.onStore t)) := by
  unfold ClusterHandler.migrateSlot
  rw [show getCluster (around.env f v).engine request.nsParam request.clusterParam (c.onStore t).store =
      getCluster (around.env e w).engine request.nsParam request.clusterParam c.store from
    (simulates.getCluster related request.nsParam request.clusterParam).symm]
  by_cases missing : (!c.hasStore) = true
  · simp only [show (c.onStore t).hasStore = c.hasStore from rfl, if_pos missing]
    exact ⟨t, related, rfl⟩
  · simp only [show (c.onStore t).hasStore = c.hasStore from rfl, if_neg missing]
    refine Agrees.orError related fun cluster => ?_
    refine Agrees.bindJSON related fun req => ?_
    dsimp only [Surroundings.env]
    split
    · exact Agrees.updateCluster related mutates fun after u next left => ⟨u, left, rfl⟩
    · exact ⟨t, related, rfl⟩
    · exact ⟨t, related, rfl⟩

theorem endpoint_matches (endpoint : Endpoint) :
    Matches R (endpoint.perform (around.env e w) request c) (endpoint.perform (around.env f v) request (c.onStore t)) := by
  cases endpoint with
  | pprof | metrics | noRoute => exact ⟨t, related, rfl⟩
  | updatePeer => exact updatePeer_matches related
  | listPeers | getCluster | listShard | getShard | listNode =>
    exact Agrees.mustGet related fun _ => ⟨t, related, rfl⟩
  | listNamespace => exact listNamespace_matches related simulates
  | existsNamespace => exact existsNamespace_matches related simulates
  | createNamespace => exact createNamespace_matches related mutates
  | removeNamespace => exact removeNamespace_matches related mutates
  | listCluster => exact listCluster_matches related simulates
  | createCluster => exact createCluster_matches related simulates mutates
  | importCluster => exact importCluster_matches related simulates mutates
  | removeCluster => exact removeCluster_matches related mutates
  | migrateSlot => exact migrateSlot_matches related simulates mutates
  | createShard => exact createShard_matches related mutates
  | removeShard => exact removeShard_matches related mutates
  | failover => exact failover_matches related mutates
  | createNode => exact createNode_matches related mutates
  | removeNode => exact removeNode_matches related mutates

theorem exec_matches (chain : List Handler) :
    ∃ u, R (exec (fun handler c => handler.perform (around.env e w) request c) chain c).1.store u ∧
      (exec (fun handler c => handler.perform (around.env f v) request c) chain (c.onStore t)).1 =
        (exec (fun handler c => handler.perform (around.env e w) request c) chain c).1.onStore u := by
  induction chain generalizing c t with
  | nil => exact ⟨t, related, rfl⟩
  | cons handler rest ih =>
    obtain ⟨u, left, same⟩ : Matches R (handler.perform (around.env e w) request c)
        (handler.perform (around.env f v) request (c.onStore t)) := by
      cases handler with
      | middleware m => exact middleware_matches related simulates m
      | endpoint endpoint => exact endpoint_matches related simulates mutates endpoint
    have flow : (handler.perform (around.env f v) request (c.onStore t)).2 = (handler.perform (around.env e w) request c).2 := by
      rw [same]
    cases goes : (handler.perform (around.env e w) request c).2.goesOn with
    | true =>
      rw [exec_goesOn goes, exec_goesOn (by rw [flow, goes]), same]
      exact ih left
    | false =>
      rw [exec_stops goes, exec_stops (by rw [flow, goes]), same]
      exact ⟨u, left, rfl⟩

end Requests

end Handlers

/-- One request as it comes in, with the fate of each engine call made for it: of the reads
of its handlers, and of the calls of the mutator they end in. -/
structure Arrival where
  around : Surroundings
  reads : Faults
  writes : Faults
  request : Request
  route : Route

def Arrival.env (arrival : Arrival) (engine : Faults → Engine σ) : Env σ :=
  arrival.around.env (engine arrival.reads) (engine arrival.writes)

/-- What the requests of a sequence get: their responses, and the mutators called for each. -/
def outcomes (engine : Faults → Engine σ) : σ → List Arrival → List (List Response × List Mutation)
  | _, [] => []
  | s, arrival :: rest =>
    let c := (serve (arrival.env engine) arrival.request arrival.route s).1
    (c.responses, c.mutations) :: outcomes engine c.store rest

theorem outcomes_eq {engine : Faults → Engine σ} {other : Faults → Engine τ} {R : σ → τ → Prop}
    (arrivals : List Arrival)
    (simulates : ∀ arrival ∈ arrivals, ∀ faults, faults = arrival.reads ∨ faults = arrival.writes →
      (engine faults).Simulates (other faults) R)
    (related : R s t) : outcomes engine s arrivals = outcomes other t arrivals := by
  induction arrivals generalizing s t with
  | nil => rfl
  | cons arrival rest ih =>
    have calls := simulates arrival List.mem_cons_self
    obtain ⟨u, left, same⟩ : ∃ u, R (serve (arrival.env engine) arrival.request arrival.route s).1.store u ∧
        (serve (arrival.env other) arrival.request arrival.route t).1 =
          (serve (arrival.env engine) arrival.request arrival.route s).1.onStore u :=
      exec_matches (c := Context.start s) related (calls _ (.inl rfl)) (calls _ (.inr rfl)) arrival.route.chain
    simp only [outcomes, same]
    exact congrArg₂ _ rfl (ih (fun arrival member => simulates arrival (List.mem_cons_of_mem _ member)) left)

/-- Over Consul the server answers every sequence of requests as it does over etcd,
whichever engine calls fail on the way, and calls the same mutators of the store. -/
theorem consul_serves_as_etcd (arrivals : List Arrival)
    (external : ∀ arrival ∈ arrivals, arrival.reads.External ∧ arrival.writes.External) :
    outcomes consul ∅ arrivals = outcomes etcd ∅ arrivals := by
  refine outcomes_eq arrivals (fun arrival member faults own => ?_) Consul.mirrors_empty
  obtain ⟨reads, writes⟩ := external arrival member
  rcases own with rfl | rfl
  · exact Consul.simulates reads
  · exact Consul.simulates writes

section Samples

def alone : Surroundings where
  leader := leading.id
  id := leading.id
  raft := none
  replies := leading.replies
  checkClusterMode := leading.checkClusterMode
  getClusterNodesString := leading.getClusterNodesString
  draw := leading.draw
  page := leading.page

def failing (fails : ReadCall → Bool) : Faults where
  read call := if fails call then some (.new "timeout") else none
  write := .done

def listings : ReadCall → Bool
  | .list _ => true
  | _ => false

def clusterRequest (node : String) : Request where
  __ := namespaceRequest
  nsParam := "ns"
  body := some (.obj [("name", .str "c"), ("nodes", strings [node])])

def createClusterRoute : Route := ⟨"POST", clustersPath, some .requiredNamespace, .createCluster⟩

/-- A namespace is created at the second attempt. Then one request finds it and fails at the
listing behind that, the next one only at the check whether there is such a cluster. -/
def retries : List Arrival :=
  [⟨alone, .none, ⟨fun _ => none, .refused (.new "timeout")⟩, namespaceRequest, createNamespaceRoute⟩,
    ⟨alone, .none, .none, namespaceRequest, createNamespaceRoute⟩,
    ⟨alone, failing listings, .none, clusterRequest "a:1", createClusterRoute⟩,
    ⟨alone, .none, failing fun _ => true, clusterRequest "a:1", createClusterRoute⟩,
    ⟨alone, .none, .none, clusterRequest "b:1", createClusterRoute⟩]

end Samples

theorem consul_serves_retries :
    (outcomes consul ∅ retries).map (fun outcome => outcome.1.map (·.code)) = [[500], [201], [500], [201], [409]] ∧
      outcomes consul ∅ retries = outcomes etcd ∅ retries := by
  refine ⟨by decide +kernel, consul_serves_as_etcd retries ?_⟩
  have external (fails : ReadCall → Bool) : (failing fails).External := by
    intro call e failed
    simp only [failing] at failed
    split at failed
    · obtain rfl := Option.some.inj failed
      rfl
    · cases failed
  have sound (write : WriteOutcome) : Faults.External ⟨fun _ => none, write⟩ := by
    rintro _ _ ⟨⟩
  simp [retries, Faults.none, external, sound]

end Kvrocks.Server
