import KvrocksController.Server.Effects
import KvrocksController.Store.ClusterStoreProofs

/-! What a request that was acknowledged has done, and that one that was not has left the
store alone. A request is acknowledged by one response that tells of success; what comes
before it is the leader's part, so a request has to get past `RedirectIfNotLeader`. -/
namespace Kvrocks.Server
open HandlerChain ClusterStore

variable {σ : Type}

/-- The one response is a success, with this body. -/
def Acknowledges (c : Context σ) (body : Json) : Prop :=
  ∃ code location, c.responses = [⟨code, location, body⟩] ∧ 200 ≤ code ∧ code < 300

/-- A request that is not acknowledged leaves `s`; one that is has done `R`. -/
def Settles (s : σ) (R : Json → σ → Prop) (c : Context σ) : Prop :=
  (c.store = s ∧ ∀ body, ¬ Acknowledges c body) ∨ ∃ body, Acknowledges c body ∧ R body c.store

def Ends (body : Body σ (Served σ)) (s : σ) (R : Json → σ → Prop) : Prop := Settles s R body.run.1

/-- Nothing is written or answered yet. -/
structure Blank (s : σ) (c : Context σ) : Prop where
  store : c.store = s
  responses : c.responses = []

section Refusals
variable {s : σ} {c : Context σ} {R : Json → σ → Prop}

theorem errorCode_refuses (e : Error) : 400 ≤ Context.errorCode e := by
  unfold Context.errorCode
  split <;> decide

/-- An error is no acknowledgement, whatever else was answered. -/
theorem refused (failed : 400 ≤ code) (body : Json) : ¬ Acknowledges (Context.json code content c) body := by
  rintro ⟨other, location, responses, _, below⟩
  have last := congrArg List.getLast? responses
  simp only [Context.json, Context.write, List.getLast?_concat, List.getLast?_singleton, Option.some.injEq,
    Response.mk.injEq] at last
  omega

theorem Blank.responseError (blank : Blank s c) (e : Error) : Settles s R (c.responseError e).1 :=
  .inl ⟨blank.store, refused (errorCode_refuses e)⟩

theorem Blank.responseBadRequest (blank : Blank s c) (e : Error) : Settles s R (c.responseBadRequest e) :=
  .inl ⟨blank.store, refused (by decide)⟩

theorem Blank.panicked (blank : Blank s c) : Settles s R c := by
  refine .inl ⟨blank.store, fun body => ?_⟩
  rintro ⟨code, location, responses, _⟩
  rw [blank.responses] at responses
  cases responses

/-- A handler that writes nothing to the store, whatever it answers. -/
theorem Settles.reads (kept : c.store = s) (answer : ∀ body, Acknowledges c body → R body s) : Settles s R c := by
  by_cases acknowledged : ∃ body, Acknowledges c body
  · obtain ⟨body, acknowledges⟩ := acknowledged
    exact .inr ⟨body, acknowledges, kept.symm ▸ answer body acknowledges⟩
  · exact .inl ⟨kept, fun body acknowledges => acknowledged ⟨body, acknowledges⟩⟩

end Refusals

/-- A write that fails has not happened. -/
structure Definite (e : Engine σ) : Prop where
  set : e.set key value s = (s', some err) → s' = s
  delete : e.delete key s = (s', some err) → s' = s

theorem etcd_definite (heard : ∀ err, faults.write ≠ .unacknowledged err) : Definite (etcd faults) where
  set {key value s s' err} failed := by
    rcases finish_acknowledged heard s (Std.ExtTreeMap.insert s key value) with ⟨_, kept⟩ | done
    · exact (congrArg Prod.fst (kept.symm.trans failed)).symm
    · cases done.symm.trans failed
  delete {key s s' err} failed := by
    rcases finish_acknowledged heard s (Std.ExtTreeMap.erase s key) with ⟨_, kept⟩ | done
    · exact (congrArg Prod.fst (kept.symm.trans failed)).symm
    · cases done.symm.trans failed

namespace Definite
variable {e : Engine σ} {s s' : σ}

theorem createNamespace (definite : Definite e) (failed : ClusterStore.createNamespace e ns s = (s', some err)) :
    s' = s := by
  unfold ClusterStore.createNamespace at failed
  split at failed
  · cases failed
    rfl
  · exact definite.set failed

theorem removeNamespace (definite : Definite e) (failed : ClusterStore.removeNamespace e ns s = (s', some err)) :
    s' = s := by
  unfold ClusterStore.removeNamespace at failed
  split at failed
  · cases failed
    rfl
  · split at failed
    · cases failed
      rfl
    · split at failed
      · cases failed
        rfl
      · exact definite.delete failed

theorem createCluster (definite : Definite e) (failed : ClusterStore.createCluster e ns cluster s = (s', some err)) :
    s' = s := by
  unfold ClusterStore.createCluster at failed
  split at failed
  · cases failed
    rfl
  · exact definite.set failed

theorem removeCluster (definite : Definite e) (failed : ClusterStore.removeCluster e ns name s = (s', some err)) :
    s' = s := by
  unfold ClusterStore.removeCluster at failed
  split at failed
  · cases failed
    rfl
  · exact definite.delete failed

theorem updateCluster (definite : Definite e)
    (failed : ClusterStore.updateCluster e ns s cluster = ⟨s', version, some err⟩) : s' = s := by
  rcases updateCluster_cases e ns s cluster with ⟨_, refused⟩ | ⟨_, _, _, written⟩
  · cases refused.symm.trans failed
    rfl
  · have put := written.symm.trans failed
    simp only [Updated.mk.injEq] at put
    exact definite.set (Prod.ext put.1 put.2.2)

end Definite

section Successes
variable {s : σ} {c : Context σ} {R : Json → σ → Prop}

/-- The handler has ended with success, over `s`. -/
def Concludes (s : σ) (R : Json → σ → Prop) (c : Context σ) : Prop :=
  ∃ body, Acknowledges c body ∧ c.store = s ∧ R body s

theorem Concludes.settles (concludes : Concludes s R c) : Settles before R c := by
  obtain ⟨body, acknowledged, rfl, done⟩ := concludes
  exact .inr ⟨body, acknowledged, done⟩

/-- The answer with this data. -/
def answerData (data : Json) : Json := .obj [("data", data)]

theorem Blank.responseData (blank : Blank s c) (success : 200 ≤ code ∧ code < 300) (done : R (answerData data) s) :
    Concludes s R (c.responseData code data).1 := by
  refine ⟨_, ⟨code, none, ?_, success⟩, blank.store, done⟩
  simp [Context.responseData, Context.json, Context.write, blank.responses, answerData]

theorem Blank.responseOK (blank : Blank s c) (done : R (answerData data) s) : Concludes s R (c.responseOK data).1 :=
  blank.responseData (by decide) done

theorem Blank.responseCreated (blank : Blank s c) (done : R (answerData data) s) :
    Concludes s R (c.responseCreated data).1 :=
  blank.responseData (by decide) done

theorem Blank.responseNoContent (blank : Blank s c) (done : R .null s) : Concludes s R c.responseNoContent.1 := by
  refine ⟨_, ⟨204, none, ?_, by decide⟩, blank.store, done⟩
  rw [Context.responseNoContent, Context.json, Context.write, blank.responses]
  rfl

end Successes

namespace Ends
variable {s : σ} {c : Context σ} {R : Json → σ → Prop}

theorem bind {x : Body σ α} {f : α → Body σ (Served σ)} (early : ∀ served, x = .error served → Settles s R served.1)
    (rest : ∀ a, x = .ok a → Ends (f a) s R) : Ends (x >>= f) s R := by
  cases x with
  | error served => exact early served rfl
  | ok a => exact rest a rfl

theorem orError {call : Except Error α} {f : α → Body σ (Served σ)} (blank : Blank s c)
    (rest : ∀ a, call = .ok a → Ends (f a) s R) : Ends (c.orError call >>= f) s R := by
  cases call with
  | error e => exact blank.responseError e
  | ok a => exact rest a rfl

theorem bindJSON {decode : Json → Except Error α} {f : α → Body σ (Served σ)} (blank : Blank s c)
    (rest : ∀ a, Context.decodeBody decode request.body = .ok a → Ends (f a) s R) :
    Ends (c.bindJSON request decode >>= f) s R := by
  unfold Context.bindJSON
  cases bound : Context.decodeBody decode request.body with
  | error e => exact blank.responseBadRequest e
  | ok a => exact rest a bound

theorem shouldBindJSON {decode : Json → Except Error α} {f : α → Body σ (Served σ)} (blank : Blank s c)
    (rest : ∀ a, Context.decodeBody decode request.body = .ok a → Ends (f a) s R) :
    Ends (c.shouldBindJSON request decode >>= f) s R := by
  unfold Context.shouldBindJSON
  cases bound : Context.decodeBody decode request.body with
  | error e => exact blank.responseBadRequest e
  | ok a => exact rest a bound

theorem mustGet {key : Option α} {f : α → Body σ (Served σ)} (blank : Blank s c)
    (rest : ∀ a, key = some a → Ends (f a) s R) : Ends (c.mustGet key >>= f) s R := by
  cases key with
  | none => exact blank.panicked
  | some a => exact rest a rfl

theorem refuse {p : Prop} [Decidable p] {f : Unit → Body σ (Served σ)} (blank : Blank s c)
    (rest : ¬ p → Ends (f ()) s R) : Ends (if p then c.badRequest e >>= f else f ()) s R := by
  by_cases holds : p
  · rw [if_pos holds]
    exact blank.responseBadRequest e
  · rw [if_neg holds]
    exact rest holds

/-- The store is called, and the request ends with it. -/
theorem mutate {call : σ → σ × Option Error} {f : Context σ → Body σ (Served σ)} (blank : Blank s c)
    (definite : ∀ s' err, call s = (s', some err) → s' = s)
    (rest : ∀ s' after, call s = (s', none) → Blank s' after → Concludes s' R (f after).run.1) :
    Ends (c.mutate mutation call >>= f) s R := by
  obtain ⟨rfl, responses⟩ := blank
  unfold Context.mutate
  cases called : call c.store with
  | mk s' err =>
    cases err with
    | none =>
      have blank : Blank s' { c with store := s', mutations := c.mutations ++ [mutation] } := ⟨rfl, responses⟩
      exact (rest s' _ called blank).settles
    | some e => exact .inl ⟨definite s' e called, refused (errorCode_refuses e)⟩

theorem updateCluster {f : Context σ × Cluster → Body σ (Served σ)} (blank : Blank s c) (definite : Definite env.mutator)
    (rest : ∀ s' version after, ClusterStore.updateCluster env.mutator ns s cluster = ⟨s', version, none⟩ →
      Blank s' after → Concludes s' R (f (after, { cluster with version })).run.1) :
    Ends (c.updateCluster env ns cluster >>= f) s R := by
  obtain ⟨rfl, responses⟩ := blank
  unfold Context.updateCluster
  rw [bind_assoc]
  cases called : ClusterStore.updateCluster env.mutator ns c.store cluster with
  | mk s' version err =>
    refine mutate ⟨rfl, responses⟩ ?_ ?_
    · rintro _ _ ⟨rfl, rfl⟩
      exact definite.updateCluster called
    · rintro _ after ⟨rfl, rfl⟩ blank
      exact rest s' version after called blank

end Ends

/-- The endpoints that neither read nor write namespaces and clusters. -/
def Endpoint.outside : Endpoint → Bool
  | .pprof | .metrics | .noRoute | .updatePeer | .listPeers => true
  | _ => false

/-- The body for a cluster. -/
def shows (cluster : Cluster) : Json := answerData (.obj [("cluster", cluster.marshalJSON)])

/-- The shard of the request, by its index in the path. -/
def ShardOf (request : Request) (cluster : Cluster) (shard : Shard) : Prop :=
  ∃ i, atoi request.shardParam = .ok i ∧ cluster.getShard i = .ok shard

/-- The body for a cluster that was edited, and stored under a new version. -/
inductive EditAnswer (env : Env σ) (request : Request) (cluster next : Cluster) (version : Int) :
    Endpoint → Json → Prop where
  | migrateSlot : EditAnswer env request cluster next version .migrateSlot (shows { next with version })
  | createShard : EditAnswer env request cluster next version .createShard
      (answerData (.obj [("shard", (next.shards.getLast?.map (·.marshalJSON)).getD .null)]))
  | removeShard : EditAnswer env request cluster next version .removeShard .null
  | failover (promoted : cluster.promoteNewMaster env.replies (ShardHandler.shardIndex request) "" preferred =
        .ok (next, newMasterNodeID)) :
      EditAnswer env request cluster next version .failover (answerData (.obj [("new_master_id", .str newMasterNodeID)]))
  | createNode : EditAnswer env request cluster next version .createNode
      (answerData (NodeHandler.newNodeID (ShardHandler.shardIndex request) next))
  | removeNode : EditAnswer env request cluster next version .removeNode .null

/-- What an acknowledged request has done, and its body. -/
inductive Done (env : Env σ) (request : Request) (s : σ) : Endpoint → Json → σ → Prop where
  | outside (outside : endpoint.outside = true) : Done env request s endpoint body s
  | listedNamespaces (read : listNamespace env.engine s = .ok names) :
      Done env request s .listNamespace (answerData (.obj [("namespaces", strings names)])) s
  | existingNamespace (there : existsNamespace env.engine request.nsParam s = .ok true) :
      Done env request s .existsNamespace (answerData .null) s
  | listedClusters (there : existsNamespace env.engine request.nsParam s = .ok true)
      (read : listCluster env.engine request.nsParam s = .ok names) :
      Done env request s .listCluster (answerData (.obj [("clusters", strings names)])) s
  | unlistedClusters (there : existsNamespace env.engine request.nsParam s = .ok true)
      (failed : listCluster env.engine request.nsParam s = .error e) (missing : e.is = some .notFound) :
      Done env request s .listCluster (answerData (.obj [("clusters", .null)])) s
  | gotCluster (read : getCluster env.engine request.nsParam request.clusterParam s = .ok cluster) :
      Done env request s .getCluster (shows cluster) s
  | listedShards (read : getCluster env.engine request.nsParam request.clusterParam s = .ok cluster) :
      Done env request s .listShard (answerData (.obj [("shards", .arr (cluster.shards.map (·.marshalJSON)))])) s
  | gotShard (read : getCluster env.engine request.nsParam request.clusterParam s = .ok cluster)
      (own : ShardOf request cluster shard) :
      Done env request s .getShard (answerData (.obj [("shard", shard.marshalJSON)])) s
  | listedNodes (read : getCluster env.engine request.nsParam request.clusterParam s = .ok cluster)
      (own : ShardOf request cluster shard) :
      Done env request s .listNode (answerData (.obj [("nodes", .arr (shard.nodes.map (·.marshalJSON)))])) s
  | createdNamespace (bound : Context.decodeBody NamespaceHandler.decode request.body = .ok ns)
      (done : createNamespace env.mutator ns s = (s', none)) :
      Done env request s .createNamespace (answerData (.obj [("namespace", .str ns)])) s'
  | removedNamespace (done : removeNamespace env.mutator request.nsParam s = (s', none)) :
      Done env request s .removeNamespace .null s'
  | createdCluster (there : existsNamespace env.engine request.nsParam s = .ok true)
      (bound : Context.decodeBody ClusterHandler.CreateClusterRequest.decode request.body = .ok req)
      (fresh : checkNewNodes env.engine req.nodes s = .ok ())
      (made : newCluster env.draw req.name req.nodes req.replicas = .ok cluster)
      (done : createCluster env.mutator request.nsParam (cluster.setPassword req.password) s = (s', none)) :
      Done env request s .createCluster (shows (cluster.setPassword req.password)) s'
  | importedCluster (there : existsNamespace env.engine request.nsParam s = .ok true)
      (bound : Context.decodeBody NodesRequest.decode request.body = .ok req) (named : req.nodes = addr :: rest)
      (reported : env.getClusterNodesString (newClusterNode (env.draw.fresh 0 0) addr req.password) = .ok text)
      (parsed : parseCluster text = .ok cluster)
      (fresh : checkNewNodes env.engine ((cluster.setPassword req.password).getNodes.map (·.addr)) s = .ok ())
      (done : createCluster env.mutator request.nsParam
        { cluster.setPassword req.password with name := request.clusterParam } s = (s', none)) :
      Done env request s .importCluster
        (shows { cluster.setPassword req.password with name := request.clusterParam }) s'
  | removedCluster (read : getCluster env.engine request.nsParam request.clusterParam s = .ok cluster)
      (done : removeCluster env.mutator request.nsParam request.clusterParam s = (s', none)) :
      Done env request s .removeCluster .null s'
  | edited (read : getCluster env.engine request.nsParam request.clusterParam s = .ok cluster)
      (edit : Edit env request cluster endpoint next)
      (done : updateCluster env.mutator request.nsParam s next = ⟨s', version, none⟩)
      (answered : EditAnswer env request cluster next version endpoint body) :
      Done env request s endpoint body s'

theorem checkClusterModes_refuses {env : Env σ} {s : σ} {c : Context σ} {R : Json → σ → Prop} (blank : Blank s c)
    (stopped : ClusterHandler.checkClusterModes env request cluster c = .error served) : Settles s R served.1 := by
  unfold ClusterHandler.checkClusterModes at stopped
  split at stopped
  · obtain ⟨node, _, here⟩ := forM_error stopped
    cases asked : env.checkClusterMode node with
    | error e =>
      simp only [asked, Context.orError] at here
      cases here
      exact blank.responseError e
    | ok version =>
      simp only [asked, Context.orError] at here
      change (if version ≠ -1 then _ else _) = _ at here
      split at here
      · cases here
        exact blank.responseBadRequest _
      · cases here
  · cases stopped

section Endpoints
variable {env : Env σ} {request : Request} {s : σ} {c : Context σ}

section Stored
variable (blank : Blank s c) (definite : Definite env.mutator)
include blank definite

theorem createNamespace_settles :
    Settles s (Done env request s .createNamespace) (NamespaceHandler.create env request c).1 := by
  unfold NamespaceHandler.create
  refine Ends.bindJSON blank fun ns bound => ?_
  refine Ends.refuse blank fun _ => ?_
  refine Ends.mutate blank (fun _ _ => definite.createNamespace) fun s' after done blank => ?_
  exact blank.responseCreated (.createdNamespace bound done)

theorem removeNamespace_settles :
    Settles s (Done env request s .removeNamespace) (NamespaceHandler.remove env request c).1 := by
  unfold NamespaceHandler.remove
  refine Ends.mutate blank (fun _ _ => definite.removeNamespace) fun s' after done blank => ?_
  exact blank.responseNoContent (.removedNamespace done)

theorem createCluster_settles (there : existsNamespace env.engine request.nsParam s = .ok true) :
    Settles s (Done env request s .createCluster) (ClusterHandler.create env request c).1 := by
  obtain ⟨rfl, responses⟩ := blank
  have blank : Blank c.store c := ⟨rfl, responses⟩
  unfold ClusterHandler.create
  refine Ends.bindJSON blank fun req bound => ?_
  refine Ends.orError blank fun _ fresh => ?_
  dsimp only
  split
  · rename_i cluster made
    refine Ends.bind (x := ClusterHandler.checkClusterModes env request _ c)
      (fun served stopped => checkClusterModes_refuses blank stopped) fun _ _ => ?_
    refine Ends.mutate blank (fun _ _ => definite.createCluster) fun s' after done blank => ?_
    exact blank.responseCreated (.createdCluster there bound fresh made done)
  · exact blank.responseBadRequest _

theorem importCluster_settles (there : existsNamespace env.engine request.nsParam s = .ok true) :
    Settles s (Done env request s .importCluster) (ClusterHandler.importHandler env request c).1 := by
  obtain ⟨rfl, responses⟩ := blank
  have blank : Blank c.store c := ⟨rfl, responses⟩
  unfold ClusterHandler.importHandler
  refine Ends.bindJSON blank fun req bound => ?_
  dsimp only
  split
  · exact blank.responseBadRequest _
  · rename_i named
    refine Ends.orError blank fun text reported => ?_
    refine Ends.orError blank fun cluster parsed => ?_
    refine Ends.orError blank fun _ fresh => ?_
    refine Ends.mutate blank (fun _ _ => definite.createCluster) fun s' after done blank => ?_
    exact blank.responseOK (.importedCluster there bound named reported parsed fresh done)

theorem removeCluster_settles
    (read : getCluster env.engine request.nsParam request.clusterParam s = .ok cluster) :
    Settles s (Done env request s .removeCluster) (ClusterHandler.remove env request c).1 := by
  unfold ClusterHandler.remove
  refine Ends.mutate blank (fun _ _ => definite.removeCluster) fun s' after done blank => ?_
  exact blank.responseNoContent (.removedCluster read done)

theorem migrateSlot_settles :
    Settles s (Done env request s .migrateSlot) (ClusterHandler.migrateSlot env request c).1 := by
  obtain ⟨rfl, responses⟩ := blank
  have blank : Blank c.store c := ⟨rfl, responses⟩
  unfold ClusterHandler.migrateSlot
  dsimp only
  split
  · exact blank.panicked
  · refine Ends.orError blank fun cluster read => ?_
    refine Ends.bindJSON blank fun req bound => ?_
    split
    · rename_i next migrated
      refine Ends.updateCluster blank definite fun s' version after done blank => ?_
      exact blank.responseOK (.edited read (.migrateSlot bound migrated) done .migrateSlot)
    · exact blank.responseError _
    · exact blank.panicked

end Stored

section Edited
variable (faithful : Faithful env request s c) (blank : Blank s c) (definite : Definite env.mutator)
include faithful blank definite

theorem createShard_settles :
    Settles s (Done env request s .createShard) (ShardHandler.create env request c).1 := by
  unfold ShardHandler.create
  refine Ends.bindJSON blank fun req bound => ?_
  refine Ends.refuse blank fun _ => ?_
  refine Ends.mustGet blank fun cluster found => ?_
  dsimp only
  split
  · rename_i next created
    refine Ends.updateCluster blank definite fun s' version after done blank => ?_
    exact blank.responseCreated (.edited (faithful.cluster cluster found) (.createShard bound created) done .createShard)
  · exact blank.responseBadRequest _

theorem removeShard_settles :
    Settles s (Done env request s .removeShard) (ShardHandler.remove env request c).1 := by
  unfold ShardHandler.remove
  dsimp only
  split
  · refine Ends.mustGet blank fun cluster found => ?_
    split
    · rename_i next removed
      refine Ends.updateCluster blank definite fun s' version after done blank => ?_
      exact blank.responseNoContent (.edited (faithful.cluster cluster found) (.removeShard removed) done .removeShard)
    · exact blank.responseBadRequest _
  · exact blank.responseBadRequest _

theorem failover_settles :
    Settles s (Done env request s .failover) (ShardHandler.failover env request c).1 := by
  unfold ShardHandler.failover
  refine Ends.mustGet blank fun cluster found => ?_
  refine Ends.shouldBindJSON blank fun preferred bound => ?_
  refine Ends.refuse blank fun _ => ?_
  refine Ends.orError blank fun (next, newMasterNodeID) promoted => ?_
  refine Ends.updateCluster blank definite fun s' version after done blank => ?_
  exact blank.responseOK (.edited (faithful.cluster cluster found) (.failover promoted) done (.failover promoted))

theorem createNode_settles :
    Settles s (Done env request s .createNode) (NodeHandler.create env request c).1 := by
  unfold NodeHandler.create
  refine Ends.mustGet blank fun cluster found => ?_
  refine Ends.shouldBindJSON blank fun req bound => ?_
  refine Ends.orError blank fun next added => ?_
  refine Ends.updateCluster blank definite fun s' version after done blank => ?_
  exact blank.responseCreated (.edited (faithful.cluster cluster found) (.createNode bound added) done .createNode)

theorem removeNode_settles :
    Settles s (Done env request s .removeNode) (NodeHandler.remove env request c).1 := by
  unfold NodeHandler.remove
  refine Ends.mustGet blank fun cluster found => ?_
  dsimp only
  split
  · rename_i next removed
    refine Ends.updateCluster blank definite fun s' version after done blank => ?_
    exact blank.responseNoContent (.edited (faithful.cluster cluster found) (.removeNode removed) done .removeNode)
  · exact blank.responseError _
  · exact blank.panicked

end Edited

theorem Effect.kept (effect : Effect env request s endpoint s') (outside : endpoint.outside = true) : s' = s := by
  cases effect with
  | none => rfl
  | createdNamespace | removedNamespace | createdCluster | importedCluster | removedCluster => cases outside
  | edited _ edit => cases edit <;> cases outside

/-- What the guard of a route has found, where the endpoint relies on it. -/
structure Met (env : Env σ) (request : Request) (s : σ) (c : Context σ) (endpoint : Endpoint) : Prop where
  there : endpoint = .listCluster ∨ endpoint = .createCluster ∨ endpoint = .importCluster →
    existsNamespace env.engine request.nsParam s = .ok true
  found : endpoint = .removeCluster →
    ∃ cluster, getCluster env.engine request.nsParam request.clusterParam s = .ok cluster
  shard : ∀ shard, c.shard = some shard → ∃ cluster,
    getCluster env.engine request.nsParam request.clusterParam s = .ok cluster ∧ ShardOf request cluster shard

section Reads

theorem listNamespace_settles (blank : Blank s c) :
    Settles s (Done env request s .listNamespace) (NamespaceHandler.list env c).1 := by
  obtain ⟨rfl, responses⟩ := blank
  have blank : Blank c.store c := ⟨rfl, responses⟩
  refine Ends.orError blank fun names read => ?_
  exact (blank.responseOK (.listedNamespaces read)).settles

theorem existsNamespace_settles (blank : Blank s c) :
    Settles s (Done env request s .existsNamespace) (NamespaceHandler.existsHandler env request c).1 := by
  obtain ⟨rfl, responses⟩ := blank
  have blank : Blank c.store c := ⟨rfl, responses⟩
  refine Ends.orError blank fun ok there => ?_
  cases ok with
  | false => exact blank.responseError _
  | true => exact (blank.responseOK (.existingNamespace there)).settles

theorem listCluster_settles (blank : Blank s c) (there : existsNamespace env.engine request.nsParam s = .ok true) :
    Settles s (Done env request s .listCluster) (ClusterHandler.list env request c).1 := by
  obtain ⟨rfl, responses⟩ := blank
  have blank : Blank c.store c := ⟨rfl, responses⟩
  unfold ClusterHandler.list
  split
  · rename_i names read
    exact (blank.responseOK (.listedClusters there read)).settles
  · rename_i e failed
    split
    · rename_i missing
      exact (blank.responseOK (.unlistedClusters there failed missing)).settles
    · exact blank.responseError e

theorem getCluster_settles (faithful : Faithful env request s c) (blank : Blank s c) :
    Settles s (Done env request s .getCluster) (ClusterHandler.get c).1 := by
  refine Ends.mustGet blank fun cluster found => ?_
  exact (blank.responseOK (.gotCluster (faithful.cluster cluster found))).settles

theorem listShard_settles (faithful : Faithful env request s c) (blank : Blank s c) :
    Settles s (Done env request s .listShard) (ShardHandler.list c).1 := by
  refine Ends.mustGet blank fun cluster found => ?_
  exact (blank.responseOK (.listedShards (faithful.cluster cluster found))).settles

theorem getShard_settles (blank : Blank s c) (met : Met env request s c .getShard) :
    Settles s (Done env request s .getShard) (ShardHandler.get c).1 := by
  refine Ends.mustGet blank fun shard found => ?_
  obtain ⟨cluster, read, own⟩ := met.shard shard found
  exact (blank.responseOK (.gotShard read own)).settles

theorem listNode_settles (blank : Blank s c) (met : Met env request s c .listNode) :
    Settles s (Done env request s .listNode) (NodeHandler.list c).1 := by
  refine Ends.mustGet blank fun shard found => ?_
  obtain ⟨cluster, read, own⟩ := met.shard shard found
  exact (blank.responseOK (.listedNodes read own)).settles

end Reads

theorem endpoint_settles (faithful : Faithful env request s c) (blank : Blank s c) (definite : Definite env.mutator)
    (met : Met env request s c endpoint) :
    Settles s (Done env request s endpoint) (endpoint.perform env request c).1 := by
  have effect : Effect env request s endpoint (endpoint.perform env request c).1.store :=
    endpoint_effect faithful fun creates => met.there (.inr creates)
  cases endpoint with
  | pprof | metrics | noRoute | updatePeer | listPeers => exact .reads (effect.kept rfl) fun _ _ => .outside rfl
  | listNamespace => exact listNamespace_settles blank
  | existsNamespace => exact existsNamespace_settles blank
  | listCluster => exact listCluster_settles blank (met.there (.inl rfl))
  | getCluster => exact getCluster_settles faithful blank
  | listShard => exact listShard_settles faithful blank
  | getShard => exact getShard_settles blank met
  | listNode => exact listNode_settles blank met
  | createNamespace => exact createNamespace_settles blank definite
  | removeNamespace => exact removeNamespace_settles blank definite
  | createCluster => exact createCluster_settles blank definite (met.there (.inr (.inl rfl)))
  | importCluster => exact importCluster_settles blank definite (met.there (.inr (.inr rfl)))
  | removeCluster =>
    obtain ⟨cluster, read⟩ := met.found rfl
    exact removeCluster_settles blank definite read
  | migrateSlot => exact migrateSlot_settles blank definite
  | createShard => exact createShard_settles faithful blank definite
  | removeShard => exact removeShard_settles faithful blank definite
  | failover => exact failover_settles faithful blank definite
  | createNode => exact createNode_settles faithful blank definite
  | removeNode => exact removeNode_settles faithful blank definite

end Endpoints

section Chain
variable {env : Env σ} {request : Request} {s : σ}

/-- A guard hands over with nothing answered yet, or has answered with an error. -/
theorem guard_cases (env : Env σ) (request : Request) (s : σ) {guard : Middleware} (guards : guard.isGuard = true) :
    ((guard.perform env request (ready s)).2.goesOn = false ∧
        ∀ body, ¬ Acknowledges (guard.perform env request (ready s)).1 body) ∨
      ((guard.perform env request (ready s)).2.goesOn = true ∧ Blank s (guard.perform env request (ready s)).1) ∨
      guard = .requiredClusterShard ∧ (guard.perform env request (ready s)).2.goesOn = true ∧
        ∃ e, (guard.perform env request (ready s)).1 = (ready s).responseBadRequest e := by
  have stored : (ready s).hasStore = true := rfl
  cases guard with
  | collectMetrics | setStore | redirectIfNotLeader => cases guards
  | requiredNamespace =>
    simp only [Middleware.perform, requiredNamespace, stored, Bool.not_true, Bool.false_eq_true, ↓reduceIte]
    split
    · exact .inl ⟨rfl, refused (errorCode_refuses _)⟩
    · exact .inl ⟨rfl, refused (by decide)⟩
    · exact .inr (.inl ⟨rfl, rfl, rfl⟩)
  | requiredCluster =>
    simp only [Middleware.perform, requiredCluster, stored, Bool.not_true, Bool.false_eq_true, ↓reduceIte]
    split
    · exact .inl ⟨rfl, refused (errorCode_refuses _)⟩
    · exact .inr (.inl ⟨rfl, rfl, rfl⟩)
  | requiredClusterShard =>
    simp only [Middleware.perform, requiredClusterShard, stored, Bool.not_true, Bool.false_eq_true, ↓reduceIte]
    split
    · exact .inl ⟨rfl, refused (errorCode_refuses _)⟩
    · split
      · exact .inr (.inr ⟨trivial, rfl, _, rfl⟩)
      · split
        · exact .inl ⟨rfl, refused (errorCode_refuses _)⟩
        · exact .inr (.inl ⟨rfl, rfl, rfl⟩)
  | requiredRaftEngine =>
    simp only [Middleware.perform, requiredRaftEngine, stored, Bool.not_true, Bool.false_eq_true, ↓reduceIte]
    split
    · exact .inl ⟨rfl, refused (by decide)⟩
    · exact .inr (.inl ⟨rfl, rfl, rfl⟩)

/-- The shard in the context is the one of the request. -/
theorem guard_shard (guard : Middleware) (here : (guard.perform env request (ready s)).1.shard = some shard) :
    ∃ cluster, getCluster env.engine request.nsParam request.clusterParam s = .ok cluster ∧
      ShardOf request cluster shard := by
  cases guard with
  | collectMetrics | setStore => cases here
  | redirectIfNotLeader | requiredNamespace | requiredCluster | requiredRaftEngine =>
    -- none of them looks up a shard
    simp only [Middleware.perform, redirectIfNotLeader, requiredNamespace, requiredCluster, requiredRaftEngine] at here
    repeat' split at here
    all_goals cases here
  | requiredClusterShard =>
    simp only [Middleware.perform, requiredClusterShard] at here
    split at here
    · cases here
    · split at here
      · cases here
      · rename_i cluster read
        split at here
        · cases here
        · rename_i i index
          split at here
          · cases here
          · rename_i found own
            obtain rfl := Option.some.inj here
            exact ⟨cluster, read, i, index, own⟩

/-- What a request past `RedirectIfNotLeader` has done where it is acknowledged; otherwise it
has left the store alone. -/
theorem serve_settles {route : Route} (passes : Passes env) (definite : Definite env.mutator)
    (registered : route ∈ initHandlers) :
    Settles s (Done env request s route.endpoint) (serve env request route s).1 := by
  have needs : ∀ route ∈ initHandlers,
      (route.endpoint = .listCluster ∨ route.endpoint = .createCluster ∨ route.endpoint = .importCluster →
        route.guard = some .requiredNamespace) ∧
        (route.endpoint = .removeCluster → route.guard = some .requiredCluster) := by decide
  obtain ⟨spaced, read⟩ := needs route registered
  have goes : (performs env request (.middleware .redirectIfNotLeader) (ready s)).2.goesOn = true := by
    rw [redirect_passes passes]
    rfl
  have faithful : Faithful env request s (ready s) := ⟨rfl, by rintro _ ⟨⟩⟩
  rw [serve_final, exec_goesOn goes, redirect_passes passes]
  unfold Route.guarded
  cases kind : route.guard with
  | none =>
    rw [kind] at spaced read
    simp only [Option.toList_none, List.map_nil, List.nil_append, endpoint_exec]
    refine endpoint_settles faithful ⟨rfl, rfl⟩ definite ⟨fun needs => ?_, fun removes => ?_, fun shard here => ?_⟩
    · cases spaced needs
    · cases read removes
    · cases here
  | some guard =>
    rw [kind] at spaced read
    simp only [Option.toList_some, List.map_cons, List.map_nil, List.cons_append, List.nil_append]
    have passed := middleware_faithful faithful guard
    rcases guard_cases env request s (registered_guard registered guard kind) with
      ⟨stops, unacknowledged⟩ | ⟨goes, blank⟩ | ⟨rfl, goes, e, answered⟩
    · rw [exec_stops stops]
      exact .inl ⟨passed.store, unacknowledged⟩
    · rw [exec_goesOn goes, endpoint_exec]
      refine endpoint_settles passed blank definite ⟨fun needs => ?_, fun removes => ?_, fun shard here => ?_⟩
      · obtain rfl := Option.some.inj (spaced needs)
        exact requiredNamespace_passes goes
      · obtain rfl := Option.some.inj (read removes)
        exact requiredCluster_passes goes
      · exact guard_shard guard here
    · have goes : (performs env request (.middleware .requiredClusterShard) (ready s)).2.goesOn = true := goes
      rw [exec_goesOn goes, endpoint_exec]
      simp only [Handler.perform, answered]
      rw [unset_panics registered kind rfl rfl]
      exact .inl ⟨rfl, refused (by decide)⟩

end Chain
end Kvrocks.Server
