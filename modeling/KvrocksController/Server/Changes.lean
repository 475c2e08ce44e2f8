import KvrocksController.Server.Effects
import KvrocksController.Store.Addresses
import KvrocksController.Store.Listing

/-! What serving a request does to the map of etcd, whichever of the engine calls fail: at
most one write, and what the handlers have read before it. -/
namespace Kvrocks.Server
open ClusterStore

inductive Change (env : Env KV) (request : Request) (kv : KV) : Endpoint → KV → Prop where
  | none : Change env request kv endpoint kv
  | createdNamespace (bound : Context.decodeBody NamespaceHandler.decode request.body = .ok ns) :
      Change env request kv .createNamespace (kv.insert (appendPrefix ns) (.text ns))
  | removedNamespace (unused : ∀ name value, NoSlash name → kv[buildClusterKey request.nsParam name]? ≠ some value) :
      Change env request kv .removeNamespace (kv.erase (appendPrefix request.nsParam))
  | createdCluster (there : ∃ value, kv[appendPrefix request.nsParam]? = some value)
      (bound : Context.decodeBody ClusterHandler.CreateClusterRequest.decode request.body = .ok req)
      (fresh : checkNewNodes (etcd reads) req.nodes kv = .ok ())
      (made : newCluster env.draw req.name req.nodes req.replicas = .ok cluster) :
      Change env request kv .createCluster
        (kv.insert (buildClusterKey request.nsParam cluster.name) (.json (cluster.setPassword req.password).marshalJSON))
  | importedCluster (there : ∃ value, kv[appendPrefix request.nsParam]? = some value)
      (bound : Context.decodeBody NodesRequest.decode request.body = .ok req) (named : req.nodes = addr :: rest)
      (reported : env.getClusterNodesString (newClusterNode (env.draw.fresh 0 0) addr req.password) = .ok text)
      (parsed : parseCluster text = .ok cluster)
      (fresh : checkNewNodes (etcd reads) cluster.addrs kv = .ok ())
      (renamed : imported = { cluster.setPassword req.password with name := request.clusterParam }) :
      Change env request kv .importCluster
        (kv.insert (buildClusterKey request.nsParam imported.name) (.json imported.marshalJSON))
  | removedCluster :
      Change env request kv .removeCluster (kv.erase (buildClusterKey request.nsParam request.clusterParam))
  | edited (read : getCluster (etcd reads) request.nsParam request.clusterParam kv = .ok cluster)
      (edit : Edit env request cluster endpoint next)
      (replaced : getCluster (flat .none) request.nsParam next.name kv = .ok old)
      (counted : written = { next with version := nextVersion next.version }) :
      Change env request kv endpoint
        (kv.insert (buildClusterKey request.nsParam written.name) (.json written.marshalJSON))

section Effect
variable {env : Env KV} {request : Request} {kv : KV}

theorem existing_stored (there : existsNamespace (etcd faults) ns kv = .ok true) :
    ∃ value, kv[appendPrefix ns]? = some value := by
  rw [etcd_existsNamespace, flat_existsNamespace_ok] at there
  exact Option.isSome_iff_exists.mp there.2

theorem Change.created (created : Change env request kv endpoint
      (kv.insert (buildClusterKey ns object.name) (.json (Cluster.marshalJSON object)))) :
    Change env request kv endpoint (createCluster (etcd faults) ns object kv).1 := by
  rw [etcd_createCluster]
  rcases flat_createCluster_cases faults ns kv object with ⟨err, refused⟩ | ⟨_, err, written⟩
  · rw [refused]
    exact .none
  · rw [written]
    exact created

theorem Effect.change (engine : env.engine = etcd reads) (mutator : env.mutator = etcd writes)
    (effect : Effect env request kv endpoint after) : Change env request kv endpoint after := by
  cases effect with
  | none => exact .none
  | createdNamespace bound =>
    rw [mutator]
    rcases etcd_createNamespace_cases writes _ kv with same | written
    · rw [same]
      exact .none
    · rw [written]
      exact .createdNamespace bound
  | removedNamespace =>
    rw [mutator]
    rcases etcd_removeNamespace_cases writes request.nsParam kv with same | ⟨empty, erased⟩
    · rw [same]
      exact .none
    · rw [erased]
      refine .removedNamespace fun name value plain stored => ?_
      cases listCluster_complete empty plain stored
  | createdCluster there bound fresh made =>
    rw [engine] at there fresh
    rw [mutator]
    exact .created (.createdCluster (existing_stored there) bound fresh made)
  | importedCluster there bound named reported parsed fresh =>
    rw [engine] at there fresh
    rw [Cluster.map_addr_getNodes, Cluster.setPassword_addrs] at fresh
    rw [mutator]
    exact .created (.importedCluster (existing_stored there) bound named reported parsed fresh rfl)
  | removedCluster =>
    rw [mutator, etcd_removeCluster]
    rcases flat_removeCluster_cases writes request.nsParam request.clusterParam kv with ⟨err, refused⟩ | ⟨_, err, erased⟩
    · rw [refused]
      exact .none
    · rw [erased]
      exact .removedCluster
  | edited read edit =>
    rename_i next
    rw [engine] at read
    rw [mutator, etcd_updateCluster]
    rcases flat_updateCluster_cases writes request.nsParam kv next with ⟨_, err, refused⟩ | ⟨old, err, replaced, _, written⟩
    · rw [refused]
      exact .none
    · rw [written]
      exact .edited read edit replaced rfl

end Effect
end Kvrocks.Server
