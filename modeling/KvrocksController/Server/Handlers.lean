import KvrocksController.Server.Context
import KvrocksController.Server.ShardHandler

/-! The handlers of package `api`, over any engine. Each reads its parameters and its
body, and answers through the context. The lock that `MigrateSlot` takes orders it
against other migrations of the cluster and does not show within one request. -/
namespace Kvrocks.Server
open HandlerChain ClusterStore

variable {σ : Type}

def strings (items : List String) : Json := .arr (items.map .str)

namespace NamespaceHandler

def list (env : Env σ) (c : Context σ) : Served σ := Body.run do
  let namespaces ← c.orError (listNamespace env.engine c.store)
  return c.responseOK (.obj [("namespaces", strings namespaces)])

def existsHandler (env : Env σ) (request : Request) (c : Context σ) : Served σ := Body.run do
  let ok ← c.orError (existsNamespace env.engine request.nsParam c.store)
  return if !ok then c.responseError (.of .notFound) else c.responseOK .null

def decode (j : Json) : Except Error String := do
  let field ← j.fields jsonMismatch
  (field "namespace").string jsonMismatch

def create (env : Env σ) (request : Request) (c : Context σ) : Served σ := Body.run do
  let ns ← c.bindJSON request decode
  if ns.utf8ByteSize = 0 then c.badRequest (.new "namespace should NOT be empty")
  let c ← c.mutate (.createNamespace ns) (createNamespace env.mutator ns)
  return c.responseCreated (.obj [("namespace", .str ns)])

def remove (env : Env σ) (request : Request) (c : Context σ) : Served σ := Body.run do
  let c ← c.mutate (.removeNamespace request.nsParam) (removeNamespace env.mutator request.nsParam)
  return c.responseNoContent

end NamespaceHandler

/-- The body of `ShardHandler.Create` and `ClusterHandler.Import`. -/
structure NodesRequest where
  nodes : List String
  password : String

def NodesRequest.decode (j : Json) : Except Error NodesRequest := do
  let field ← j.fields jsonMismatch
  let nodes ← (field "nodes").list jsonMismatch (Json.string jsonMismatch)
  let password ← (field "password").string jsonMismatch
  return { nodes, password }

namespace ClusterHandler

structure CreateClusterRequest where
  name : String
  nodes : List String
  password : String
  replicas : Int

def CreateClusterRequest.decode (j : Json) : Except Error CreateClusterRequest := do
  let field ← j.fields jsonMismatch
  let name ← (field "name").string jsonMismatch
  let nodes ← (field "nodes").list jsonMismatch (Json.string jsonMismatch)
  let password ← (field "password").string jsonMismatch
  let replicas ← (field "replicas").int jsonMismatch
  return { name, nodes, password, replicas }

structure MigrateSlotRequest where
  target : Int
  slot : SlotRange
  slotOnly : Bool

/-- A missing slot is the zero range, while one that is `null` does not parse. -/
def MigrateSlotRequest.decode (j : Json) : Except Error MigrateSlotRequest := do
  let field ← j.fields jsonMismatch
  let target ← (field "target").int jsonMismatch
  let slot ← if j.hasMember "slot" then SlotRange.unmarshalJSON (field "slot") else .ok ⟨0, 0⟩
  let slotOnly ← (field "slot_only").bool' jsonMismatch
  return { target, slot, slotOnly }

def list (env : Env σ) (request : Request) (c : Context σ) : Served σ :=
  match listCluster env.engine request.nsParam c.store with
  | .ok clusters => c.responseOK (.obj [("clusters", strings clusters)])
  | .error e =>
    if e.is = some .notFound then c.responseOK (.obj [("clusters", .null)]) else c.responseError e

def get (c : Context σ) : Served σ := Body.run do
  let cluster ← c.mustGet c.cluster
  return c.responseOK (.obj [("cluster", cluster.marshalJSON)])

/-- The header named for skipping the check turns it on. -/
def checkClusterModes (env : Env σ) (request : Request) (cluster : Cluster) (c : Context σ) : Body σ Unit :=
  if request.dontCheckClusterMode.toLower = "yes" then
    cluster.getNodes.forM fun node => do
      let version ← c.orError (env.checkClusterMode node)
      if version ≠ -1 then c.badRequest (.new "node is already in cluster mode")
  else .ok ()

def create (env : Env σ) (request : Request) (c : Context σ) : Served σ := Body.run do
  let req ← c.bindJSON request CreateClusterRequest.decode
  c.orError (checkNewNodes env.engine req.nodes c.store)
  let cluster ← match newCluster env.draw req.name req.nodes req.replicas with
    | .ok cluster => .ok (cluster.setPassword req.password)
    | .error e => c.badRequest e
  checkClusterModes env request cluster c
  let c ← c.mutate (.createCluster request.nsParam cluster.name) (createCluster env.mutator request.nsParam cluster)
  return c.responseCreated (.obj [("cluster", cluster.marshalJSON)])

def remove (env : Env σ) (request : Request) (c : Context σ) : Served σ := Body.run do
  let c ← c.mutate (.removeCluster request.nsParam request.clusterParam)
    (removeCluster env.mutator request.nsParam request.clusterParam)
  return c.responseNoContent

def migrateSlot (env : Env σ) (request : Request) (c : Context σ) : Served σ := Body.run do
  if !c.hasStore then .error (c, .panicked)
  let cluster ← c.orError (getCluster env.engine request.nsParam request.clusterParam c.store)
  let req ← c.bindJSON request MigrateSlotRequest.decode
  let cluster ← match cluster.migrateSlot env.replies req.slot req.target req.slotOnly with
    | (cluster, none) => .ok cluster
    | (_, some (.returned e)) => .error (c.responseError e)
    | (_, some .panicked) => .error (c, .panicked)
  let (c, cluster) ← c.updateCluster env request.nsParam cluster
  return c.responseOK (.obj [("cluster", cluster.marshalJSON)])

def importHandler (env : Env σ) (request : Request) (c : Context σ) : Served σ := Body.run do
  let req ← c.bindJSON request NodesRequest.decode
  let first ← match req.nodes with
    | [] => c.badRequest (.new "nodes should NOT be empty")
    | first :: _ => .ok (newClusterNode (env.draw.fresh 0 0) first req.password)
  let clusterNodesStr ← c.orError (env.getClusterNodesString first)
  let cluster ← c.orError (parseCluster clusterNodesStr)
  let cluster := cluster.setPassword req.password
  c.orError (checkNewNodes env.engine (cluster.getNodes.map (·.addr)) c.store)
  let cluster := { cluster with name := request.clusterParam }
  let c ← c.mutate (.createCluster request.nsParam cluster.name) (createCluster env.mutator request.nsParam cluster)
  return c.responseOK (.obj [("cluster", cluster.marshalJSON)])

end ClusterHandler

namespace ShardHandler

def list (c : Context σ) : Served σ := Body.run do
  let cluster ← c.mustGet c.cluster
  return c.responseOK (.obj [("shards", .arr (cluster.shards.map (·.marshalJSON)))])

def get (c : Context σ) : Served σ := Body.run do
  let shard ← c.mustGet c.shard
  return c.responseOK (.obj [("shard", shard.marshalJSON)])

def create (env : Env σ) (request : Request) (c : Context σ) : Served σ := Body.run do
  let req ← c.bindJSON request NodesRequest.decode
  if req.nodes.length = 0 then c.badRequest (.new "nodes should NOT be empty")
  let cluster ← c.mustGet c.cluster
  let cluster ← match Kvrocks.ShardHandler.create env.draw req.nodes req.password cluster with
    | .ok cluster => .ok cluster
    | .error e => c.badRequest e
  let (c, _) ← c.updateCluster env request.nsParam cluster
  return c.responseCreated (.obj [("shard", (cluster.shards.getLast?.map (·.marshalJSON)).getD .null)])

def remove (env : Env σ) (request : Request) (c : Context σ) : Served σ := Body.run do
  let shardIdx ← match atoi request.shardParam with
    | .ok shardIdx => .ok shardIdx
    | .error e => c.badRequest e
  let cluster ← c.mustGet c.cluster
  let cluster ← match Kvrocks.ShardHandler.remove shardIdx cluster with
    | .ok cluster => .ok cluster
    | .error e => c.badRequest e
  let (c, _) ← c.updateCluster env request.nsParam cluster
  return c.responseNoContent

def nodeIDLen : Nat := 40

def decodePreferred (j : Json) : Except Error String := do
  let field ← j.fields jsonMismatch
  (field "preferred_node_id").string jsonMismatch

/-- `strconv.Atoi` with its error dropped. -/
def shardIndex (request : Request) : Int := (atoi request.shardParam).toOption.getD 0

/-- The body of a served request is never nil, so it is always bound. -/
def failover (env : Env σ) (request : Request) (c : Context σ) : Served σ := Body.run do
  let cluster ← c.mustGet c.cluster
  let preferred ← c.shouldBindJSON request decodePreferred
  if preferred.utf8ByteSize > 0 ∧ preferred.utf8ByteSize ≠ nodeIDLen then
    c.badRequest (.new ("invalid node id: " ++ preferred))
  let (cluster, newMasterNodeID) ← c.orError (cluster.promoteNewMaster env.replies (shardIndex request) "" preferred)
  let (c, _) ← c.updateCluster env request.nsParam cluster
  return c.responseOK (.obj [("new_master_id", .str newMasterNodeID)])

end ShardHandler

namespace NodeHandler

structure CreateNodeRequest where
  addr : String
  role : String
  password : String

def CreateNodeRequest.decode (j : Json) : Except Error CreateNodeRequest := do
  let field ← j.fields jsonMismatch
  let addr ← (field "addr").string jsonMismatch
  let role ← (field "role").string jsonMismatch
  let password ← (field "password").string jsonMismatch
  if addr = "" then
    .error (.new "Key: 'Addr' Error:Field validation for 'Addr' failed on the 'required' tag")
  return { addr, role := if role = "" then roleSlave else role, password }

def list (c : Context σ) : Served σ := Body.run do
  let shard ← c.mustGet c.shard
  return c.responseOK (.obj [("nodes", .arr (shard.nodes.map (·.marshalJSON)))])

/-- The new node is the last one of its shard. -/
def newNodeID (i : Int) (cluster : Cluster) : Json :=
  match cluster.getShard i with
  | .ok shard => (shard.nodes.getLast?.map fun node => Json.str node.id).getD .null
  | .error _ => .null

def create (env : Env σ) (request : Request) (c : Context σ) : Served σ := Body.run do
  let cluster ← c.mustGet c.cluster
  let req ← c.shouldBindJSON request CreateNodeRequest.decode
  let i := ShardHandler.shardIndex request
  let cluster ← c.orError (cluster.addNode env.draw i req.addr req.role req.password)
  let (c, _) ← c.updateCluster env request.nsParam cluster
  return c.responseCreated (newNodeID i cluster)

def remove (env : Env σ) (request : Request) (c : Context σ) : Served σ := Body.run do
  let cluster ← c.mustGet c.cluster
  let cluster ← match cluster.removeNode (ShardHandler.shardIndex request) request.idParam with
    | (cluster, none) => .ok cluster
    | (_, some (.returned e)) => .error (c.responseError e)
    | (_, some .panicked) => .error (c, .panicked)
  let (c, _) ← c.updateCluster env request.nsParam cluster
  return c.responseNoContent

end NodeHandler

namespace RaftHandler

structure MemberRequest where
  id : Nat
  operation : String
  peer : String

def operationAdd : String := "add"
def operationRemove : String := "remove"

def MemberRequest.decode (j : Json) : Except Error MemberRequest := do
  let field ← j.fields jsonMismatch
  let id ← (field "id").int jsonMismatch
  let operation ← (field "operation").string jsonMismatch
  let peer ← (field "peer").string jsonMismatch
  if id < 0 then .error jsonMismatch
  return { id := id.toNat, operation, peer }

def MemberRequest.validate (req : MemberRequest) : Except Error MemberRequest :=
  let req := { req with operation := req.operation.toLower }
  if req.operation ≠ operationAdd ∧ req.operation ≠ operationRemove then
    .error (.new "operation must be one of [add,remove]")
  else if req.operation = operationAdd ∧ req.peer = "" then .error (.new "peer should NOT be empty")
  else .ok req

def listPeers (c : Context σ) : Served σ := Body.run do
  let raftNode ← c.mustGet c.raftNode
  let peers := raftNode.peers.map fun (id, peer) => (toString id, Json.str peer)
  return c.responseOK (.obj [("leader", .num raftNode.lead), ("peers", .obj peers)])

def updatePeer (request : Request) (c : Context σ) : Served σ := Body.run do
  let req ← c.bindJSON request MemberRequest.decode
  let req ← match req.validate with
    | .ok req => .ok req
    | .error e => c.badRequest e
  let raftNode ← c.mustGet c.raftNode
  let err ← if req.operation = operationAdd then
      if raftNode.peers.any (·.2 == req.peer) then
        .error (c.responseError (.new ("peer '" ++ req.peer ++ "' already exists")))
      else .ok (raftNode.addPeer req.id req.peer)
    else if !raftNode.peers.any (·.1 == req.id) then c.badRequest (.new "peer not exists")
    else if raftNode.peers.length = 1 then c.badRequest (.new "can't remove the last peer")
    else .ok (raftNode.removePeer req.id)
  return match err with
    | some e => c.responseError e
    | none => c.responseOK .null

end RaftHandler

/-- The profile that is served; every other path is the index page. -/
def pprof (env : Env σ) (request : Request) (c : Context σ) : Served σ :=
  let page := match request.profileParam with
    | "/cmdline" => "cmdline"
    | "/symbol" => "symbol"
    | "/profile" => "profile"
    | "/trace" => "trace"
    | _ => "index"
  (c.write (env.page page), .returned)

end Kvrocks.Server
