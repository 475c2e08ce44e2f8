import KvrocksController.Server.Handlers

/-! The middlewares, the routes of `initHandlers`, and the chain that serves a
request. Matching a path against the routes is left to the router: a request comes
with the route that serves it. -/
namespace Kvrocks.Server
open HandlerChain ClusterStore

inductive Middleware where
  | collectMetrics
  | setStore
  | redirectIfNotLeader
  | requiredNamespace
  | requiredCluster
  | requiredClusterShard
  | requiredRaftEngine
deriving DecidableEq, Repr

inductive Endpoint where
  | pprof | metrics | noRoute
  | updatePeer | listPeers
  | listNamespace | existsNamespace | createNamespace | removeNamespace
  | listCluster | createCluster | importCluster | getCluster | removeCluster | migrateSlot
  | listShard | createShard | getShard | removeShard | failover
  | listNode | createNode | removeNode
deriving DecidableEq, Repr

inductive Handler where
  | middleware (m : Middleware)
  | endpoint (e : Endpoint)
deriving DecidableEq, Repr

def Handler.isMiddleware : Handler → Bool
  | .middleware _ => true
  | .endpoint _ => false

section Perform
variable {σ : Type} (env : Env σ) (request : Request) (c : Context σ)

def noLeader : Json := .obj [("error", .str "no leader now, please retry later")]

/-- `X-Is-Redirect` is read from the context, which is new for every request. -/
def redirectIfNotLeader : Served σ :=
  if !c.hasStore then (c, .panicked)
  else if env.leader = "" then (c.json 400 noLeader, .aborted)
  else if !env.isLeader && env.raft.isNone then
    if !c.isRedirect then
      let c := { c with isRedirect := true }
      let c := c.redirect 307 ("http://" ++ extractAddrFromSessionID env.leader ++ request.requestURI)
      -- the chain is not aborted here
      (c.redirect 307 ("http://" ++ env.leader ++ request.requestURI), .returned)
    else (c.json 400 noLeader, .aborted)
  else (c, .next)

def requiredNamespace : Served σ :=
  if !c.hasStore then (c, .panicked)
  else
    match existsNamespace env.engine request.nsParam c.store with
    | .error e => c.responseError e
    | .ok false => (c.responseBadRequest (.new "namespace not found"), .aborted)
    | .ok true => (c, .next)

def requiredCluster : Served σ :=
  if !c.hasStore then (c, .panicked)
  else
    match getCluster env.engine request.nsParam request.clusterParam c.store with
    | .error e => c.responseError e
    | .ok cluster => ({ c with cluster := some cluster }, .next)

def requiredClusterShard : Served σ :=
  if !c.hasStore then (c, .panicked)
  else
    match getCluster env.engine request.nsParam request.clusterParam c.store with
    | .error e => c.responseError e
    | .ok cluster =>
      match atoi request.shardParam with
      -- the chain is not aborted here either
      | .error e => (c.responseBadRequest e, .returned)
      | .ok shardIndex =>
        match cluster.getShard shardIndex with
        | .error e => c.responseError e
        | .ok shard => ({ c with cluster := some cluster, shard := some shard }, .next)

def requiredRaftEngine : Served σ :=
  if !c.hasStore then (c, .panicked)
  else
    match env.raft with
    | none => (c.responseBadRequest (.new "raft engine is not enabled"), .aborted)
    | some raftNode => ({ c with raftNode := some raftNode }, .next)

/-- What `CollectMetrics` counts once the chain is done is not part of the context. -/
def Middleware.perform : Middleware → Served σ
  | .collectMetrics => (c, .next)
  | .setStore => ({ c with hasStore := true }, .next)
  | .redirectIfNotLeader => Server.redirectIfNotLeader env request c
  | .requiredNamespace => Server.requiredNamespace env request c
  | .requiredCluster => Server.requiredCluster env request c
  | .requiredClusterShard => Server.requiredClusterShard env request c
  | .requiredRaftEngine => Server.requiredRaftEngine env c

def Endpoint.perform : Endpoint → Served σ
  | .pprof => Server.pprof env request c
  | .metrics => (c.write (env.page "metrics"), .returned)
  | .noRoute => c.responseError (.of .notFound)
  | .updatePeer => RaftHandler.updatePeer request c
  | .listPeers => RaftHandler.listPeers c
  | .listNamespace => NamespaceHandler.list env c
  | .existsNamespace => NamespaceHandler.existsHandler env request c
  | .createNamespace => NamespaceHandler.create env request c
  | .removeNamespace => NamespaceHandler.remove env request c
  | .listCluster => ClusterHandler.list env request c
  | .createCluster => ClusterHandler.create env request c
  | .importCluster => ClusterHandler.importHandler env request c
  | .getCluster => ClusterHandler.get c
  | .removeCluster => ClusterHandler.remove env request c
  | .migrateSlot => ClusterHandler.migrateSlot env request c
  | .listShard => ShardHandler.list c
  | .createShard => ShardHandler.create env request c
  | .getShard => ShardHandler.get c
  | .removeShard => ShardHandler.remove env request c
  | .failover => ShardHandler.failover env request c
  | .listNode => NodeHandler.list c
  | .createNode => NodeHandler.create env request c
  | .removeNode => NodeHandler.remove env request c

def Handler.perform : Handler → Served σ
  | .middleware m => m.perform env request c
  | .endpoint e => e.perform env request c

end Perform

/-- The method is `ANY` for a route of every method. -/
structure Route where
  method : String
  path : String
  guard : Option Middleware
  endpoint : Endpoint
deriving DecidableEq, Repr

/-- The middlewares of the engine come first, then those of the route. -/
def Route.chain (route : Route) : List Handler :=
  [.middleware .collectMetrics, .middleware .setStore, .middleware .redirectIfNotLeader] ++
    (route.guard.toList.map .middleware ++ [.endpoint route.endpoint])

def raftPath : String := "/api/v1/raft"
def namespacesPath : String := "/api/v1/namespaces"
def clustersPath : String := namespacesPath ++ "/:namespace/clusters"
def shardsPath : String := clustersPath ++ "/:cluster/shards"
def nodesPath : String := shardsPath ++ "/:shard/nodes"

/-- The last entry, without a path, serves what no route matches. -/
def initHandlers : List Route :=
  [⟨"ANY", "/debug/pprof/*profile", none, .pprof⟩,
    ⟨"GET", "/metrics", none, .metrics⟩,
    ⟨"POST", raftPath ++ "/peers", some .requiredRaftEngine, .updatePeer⟩,
    ⟨"GET", raftPath ++ "/peers", some .requiredRaftEngine, .listPeers⟩,
    ⟨"GET", namespacesPath, none, .listNamespace⟩,
    ⟨"GET", namespacesPath ++ "/:namespace", none, .existsNamespace⟩,
    ⟨"POST", namespacesPath, none, .createNamespace⟩,
    ⟨"DELETE", namespacesPath ++ "/:namespace", none, .removeNamespace⟩,
    ⟨"GET", clustersPath, some .requiredNamespace, .listCluster⟩,
    ⟨"POST", clustersPath, some .requiredNamespace, .createCluster⟩,
    ⟨"POST", clustersPath ++ "/:cluster/import", some .requiredNamespace, .importCluster⟩,
    ⟨"GET", clustersPath ++ "/:cluster", some .requiredCluster, .getCluster⟩,
    ⟨"DELETE", clustersPath ++ "/:cluster", some .requiredCluster, .removeCluster⟩,
    ⟨"POST", clustersPath ++ "/:cluster/migrate", none, .migrateSlot⟩,
    ⟨"GET", shardsPath, some .requiredCluster, .listShard⟩,
    ⟨"POST", shardsPath, some .requiredCluster, .createShard⟩,
    ⟨"GET", shardsPath ++ "/:shard", some .requiredClusterShard, .getShard⟩,
    ⟨"DELETE", shardsPath ++ "/:shard", some .requiredCluster, .removeShard⟩,
    ⟨"POST", shardsPath ++ "/:shard/failover", some .requiredClusterShard, .failover⟩,
    ⟨"GET", nodesPath, some .requiredClusterShard, .listNode⟩,
    ⟨"POST", nodesPath, some .requiredClusterShard, .createNode⟩,
    ⟨"DELETE", nodesPath ++ "/:id", some .requiredClusterShard, .removeNode⟩,
    ⟨"ANY", "", none, .noRoute⟩]

/-- The context a request leaves, and the handlers that ran for it. -/
def serve (env : Env σ) (request : Request) (route : Route) (s : σ) :
    Context σ × List (Visit Handler (Context σ)) :=
  exec (fun handler c => handler.perform env request c) route.chain (Context.start s)

end Kvrocks.Server
