import KvrocksController.Lib.HandlerChain
import KvrocksController.Store.ClusterStore
import KvrocksController.Store.Parse

/-! One HTTP request while it is served: what the request carries, what the server
sees of its engine and of the nodes, and the context its handlers share, with the
responses written and the mutators of the store called so far. -/
namespace Kvrocks.Server
open HandlerChain

structure Response where
  code : Nat
  location : Option String
  body : Json

/-- What the handlers ask of the raft engine, and how its membership changes end. -/
structure RaftNode where
  lead : Nat
  peers : List (Nat × String)
  addPeer : Nat → String → Option Error
  removePeer : Nat → Option Error

/-- The server during one request. `engine` and `mutator` are the engine as the reads of the
handlers meet it and as the mutator of the store does that a handler calls: each of their
calls has its own outcome. `raft` is set when the engine is a raft node, and `page` stands
for the handlers of other packages. -/
structure Env (σ : Type) where
  engine : Engine σ
  mutator : Engine σ
  leader : String
  id : String
  raft : Option RaftNode
  replies : NodeReplies
  checkClusterMode : ClusterNode → Except Error Int
  getClusterNodesString : ClusterNode → Except Error String
  draw : Draw
  page : String → Response

def Env.isLeader (env : Env σ) : Bool := env.leader == env.id

/-- The parameters are those of the matched route, empty where it has none. A body
that is not JSON is `none`. -/
structure Request where
  requestURI : String
  nsParam : String
  clusterParam : String
  shardParam : String
  idParam : String
  profileParam : String
  dontCheckClusterMode : String
  body : Option Json

/-- The methods of `ClusterStore` that write, with what they are called on. -/
inductive Mutation where
  | createNamespace (ns : String)
  | removeNamespace (ns : String)
  | createCluster (ns cluster : String)
  | updateCluster (ns cluster : String)
  | setCluster (ns cluster : String)
  | removeCluster (ns cluster : String)
deriving DecidableEq, Repr

/-- `gin.Context`: the keys set by middlewares, beside the store and the record of
what the handlers have done. -/
structure Context (σ : Type) where
  store : σ
  responses : List Response
  mutations : List Mutation
  hasStore : Bool
  isRedirect : Bool
  cluster : Option Cluster
  shard : Option Shard
  raftNode : Option RaftNode

abbrev Served (σ : Type) := Context σ × Flow

/-- The code of one handler, with its early returns as errors. -/
abbrev Body (σ α : Type) := Except (Served σ) α

def Body.run : Body σ (Served σ) → Served σ
  | .ok served => served
  | .error served => served

namespace Context

def start (s : σ) : Context σ where
  store := s
  responses := []
  mutations := []
  hasStore := false
  isRedirect := false
  cluster := none
  shard := none
  raftNode := none

def write (response : Response) (c : Context σ) : Context σ := { c with responses := c.responses ++ [response] }

def json (code : Nat) (body : Json) (c : Context σ) : Context σ := c.write ⟨code, none, body⟩

def redirect (code : Nat) (location : String) (c : Context σ) : Context σ := c.write ⟨code, some location, .null⟩

def responseData (code : Nat) (data : Json) (c : Context σ) : Served σ :=
  (c.json code (.obj [("data", data)]), .returned)

def responseOK (data : Json) (c : Context σ) : Served σ := c.responseData 200 data

def responseCreated (data : Json) (c : Context σ) : Served σ := c.responseData 201 data

def responseNoContent (c : Context σ) : Served σ := (c.json 204 .null, .returned)

def errorBody (e : Error) : Json := .obj [("error", .obj [("message", .str e.text)]), ("data", .null)]

/-- The error is written and the chain is left as it is. -/
def responseBadRequest (e : Error) (c : Context σ) : Context σ := c.json 400 (errorBody e)

def errorCode (e : Error) : Nat :=
  match e.is with
  | some .notFound => 404
  | some .indexOutOfRange => 400
  | some .alreadyExists => 409
  | some .forbidden => 403
  | some .invalidArgument => 400
  | _ => 500

/-- Unlike `responseBadRequest`, this aborts the chain itself. -/
def responseError (e : Error) (c : Context σ) : Served σ := (c.json (errorCode e) (errorBody e), .aborted)

def badRequest (e : Error) (c : Context σ) : Body σ α := .error (c.responseBadRequest e, .returned)

def orError (call : Except Error α) (c : Context σ) : Body σ α :=
  match call with
  | .ok a => .ok a
  | .error e => .error (c.responseError e)

def mustGet (key : Option α) (c : Context σ) : Body σ α :=
  match key with
  | some value => .ok value
  | none => .error (c, .panicked)

def decodeBody (decode : Json → Except Error α) : Option Json → Except Error α
  | none => .error (.new "EOF")
  | some j => decode j

/-- A body that cannot be bound has the chain aborted already when the handler answers. -/
def bindJSON (request : Request) (decode : Json → Except Error α) (c : Context σ) : Body σ α :=
  match decodeBody decode request.body with
  | .ok a => .ok a
  | .error e => .error (c.responseBadRequest e, .aborted)

def shouldBindJSON (request : Request) (decode : Json → Except Error α) (c : Context σ) : Body σ α :=
  match decodeBody decode request.body with
  | .ok a => .ok a
  | .error e => c.badRequest e

/-- Calls a mutator of the store. Every handler answers its error in the same way. -/
def mutate (mutation : Mutation) (call : σ → σ × Option Error) (c : Context σ) : Body σ (Context σ) :=
  let (s, err) := call c.store
  let c := { c with store := s, mutations := c.mutations ++ [mutation] }
  match err with
  | none => .ok c
  | some e => .error (c.responseError e)

/-- The version of the caller's object is incremented in place. -/
def updateCluster (env : Env σ) (ns : String) (cluster : Cluster) (c : Context σ) : Body σ (Context σ × Cluster) := do
  let updated := ClusterStore.updateCluster env.mutator ns c.store cluster
  let c ← c.mutate (.updateCluster ns cluster.name) fun _ => (updated.store, updated.err)
  return (c, { cluster with version := updated.version })

end Context

def extractAddrFromSessionID (sessionID : String) : String :=
  match splitString '/' sessionID with
  | [_, addr] => addr
  | _ => sessionID

end Kvrocks.Server
