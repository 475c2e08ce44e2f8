import KvrocksController.Raft.DataStore
import KvrocksController.Store.Engine

/-! The raft node as an engine: reads see the map the node has applied, writes only
hand an event to raft. -/
namespace Kvrocks.Raft

/-- A node as its engine calls see it, with the events proposed through it. -/
structure Replica where
  kvs : KVs Value
  proposed : List (Event Value)

def errKeyNotFound : Error := .new "key not found"

/-- `[]byte(nil)`. -/
def nilValue : Value := .text ""

/-- `kvs[name]` for the bytes of a name. -/
def DataStore.lookup (name : List UInt8) (kvs : KVs Value) : Value :=
  ((kvs.keys.find? fun key => Utf8.bytes key.toList == name).bind (kvs[·]?)).getD nilValue

/-- The value is looked up under the trimmed key. -/
def DataStore.list (base : String) (kvs : KVs Value) : List RawEntry :=
  let below := kvs.keys.filter fun key => base.toList.isPrefixOf key.toList && key != base
  let names := (below.map (trimmedKey base)).filter fun name => !name.contains slash
  (names.mergeSort (fun a b => a ≤ b)).map fun name => ⟨name, lookup name kvs⟩

/-- `raftNode.Propose`, which returns once raft has taken the event. -/
def propose (outcome : WriteOutcome) (event : Event Value) (r : Replica) : Replica × Option Error :=
  outcome.finish r { r with proposed := r.proposed ++ [event] }

def engine (outcome : WriteOutcome) : Engine Replica where
  get key r := match r.kvs[key]? with
    | none => .error errKeyNotFound
    | some value => .ok value
  existsKey key r := .ok r.kvs[key]?.isSome
  set key value := propose outcome ⟨opSet, key, value⟩
  delete key := propose outcome ⟨opDelete, key, nilValue⟩
  list base r := .ok ((DataStore.list base r.kvs).map (·.entry))

theorem engine_get_ok : (engine outcome).get key r = .ok value ↔ r.kvs[key]? = some value := by
  simp only [engine]
  cases r.kvs[key]? <;> simp

end Kvrocks.Raft
