import KvrocksController.Store.Codec
import KvrocksController.Store.Engine
import Mathlib.Algebra.Group.Nat.Defs

/-! The store of namespaces and clusters, over any engine. Each call holds the lock
of its cluster, so a call is one step for every other call on that cluster. Events
are emitted exactly by the calls that return no error. -/
namespace Kvrocks

def nsPrefix : String := "/kvrocks/metadata"

def appendPrefix (ns : String) : String := nsPrefix ++ "/" ++ ns

def buildClusterPrefix (ns : String) : String := nsPrefix ++ "/" ++ ns ++ "/cluster"

def buildClusterKey (ns cluster : String) : String := buildClusterPrefix ns ++ "/" ++ cluster

/-- The outcome of `UpdateCluster`: the store, and the version left in the caller's
object, which the call increments before it writes. -/
structure Updated (σ : Type) where
  store : σ
  version : Int
  err : Option Error

/-- `Version.Add(1)` on an `atomic.Int64`. -/
def nextVersion (version : Int) : Int := (version + 1).bmod (2 ^ 64)

def updatedByOthers : Error := .new "the cluster has been updated by others"

namespace ClusterStore
variable {σ : Type} (e : Engine σ)

def listNamespace (s : σ) : Except Error (List String) := do
  let entries ← e.list nsPrefix s
  .ok (entries.map (·.key))

def existsNamespace (ns : String) (s : σ) : Except Error Bool := e.existsKey (appendPrefix ns) s

/-- `has, _ := Exists(...)`: a failed check reads as absent. -/
def found : Except Error Bool → Bool
  | .ok has => has
  | .error _ => false

def createNamespace (ns : String) (s : σ) : σ × Option Error :=
  if found (existsNamespace e ns s) then (s, some (.of .alreadyExists))
  else e.set (appendPrefix ns) (.text ns) s

def listCluster (ns : String) (s : σ) : Except Error (List String) := do
  let entries ← e.list (buildClusterPrefix ns) s
  .ok (entries.map (·.key))

def removeNamespace (ns : String) (s : σ) : σ × Option Error :=
  if !found (existsNamespace e ns s) then (s, some (.of .notFound))
  else
    match listCluster e ns s with
    | .error err => (s, some err)
    | .ok clusters =>
      if clusters.length ≠ 0 then (s, some (.wrap "" (.of .forbidden) ": please delete clusters first"))
      else e.delete (appendPrefix ns) s

def existsCluster (ns cluster : String) (s : σ) : Except Error Bool := e.existsKey (buildClusterKey ns cluster) s

def decode : Value → Except Error Cluster
  | .json j => Cluster.unmarshalJSON j
  | .text s => .error (.new (if s.isEmpty then "unexpected end of JSON input"
      else "invalid character looking for beginning of value"))

def getClusterWithoutLock (ns cluster : String) (s : σ) : Except Error Cluster :=
  match e.get (buildClusterKey ns cluster) s with
  | .error err => .error (.wrap "cluster: " err "")
  | .ok value =>
    match decode value with
    | .error err => .error (.wrap "cluster: " err "")
    | .ok clusterInfo => .ok clusterInfo

def getCluster (ns cluster : String) (s : σ) : Except Error Cluster := getClusterWithoutLock e ns cluster s

def putCluster (ns : String) (clusterInfo : Cluster) (s : σ) : σ × Option Error :=
  e.set (buildClusterKey ns clusterInfo.name) (.json clusterInfo.marshalJSON) s

def updateCluster (ns : String) (s : σ) (clusterInfo : Cluster) : Updated σ :=
  match getClusterWithoutLock e ns clusterInfo.name s with
  | .error err => ⟨s, clusterInfo.version, some err⟩
  | .ok oldCluster =>
    if oldCluster.version > clusterInfo.version then ⟨s, clusterInfo.version, some updatedByOthers⟩
    else
      let clusterInfo := { clusterInfo with version := nextVersion clusterInfo.version }
      let (s, err) := putCluster e ns clusterInfo s
      ⟨s, clusterInfo.version, err⟩

/-- The version is stored as it is, and an equal one is not refused. -/
def setCluster (ns : String) (clusterInfo : Cluster) (s : σ) : σ × Option Error :=
  match getClusterWithoutLock e ns clusterInfo.name s with
  | .error err => (s, some err)
  | .ok oldCluster =>
    if oldCluster.version > clusterInfo.version then (s, some updatedByOthers)
    else putCluster e ns clusterInfo s

def createCluster (ns : String) (clusterInfo : Cluster) (s : σ) : σ × Option Error :=
  if found (existsCluster e ns clusterInfo.name s) then (s, some (.wrap "cluster: " (.of .alreadyExists) ""))
  else putCluster e ns clusterInfo s

def removeCluster (ns cluster : String) (s : σ) : σ × Option Error :=
  if !found (existsCluster e ns cluster s) then (s, some (.of .notFound))
  else e.delete (buildClusterKey ns cluster) s

/-- The addresses among `nodes` that some stored cluster uses. -/
def checkNewNodes (nodes : List String) (s : σ) : Except Error Unit := do
  let namespaces ← listNamespace e s
  let existing ← namespaces.mapM fun ns => do
    let clusters ← listCluster e ns s
    clusters.mapM fun cluster => do
      let c ← getCluster e ns cluster s
      .ok ((c.getNodes.map (·.addr)).filter fun addr => nodes.contains addr)
  let existingNodes := existing.flatten.flatten
  if existingNodes.length > 0 then
    .error (.wrap "node: " (.of .alreadyExists) (": [" ++ " ".intercalate existingNodes ++ "]"))
  else .ok ()

end ClusterStore
end Kvrocks
