import KvrocksController.Store.Parse

/-! What a probe round of `parallelProbeNodes` takes over from the nodes. The answers
come in the order in which the goroutines enter the section under the mutex. -/
namespace Kvrocks.Probe

/-- A node that answered with its epoch, and its `CLUSTER NODES` text if it gets asked. -/
structure Answer where
  version : Int
  nodesString : Except Error String

structure Latest where
  nodeVersion : Int
  clusterNodesStr : String
deriving DecidableEq, Repr

/-- A failed fetch still raises the version, with an empty text. -/
def observe (clusterVersion : Int) (latest : Latest) (answer : Answer) : Latest :=
  if answer.version > clusterVersion ∧ answer.version > latest.nodeVersion then
    { nodeVersion := answer.version
      clusterNodesStr := match answer.nodesString with
        | .ok text => text
        | .error _ => "" }
  else latest

def latest (clusterVersion : Int) (answers : List Answer) : Latest :=
  answers.foldl (observe clusterVersion) ⟨0, ""⟩

/-- The password of the first node of the first shard; both are indexed unchecked. -/
def firstPassword (cluster : Cluster) : Result String :=
  match cluster.shards with
  | [] => .error .panicked
  | shard :: _ =>
    match shard.nodes with
    | [] => .error .panicked
    | node :: _ => .ok node.password

/-- The cluster that the round hands to `SetCluster`, if any. The shards of a text may come
in several orders out of `ParseCluster`, so it is given. -/
def adoptionBy (parseCluster : String → Except Error Cluster) (cluster : Cluster) (answers : List Answer) :
    Result (Option Cluster) :=
  let latest := latest cluster.version answers
  if latest.nodeVersion > cluster.version ∧ latest.clusterNodesStr ≠ "" then
    match parseCluster latest.clusterNodesStr with
    | .error _ => .ok none
    | .ok latestClusterInfo => do
      let password ← firstPassword cluster
      .ok (some (Cluster.setPassword password { latestClusterInfo with name := cluster.name }))
  else .ok none

def adoption (cluster : Cluster) (answers : List Answer) : Result (Option Cluster) :=
  adoptionBy parseCluster cluster answers

theorem adoptionBy_name (chosen : adoptionBy parse cluster answers = .ok (some adopted)) :
    adopted.name = cluster.name := by
  simp only [adoptionBy] at chosen
  split at chosen
  · split at chosen
    · cases chosen
    · obtain ⟨password, _, chosen⟩ := bind_ok chosen
      cases chosen
      rfl
  · cases chosen

end Kvrocks.Probe
