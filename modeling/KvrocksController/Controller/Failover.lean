import KvrocksController.Store.ClusterStore

/-! Counting failures and failing over: `increaseFailureCount` and
`resetFailureCount` of one checker. The count is kept under a mutex; the failover
that may follow is made of store calls and questions to the nodes, between which
anything can happen. -/
namespace Kvrocks.Failover

abbrev FailureCounts := Std.ExtTreeMap String Int

/-- What of the options takes part in a failover. No checker is given a limit below 1. -/
structure ClusterCheckOptions where
  maxFailureCount : Int
  positive : 1 ≤ maxFailureCount
  bounded : maxFailureCount ≤ Strconv.maxInt64

def withMaxFailureCount (count : Int) (int64 : count ≤ Strconv.maxInt64) : ClusterCheckOptions :=
  if small : count < 1 then ⟨5, by decide, by decide⟩ else ⟨count, Int.not_lt.mp small, int64⟩

/-- One more failure of a node, and the count it has reached. -/
def countFailure (id : String) (failureCounts : FailureCounts) : FailureCounts × Int :=
  let count := (failureCounts.getD id 0 + 1).bmod (2 ^ 64)
  (failureCounts.insert id count, count)

def resetFailureCount (nodeID : String) (failureCounts : FailureCounts) : FailureCounts := failureCounts.erase nodeID

/-- Only the count of a master leads to a failover, each time it is a multiple. -/
def triggers (maxFailureCount count : Int) (node : ClusterNode) : Bool :=
  node.isMaster && count.tmod maxFailureCount == 0

/-- What a failover does next: read the cluster, edit it by the nodes' answers, write
it back. `replies` is a ghost: the answers the edit was based on. -/
inductive Phase where
  | loading
  | promoting (cluster : Cluster)
  | updating (cluster : Cluster) (newMasterID : String) (replies : NodeReplies)

/-- A goroutine inside `increaseFailureCount(shardIndex, node)` after the count. The
index and the node are those of the probed snapshot. -/
structure Goroutine where
  shardIndex : Int
  node : ClusterNode
  phase : Phase

/-- The call up to the end of its section under `failureMu`. -/
def increaseFailureCount (maxFailureCount : Int) (shardIndex : Int) (node : ClusterNode)
    (failureCounts : FailureCounts) : FailureCounts × Option Goroutine :=
  let (failureCounts, count) := countFailure node.id failureCounts
  (failureCounts, if triggers maxFailureCount count node then some ⟨shardIndex, node, .loading⟩ else none)

end Kvrocks.Failover
