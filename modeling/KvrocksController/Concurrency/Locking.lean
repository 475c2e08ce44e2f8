import KvrocksController.Lib.CriticalSection
import KvrocksController.Store.ClusterStoreProofs
import KvrocksController.Store.Keys

/-! The calls of the store at the grain of the engine: each takes the lock of its cluster,
reads, perhaps writes, emits its event and lets the lock go. A lock is named by the
namespace and the cluster, a record by its key; as long as no two records share a key, the
locks make every call one step for the others. -/
namespace Kvrocks.Locking
open ClusterStore CriticalSection Transition

/-- The calls that take a cluster's lock. -/
inductive Call where
  | getCluster (ns name : String)
  | createCluster (ns : String) (clusterInfo : Cluster)
  | updateCluster (ns : String) (clusterInfo : Cluster)
  | setCluster (ns : String) (clusterInfo : Cluster)
  | removeCluster (ns name : String)

inductive Answer where
  | cluster (outcome : Except Error Cluster)
  | done (err : Option Error)
  /-- `UpdateCluster` leaves a version in the caller's object. -/
  | updated (version : Int) (err : Option Error)

/-- What a call still has to do to its record. -/
inductive Pending where
  | put (clusterInfo : Cluster)
  | delete

namespace Call

def ns : Call → String
  | .getCluster ns _ | .createCluster ns _ | .updateCluster ns _ | .setCluster ns _ | .removeCluster ns _ => ns

def name : Call → String
  | .getCluster _ name | .removeCluster _ name => name
  | .createCluster _ clusterInfo | .updateCluster _ clusterInfo | .setCluster _ clusterInfo => clusterInfo.name

def key (call : Call) : String := buildClusterKey call.ns call.name

def getLock (call : Call) : String := call.ns ++ "/" ++ call.name

/-- `Lock` rather than `RLock`. -/
def exclusive : Call → Bool
  | .getCluster .. => false
  | .createCluster .. | .updateCluster .. | .setCluster .. | .removeCluster .. => true

/-- The call in one step. -/
def perform (faults : Faults) (kv : KV) : Call → KV × Answer
  | .getCluster ns name => (kv, .cluster (ClusterStore.getCluster (flat faults) ns name kv))
  | .createCluster ns clusterInfo =>
    let (kv, err) := ClusterStore.createCluster (flat faults) ns clusterInfo kv
    (kv, .done err)
  | .updateCluster ns clusterInfo =>
    let updated := ClusterStore.updateCluster (flat faults) ns kv clusterInfo
    (updated.store, .updated updated.version updated.err)
  | .setCluster ns clusterInfo =>
    let (kv, err) := ClusterStore.setCluster (flat faults) ns clusterInfo kv
    (kv, .done err)
  | .removeCluster ns name =>
    let (kv, err) := ClusterStore.removeCluster (flat faults) ns name kv
    (kv, .done err)

/-- The call up to its first access to the engine and the decision taken on it. -/
def look (faults : Faults) (kv : KV) : Call → Answer ⊕ Pending
  | .getCluster ns name => .inl (.cluster (getClusterWithoutLock (flat faults) ns name kv))
  | .createCluster ns clusterInfo =>
    if found (existsCluster (flat faults) ns clusterInfo.name kv) then
      .inl (.done (some (.wrap "cluster: " (.of .alreadyExists) "")))
    else .inr (.put clusterInfo)
  | .updateCluster ns clusterInfo =>
    match getClusterWithoutLock (flat faults) ns clusterInfo.name kv with
    | .error err => .inl (.updated clusterInfo.version (some err))
    | .ok oldCluster =>
      if oldCluster.version > clusterInfo.version then .inl (.updated clusterInfo.version (some updatedByOthers))
      else .inr (.put { clusterInfo with version := nextVersion clusterInfo.version })
  | .setCluster ns clusterInfo =>
    match getClusterWithoutLock (flat faults) ns clusterInfo.name kv with
    | .error err => .inl (.done (some err))
    | .ok oldCluster =>
      if oldCluster.version > clusterInfo.version then .inl (.done (some updatedByOthers)) else .inr (.put clusterInfo)
  | .removeCluster ns name =>
    if !found (existsCluster (flat faults) ns name kv) then .inl (.done (some (.of .notFound))) else .inr .delete

/-- What a writing call returns once its write has ended. -/
def answer (pending : Pending) (err : Option Error) : Call → Answer
  | .updateCluster _ clusterInfo =>
    match pending with
    | .put written => .updated written.version err
    | .delete => .updated clusterInfo.version err
  | .getCluster .. | .createCluster .. | .setCluster .. | .removeCluster .. => .done err

/-- The second access to the engine, on the call's own record. -/
def write (pending : Pending) (faults : Faults) (kv : KV) (call : Call) : KV × Answer :=
  let (kv, err) := match pending with
    | .put clusterInfo => (flat faults).set call.key (.json clusterInfo.marshalJSON) kv
    | .delete => (flat faults).delete call.key kv
  (kv, call.answer pending err)

end Call

/-- A call whose namespace leaves no doubt where it ends in a key. -/
structure PlainCall where
  call : Call
  plain : Plain call.ns

/-- The writes of the calls on namespaces, which take no lock. -/
structure SpaceWrite where
  ns : String
  plain : Plain ns
  created : Bool

def SpaceWrite.apply (space : SpaceWrite) (kv : KV) : KV :=
  if space.created then kv.insert (appendPrefix space.ns) (.text space.ns) else kv.erase (appendPrefix space.ns)

def calls : Sections KV PlainCall String Faults Answer Pending SpaceWrite where
  lock op := op.call.getLock
  exclusive op := op.call.exclusive
  look op faults kv := op.call.look faults kv
  write op pending faults kv := op.call.write pending faults kv
  outside := SpaceWrite.apply

section Phases
variable {kv after : KV} {faults : Faults} {call : Call}

end Phases

abbrev System := CriticalSection.State KV PlainCall Faults Answer Pending SpaceWrite

section Samples

def creation : PlainCall := ⟨.createCluster "ns" ⟨"c", 1, []⟩, by decide⟩

def reading : PlainCall := ⟨.getCluster "ns" "c", by decide⟩

def space : SpaceWrite := ⟨"other", by decide, true⟩

end Samples

end Kvrocks.Locking
