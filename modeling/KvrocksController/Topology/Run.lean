import KvrocksController.Controller.Migration
import KvrocksController.Lib.Transition
import KvrocksController.Server.ShardHandler
import KvrocksController.Store.Codec

/-! Whole histories of one cluster: every operation that edits a topology, with
everything it takes from outside (node replies, drawn ids, outcomes of writes) as
part of its label. A call that fails leaves what the code leaves. -/
namespace Kvrocks.Topology
open Kvrocks.Transition

/-- What one `UpdateCluster` call did: the version it left in the object, and its error. -/
structure Outcome where
  version : Int
  err : Option Error
deriving DecidableEq, Repr

/-- A store whose writes end as scripted and that keeps the last accepted one. -/
structure Script where
  stored : Cluster
  outcomes : List Outcome

def Script.update (script : Script) (cluster : Cluster) : Updated Script :=
  match script.outcomes with
  | [] => ⟨script, cluster.version, some (.new "the cluster has been updated by others")⟩
  | outcome :: outcomes =>
    let stored := match outcome.err with
      | none => { cluster with version := outcome.version }
      | some _ => script.stored
    ⟨⟨stored, outcomes⟩, outcome.version, outcome.err⟩

/-- The store keeps what it was given or what it had. -/
theorem Script.update_stored {P : List Shard → Prop} (script : Script) (cluster : Cluster)
    (kept : P script.stored.shards) (written : P cluster.shards) :
    P (script.update cluster).store.stored.shards := by
  unfold Script.update
  split
  · exact kept
  · dsimp only
    split
    · exact written
    · exact kept

inductive Op where
  | migrateSlot (replies : NodeReplies) (slot : SlotRange) (target : Int) (slotOnly : Bool)
  /-- A pass of the checker. The history goes on from what the store accepted, or
  from the working copy. -/
  | migrationStatus (replies : NodeReplies) (outcomes : List Outcome) (workingCopy : Bool)
  | createShard (draw : Draw) (nodes : List String) (password : String)
  | removeShard (shardIdx : Int)
  | addNode (draw : Draw) (shardIndex : Int) (addr role password : String)
  | removeNode (shardIndex : Int) (nodeID : String)
  | promoteNewMaster (replies : NodeReplies) (shardIdx : Int) (masterNodeID preferredNodeID : String)
  | roundTrip

/-- The object after a call that returns the edited one only on success. -/
def edited (cluster : Cluster) : Except ε Cluster → Cluster
  | .ok cluster => cluster
  | .error _ => cluster

theorem edited_of {P : Cluster → Prop} {result : Except ε Cluster} (kept : P cluster)
    (changed : ∀ next, result = .ok next → P next) : P (edited cluster result) := by
  cases result with
  | error _ => exact kept
  | ok next => exact changed next rfl

def Op.apply (cluster : Cluster) : Op → Cluster
  | .migrateSlot replies slot target slotOnly => (cluster.migrateSlot replies slot target slotOnly).1
  | .migrationStatus replies outcomes workingCopy =>
    let pass := tryUpdateMigrationStatus replies Script.update ⟨cluster, outcomes⟩ cluster
    if workingCopy then pass.clonedCluster else pass.store.stored
  | .createShard draw nodes password => edited cluster (ShardHandler.create draw nodes password cluster)
  | .removeShard shardIdx => edited cluster (ShardHandler.remove shardIdx cluster)
  | .addNode draw shardIndex addr role password => edited cluster (cluster.addNode draw shardIndex addr role password)
  | .removeNode shardIndex nodeID => (cluster.removeNode shardIndex nodeID).1
  | .promoteNewMaster replies shardIdx masterNodeID preferredNodeID =>
    edited cluster ((cluster.promoteNewMaster replies shardIdx masterNodeID preferredNodeID).map (·.1))
  | .roundTrip => edited cluster (Cluster.unmarshalJSON cluster.marshalJSON)

/-- The slot of a migration request was parsed, so it is in bounds. -/
def Op.Requested : Op → Prop
  | .migrateSlot _ slot _ _ => slot.InBounds
  | _ => True

def Op.promotes : Op → Bool
  | .promoteNewMaster .. => true
  | _ => false

/-- Any operation, whatever was asked for. -/
def Applied (cluster : Cluster) (op : Op) (next : Cluster) : Prop := next = op.apply cluster

def Step (cluster : Cluster) (op : Op) (next : Cluster) : Prop :=
  op.Requested ∧ next = op.apply cluster

theorem run_foldl (requested : ∀ op ∈ ops, Op.Requested op) :
    Run Step cluster ops (ops.foldl Op.apply cluster) := by
  induction ops generalizing cluster with
  | nil => exact .nil
  | cons op ops ih =>
    exact .cons ⟨requested op (by simp), rfl⟩ (ih fun op member => requested op (by simp [member]))

section Samples

def sampleDraw : Draw := fun k => if k = 0 then ("x", 0) else ("y", 0)

/-- Nodes that accept every command and report one state for one range. -/
def answering (state : String) (slot : SlotRange) : NodeReplies where
  getClusterInfo _ := .ok ⟨1, some (fromSlotRange slot), state⟩
  getClusterNodeInfo _ := .ok ⟨1, roleSlave⟩
  migrateSlot _ _ _ := .ok ()

def twoNodes : Cluster where
  name := "c"
  version := 1
  shards := [⟨[⟨0, "x", "a:1", roleMaster, "", 0⟩], [⟨0, 8191⟩], -1, none⟩,
    ⟨[⟨1, "y", "b:1", roleMaster, "", 0⟩], [⟨8192, 16383⟩], -1, none⟩]

end Samples
end Kvrocks.Topology
