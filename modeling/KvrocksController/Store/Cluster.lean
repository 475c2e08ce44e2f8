import KvrocksController.Store.Shard

/-! The cluster topology and the operations of `store/cluster.go` on it. -/
namespace Kvrocks

structure Cluster where
  name : String
  version : Int
  shards : List Shard
deriving DecidableEq, Repr

/-- The id and the creation time drawn for the `k`-th node made by a call. -/
abbrev Draw := Nat → String × Int

def Draw.fresh (draw : Draw) (base k : Nat) : Fresh := ⟨base + k, (draw k).1, (draw k).2⟩

/-- One shard of a new cluster: `replicas` consecutive addresses from
`i * replicas` on, the first of them the master. -/
def newClusterShard (draw : Draw) (nodes : List String) (replicas : Nat) (slotRanges : List SlotRange)
    (i : Nat) : Shard where
  nodes := (List.range replicas).map fun j =>
    (newClusterNode (draw.fresh 0 (i * replicas + j)) (nodes.getD (i * replicas + j) "") "").setRole
      (if j = 0 then roleMaster else roleSlave)
  slotRanges := [slotRanges.getD i ⟨0, 0⟩]
  targetShardIndex := -1
  migratingSlot := none

def newCluster (draw : Draw) (name : String) (nodes : List String) (replicas : Int) : Except Error Cluster :=
  if nodes.length = 0 then .error (.new "cluster nodes should NOT be empty")
  else if replicas < 0 then .error (.new "replicas should NOT be less than 0")
  else
    let replicas : Nat := if replicas = 0 then 1 else replicas.toNat
    if nodes.length % replicas ≠ 0 then .error (.new "cluster nodes should be divisible by replicas")
    else
      let shardCount := nodes.length / replicas
      let slotRanges := calculateSlotRanges shardCount
      .ok { name, version := 1, shards := (List.range shardCount).map (newClusterShard draw nodes replicas slotRanges) }

namespace Cluster

def getNodes (cluster : Cluster) : List ClusterNode := cluster.shards.flatMap (·.nodes)

/-- An object identity that no node of the cluster has. -/
def freshPtr (cluster : Cluster) : Nat := (cluster.getNodes.map (·.ptr)).foldr max 0 + 1

def setPassword (password : String) (cluster : Cluster) : Cluster :=
  { cluster with shards := cluster.shards.map fun shard =>
      { shard with nodes := shard.nodes.map (·.setPassword password) } }

/-- The position a Go `int` index designates, when it is in range. -/
def position? (shardIndex : Int) (cluster : Cluster) : Option Nat :=
  if shardIndex < 0 ∨ shardIndex ≥ cluster.shards.length then none else some shardIndex.toNat

def getShard (shardIndex : Int) (cluster : Cluster) : Except Error Shard :=
  match cluster.position? shardIndex with
  | none => .error (.of .indexOutOfRange)
  | some i => match cluster.shards[i]? with
    | none => .error (.of .indexOutOfRange)
    | some shard => .ok shard

def setShard (i : Nat) (shard : Shard) (cluster : Cluster) : Cluster :=
  { cluster with shards := cluster.shards.set i shard }

def modifyShard (i : Nat) (f : Shard → Shard) (cluster : Cluster) : Cluster :=
  { cluster with shards := cluster.shards.modify i f }

def toSlotString (cluster : Cluster) : Except Error String := do
  let lines ← cluster.shards.zipIdx.mapM fun (shard, i) =>
    match shard.toSlotsString with
    | .ok text => .ok text
    | .error e => .error (.wrap ("found err at shard[" ++ toString i ++ "]: ") e "")
  .ok (String.join lines)

def addNode (draw : Draw) (shardIndex : Int) (addr role password : String) (cluster : Cluster) :
    Except Error Cluster := do
  let shard ← cluster.getShard shardIndex
  let shard ← shard.addNode (draw.fresh cluster.freshPtr 0) addr role password
  .ok (cluster.setShard shardIndex.toNat shard)

/-- The cluster as the call leaves it, and how the call failed if it did. -/
def removeNode (shardIndex : Int) (nodeID : String) (cluster : Cluster) : Cluster × Option Fault :=
  match cluster.getShard shardIndex with
  | .error e => (cluster, some (.returned e))
  | .ok shard =>
    let (shard, fault) := shard.removeNode nodeID
    (cluster.setShard shardIndex.toNat shard, fault)

/-- `SetRole` writes through the pointer, in whichever shards the object sits. -/
def setRole (ptr : Nat) (role : String) (cluster : Cluster) : Cluster :=
  { cluster with shards := cluster.shards.map (·.setRole ptr role) }

def promoteNewMaster (replies : NodeReplies) (shardIdx : Int) (masterNodeID preferredNodeID : String)
    (cluster : Cluster) : Except Error (Cluster × String) := do
  let shard ← cluster.getShard shardIdx
  let (oldMaster, newMaster) ← shard.promoteNewMaster replies masterNodeID preferredNodeID
  .ok ((cluster.setRole oldMaster.ptr roleSlave).setRole newMaster.ptr roleMaster, newMaster.id)

/-- The inner loop of `findShardIndexBySlot`, over the ranges of shard `i`. -/
def findInRanges (slot : SlotRange) (i : Nat) : List SlotRange → Option Nat → Except Error (Option Nat)
  | [], sourceShardIdx => .ok sourceShardIdx
  | slotRange :: rest, sourceShardIdx =>
    if SlotRange.hasOverlap slotRange slot then
      match sourceShardIdx with
      | some _ => .error (.of .slotRangeBelongsToMultipleShards)
      | none => findInRanges slot i rest (some i)
    else findInRanges slot i rest sourceShardIdx

def findInShards (slot : SlotRange) : (i : Nat) → List Shard → Option Nat → Except Error (Option Nat)
  | _, [], sourceShardIdx => .ok sourceShardIdx
  | i, shard :: rest, sourceShardIdx => do
    let sourceShardIdx ← findInRanges slot i shard.slotRanges sourceShardIdx
    findInShards slot (i + 1) rest sourceShardIdx

def findShardIndexBySlot (slot : SlotRange) (cluster : Cluster) : Except Error Nat := do
  match ← findInShards slot 0 cluster.shards none with
  | none => .error (.of .slotNotBelongToAnyShard)
  | some sourceShardIdx => .ok sourceShardIdx

/-- Ownership of `slot` moves at once and the source's record is cleared. -/
def moveSlot (slot : SlotRange) (source target : Nat) (cluster : Cluster) : Cluster :=
  (cluster.modifyShard source fun shard =>
    { shard.clearMigrateState with slotRanges := removeSlotFromSlotRanges shard.slotRanges slot }).modifyShard
    target fun shard => { shard with slotRanges := addSlotToSlotRanges shard.slotRanges slot }

/-- The source records that `slot` is on its way to the shard at `target`. -/
def recordMigration (slot : SlotRange) (source : Nat) (target : Int) (cluster : Cluster) : Cluster :=
  cluster.modifyShard source fun shard =>
    { shard with migratingSlot := some (fromSlotRange slot), targetShardIndex := target }

/-- Data mode, once the source is known: nothing is recorded unless the source
master accepts the command. A target without a master is a nil dereference. -/
def startMigration (replies : NodeReplies) (slot : SlotRange) (source : Nat) (target : Int)
    (sourceShard targetShard : Shard) (cluster : Cluster) : Cluster × Option Fault :=
  if sourceShard.isMigrating || targetShard.isMigrating then (cluster, some (.returned (.of .shardSlotIsMigrating)))
  else
    match sourceShard.getMasterNode with
    | none => (cluster, some (.returned (.of .notFound)))
    | some sourceMasterNode =>
      match targetShard.getMasterNode with
      | none => (cluster, some .panicked)
      | some targetMasterNode =>
        match replies.migrateSlot sourceMasterNode slot targetMasterNode.id with
        | .error e => (cluster, some (.returned e))
        | .ok () => (cluster.recordMigration slot source target, none)

/-- The cluster as the call leaves it, and how the call failed if it did. -/
def migrateSlot (replies : NodeReplies) (slot : SlotRange) (targetShardIdx : Int) (slotOnly : Bool)
    (cluster : Cluster) : Cluster × Option Fault :=
  match cluster.position? targetShardIdx with
  | none => (cluster, some (.returned (.of .indexOutOfRange)))
  | some target =>
    match cluster.findShardIndexBySlot slot with
    | .error e => (cluster, some (.returned e))
    | .ok source =>
      if source = target then (cluster, some (.returned (.of .shardIsSame)))
      else if slotOnly then (cluster.moveSlot slot source target, none)
      else
        match cluster.shards[source]?, cluster.shards[target]? with
        | some sourceShard, some targetShard =>
          cluster.startMigration replies slot source targetShardIdx sourceShard targetShard
        | _, _ => (cluster, some .panicked)

end Cluster
end Kvrocks
