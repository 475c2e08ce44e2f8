import KvrocksController.Store.Slot

/-! Nodes and shards, with the operations of `store/cluster_node.go` and
`store/cluster_shard.go`. A node is a heap object that several slices may hold:
`ptr` is its identity, and two elements with one `ptr` are one object. What the
nodes answer over the network is an argument of every operation that asks. -/
namespace Kvrocks

def roleMaster : String := "master"
def roleSlave : String := "slave"

structure ClusterNode where
  ptr : Nat
  id : String
  addr : String
  role : String
  password : String
  createdAt : Int
deriving DecidableEq, Repr

/-- What a call of `NewClusterNode` draws: a new object, a random id, the clock. -/
structure Fresh where
  ptr : Nat
  id : String
  createdAt : Int
deriving DecidableEq, Repr

def newClusterNode (fresh : Fresh) (addr password : String) : ClusterNode :=
  { ptr := fresh.ptr, id := fresh.id, addr, role := roleMaster, password, createdAt := fresh.createdAt }

namespace ClusterNode

def isMaster (n : ClusterNode) : Bool := n.role == roleMaster

def setRole (n : ClusterNode) (role : String) : ClusterNode := { n with role }

def setPassword (n : ClusterNode) (password : String) : ClusterNode := { n with password }

end ClusterNode

structure MigratingSlot where
  slotRange : SlotRange
  isMigrating : Bool
deriving DecidableEq, Repr

def fromSlotRange (slotRange : SlotRange) : MigratingSlot := ⟨slotRange, true⟩

structure ClusterInfo where
  currentEpoch : Int
  migratingSlot : Option MigratingSlot
  migratingState : String
deriving DecidableEq, Repr

structure ClusterNodeInfo where
  sequence : Nat
  role : String
deriving DecidableEq, Repr

/-- The answers of the nodes during one operation: `CLUSTER INFO`, `INFO` and
`CLUSTERX MIGRATE`. Every call may fail. -/
structure NodeReplies where
  getClusterInfo : ClusterNode → Except Error ClusterInfo
  getClusterNodeInfo : ClusterNode → Except Error ClusterNodeInfo
  migrateSlot : ClusterNode → SlotRange → String → Except Error Unit

structure Shard where
  nodes : List ClusterNode
  slotRanges : List SlotRange
  targetShardIndex : Int
  migratingSlot : Option MigratingSlot
deriving DecidableEq, Repr

def newShard : Shard := { nodes := [], slotRanges := [], targetShardIndex := -1, migratingSlot := none }

/-- The loop state of `removeNode`: the array the range expression was evaluated
on, whose elements `append` overwrites in place, and the current slice length. -/
structure RemoveState where
  backing : List ClusterNode
  length : Nat
  isFound : Bool
deriving DecidableEq, Repr

namespace Shard

def clearMigrateState (shard : Shard) : Shard :=
  { shard with migratingSlot := none, targetShardIndex := -1 }

def isMigrating (shard : Shard) : Bool :=
  match shard.migratingSlot with
  | none => false
  | some slot => slot.isMigrating && shard.targetShardIndex != -1

def isServicing (shard : Shard) : Bool :=
  shard.slotRanges.any (fun slotRange => slotRange.start != -1 || slotRange.stop != -1) || shard.isMigrating

def addNode (fresh : Fresh) (addr role password : String) (shard : Shard) : Except Error Shard :=
  if role ≠ roleMaster ∧ role ≠ roleSlave then .error (.wrap "" (.of .invalidArgument) ": role")
  else if shard.nodes.any (fun node => node.addr == addr) then .error (.of .alreadyExists)
  else if role = roleMaster ∧ shard.nodes.length > 0 then .error (.wrap "master node " (.of .alreadyExists) "")
  else .ok { shard with nodes := shard.nodes ++ [(newClusterNode fresh addr password).setRole role] }

def hasOverlap (slotRange : SlotRange) (shard : Shard) : Bool :=
  shard.slotRanges.any fun shardSlotRange => SlotRange.hasOverlap shardSlotRange slotRange

def getMasterNode (shard : Shard) : Option ClusterNode := shard.nodes.find? (·.isMaster)

/-- `append(nodes[:i], nodes[i+1:]...)` on a slice of length `st.length`: the
elements after `i` move one place down, what lies beyond the slice stays. -/
def shiftDown (i : Nat) (st : RemoveState) : RemoveState where
  backing := st.backing.take i ++ (st.backing.take st.length).drop (i + 1) ++ st.backing.drop (st.length - 1)
  length := st.length - 1
  isFound := true

/-- `remaining` counts the rounds left of the range over the original length. -/
def removeNodeLoop (nodeID : String) : (remaining i : Nat) → RemoveState → RemoveState × Option Fault
  | 0, _, st => (st, none)
  | remaining + 1, i, st =>
    match st.backing[i]? with
    | none => (st, some .panicked)
    | some node =>
      if node.id ≠ nodeID then removeNodeLoop nodeID remaining (i + 1) st
      else if node.isMaster then
        (st, some (.returned (.wrap "cannot remove master node: " (.of .invalidArgument) "")))
      -- the slice expression nodes[i+1:] is checked against the current length
      else if i + 1 > st.length then (st, some .panicked)
      else removeNodeLoop nodeID remaining (i + 1) (shiftDown i st)

/-- The shard as the call leaves it, and how the call failed if it did. -/
def removeNode (nodeID : String) (shard : Shard) : Shard × Option Fault :=
  let start : RemoveState := { backing := shard.nodes, length := shard.nodes.length, isFound := false }
  let (st, fault) := removeNodeLoop nodeID shard.nodes.length 0 start
  let shard := { shard with nodes := st.backing.take st.length }
  match fault with
  | some fault => (shard, some fault)
  | none => (shard, if st.isFound then none else some (.returned (.of .notFound)))

/-- The sequence of a node that may be promoted: it answered both questions, calls
itself a slave and has a non-zero sequence. -/
def candidateSequence (replies : NodeReplies) (node : ClusterNode) : Option Nat :=
  match replies.getClusterInfo node with
  | .error _ => none
  | .ok _ =>
    match replies.getClusterNodeInfo node with
    | .error _ => none
    | .ok info => if info.role ≠ roleSlave ∨ info.sequence = 0 then none else some info.sequence

/-- The scan of `getNewMasterNodeIndex` from position `i` on: `newMaster` and
`newestOffset` are its running maximum, the preferred node ends it early. -/
def newMasterLoop (replies : NodeReplies) (masterNodeIndex : Nat) (preferredNodeID : String) :
    (i : Nat) → List ClusterNode → (newMaster : Option Nat) → (newestOffset : Nat) → Option Nat
  | _, [], newMaster, _ => newMaster
  | i, node :: rest, newMaster, newestOffset =>
    if i = masterNodeIndex then
      newMasterLoop replies masterNodeIndex preferredNodeID (i + 1) rest newMaster newestOffset
    else
      match candidateSequence replies node with
      | none => newMasterLoop replies masterNodeIndex preferredNodeID (i + 1) rest newMaster newestOffset
      | some sequence =>
        if preferredNodeID ≠ "" ∧ node.id = preferredNodeID then some i
        else if sequence ≥ newestOffset then
          newMasterLoop replies masterNodeIndex preferredNodeID (i + 1) rest (some i) sequence
        else newMasterLoop replies masterNodeIndex preferredNodeID (i + 1) rest newMaster newestOffset

def getNewMasterNodeIndex (replies : NodeReplies) (masterNodeIndex : Nat) (preferredNodeID : String)
    (shard : Shard) : Option Nat :=
  newMasterLoop replies masterNodeIndex preferredNodeID 0 shard.nodes none 0

/-- The checks of `promoteNewMaster`, and the two nodes whose roles it sets: the
old master, which becomes a slave, and the new one. -/
def promoteNewMaster (replies : NodeReplies) (masterNodeID preferredNodeID : String) (shard : Shard) :
    Except Error (ClusterNode × ClusterNode) :=
  if shard.nodes.length ≤ 1 then .error (.of .shardNoReplica)
  else
    match shard.nodes.findIdx? (·.isMaster) with
    | none => .error (.of .oldMasterNodeNotFound)
    | some oldMasterNodeIndex =>
      match shard.nodes[oldMasterNodeIndex]? with
      | none => .error (.of .oldMasterNodeNotFound)
      | some oldMaster =>
        if masterNodeID ≠ "" ∧ oldMaster.id ≠ masterNodeID then .error (.of .nodeIsNotMaster)
        else
          match shard.getNewMasterNodeIndex replies oldMasterNodeIndex preferredNodeID with
          | none => .error (.of .shardNoMatchNewMaster)
          | some newMasterNodeIndex =>
            match shard.nodes[newMasterNodeIndex]? with
            | none => .error (.of .shardNoMatchNewMaster)
            | some newMaster => .ok (oldMaster, newMaster)

/-- `SetRole` through a pointer: every element that is the object changes. -/
def setRole (ptr : Nat) (role : String) (shard : Shard) : Shard :=
  { shard with nodes := shard.nodes.map fun node => if node.ptr = ptr then node.setRole role else node }

/-- `strings.Replace(addr, ":", " ", 1)`. -/
def splitAddr (addr : String) : String :=
  let (host, port) := addr.toList.span (· != ':')
  match port with
  | [] => addr
  | _ :: port => String.ofList (host ++ ' ' :: port)

def nodeLine (shard : Shard) (masterNodeIndex : Nat) (masterID : String) (i : Nat) (node : ClusterNode) : String :=
  node.id ++ " " ++ splitAddr node.addr ++ " " ++
    (if i = masterNodeIndex then
      roleMaster ++ " - " ++ " ".intercalate (shard.slotRanges.map SlotRange.string)
    else roleSlave ++ " " ++ masterID) ++ "\n"

def toSlotsString (shard : Shard) : Except Error String :=
  match shard.nodes.findIdx? (·.isMaster) with
  | none => .error (.new "missing master node")
  | some masterNodeIndex =>
    let masterID := (shard.nodes[masterNodeIndex]?.map (·.id)).getD ""
    .ok (String.join (shard.nodes.mapIdx (shard.nodeLine masterNodeIndex masterID)))

end Shard
end Kvrocks
