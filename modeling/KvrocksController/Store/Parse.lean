import KvrocksController.Store.Cluster

/-! `ParseCluster`: the topology a node reports through `CLUSTER NODES`. Masters
open shards in line order; replicas wait under the master id their line names and
join the sorted shards at the end. A replica named by two masters of one id joins
both, as one object. -/
namespace Kvrocks

/-- `strings.Split` by a one-character separator. -/
def splitString (sep : Char) (s : String) : List String := (s.toList.splitOn sep).map String.ofList

structure ParseState where
  clusterVer : Int
  shards : List Shard
  slaveNodes : List (String × ClusterNode)
deriving DecidableEq, Repr

/-- `k` numbers the lines; each line makes one node object. -/
def parseNode (k : Nat) (fields : List String) : ClusterNode where
  ptr := k
  id := fields.getD 0 ""
  addr := (splitString '@' (fields.getD 1 "")).getD 0 ""
  role :=
    let flags := fields.getD 2 ""
    if flags.toList.contains ',' then (splitString ',' flags).getD 1 "" else flags
  password := ""
  createdAt := 0

def parseShard (nodeString : String) (node : ClusterNode) (fields : List String) : Except Error Shard :=
  match (fields.drop 8).mapM parseSlotRange with
  | .error e => .error (.wrap ("parse slots error for node[" ++ nodeString ++ "]: ") e "")
  | .ok slotRanges => .ok { newShard with nodes := [node], slotRanges }

def parseLine (k : Nat) (nodeString : String) (st : ParseState) : Except Error ParseState :=
  let fields := splitString ' ' nodeString
  if fields.length < 7 then .error (.new ("require at least 7 fields, node info[" ++ nodeString ++ "]"))
  else
    let node := parseNode k fields
    match Strconv.parseInt (fields.getD 6 "") with
    | none => .error (.new ("node version error, node info[\"" ++ nodeString ++ "\"]"))
    | some clusterVer =>
      if node.role = roleMaster then do
        let shard ← parseShard nodeString node fields
        .ok { st with clusterVer, shards := st.shards ++ [shard] }
      else if node.role = roleSlave then
        .ok { st with clusterVer, slaveNodes := st.slaveNodes ++ [(fields.getD 3 "", node)] }
      else .error (.new ("node role error, node info[\"" ++ nodeString ++ "\"]"))

def parseLines : (k : Nat) → List String → ParseState → Except Error ParseState
  | _, [], st => .ok st
  | k, nodeString :: rest, st => do
    let st ← parseLine k nodeString st
    parseLines (k + 1) rest st

/-- `Shards.Less`: a shard without slots is not less than any other. -/
def shardLess (a b : Shard) : Bool :=
  match a.slotRanges, b.slotRanges with
  | [], _ => false
  | _ :: _, [] => true
  | x :: _, y :: _ => x.start < y.start

/-- One of the orders `sort.Sort` may produce. -/
def sortShards (shards : List Shard) : List Shard :=
  shards.insertionSort (fun a b => shardLess b a = false)

def attachSlaves (slaveNodes : List (String × ClusterNode)) (shard : Shard) : Shard :=
  match shard.nodes with
  | [] => shard
  | masterNode :: _ =>
    let slaves := slaveNodes.filterMap fun (masterID, node) => if masterID = masterNode.id then some node else none
    { shard with nodes := shard.nodes ++ slaves }

def parseCluster (clusterStr : String) : Except Error Cluster :=
  if clusterStr.toList.length = 0 then .error (.new "cluster nodes string error")
  else do
    let st ← parseLines 0 (splitString '\n' clusterStr) ⟨-1, [], []⟩
    if st.clusterVer = -1 then .error (.new ("no cluster version, cluster info[\"" ++ clusterStr ++ "\"]"))
    else .ok { name := "", version := st.clusterVer, shards := (sortShards st.shards).map (attachSlaves st.slaveNodes) }

end Kvrocks
