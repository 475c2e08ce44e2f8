import KvrocksController.Store.ParseProofs
import Mathlib.Algebra.BigOperators.Group.List.Basic
import Mathlib.Algebra.GroupWithZero.Nat
import Mathlib.Data.List.Perm.Basic

/-! Which nodes a parsed text keeps. A line of a master is one node of the cluster; a
line of a replica is as many as there are lines of masters under the id it names, which
may be none or several. -/
namespace Kvrocks

section Attached
variable {K V : Type} [DecidableEq K]

/-- Each key followed up by the items that wait for it. -/
def attached (keys : List K) (items : List (K × V)) : List V :=
  keys.flatMap fun key => (items.filter (·.1 = key)).map (·.2)

theorem sum_count_cons (key : K) (keys : List K) (items : List (K × V)) :
    (items.map fun item => (key :: keys).count item.1).sum =
      items.countP (·.1 = key) + (items.map fun item => keys.count item.1).sum := by
  induction items with
  | nil => rfl
  | cons item items ih =>
    rw [List.map_cons, List.sum_cons, ih, List.map_cons, List.sum_cons, List.countP_cons, List.count_cons]
    simp only [beq_iff_eq, decide_eq_true_eq, eq_comm (a := key)]
    omega

/-- An item comes out once for each occurrence of its key. -/
theorem count_attached [DecidableEq V] (keys : List K) (items : List (K × V)) (v : V) :
    (attached keys items).count v = ((items.filter (·.2 = v)).map fun item => keys.count item.1).sum := by
  induction keys with
  | nil => simp [attached]
  | cons key keys ih =>
    have here : ((items.filter (·.1 = key)).map (·.2)).count v = (items.filter (·.2 = v)).countP (·.1 = key) := by
      rw [List.count, List.countP_map, List.countP_filter, List.countP_filter]
      apply List.countP_congr
      intro item _
      simp [and_comm]
    rw [sum_count_cons, ← ih, ← here, attached, List.flatMap_cons, List.count_append]
    rfl

end Attached

section Named

/-- What a line names: the id, the address and the role. -/
structure Naming where
  id : String
  addr : String
  role : String
deriving DecidableEq, Repr

def ClusterNode.naming (node : ClusterNode) : Naming := ⟨node.id, node.addr, node.role⟩

def lineNaming (fields : List String) : Naming := (parseNode 0 fields).naming

/-- The fields of every line. -/
def nodeLines (text : String) : List (List String) := (splitString '\n' text).map (splitString ' ')

def ofMaster (fields : List String) : Bool := (lineNaming fields).role = roleMaster

def masterLines (lines : List (List String)) : List (List String) := lines.filter ofMaster

def slaveLines (lines : List (List String)) : List (List String) := lines.filter (!ofMaster ·)

/-- The master lines whose id a replica's line names. -/
def mastersNamed (lines : List (List String)) (fields : List String) : Nat :=
  ((masterLines lines).map fun line => (lineNaming line).id).count (fields.getD 3 "")

def Cluster.namings (cluster : Cluster) : List Naming := cluster.shards.flatMap fun shard => shard.nodes.map (·.naming)

end Named

section Scan
open scoped List

/-- The state after some lines: a master alone in its shard, a replica under the id its
line names, both in line order. -/
structure Read (lines : List (List String)) (st : ParseState) : Prop where
  shards : st.shards.map (fun shard => shard.nodes.map (·.naming)) =
    (masterLines lines).map fun fields => [lineNaming fields]
  slaveNodes : st.slaveNodes.map (fun slave => (slave.1, slave.2.naming)) =
    (slaveLines lines).map fun fields => (fields.getD 3 "", lineNaming fields)

theorem Read.parseLine (read : Read lines st) (parsed : Kvrocks.parseLine k line st = .ok st') :
    Read (lines ++ [splitString ' ' line]) st' := by
  obtain ⟨_, version, _, ⟨master, slotRanges, _, rfl⟩ | ⟨slave, rfl⟩⟩ := parseLine_ok.mp parsed
  · have role : ofMaster (splitString ' ' line) = true := decide_eq_true master
    constructor
    · simp [read.shards, masterLines, role]
      rfl
    · simp [read.slaveNodes, slaveLines, role]
  · have role : ofMaster (splitString ' ' line) = false :=
      decide_eq_false fun master => absurd (master.symm.trans slave) (by decide)
    constructor
    · simp [read.shards, masterLines, role]
    · simp [read.slaveNodes, slaveLines, role]
      rfl

theorem Read.parseLines (read : Read before st) (parsed : Kvrocks.parseLines k lines st = .ok st') :
    Read (before ++ lines.map (splitString ' ')) st' := by
  induction lines generalizing k st before with
  | nil =>
    obtain rfl := Except.ok.inj parsed
    simpa using read
  | cons line lines ih =>
    obtain ⟨next, first, rest⟩ := bind_ok parsed
    have later := ih (read.parseLine first) rest
    rwa [List.append_assoc] at later

theorem attachSlaves_namings (alone : Shard.nodes shard = [master]) :
    (attachSlaves slaveNodes shard).nodes.map (·.naming) = master.naming ::
      ((slaveNodes.map fun slave => (slave.1, slave.2.naming)).filter (·.1 = master.naming.id)).map (·.2) := by
  rw [attachSlaves_nodes alone, List.map_cons, List.map_map, List.filter_map, List.map_map]
  rfl

/-- The nodes of the sorted shards with their replicas: the masters, and the replicas
once for each master that bears the id they wait for. -/
theorem Read.namings {sorted : List Shard} (read : Read lines st) (arranged : sorted.Perm st.shards)
    (alone : ∀ shard ∈ st.shards, ∃ node, shard.nodes = [node]) :
    (Cluster.namings ⟨name, version, sorted.map (attachSlaves st.slaveNodes)⟩).Perm
      ((masterLines lines).map lineNaming ++ attached ((masterLines lines).map fun line => (lineNaming line).id)
        ((slaveLines lines).map fun fields => (fields.getD 3 "", lineNaming fields))) := by
  let waiting := (slaveLines lines).map fun fields => (fields.getD 3 "", lineNaming fields)
  let joined (master : Naming) : List Naming := master :: (waiting.filter (·.1 = master.id)).map (·.2)
  have each : ∀ shard ∈ st.shards, (attachSlaves st.slaveNodes shard).nodes.map (·.naming) =
      (shard.nodes.map (·.naming)).flatMap joined := by
    intro shard member
    obtain ⟨node, nodes⟩ := alone shard member
    rw [attachSlaves_namings nodes, nodes, read.slaveNodes, List.map_singleton, List.flatMap_singleton]
  calc Cluster.namings ⟨name, version, sorted.map (attachSlaves st.slaveNodes)⟩
      = sorted.flatMap fun shard => (attachSlaves st.slaveNodes shard).nodes.map (·.naming) := List.flatMap_map ..
    _ ~ st.shards.flatMap fun shard => (attachSlaves st.slaveNodes shard).nodes.map (·.naming) :=
      arranged.flatMap_right _
    _ = st.shards.flatMap fun shard => (shard.nodes.map (·.naming)).flatMap joined := List.flatMap_congr each
    _ = (st.shards.map fun shard => shard.nodes.map (·.naming)).flatMap (List.flatMap joined) :=
      (List.flatMap_map ..).symm
    _ = (masterLines lines).flatMap fun line => joined (lineNaming line) := by
      rw [read.shards, List.flatMap_map]
      simp only [List.flatMap_singleton]
    _ ~ _ := by
      rw [attached, List.flatMap_map]
      exact (List.map_append_flatMap_perm _ _ _).symm

end Scan

/-- Nothing is lost and nothing comes twice exactly if the replicas of one id and address
name, all together, as many master lines as they are. -/
theorem parsed_nodes_exact {sort : List Shard → List Shard} (permutes : ∀ shards, (sort shards).Perm shards)
    (accepted : parseClusterBy sort text = .ok cluster) :
    cluster.namings.Perm ((nodeLines text).map lineNaming) ↔
      ∀ slave ∈ slaveLines (nodeLines text),
        let alike := (slaveLines (nodeLines text)).filter (lineNaming · = lineNaming slave)
        (alike.map (mastersNamed (nodeLines text))).sum = alike.length := by
  obtain ⟨_, st, scan, _, rfl⟩ := (parseClusterBy_ok sort).mp accepted
  have start : Read [] ⟨-1, [], []⟩ := ⟨rfl, rfl⟩
  have read : Read (nodeLines text) st := start.parseLines scan
  have alone : ∀ shard ∈ st.shards, ∃ node, shard.nodes = [node] := fun shard member =>
    (Scanned.start.parseLines scan).masters shard member |>.imp fun _ both => both.1
  have lines : ((nodeLines text).map lineNaming).Perm
      ((masterLines (nodeLines text)).map lineNaming ++ (slaveLines (nodeLines text)).map lineNaming) := by
    rw [← List.map_append]
    exact ((List.filter_append_perm ofMaster _).map lineNaming).symm
  rw [(read.namings (permutes st.shards) alone).congr_left, lines.congr_right, List.perm_append_left_iff,
    List.perm_iff_count]
  -- for one name, both counts are about the replica lines that bear it
  have named (v : Naming) : (attached ((masterLines (nodeLines text)).map fun line => (lineNaming line).id)
      ((slaveLines (nodeLines text)).map fun fields => (fields.getD 3 "", lineNaming fields))).count v =
      (((slaveLines (nodeLines text)).filter (lineNaming · = v)).map (mastersNamed (nodeLines text))).sum := by
    rw [count_attached, List.filter_map, List.map_map]
    rfl
  have borne (v : Naming) : ((slaveLines (nodeLines text)).map lineNaming).count v =
      ((slaveLines (nodeLines text)).filter (lineNaming · = v)).length := by
    rw [List.count, List.countP_map, List.countP_eq_length_filter]
    rfl
  simp only [named, borne]
  constructor
  · intro all slave _
    exact all (lineNaming slave)
  · intro each v
    cases alike : (slaveLines (nodeLines text)).filter (lineNaming · = v) with
    | nil => rfl
    | cons slave rest =>
      obtain ⟨member, rfl⟩ : slave ∈ slaveLines (nodeLines text) ∧ lineNaming slave = v := by
        have listed : slave ∈ (slaveLines (nodeLines text)).filter (lineNaming · = v) := alike ▸ List.mem_cons_self
        simpa using List.mem_filter.mp listed
      exact alike ▸ each slave member

section Samples

def followedText : String :=
  "m a:1 master - 0 0 1 connected 0-9\nr b:1 slave m 0 0 1 connected"

/-- The master that the replica names has no line. -/
def danglingText : String :=
  "m a:1 master - 0 0 1 connected 0-9\nr b:1 slave gone 0 0 1 connected"

/-- Two masters share the id that the replica names. -/
def repeatedText : String :=
  "m a:1 master - 0 0 1 connected 0-4\nm c:1 master - 0 0 1 connected 5-9\nr b:1 slave m 0 0 1 connected"

end Samples

theorem parsed_nodes_exact_followed : ∃ cluster, parseCluster followedText = .ok cluster ∧
    cluster.namings.Perm ((nodeLines followedText).map lineNaming) := by
  have parsed : parseClusterBy sortShards followedText = .ok ⟨"", 1, [⟨[⟨0, "m", "a:1", roleMaster, "", 0⟩,
      ⟨1, "r", "b:1", roleSlave, "", 0⟩], [⟨0, 9⟩], -1, none⟩]⟩ := by decide +kernel
  have lines : nodeLines followedText = [["m", "a:1", "master", "-", "0", "0", "1", "connected", "0-9"],
      ["r", "b:1", "slave", "m", "0", "0", "1", "connected"]] := by decide +kernel
  have permutes : ∀ shards, (sortShards shards).Perm shards := List.perm_insertionSort _
  rw [parseCluster_eq]
  refine ⟨_, parsed, (parsed_nodes_exact permutes parsed).mpr ?_⟩
  rw [lines]
  decide +kernel

/-- The replica of the first text is gone, that of the second is there twice. -/
theorem parsed_nodes_lost_and_repeated :
    (∃ cluster, parseCluster danglingText = .ok cluster ∧ cluster.namings = [⟨"m", "a:1", roleMaster⟩] ∧
      ¬ cluster.namings.Perm ((nodeLines danglingText).map lineNaming)) ∧
    ∃ cluster, parseCluster repeatedText = .ok cluster ∧ cluster.namings.count ⟨"r", "b:1", roleSlave⟩ = 2 ∧
      ¬ cluster.namings.Perm ((nodeLines repeatedText).map lineNaming) := by
  constructor
  · have lines : (nodeLines danglingText).map lineNaming =
        [⟨"m", "a:1", roleMaster⟩, ⟨"r", "b:1", roleSlave⟩] := by decide +kernel
    rw [lines]
    refine ⟨⟨"", 1, [⟨[⟨0, "m", "a:1", roleMaster, "", 0⟩], [⟨0, 9⟩], -1, none⟩]⟩, ?_, by decide +kernel,
      by decide +kernel⟩
    decide +kernel
  · have lines : (nodeLines repeatedText).map lineNaming =
        [⟨"m", "a:1", roleMaster⟩, ⟨"m", "c:1", roleMaster⟩, ⟨"r", "b:1", roleSlave⟩] := by decide +kernel
    rw [lines]
    refine ⟨⟨"", 1, [⟨[⟨0, "m", "a:1", roleMaster, "", 0⟩, ⟨2, "r", "b:1", roleSlave, "", 0⟩], [⟨0, 4⟩], -1, none⟩,
      ⟨[⟨1, "m", "c:1", roleMaster, "", 0⟩, ⟨2, "r", "b:1", roleSlave, "", 0⟩], [⟨5, 9⟩], -1, none⟩]⟩,
      ?_, by decide +kernel, by decide +kernel⟩
    decide +kernel

end Kvrocks
