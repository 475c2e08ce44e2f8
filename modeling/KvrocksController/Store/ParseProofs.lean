import KvrocksController.Store.Parse
import KvrocksController.Store.SlotProofs
import Mathlib.Data.List.Nodup

/-! What `ParseCluster` builds from any text it accepts: a shard for each line of a
master, a list of replicas, one object a line. -/
namespace Kvrocks

/-- Splitting what was joined by the separator gives the words back. -/
theorem splitString_intercalate {words : List String} (free : ∀ word ∈ words, sep ∉ word.toList) (some : words ≠ []) :
    splitString sep ((String.singleton sep).intercalate words) = words := by
  have apart : ∀ word ∈ words.map String.toList, sep ∉ word := by simpa using free
  rw [splitString, String.toList_intercalate, String.toList_singleton,
    List.splitOn_intercalate sep apart (by simpa using some), List.map_map]
  simp

theorem mem_intercalate {sep : String} {words : List String} (member : c ∈ (sep.intercalate words).toList) :
    c ∈ sep.toList ∨ ∃ word ∈ words, c ∈ word.toList := by
  rw [String.toList_intercalate] at member
  induction words with
  | nil => simp at member
  | cons word rest ih =>
    cases rest with
    | nil =>
      rw [List.map_singleton, List.intercalate_singleton] at member
      exact .inr ⟨word, by simp, member⟩
    | cons next rest =>
      rw [List.map_cons, List.map_cons, List.intercalate_cons_cons, List.mem_append, List.mem_append] at member
      rcases member with (here | here) | later
      · exact .inr ⟨word, by simp, here⟩
      · exact .inl here
      · refine (ih later).imp_right ?_
        rintro ⟨other, inside, here⟩
        exact ⟨other, List.mem_cons_of_mem _ inside, here⟩

theorem splitString_absent (free : sep ∉ String.toList word) : splitString sep word = [word] := by
  have apart : ∀ c ∈ word.toList, (c == sep) = false := fun c member =>
    beq_eq_false_iff_ne.mpr fun same => free (same ▸ member)
  rw [splitString, List.splitOn, List.splitOnP_eq_singleton apart]
  simp

/-- What stands before the first separator is the first word. -/
theorem splitString_cons (free : sep ∉ String.toList word) (rest : String) :
    splitString sep (word ++ String.singleton sep ++ rest) = word :: splitString sep rest := by
  have apart : ∀ c ∈ word.toList, (c == sep) = false := fun c member =>
    beq_eq_false_iff_ne.mpr fun same => free (same ▸ member)
  have text : (word ++ String.singleton sep ++ rest).toList = word.toList ++ sep :: rest.toList := by simp
  rw [splitString, text, List.splitOn, List.splitOnP_append_cons_of_forall_mem apart sep (beq_self_eq_true sep)]
  simp [splitString, List.splitOn]

/-- Lines that all end with the separator leave an empty word behind the last. -/
theorem splitString_terminated {lines : List String} (free : ∀ line ∈ lines, sep ∉ line.toList) :
    splitString sep (String.join (lines.map (· ++ String.singleton sep))) = lines ++ [""] := by
  induction lines with
  | nil => rfl
  | cons line rest ih =>
    rw [List.map_cons, String.join_cons, splitString_cons (free line (by simp)),
      ih fun other member => free other (by simp [member]), List.cons_append]

section Words

/-- Neither a space nor a newline. -/
def Word (s : String) : Prop := ' ' ∉ s.toList ∧ '\n' ∉ s.toList

instance (s : String) : Decidable (Word s) := inferInstanceAs (Decidable (_ ∧ _))

theorem word_append : Word (a ++ b) ↔ Word a ∧ Word b := by
  simp only [Word, String.toList_append, List.mem_append, not_or]
  exact and_and_and_comm

theorem word_itoa (n : Nat) : Word (Strconv.itoa n) := by
  have digit (c : Char) (member : c ∈ (Strconv.itoa n).toList) : c.isDigit = true := by
    rw [Strconv.itoa_natCast, String.toList_ofList] at member
    exact Nat.isDigit_of_mem_toDigits (by decide) (by decide) member
  constructor
  · intro member
    exact absurd (digit _ member) (by decide)
  · intro member
    exact absurd (digit _ member) (by decide)

theorem word_dashed (a b : Nat) : Word (Strconv.itoa a ++ "-" ++ Strconv.itoa b) :=
  word_append.mpr ⟨word_append.mpr ⟨word_itoa a, by decide⟩, word_itoa b⟩

theorem word_string (bounds : SlotRange.InBounds range) : Word (SlotRange.string range) := by
  obtain ⟨start, stop⟩ := range
  obtain ⟨low, ordered, _⟩ := bounds
  simp only [minSlotID] at low ordered
  obtain ⟨a, rfl⟩ := Int.eq_ofNat_of_zero_le low
  obtain ⟨b, rfl⟩ := Int.eq_ofNat_of_zero_le (low.trans ordered)
  unfold SlotRange.string
  split
  · exact word_itoa a
  · exact word_dashed a b

end Words

/-- What an accepted line adds: a shard for a master, a waiting node for a replica. -/
theorem parseLine_ok : parseLine k line st = .ok st' ↔
    7 ≤ (splitString ' ' line).length ∧ ∃ clusterVer,
      Strconv.parseInt ((splitString ' ' line).getD 6 "") = some clusterVer ∧
      let node := parseNode k (splitString ' ' line)
      (node.role = roleMaster ∧ (∃ slotRanges, ((splitString ' ' line).drop 8).mapM parseSlotRange = .ok slotRanges ∧
          st' = { st with clusterVer, shards := st.shards ++ [{ newShard with nodes := [node], slotRanges }] }) ∨
        node.role = roleSlave ∧
          st' = { st with clusterVer, slaveNodes := st.slaveNodes ++ [((splitString ' ' line).getD 3 "", node)] }) := by
  unfold parseLine
  dsimp only
  generalize splitString ' ' line = fields
  by_cases short : fields.length < 7
  · simp [short]
  rw [if_neg short]
  cases version : Strconv.parseInt (fields.getD 6 "") with
  | none => simp
  | some clusterVer =>
    by_cases master : (parseNode k fields).role = roleMaster
    · have notSlave : roleMaster ≠ roleSlave := by decide
      cases ranges : (fields.drop 8).mapM parseSlotRange with
      | error e => simp [master, parseShard, ranges, bind, Except.bind, notSlave]
      | ok slotRanges =>
        simp only [master, parseShard, ranges, bind, Except.bind, if_true, Except.ok.injEq, true_and, notSlave,
          false_and, or_false, Option.some.injEq, exists_eq_left']
        constructor
        · rintro rfl
          exact ⟨by omega, rfl⟩
        · rintro ⟨_, rfl⟩
          rfl
    · by_cases slave : (parseNode k fields).role = roleSlave
      · have notMaster : roleSlave ≠ roleMaster := by decide
        simp only [slave, notMaster, if_false, if_true, Except.ok.injEq, false_and, false_or, true_and,
          Option.some.injEq, exists_eq_left']
        constructor
        · rintro rfl
          exact ⟨by omega, rfl⟩
        · rintro ⟨_, rfl⟩
          rfl
      · simp [master, slave]

/-- The node objects made so far. -/
def ParseState.objects (st : ParseState) : List ClusterNode :=
  st.shards.flatMap (·.nodes) ++ st.slaveNodes.map (·.2)

/-- After `k` lines: shards of one master each, replicas aside, all objects distinct. -/
structure Scanned (k : Nat) (st : ParseState) : Prop where
  masters : ∀ shard ∈ st.shards, ∃ node, shard.nodes = [node] ∧ node.role = roleMaster
  slaves : ∀ slave ∈ st.slaveNodes, slave.2.role = roleSlave
  older : ∀ node ∈ st.objects, node.ptr < k
  apart : (st.objects.map (·.ptr)).Nodup

namespace Scanned

theorem start : Scanned 0 ⟨-1, [], []⟩ := ⟨by simp, by simp, by simp [ParseState.objects], by simp [ParseState.objects]⟩

/-- The new object may join anywhere among the old ones. -/
theorem grow (scanned : Scanned k st) (node : ClusterNode) (objects : st'.objects.Perm (node :: st.objects))
    (fresh : node.ptr = k)
    (masters : ∀ shard ∈ st'.shards, ∃ node, shard.nodes = [node] ∧ node.role = roleMaster)
    (slaves : ∀ slave ∈ st'.slaveNodes, slave.2.role = roleSlave) : Scanned (k + 1) st' where
  masters := masters
  slaves := slaves
  older := by
    intro other member
    obtain rfl | member := List.mem_cons.mp (objects.mem_iff.mp member)
    · omega
    · exact Nat.lt_succ_of_lt (scanned.older other member)
  apart := by
    rw [(objects.map _).nodup_iff, List.map_cons, List.nodup_cons]
    refine ⟨fun clash => ?_, scanned.apart⟩
    obtain ⟨other, member, same⟩ := List.mem_map.mp clash
    have old := scanned.older other member
    omega

theorem parseLine (scanned : Scanned k st) (parsed : Kvrocks.parseLine k line st = .ok st') :
    Scanned (k + 1) st' := by
  obtain ⟨_, version, _, ⟨master, slotRanges, _, rfl⟩ | ⟨slave, rfl⟩⟩ := parseLine_ok.mp parsed
  · refine scanned.grow (parseNode k (splitString ' ' line)) ?_ rfl ?_ scanned.slaves
    · simp [ParseState.objects]
    · intro other member
      obtain member | member := List.mem_append.mp member
      · exact scanned.masters other member
      · exact List.mem_singleton.mp member ▸ ⟨_, rfl, master⟩
  · refine scanned.grow (parseNode k (splitString ' ' line)) ?_ rfl scanned.masters ?_
    · simp [ParseState.objects, ← List.append_assoc]
    · intro other member
      obtain member | member := List.mem_append.mp member
      · exact scanned.slaves other member
      · exact List.mem_singleton.mp member ▸ slave

theorem parseLines (scanned : Scanned k st) (parsed : Kvrocks.parseLines k lines st = .ok st') :
    Scanned (k + lines.length) st' := by
  induction lines generalizing k st with
  | nil => exact Except.ok.inj parsed ▸ scanned
  | cons line lines ih =>
    obtain ⟨next, first, rest⟩ := bind_ok parsed
    have length : k + (line :: lines).length = k + 1 + lines.length := by
      simp only [List.length_cons]
      omega
    exact length ▸ ih (scanned.parseLine first) rest

/-- The objects of the masters, those of the replicas, and across. -/
theorem objects_apart (scanned : Scanned k st) :
    ((st.shards.flatMap (·.nodes)).map (·.ptr)).Nodup ∧ (st.slaveNodes.map (·.2.ptr)).Nodup ∧
      ∀ master ∈ st.shards.flatMap (·.nodes), ∀ slave ∈ st.slaveNodes, master.ptr ≠ slave.2.ptr := by
  have apart := scanned.apart
  rw [ParseState.objects, List.map_append, List.nodup_append, List.map_map] at apart
  refine ⟨apart.1, apart.2.1, ?_⟩
  intro master member slave waiting
  exact apart.2.2 _ (List.mem_map_of_mem member) _ (List.mem_map_of_mem (f := fun s => s.2.ptr) waiting)

end Scanned

/-- `ParseCluster` with another sort: `sort.Sort` may leave shards of which neither is
less in any order. -/
def parseClusterBy (sort : List Shard → List Shard) (clusterStr : String) : Except Error Cluster :=
  if clusterStr.toList.length = 0 then .error (.new "cluster nodes string error")
  else do
    let st ← parseLines 0 (splitString '\n' clusterStr) ⟨-1, [], []⟩
    if st.clusterVer = -1 then .error (.new ("no cluster version, cluster info[\"" ++ clusterStr ++ "\"]"))
    else .ok { name := "", version := st.clusterVer, shards := (sort st.shards).map (attachSlaves st.slaveNodes) }

theorem parseCluster_eq : parseCluster = parseClusterBy sortShards := rfl

theorem sortShards_perm (shards : List Shard) : (sortShards shards).Perm shards := List.perm_insertionSort _ shards

/-- An accepted text is not empty, all its lines are accepted, and its version is the
last line's. -/
theorem parseClusterBy_ok (sort : List Shard → List Shard) : parseClusterBy sort text = .ok cluster ↔
    text.toList.length ≠ 0 ∧ ∃ st, parseLines 0 (splitString '\n' text) ⟨-1, [], []⟩ = .ok st ∧ st.clusterVer ≠ -1 ∧
      cluster = { name := "", version := st.clusterVer
                  shards := (sort st.shards).map (attachSlaves st.slaveNodes) } := by
  unfold parseClusterBy
  by_cases empty : text.toList.length = 0
  · simp [empty]
  · rw [if_neg empty]
    cases scan : parseLines 0 (splitString '\n' text) ⟨-1, [], []⟩ with
    | error e => simp [bind, Except.bind]
    | ok st =>
      simp only [bind, Except.bind, ne_eq, empty, not_false_eq_true, true_and, Except.ok.injEq, exists_eq_left']
      by_cases missing : st.clusterVer = -1
      · simp [missing]
      · rw [if_neg missing, Except.ok.injEq]
        exact ⟨fun same => ⟨missing, same.symm⟩, fun same => same.2.symm⟩

/-- The shards of an accepted text: those of the masters, sorted, each with the
replicas that name its master. -/
theorem parseClusterBy_scanned {cluster : Cluster} (parsed : parseClusterBy sort text = .ok cluster) :
    ∃ k st, Scanned k st ∧ cluster.name = "" ∧ cluster.version = st.clusterVer ∧
      cluster.shards = (sort st.shards).map (attachSlaves st.slaveNodes) := by
  obtain ⟨_, st, scan, _, rfl⟩ := (parseClusterBy_ok sort).mp parsed
  exact ⟨_, st, Scanned.start.parseLines scan, rfl, rfl, rfl⟩

section Opened

/-- A shard as a line of a master opens it: no migration, ranges in bounds. -/
structure Opened (shard : Shard) : Prop where
  idle : shard.migratingSlot = none
  ranges : ∀ range ∈ shard.slotRanges, SlotRange.InBounds range

theorem parseLines_opened (opened : ∀ shard ∈ st.shards, Opened shard) (parsed : parseLines k lines st = .ok st') :
    ∀ shard ∈ st'.shards, Opened shard := by
  induction lines generalizing k st with
  | nil => exact Except.ok.inj parsed ▸ opened
  | cons line lines ih =>
    obtain ⟨next, first, rest⟩ := bind_ok parsed
    refine ih ?_ rest
    obtain ⟨_, version, _, ⟨_, slotRanges, ranges, rfl⟩ | ⟨_, rfl⟩⟩ := parseLine_ok.mp first
    · intro shard member
      obtain member | member := List.mem_append.mp member
      · exact opened shard member
      · obtain rfl := List.mem_singleton.mp member
        refine ⟨rfl, fun range listed => ?_⟩
        obtain ⟨word, _, read⟩ := mapM_mem ranges listed
        exact parseSlotRange_inBounds read
    · exact opened

theorem parseClusterBy_opened (parsed : parseClusterBy sort text = .ok cluster)
    (permutes : ∀ shards, (sort shards).Perm shards) : ∀ shard ∈ cluster.shards, Opened shard := by
  obtain ⟨_, st, scan, _, rfl⟩ := (parseClusterBy_ok sort).mp parsed
  intro shard member
  obtain ⟨original, sorted, rfl⟩ := List.mem_map.mp member
  have opened := parseLines_opened (by simp) scan original ((permutes st.shards).mem_iff.mp sorted)
  unfold attachSlaves
  split
  · exact opened
  · exact ⟨opened.idle, opened.ranges⟩

end Opened

/-- The shard's master with the nodes that name it behind it. -/
theorem attachSlaves_mk (slaveNodes : List (String × ClusterNode)) (masterNode : ClusterNode) (rest : List ClusterNode) :
    attachSlaves slaveNodes ⟨masterNode :: rest, slotRanges, target, migrating⟩ =
      ⟨masterNode :: rest ++ slaveNodes.filterMap (fun slave => if slave.1 = masterNode.id then some slave.2 else none),
        slotRanges, target, migrating⟩ := rfl

theorem attachSlaves_nodes (nodes : Shard.nodes shard = [master]) :
    (attachSlaves slaveNodes shard).nodes =
      master :: (slaveNodes.filter (·.1 = master.id)).map (·.2) := by
  have waiting : slaveNodes.filterMap (fun slave => if slave.1 = master.id then some slave.2 else none) =
      (slaveNodes.filter (·.1 = master.id)).map (·.2) := by
    induction slaveNodes with
    | nil => rfl
    | cons slave rest ih =>
      by_cases here : slave.1 = master.id <;> simp [here, ih]
  obtain ⟨_, _, _, _⟩ := shard
  obtain rfl : _ = [master] := nodes
  simp only [attachSlaves_mk, waiting, List.singleton_append]

/-- Each shard of an accepted text has a master of its own, followed by the replicas
that name it. -/
theorem Scanned.attached (scanned : Scanned k st) (member : shard ∈ st.shards) :
    ∃ master, shard.nodes = [master] ∧ master.role = roleMaster ∧
      (∀ slave ∈ st.slaveNodes, master.ptr ≠ slave.2.ptr) ∧
      (attachSlaves st.slaveNodes shard).nodes = master :: (st.slaveNodes.filter (·.1 = master.id)).map (·.2) := by
  obtain ⟨master, nodes, role⟩ := scanned.masters shard member
  refine ⟨master, nodes, role, scanned.objects_apart.2.2 master ?_, attachSlaves_nodes nodes⟩
  exact List.mem_flatMap.mpr ⟨shard, member, by simp [nodes]⟩

end Kvrocks
