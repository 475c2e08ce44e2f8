import KvrocksController.Store.ClusterProofs
import KvrocksController.Store.ParseProofs
import Mathlib.Data.List.SplitBy
import Mathlib.Data.List.TakeDrop

/-! The text a node receives with `CLUSTERX SETNODES`, and a decoder that knows nothing
but its line grammar: what `ToSlotString` writes determines the topology. -/
namespace Kvrocks.TopologyText

structure Member where
  id : String
  addr : String
  replicaOf : Option String
deriving DecidableEq, Repr

structure ShardTopology where
  members : List Member
  slotRanges : List SlotRange
deriving DecidableEq, Repr

section Decoder

/-- What one line says: `id host port master - ranges...` or `id host port slave masterID`. -/
structure Entry where
  member : Member
  slotRanges : List SlotRange
deriving DecidableEq, Repr

/-- The id of the master of the shard. -/
def Entry.owner (entry : Entry) : String := entry.member.replicaOf.getD entry.member.id

/-- A master without slots has an empty word for its ranges. -/
def decodeRanges (words : List String) : Option (List SlotRange) :=
  if words = [""] then some [] else (words.mapM parseSlotRange).toOption

def decodeLine (line : String) : Option Entry :=
  match splitString ' ' line with
  | id :: host :: port :: role :: link :: rest =>
    let addr := host ++ ":" ++ port
    if role = roleMaster ∧ link = "-" then (decodeRanges rest).map fun slotRanges => ⟨⟨id, addr, none⟩, slotRanges⟩
    else if role = roleSlave ∧ rest = [] then some ⟨⟨id, addr, some link⟩, []⟩
    else none
  | _ => none

def shardOf (entries : List Entry) : ShardTopology := ⟨entries.map (·.member), entries.flatMap (·.slotRanges)⟩

/-- Every line ends with a newline; lines of one master in a row are one shard. -/
def decode (text : String) : Option (List ShardTopology) :=
  let lines := splitString '\n' text
  if lines.getLast? = some "" then do
    let entries ← lines.dropLast.mapM decodeLine
    some ((entries.splitBy fun a b => a.owner == b.owner).map shardOf)
  else none

end Decoder

section Topology
variable (shard : Shard)

def masterID : String := (shard.getMasterNode.map (·.id)).getD ""

/-- Every node but the master is a replica of it. -/
def member (node : ClusterNode) : Member :=
  ⟨node.id, node.addr, if node.isMaster then none else some (masterID shard)⟩

def shardTopology : ShardTopology := ⟨shard.nodes.map (member shard), shard.slotRanges⟩

def entry (node : ClusterNode) : Entry := ⟨member shard node, if node.isMaster then shard.slotRanges else []⟩

def topology (cluster : Cluster) : List ShardTopology := cluster.shards.map shardTopology

end Topology

/-- The clusters whose text is unambiguous. -/
structure Renderable (cluster : Cluster) : Prop where
  masters : ∀ shard ∈ cluster.shards, shard.nodes.countP (·.isMaster) = 1
  distinct : (cluster.getNodes.map (·.id)).Nodup
  ids : ∀ node ∈ cluster.getNodes, node.id ≠ "" ∧ Word node.id
  addrs : ∀ node ∈ cluster.getNodes, node.addr.toList.count ':' = 1 ∧ Word node.addr
  ranges : ∀ shard ∈ cluster.shards, ∀ range ∈ shard.slotRanges, SlotRange.InBounds range

section Line

def hostOf (addr : String) : String := String.ofList (addr.toList.takeWhile (· != ':'))

def portOf (addr : String) : String := String.ofList ((addr.toList.dropWhile (· != ':')).drop 1)

/-- The words of a line; a master without slots still has the separator. -/
def words (shard : Shard) (node : ClusterNode) : List String :=
  [node.id, hostOf node.addr, portOf node.addr] ++
    if node.isMaster then
      [roleMaster, "-"] ++ if shard.slotRanges = [] then [""] else shard.slotRanges.map SlotRange.string
    else [roleSlave, masterID shard]

def line (shard : Shard) (node : ClusterNode) : String := " ".intercalate (words shard node)

def shardText (shard : Shard) : String := String.join ((shard.nodes.map (line shard)).map (· ++ "\n"))

theorem splitAddr_ok (colon : ':' ∈ String.toList addr) :
    addr = hostOf addr ++ ":" ++ portOf addr ∧ Shard.splitAddr addr = hostOf addr ++ " " ++ portOf addr := by
  obtain ⟨host, port, text, free⟩ := List.eq_append_cons_of_mem colon
  have plain : ∀ c ∈ host, (c != ':') = true := fun c member => bne_iff_ne.mpr fun same => free (same ▸ member)
  have taken : addr.toList.takeWhile (· != ':') = host := by
    rw [text, List.takeWhile_append_of_pos plain, List.takeWhile_cons_of_neg (by simp), List.append_nil]
  have dropped : addr.toList.dropWhile (· != ':') = ':' :: port := by
    rw [text, List.dropWhile_append_of_pos plain, List.dropWhile_cons_of_neg (by simp)]
  have hostText : (hostOf addr).toList = host := by rw [hostOf, taken, String.toList_ofList]
  have portText : (portOf addr).toList = port := by
    rw [portOf, dropped, String.toList_ofList, List.drop_one, List.tail_cons]
  constructor
  · rw [← String.toList_inj]
    simp [hostText, portText, text]
  · rw [← String.toList_inj]
    simp [Shard.splitAddr, List.span_eq_takeWhile_dropWhile, hostText, portText, taken, dropped]

theorem decodeRanges_string {ranges : List SlotRange} (bounds : ∀ range ∈ ranges, SlotRange.InBounds range) :
    decodeRanges (if ranges = [] then [""] else ranges.map SlotRange.string) = some ranges := by
  have parsed : (ranges.map SlotRange.string).mapM parseSlotRange = .ok (ranges.map id) :=
    mapM_map fun range member => parseSlotRange_string (bounds range member)
  rw [List.map_id] at parsed
  split
  · rename_i none
    rw [none]
    rfl
  · rename_i some
    have notEmpty : ranges.map SlotRange.string ≠ [""] := by
      intro single
      have empty : ("" : String) ∈ ranges.map SlotRange.string := by simp [single]
      obtain ⟨range, member, text⟩ := List.mem_map.mp empty
      have read := parseSlotRange_string (bounds range member)
      rw [text] at read
      cases read
    rw [decodeRanges, if_neg notEmpty, parsed]
    rfl

theorem intercalate_cons (word next : String) (rest : List String) :
    " ".intercalate (word :: next :: rest) = word ++ " " ++ " ".intercalate (next :: rest) := by
  rw [← String.toList_inj]
  simp [String.toList_intercalate]

/-- Where one element has the property, it has one place. -/
theorem countP_one_index {p : α → Bool} {l : List α} {i k : Nat} (one : l.countP p = 1) (atI : l[i]? = some a)
    (first : p a = true) (atK : l[k]? = some b) (second : p b = true) : i = k := by
  induction l generalizing i k with
  | nil => cases atI
  | cons x l ih =>
    have later {j : Nat} {c : α} (here : l[j]? = some c) (holds : p c = true) : 0 < l.countP p :=
      List.countP_pos_iff.mpr ⟨c, List.mem_of_getElem? here, holds⟩
    rw [List.countP_cons] at one
    match i, k with
    | 0, 0 => rfl
    | 0, k + 1 =>
      obtain rfl := Option.some.inj atI
      have := later atK second
      rw [if_pos first] at one
      omega
    | i + 1, 0 =>
      obtain rfl := Option.some.inj atK
      have := later atI first
      rw [if_pos second] at one
      omega
    | i + 1, k + 1 =>
      have := later atI first
      exact congrArg (· + 1) (ih (by omega) atI atK)

variable {shard : Shard} {node : ClusterNode}

/-- What a shard must be for its lines to be decoded. -/
structure Shown (shard : Shard) : Prop where
  master : shard.nodes.countP (·.isMaster) = 1
  ids : ∀ node ∈ shard.nodes, Word node.id
  addrs : ∀ node ∈ shard.nodes, ':' ∈ node.addr.toList ∧ Word node.addr
  ranges : ∀ range ∈ shard.slotRanges, SlotRange.InBounds range

theorem Renderable.shown (renderable : Renderable cluster) (member : shard ∈ cluster.shards) : Shown shard where
  master := renderable.masters shard member
  ids node inside := (renderable.ids node (List.mem_flatMap.mpr ⟨shard, member, inside⟩)).2
  addrs node inside := by
    obtain ⟨once, word⟩ := renderable.addrs node (List.mem_flatMap.mpr ⟨shard, member, inside⟩)
    exact ⟨List.count_pos_iff.mp (by omega), word⟩
  ranges := renderable.ranges shard member

namespace Shown
variable (shown : Shown shard)
include shown

theorem masterID_mem : ∃ master ∈ shard.nodes, master.isMaster = true ∧ masterID shard = master.id := by
  have some : 0 < shard.nodes.countP (·.isMaster) := by
    rw [shown.master]
    omega
  obtain ⟨master, member, role⟩ := List.countP_pos_iff.mp some
  cases found : shard.getMasterNode with
  | none => exact absurd role (List.find?_eq_none.mp found master member)
  | some first =>
    exact ⟨first, List.mem_of_find?_eq_some found, List.find?_some found, by simp [masterID, found]⟩

theorem words_plain (member : node ∈ shard.nodes) : ∀ word ∈ words shard node, Word word := by
  have addr := (shown.addrs node member).2
  rw [(splitAddr_ok (shown.addrs node member).1).1, word_append, word_append] at addr
  obtain ⟨master, inside, _, owner⟩ := shown.masterID_mem
  intro word listed
  simp only [words, List.cons_append, List.nil_append, List.mem_cons] at listed
  rcases listed with rfl | rfl | rfl | listed
  · exact shown.ids node member
  · exact addr.1.1
  · exact addr.2
  · split at listed
    · rcases List.mem_cons.mp listed with rfl | listed
      · decide
      rcases List.mem_cons.mp listed with rfl | listed
      · decide
      split at listed
      · obtain rfl := List.mem_singleton.mp listed
        decide
      · obtain ⟨range, within, rfl⟩ := List.mem_map.mp listed
        exact word_string (shown.ranges range within)
    · simp only [List.mem_cons, List.not_mem_nil, or_false] at listed
      rcases listed with rfl | rfl
      · decide
      · rw [owner]
        exact shown.ids master inside

theorem decodeLine_line (inside : node ∈ shard.nodes) : decodeLine (line shard node) = some (entry shard node) := by
  have addr := (splitAddr_ok (shown.addrs node inside).1).1
  have split : splitString ' ' (line shard node) = words shard node :=
    splitString_intercalate (fun word listed => (shown.words_plain inside word listed).1) (by simp [words])
  rw [decodeLine, split, words]
  cases role : node.isMaster with
  | true =>
    simp only [if_true, List.cons_append, List.nil_append, and_self, decodeRanges_string shown.ranges,
      Option.map_some, ← addr, entry, member, role]
  | false =>
    have notMaster : ¬ (roleSlave = roleMaster ∧ masterID shard = "-") := by
      rintro ⟨same, _⟩
      exact absurd same (by decide)
    simp only [Bool.false_eq_true, if_false, List.cons_append, List.nil_append, if_neg notMaster, and_self, if_true,
      ← addr, entry, member, role]

theorem master_index : ∃ k, shard.nodes.findIdx? (·.isMaster) = some k := by
  obtain ⟨master, inside, role, _⟩ := shown.masterID_mem
  rw [← Option.isSome_iff_exists, List.findIdx?_isSome, List.any_eq_true]
  exact ⟨master, inside, role⟩

/-- Only the master stands at the master's index. -/
theorem at_master (found : shard.nodes.findIdx? (·.isMaster) = some k) (here : shard.nodes[i]? = some node) :
    i = k ↔ node.isMaster = true := by
  obtain ⟨bound, role, _⟩ := List.findIdx?_eq_some_iff_getElem.mp found
  constructor
  · rintro rfl
    obtain ⟨_, rfl⟩ := List.getElem?_eq_some_iff.mp here
    exact role
  · exact fun master => countP_one_index shown.master here master (List.getElem?_eq_getElem bound) role

omit shown in
theorem masterID_at (found : shard.nodes.findIdx? (·.isMaster) = some k) :
    (shard.nodes[k]?.map (·.id)).getD "" = masterID shard := by
  obtain ⟨bound, role, before⟩ := List.findIdx?_eq_some_iff_getElem.mp found
  have first : shard.getMasterNode = some shard.nodes[k] :=
    List.find?_eq_some_iff_getElem.mpr ⟨role, k, bound, rfl, by simpa using before⟩
  rw [masterID, first, List.getElem?_eq_getElem bound]

theorem nodeLine_eq (found : shard.nodes.findIdx? (·.isMaster) = some k) (here : shard.nodes[i]? = some node) :
    shard.nodeLine k (masterID shard) i node = line shard node ++ "\n" := by
  have inside := List.mem_of_getElem? here
  have addr := (splitAddr_ok (shown.addrs node inside).1).2
  have master := shown.at_master found here
  have dash : (" - " : String) = " " ++ ("-" ++ " ") := rfl
  unfold Shard.nodeLine line words
  rw [addr]
  cases role : node.isMaster with
  | true =>
    rw [if_pos (master.mpr role), if_pos rfl]
    cases shard.slotRanges with
    | nil =>
      simp only [List.map_nil, if_true, List.cons_append, List.nil_append, intercalate_cons, dash, String.append_assoc]
      rfl
    | cons range ranges =>
      simp only [List.map_cons, reduceCtorEq, if_false, List.cons_append, List.nil_append, intercalate_cons, dash,
        String.append_assoc]
  | false =>
    rw [if_neg (by simp [master, role]), if_neg (by simp)]
    simp only [List.cons_append, List.nil_append, intercalate_cons, String.append_assoc]
    rfl

theorem toSlotsString_eq : shard.toSlotsString = .ok (shardText shard) := by
  obtain ⟨k, found⟩ := shown.master_index
  simp only [Shard.toSlotsString, found, masterID_at found, shardText]
  congr 2
  apply List.ext_getElem?
  intro i
  rw [List.getElem?_mapIdx, List.getElem?_map, List.getElem?_map]
  cases here : shard.nodes[i]? with
  | none => rfl
  | some node => rw [Option.map_some, shown.nodeLine_eq found here]; rfl

theorem owner_entry (inside : node ∈ shard.nodes) : (entry shard node).owner = masterID shard := by
  obtain ⟨k, found⟩ := shown.master_index
  obtain ⟨i, bound, rfl⟩ := List.mem_iff_getElem.mp inside
  have here := List.getElem?_eq_getElem bound
  have master := shown.at_master found here
  unfold Entry.owner entry member
  split
  · rename_i role
    obtain rfl := master.mpr role
    rw [← masterID_at found, here]
    rfl
  · rfl

/-- The ranges of a shard stand in the line of its master alone. -/
theorem shardOf_entries : shardOf (shard.nodes.map (entry shard)) = shardTopology shard := by
  have once (nodes : List ClusterNode) : (nodes.map (entry shard)).flatMap (·.slotRanges) =
      (List.replicate (nodes.countP (·.isMaster)) shard.slotRanges).flatten := by
    induction nodes with
    | nil => rfl
    | cons node nodes ih =>
      rw [List.map_cons, List.flatMap_cons, ih, List.countP_cons]
      cases role : node.isMaster <;> simp [entry, role, List.replicate_succ]
  rw [shardOf, once, shown.master, shardTopology, List.map_map]
  simp [entry, Function.comp_def]

end Shown
end Line

section Text

/-- All nodes with their shards, in the order of their lines. -/
def places (cluster : Cluster) : List (Shard × ClusterNode) :=
  cluster.shards.flatMap fun shard => shard.nodes.map fun node => (shard, node)

def lines (cluster : Cluster) : List String := (places cluster).map fun place => line place.1 place.2

def entries (cluster : Cluster) : List Entry := (places cluster).map fun place => entry place.1 place.2

theorem entries_eq (cluster : Cluster) :
    entries cluster = (cluster.shards.map fun shard => shard.nodes.map (entry shard)).flatten := by
  rw [entries, places, List.map_flatMap, List.flatMap_def]
  simp only [List.map_map]
  rfl

variable {cluster : Cluster} (renderable : Renderable cluster)
include renderable

theorem Renderable.place_shown (inside : place ∈ places cluster) : Shown place.1 ∧ place.2 ∈ place.1.nodes := by
  obtain ⟨shard, member, inside⟩ := List.mem_flatMap.mp inside
  obtain ⟨node, listed, rfl⟩ := List.mem_map.mp inside
  exact ⟨renderable.shown member, listed⟩

theorem Renderable.toSlotString_eq : cluster.toSlotString = .ok (String.join ((lines cluster).map (· ++ "\n"))) := by
  unfold Cluster.toSlotString
  generalize looped : (cluster.shards.zipIdx.mapM _ : Except Error (List String)) = result
  have written : result = .ok (cluster.shards.zipIdx.map (shardText ∘ Prod.fst)) := by
    rw [← looped]
    refine (congrArg (List.mapM _) (List.map_id cluster.shards.zipIdx).symm).trans (mapM_map fun p member => ?_)
    have done := (renderable.shown (List.fst_mem_of_mem_zipIdx member)).toSlotsString_eq
    simp only [id, done, Function.comp_apply]
  have joined : String.join (cluster.shards.map shardText) = String.join ((lines cluster).map (· ++ "\n")) := by
    rw [← String.toList_inj, String.toList_join, String.toList_join, lines, places]
    simp only [shardText, List.flatMap_map, List.map_flatMap, List.flatMap_assoc, List.map_map, String.toList_join,
      Function.comp_def]
  rw [← List.map_map, List.zipIdx_map_fst] at written
  rw [written, ← joined]
  rfl

theorem Renderable.decode_lines : (lines cluster).mapM decodeLine = some (entries cluster) :=
  mapM_pure fun _ inside =>
    (renderable.place_shown inside).1.decodeLine_line (renderable.place_shown inside).2

/-- Lines of one shard have one owner, those of two shards never. -/
theorem Renderable.splitBy_entries : (entries cluster).splitBy (fun a b => a.owner == b.owner) =
    cluster.shards.map fun shard => shard.nodes.map (entry shard) := by
  have owner {shard : Shard} {e : Entry} (member : shard ∈ cluster.shards) (listed : e ∈ shard.nodes.map (entry shard)) :
      e.owner = masterID shard := by
    obtain ⟨node, inside, rfl⟩ := List.mem_map.mp listed
    exact (renderable.shown member).owner_entry inside
  have some {shard : Shard} (member : shard ∈ cluster.shards) : shard.nodes.map (entry shard) ≠ [] := by
    obtain ⟨master, inside, _⟩ := (renderable.shown member).masterID_mem
    exact List.ne_nil_of_mem (List.mem_map_of_mem inside)
  rw [entries_eq]
  refine List.splitBy_flatten ?_ ?_ ?_
  · intro empty
    obtain ⟨shard, member, none⟩ := List.mem_map.mp empty
    exact some member none
  · intro group listed
    obtain ⟨shard, member, rfl⟩ := List.mem_map.mp listed
    refine (List.pairwise_of_forall_mem_list fun a first b second => ?_).isChain
    rw [owner member first, owner member second, beq_self_eq_true]
  · have distinct := renderable.distinct
    rw [Cluster.getNodes, List.map_flatMap] at distinct
    have apart := (List.pairwise_flatMap.mp distinct).2
    refine List.Pairwise.isChain (List.pairwise_map.mpr (apart.imp_of_mem fun {s t} first second apart => ?_))
    obtain ⟨m, inside, _, one⟩ := (renderable.shown first).masterID_mem
    obtain ⟨m', inside', _, other⟩ := (renderable.shown second).masterID_mem
    refine ⟨some first, some second, ?_⟩
    rw [owner first (List.getLast_mem _), owner second (List.head_mem _), one, other, beq_eq_false_iff_ne]
    exact apart m.id (List.mem_map_of_mem inside) m'.id (List.mem_map_of_mem inside')

theorem Renderable.decode_text : decode (String.join ((lines cluster).map (· ++ "\n"))) = some (topology cluster) := by
  have free : ∀ text ∈ lines cluster, '\n' ∉ text.toList := by
    intro text member newline
    obtain ⟨place, inside, rfl⟩ := List.mem_map.mp member
    obtain ⟨shown, listed⟩ := renderable.place_shown inside
    rcases mem_intercalate newline with space | ⟨word, written, here⟩
    · exact absurd space (by decide)
    · exact (shown.words_plain listed word written).2 here
  have split : splitString '\n' (String.join ((lines cluster).map (· ++ "\n"))) = lines cluster ++ [""] :=
    splitString_terminated free
  have shards : (cluster.shards.map fun shard => shard.nodes.map (entry shard)).map shardOf = topology cluster := by
    rw [List.map_map]
    exact List.map_congr_left fun shard member => (renderable.shown member).shardOf_entries
  unfold decode
  simp only [split, List.getLast?_append, List.getLast?_singleton, Option.some_or, if_true, List.dropLast_concat,
    renderable.decode_lines, Option.bind_eq_bind, Option.bind_some, renderable.splitBy_entries, shards]

end Text

/-- The text of a cluster is decoded to its shards, in order, with the roles, links and
ranges; so no other topology has the same text. -/
theorem topology_text_faithful (renderable : Renderable cluster) :
    ∃ text, cluster.toSlotString = .ok text ∧ decode text = some (topology cluster) ∧
      ∀ other, Renderable other → topology other ≠ topology cluster → other.toSlotString ≠ .ok text := by
  refine ⟨_, renderable.toSlotString_eq, renderable.decode_text, fun other alsoRenderable differs same => ?_⟩
  have text := Except.ok.inj (alsoRenderable.toSlotString_eq.symm.trans same)
  have decoded := alsoRenderable.decode_text
  rw [text, renderable.decode_text] at decoded
  exact differs (Option.some.inj decoded).symm

section Samples

/-- A master behind its replica, and a master without slots. -/
def pushed : Cluster where
  name := "c"
  version := 1
  shards := [⟨[⟨0, "y", "b:1", roleSlave, "", 0⟩, ⟨1, "x", "a:1", roleMaster, "", 0⟩], [⟨0, 5⟩, ⟨7, 7⟩], -1, none⟩,
    ⟨[⟨2, "z", "c:1", roleMaster, "", 0⟩], [], -1, none⟩]

theorem pushed_renderable : Renderable pushed where
  masters := by decide
  distinct := by decide
  ids := by decide
  addrs := by decide
  ranges := by decide

end Samples

theorem topology_text_pushed :
    pushed.toSlotString = .ok "y b 1 slave x\nx a 1 master - 0-5 7\nz c 1 master - \n" ∧
      ∃ text, pushed.toSlotString = .ok text ∧ decode text = some (topology pushed) ∧
        ∀ other, Renderable other → topology other ≠ topology pushed → other.toSlotString ≠ .ok text :=
  ⟨by decide +kernel, topology_text_faithful pushed_renderable⟩

end Kvrocks.TopologyText
