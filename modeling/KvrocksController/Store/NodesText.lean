import KvrocksController.Store.ParseProofs

/-! `CLUSTER NODES` as a node renders it, with `ParseCluster` as its inverse: whatever
the order of the lines, every master's shard comes back with its replicas. -/
namespace Kvrocks.NodesText
open Kvrocks.Interval

inductive Place where
  | master (slotRanges : List SlotRange)
  | slave (masterID : String)
deriving DecidableEq, Repr

/-- A line without the epoch, which is the same on all of them. `long` writes a single
slot as a range. -/
structure Line where
  id : String
  addr : String
  cport : Option String
  myself : Bool
  place : Place
  ping : String
  pong : String
  state : String
  long : Bool
deriving DecidableEq, Repr

namespace Line

def role (line : Line) : String :=
  match line.place with
  | .master _ => roleMaster
  | .slave _ => roleSlave

def slotRanges (line : Line) : List SlotRange :=
  match line.place with
  | .master slotRanges => slotRanges
  | .slave _ => []

def masterField (line : Line) : String :=
  match line.place with
  | .master _ => "-"
  | .slave masterID => masterID

def rangeWord (line : Line) (range : SlotRange) : String :=
  if line.long then Strconv.itoa range.start ++ "-" ++ Strconv.itoa range.stop else SlotRange.string range

def addrWord (line : Line) : String :=
  match line.cport with
  | none => line.addr
  | some cport => line.addr ++ "@" ++ cport

def words (epoch : Int) (line : Line) : List String :=
  [line.id, line.addrWord, (if line.myself then "myself," else "") ++ line.role, line.masterField, line.ping, line.pong,
    Strconv.itoa epoch, line.state] ++ line.slotRanges.map line.rangeWord

def text (epoch : Int) (line : Line) : String := " ".intercalate (line.words epoch)

/-- The node that the line at `k` describes. -/
def node (line : Line) (k : Nat) : ClusterNode where
  ptr := k
  id := line.id
  addr := line.addr
  role := line.role
  password := ""
  createdAt := 0

end Line

def render (epoch : Int) (lines : List Line) : String := "\n".intercalate (lines.map (·.text epoch))

structure Line.Plain (line : Line) : Prop where
  id : Word line.id
  addr : Word line.addr
  host : '@' ∉ line.addr.toList
  cport : ∀ cport, line.cport = some cport → Word cport
  ping : Word line.ping
  pong : Word line.pong
  state : Word line.state

/-- A topology in some order of its lines; the node that renders it has a line too. -/
structure WellFormed (lines : List Line) : Prop where
  some : lines ≠ []
  plain : ∀ line ∈ lines, line.Plain
  distinct : (lines.map (·.id)).Nodup
  masters : ∀ line ∈ lines, ∀ masterID, line.place = .slave masterID →
    ∃ master ∈ lines, master.id = masterID ∧ ∃ slotRanges, master.place = .master slotRanges
  bounds : ∀ line ∈ lines, ∀ range ∈ line.slotRanges, SlotRange.InBounds range
  disjoint : (lines.flatMap (·.slotRanges)).Pairwise fun a b => Disjoint a.points b.points

/-- The replicas of a master, in line order. -/
def replicas (lines : List Line) (masterID : String) : List ClusterNode :=
  lines.zipIdx.filterMap fun (line, k) => if line.place = .slave masterID then some (line.node k) else none

/-- One shard for each line of a master. -/
def shards (lines : List Line) : List Shard :=
  lines.zipIdx.filterMap fun (line, k) =>
    match line.place with
    | .master slotRanges => some { newShard with nodes := line.node k :: replicas lines line.id, slotRanges }
    | .slave _ => none

/-- By the start of the first range, shards without slots last. -/
def Precedes (a b : Shard) : Prop :=
  match a.slotRanges.head?, b.slotRanges.head? with
  | _, none => True
  | none, some _ => False
  | some first, some second => first.start < second.start

/-- A sort by `Shards.Less`, whatever it does with shards of which neither is less. -/
structure Sorts (sort : List Shard → List Shard) : Prop where
  perm : ∀ l, (sort l).Perm l
  ordered : ∀ l, (sort l).Pairwise fun a b => shardLess b a = false

section Words
variable {line : Line}

theorem role_cases (line : Line) : line.role = roleMaster ∨ line.role = roleSlave := by
  unfold Line.role
  split
  · exact .inl rfl
  · exact .inr rfl

theorem rangeWord_cases (bounds : SlotRange.InBounds range) :
    Word (line.rangeWord range) ∧ parseSlotRange (line.rangeWord range) = .ok range := by
  unfold Line.rangeWord
  split
  · obtain ⟨start, stop⟩ := range
    obtain ⟨low, ordered, high⟩ := bounds
    simp only [minSlotID, maxSlotID] at low ordered high
    obtain ⟨a, rfl⟩ := Int.eq_ofNat_of_zero_le low
    obtain ⟨b, rfl⟩ := Int.eq_ofNat_of_zero_le (low.trans ordered)
    exact ⟨word_dashed a b, parseSlotRange_dashed (by omega) (by omega)⟩
  · exact ⟨word_string bounds, parseSlotRange_string bounds⟩

variable (plain : line.Plain) (bounds : ∀ range ∈ line.slotRanges, SlotRange.InBounds range)
  (linked : ∀ masterID, line.place = .slave masterID → Word masterID)

include plain bounds linked in
theorem words_plain (epoch : Nat) : ∀ word ∈ line.words epoch, Word word := by
  have role : Word ((if line.myself then "myself," else "") ++ line.role) := by
    rcases role_cases line with role | role <;> rw [role] <;> cases line.myself <;> decide
  have addr : Word line.addrWord := by
    unfold Line.addrWord
    split
    · exact plain.addr
    · rename_i cport given
      exact word_append.mpr ⟨word_append.mpr ⟨plain.addr, by decide⟩, plain.cport cport given⟩
  have masterField : Word line.masterField := by
    unfold Line.masterField
    split
    · decide
    · rename_i masterID place
      exact linked masterID place
  intro word member
  simp only [Line.words, List.cons_append, List.nil_append, List.mem_cons, List.mem_map] at member
  rcases member with rfl | rfl | rfl | rfl | rfl | rfl | rfl | rfl | ⟨range, listed, rfl⟩
  · exact plain.id
  · exact addr
  · exact role
  · exact masterField
  · exact plain.ping
  · exact plain.pong
  · exact word_itoa epoch
  · exact plain.state
  · exact (rangeWord_cases (bounds range listed)).1

include plain in
/-- The node made of the words is the one the line describes. -/
theorem parseNode_words (k : Nat) (epoch : Int) : parseNode k (line.words epoch) = line.node k := by
  have addr : (splitString '@' line.addrWord).getD 0 "" = line.addr := by
    unfold Line.addrWord
    split
    · rw [splitString_absent plain.host]
      rfl
    · rename_i cport _
      rw [show line.addr ++ "@" ++ cport = line.addr ++ String.singleton '@' ++ cport from rfl,
        splitString_cons plain.host]
      rfl
  have role : (if ((if line.myself then "myself," else "") ++ line.role).toList.contains ',' then
      (splitString ',' ((if line.myself then "myself," else "") ++ line.role)).getD 1 ""
      else (if line.myself then "myself," else "") ++ line.role) = line.role := by
    rcases role_cases line with role | role <;> rw [role] <;> cases line.myself <;> decide +kernel
  simp only [parseNode, Line.words, Line.node, List.cons_append, List.getD_cons_zero, List.getD_cons_succ, addr, role]

end Words

section Lines

def extend (epoch : Int) (st : ParseState) (line : Line) (k : Nat) : ParseState :=
  match line.place with
  | .master slotRanges =>
    { st with clusterVer := epoch, shards := st.shards ++ [{ newShard with nodes := [line.node k], slotRanges }] }
  | .slave masterID => { st with clusterVer := epoch, slaveNodes := st.slaveNodes ++ [(masterID, line.node k)] }

/-- What a line must be for the parser to read it. -/
structure Readable (line : Line) : Prop where
  plain : line.Plain
  bounds : ∀ range ∈ line.slotRanges, SlotRange.InBounds range
  linked : ∀ masterID, line.place = .slave masterID → Word masterID

theorem WellFormed.readable (wellFormed : WellFormed lines) (member : line ∈ lines) : Readable line := by
  refine ⟨wellFormed.plain line member, wellFormed.bounds line member, fun masterID place => ?_⟩
  obtain ⟨master, inside, rfl, _⟩ := wellFormed.masters line member masterID place
  exact (wellFormed.plain master inside).id

theorem text_word (readable : Readable line) (epoch : Nat) :
    splitString ' ' (line.text epoch) = line.words epoch ∧ '\n' ∉ (line.text epoch).toList := by
  have words := words_plain readable.plain readable.bounds readable.linked epoch
  refine ⟨splitString_intercalate (fun word member => (words word member).1) (by simp [Line.words]), fun member => ?_⟩
  rcases mem_intercalate member with space | ⟨word, inside, here⟩
  · exact absurd space (by decide)
  · exact (words word inside).2 here

theorem parseLine_text {epoch : Nat} (readable : Readable line) (fits : (epoch : Int) ≤ Strconv.maxInt64) :
    parseLine k (line.text epoch) st = .ok (extend epoch st line k) := by
  have ranges : (line.slotRanges.map line.rangeWord).mapM parseSlotRange = .ok (line.slotRanges.map id) :=
    mapM_map fun range member => (rangeWord_cases (readable.bounds range member)).2
  rw [List.map_id] at ranges
  rw [parseLine_ok, (text_word readable epoch).1, parseNode_words readable.plain]
  refine ⟨by simp [Line.words], epoch, Strconv.parseInt_itoa epoch fits, ?_⟩
  unfold extend
  cases place : line.place with
  | master slotRanges =>
    have here : line.slotRanges = slotRanges := by simp only [Line.slotRanges, place]
    refine .inl ⟨by simp [Line.node, Line.role, place], slotRanges, ?_, rfl⟩
    rw [← here]
    exact ranges
  | slave masterID =>
    refine .inr ⟨by simp [Line.node, Line.role, place], ?_⟩
    simp [Line.words, Line.masterField, place]

/-- The shard that a master's line opens, with the master alone. -/
def opens (entry : Line × Nat) : Option Shard :=
  match entry.1.place with
  | .master slotRanges => some { newShard with nodes := [entry.1.node entry.2], slotRanges }
  | .slave _ => none

def opened (numbered : List (Line × Nat)) : List Shard := numbered.filterMap opens

/-- The replicas, under the master that each one names. -/
def waiting (numbered : List (Line × Nat)) : List (String × ClusterNode) :=
  numbered.filterMap fun (line, k) =>
    match line.place with
    | .master _ => none
    | .slave masterID => some (masterID, line.node k)

theorem parseLines_text {epoch : Nat} (fits : (epoch : Int) ≤ Strconv.maxInt64)
    (readable : ∀ line ∈ lines, Readable line) :
    parseLines k (lines.map (·.text epoch)) st =
      .ok { clusterVer := if lines = [] then st.clusterVer else epoch
            shards := st.shards ++ opened (lines.zipIdx k)
            slaveNodes := st.slaveNodes ++ waiting (lines.zipIdx k) } := by
  induction lines generalizing k st with
  | nil => simp [parseLines, opened, waiting]
  | cons line lines ih =>
    rw [List.map_cons, parseLines, parseLine_text (readable line (by simp)) fits]
    refine (ih fun line member => readable line (by simp [member])).trans ?_
    unfold extend
    cases place : line.place with
    | master slotRanges => cases lines <;> simp [opened, opens, waiting, place]
    | slave masterID => cases lines <;> simp [opened, opens, waiting, place]

end Lines

section Shards

theorem sortShards_sorts : Sorts sortShards where
  perm l := List.perm_insertionSort _ l
  ordered l := by
    have total : Std.Total fun a b => shardLess b a = false := ⟨fun a b => by
      unfold shardLess
      rcases a.slotRanges with _ | ⟨x, _⟩ <;> rcases b.slotRanges with _ | ⟨y, _⟩ <;> simp
      omega⟩
    have trans : IsTrans Shard fun a b => shardLess b a = false := ⟨fun a b c => by
      unfold shardLess
      rcases a.slotRanges with _ | ⟨x, _⟩ <;> rcases b.slotRanges with _ | ⟨y, _⟩ <;>
        rcases c.slotRanges with _ | ⟨z, _⟩ <;> simp
      omega⟩
    exact List.pairwise_insertionSort _ l

theorem attachSlaves_slotRanges (slaveNodes : List (String × ClusterNode)) (shard : Shard) :
    (attachSlaves slaveNodes shard).slotRanges = shard.slotRanges := by
  unfold attachSlaves
  split <;> rfl

/-- The replicas join the shards of their masters. -/
theorem attached (lines : List Line) :
    (opened lines.zipIdx).map (attachSlaves (waiting lines.zipIdx)) = shards lines := by
  have joining (masterID : String) : ((waiting lines.zipIdx).filterMap fun slave =>
      if slave.1 = masterID then some slave.2 else none) = replicas lines masterID := by
    rw [waiting, replicas, List.filterMap_filterMap]
    refine List.filterMap_congr fun entry _ => ?_
    cases place : entry.1.place with
    | master slotRanges => simp [place]
    | slave named => simp [place]
  rw [opened, shards, List.map_filterMap]
  refine List.filterMap_congr fun entry _ => ?_
  cases place : entry.1.place with
  | master slotRanges => simp [opens, place, attachSlaves_mk, joining, Line.node]
  | slave named => simp [opens, place]

theorem opens_slotRanges (here : opens entry = some shard) : shard.slotRanges = entry.1.slotRanges := by
  unfold opens at here
  unfold Line.slotRanges
  split at here
  · cases here
    rfl
  · cases here

def Apart (a b : Shard) : Prop := ∀ x ∈ a.slotRanges, ∀ y ∈ b.slotRanges, Disjoint x.points y.points

theorem opened_apart (wellFormed : WellFormed lines) : (opened lines.zipIdx).Pairwise Apart := by
  have apart := (List.pairwise_flatMap.mp wellFormed.disjoint).2
  have lineOf : lines.zipIdx.map Prod.fst = lines := List.zipIdx_map_fst 0 lines
  rw [← lineOf, List.pairwise_map] at apart
  rw [opened, List.pairwise_filterMap]
  refine apart.imp fun {a b} apart first one second other => ?_
  rw [Apart, opens_slotRanges one, opens_slotRanges other]
  exact apart

theorem opened_valid (wellFormed : WellFormed lines) (member : shard ∈ opened lines.zipIdx) :
    ∀ range ∈ shard.slotRanges, range.Valid := by
  obtain ⟨entry, inside, here⟩ := List.mem_filterMap.mp member
  rw [opens_slotRanges here]
  exact fun range listed => (wellFormed.bounds entry.1 (List.fst_mem_of_mem_zipIdx inside) range listed).2.1

/-- Disjoint shards have different first slots, so the order is strict. -/
theorem precedes_of_apart (notLess : shardLess b a = false) (apart : Apart a b)
    (validA : ∀ range ∈ a.slotRanges, range.Valid) (validB : ∀ range ∈ b.slotRanges, range.Valid) : Precedes a b := by
  unfold Precedes
  unfold shardLess at notLess
  unfold Apart at apart
  cases firsts : a.slotRanges with
  | nil => cases seconds : b.slotRanges <;> simp_all
  | cons x xs =>
    cases seconds : b.slotRanges with
    | nil => simp
    | cons y ys =>
      rw [firsts, seconds] at notLess apart
      have first := validA x (by simp [firsts])
      have second := validB y (by simp [seconds])
      have disjoint := apart x (by simp) y (by simp)
      have different : x.start ≠ y.start := by
        intro same
        exact Set.disjoint_left.mp disjoint (mem_points.mpr ⟨Int.le_refl x.start, first⟩)
          (mem_points.mpr ⟨Int.le_of_eq same.symm, same ▸ second⟩)
      simp only [decide_eq_false_iff_not, Int.not_lt] at notLess
      simp only [List.head?_cons]
      omega

end Shards

/-- The cluster that a text stands for: one shard for each master, with its replicas in
line order, by the first slot. -/
structure Reads (epoch : Int) (lines : List Line) (cluster : Cluster) : Prop where
  version : cluster.version = epoch
  shards : cluster.shards.Perm (shards lines)
  ordered : cluster.shards.Pairwise Precedes

section Inverse
variable {lines : List Line} (wellFormed : WellFormed lines)
include wellFormed

theorem split_render (epoch : Nat) : splitString '\n' (render epoch lines) = lines.map (·.text epoch) := by
  refine splitString_intercalate ?_ (by simpa using wellFormed.some)
  simpa using fun line member => (text_word (wellFormed.readable member) epoch).2

theorem render_some (epoch : Nat) : (render epoch lines).toList.length ≠ 0 := by
  intro empty
  have split := split_render wellFormed epoch
  rw [String.toList_eq_nil_iff.mp (List.eq_nil_of_length_eq_zero empty)] at split
  cases lines with
  | nil => exact wellFormed.some rfl
  | cons line rest =>
    -- the one line of an empty text has no fields, but every line has eight
    have first : "" = line.text epoch := (List.cons.inj split).1
    have fields := (text_word (wellFormed.readable (List.mem_cons_self : line ∈ line :: rest)) epoch).1
    rw [← first] at fields
    simp [Line.words, splitString] at fields

theorem parseClusterBy_reads {epoch : Nat} (fits : (epoch : Int) ≤ Strconv.maxInt64) (sorts : Sorts sort) :
    ∃ cluster, parseClusterBy sort (render epoch lines) = .ok cluster ∧ Reads epoch lines cluster := by
  let st : ParseState := ⟨epoch, opened lines.zipIdx, waiting lines.zipIdx⟩
  have scan : parseLines 0 (splitString '\n' (render epoch lines)) ⟨-1, [], []⟩ = .ok st := by
    rw [split_render wellFormed, parseLines_text fits fun line member => wellFormed.readable member,
      if_neg wellFormed.some, List.nil_append, List.nil_append]
  have version : st.clusterVer ≠ -1 := by
    simp only [st]
    omega
  refine ⟨_, (parseClusterBy_ok sort).mpr ⟨render_some wellFormed epoch, st, scan, version, rfl⟩, rfl, ?_, ?_⟩
  · exact attached lines ▸ (sorts.perm (opened lines.zipIdx)).map _
  · have perm := sorts.perm (opened lines.zipIdx)
    have apart : (sort (opened lines.zipIdx)).Pairwise Apart :=
      (perm.pairwise_iff fun apart x inside y member => (apart y member x inside).symm).mpr (opened_apart wellFormed)
    rw [List.pairwise_map]
    refine ((sorts.ordered _).and apart).imp_of_mem fun {a b} first second both => ?_
    have order := precedes_of_apart both.1 both.2 (opened_valid wellFormed (perm.mem_iff.mp first))
      (opened_valid wellFormed (perm.mem_iff.mp second))
    simpa only [Precedes, attachSlaves_slotRanges] using order

end Inverse

/-- Whatever the order of the lines, and whatever the sort does with shards of which
neither is less, the text is read back. -/
theorem parseCluster_reads_rendering {epoch : Int} (wellFormed : WellFormed lines) (positive : 0 ≤ epoch)
    (fits : epoch ≤ Strconv.maxInt64) :
    (∃ cluster, parseCluster (render epoch lines) = .ok cluster ∧ Reads epoch lines cluster) ∧
      ∀ sort, Sorts sort → ∃ cluster, parseClusterBy sort (render epoch lines) = .ok cluster ∧
        Reads epoch lines cluster := by
  obtain ⟨n, rfl⟩ := Int.eq_ofNat_of_zero_le positive
  rw [parseCluster_eq]
  exact ⟨parseClusterBy_reads wellFormed fits sortShards_sorts, fun sort => parseClusterBy_reads wellFormed fits⟩

section Samples

/-- A replica before its master, a master without slots, shards out of order. -/
def fourLines : List Line :=
  [⟨"y", "b:1", some "10001", false, .slave "x", "0", "0", "connected", false⟩,
    ⟨"z", "c:1", none, false, .master [], "0", "0", "connected", false⟩,
    ⟨"w", "d:1", none, false, .master [⟨6, 9⟩, ⟨20, 20⟩], "0", "0", "connected", true⟩,
    ⟨"x", "a:1", none, true, .master [⟨0, 5⟩], "0", "0", "connected", false⟩]

theorem fourLines_wellFormed : WellFormed fourLines where
  some := by decide
  plain := by
    intro line member
    simp only [fourLines, List.mem_cons, List.not_mem_nil, or_false] at member
    rcases member with rfl | rfl | rfl | rfl <;>
      exact ⟨by decide, by decide, by decide, by simp [Word], by decide, by decide, by decide⟩
  distinct := by decide
  masters := by
    intro line member masterID place
    simp only [fourLines, List.mem_cons, List.not_mem_nil, or_false] at member
    rcases member with rfl | rfl | rfl | rfl
    · obtain rfl := Place.slave.inj place
      exact ⟨⟨"x", "a:1", none, true, .master [⟨0, 5⟩], "0", "0", "connected", false⟩, by decide, rfl, _, rfl⟩
    all_goals cases place
  bounds := by decide
  disjoint := by
    simp [fourLines, Line.slotRanges, Set.disjoint_left, mem_points]
    refine ⟨⟨?_, ?_⟩, ?_⟩ <;> (intros; omega)

end Samples

theorem parseCluster_reads_four :
    render 3 fourLines = "y b:1@10001 slave x 0 0 3 connected\nz c:1 master - 0 0 3 connected\n" ++
      "w d:1 master - 0 0 3 connected 6-9 20-20\nx a:1 myself,master - 0 0 3 connected 0-5" ∧
    ∃ cluster, parseCluster (render 3 fourLines) = .ok cluster ∧ Reads 3 fourLines cluster :=
  ⟨by decide +kernel, (parseCluster_reads_rendering fourLines_wellFormed (by decide) (by decide)).1⟩

end Kvrocks.NodesText
