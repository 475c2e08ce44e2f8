import KvrocksController.Lib.Transition
import KvrocksController.Raft.NodeProofs

/-! Replicas of one committed log, without restarts: whether entries or snapshots
brought a node to an index, its map is the fold of the log up to there. -/
namespace Kvrocks.Raft
open Kvrocks.Transition
variable {V : Type}

/-- The committed log. Its indexes are `uint64` values. -/
structure Log (V : Type) where
  payloads : List (Payload V)
  small : payloads.length < 2 ^ 64

/-- The map of the first `index` entries. -/
def Log.upTo (log : Log V) (index : Nat) : KVs V := fold (log.payloads.take index)

/-- The nodes, and the snapshots any of them has produced. -/
structure System (V : Type) where
  nodes : Nat → Node V
  produced : List (Snapshot V)

inductive Label (V : Type) where
  | ready (i : Nat) (env : Env) (rd : Ready V)
  | setSnapshotThreshold (i threshold : Nat)

def System.assign (s : System V) (i : Nat) (n : Node V) : System V :=
  { s with nodes := fun other => if other = i then n else s.nodes other }

/-- The applied index once the snapshot of a `Ready` is installed. -/
def installedIndex (n : Node V) (snapshot : Snapshot V) : Nat :=
  if isEmptySnap snapshot then n.appliedIndex else snapshot.index

/-- What raft and the disk promise about a `Ready`. -/
structure Contract (log : Log V) (produced : List (Snapshot V)) (env : Env) (rd : Ready V) (n : Node V) : Prop where
  saves : env.saveReceived = none ∧ env.saveCreated = none
  snapshot : isEmptySnap rd.snapshot = false → rd.snapshot ∈ produced ∧ n.appliedIndex < rd.snapshot.index
  entries : rd.committedEntries = [] ∨ ∃ first last, 1 ≤ first ∧ first ≤ installedIndex n rd.snapshot + 1 ∧
    installedIndex n rd.snapshot + 1 ≤ last ∧ last ≤ log.payloads.length ∧
    rd.committedEntries = segment log.payloads first last

inductive Step (log : Log V) : System V → Label V → System V → Prop where
  | ready (contract : Contract log s.produced env rd (s.nodes i))
      (handled : (s.nodes i).handleReady env rd = some after) :
      Step log s (.ready i env rd) { s.assign i after.node with produced := s.produced ++ after.created.toList }
  | setSnapshotThreshold :
      Step log s (.setSnapshotThreshold i threshold)
        (s.assign i { s.nodes i with snapshotThreshold := threshold })

/-- All nodes were started without snapshot and log. -/
structure Empty (s : System V) : Prop where
  nodes : ∀ i, ∃ config, Node.run config none [] = .ok (s.nodes i)
  produced : s.produced = []

/-- A node, or a snapshot, that stands for the log up to its index. -/
def Follows (log : Log V) (n : Node V) : Prop :=
  n.appliedIndex ≤ log.payloads.length ∧ n.kvs = log.upTo n.appliedIndex

def Taken (log : Log V) (snapshot : Snapshot V) : Prop :=
  snapshot.index ≤ log.payloads.length ∧ DataStore.decode snapshot.data = .ok (log.upTo snapshot.index)

namespace Follows
variable {log : Log V} {n : Node V} {env : Env}

theorem install (follows : Follows log n) (snapshot : Snapshot V) (saved : env.saveReceived = none)
    (taken : isEmptySnap snapshot = false → Taken log snapshot ∧ n.appliedIndex < snapshot.index) :
    Follows log ((n.saveReceived env snapshot).applySnapshot snapshot).1 ∧
      ((n.saveReceived env snapshot).applySnapshot snapshot).1.appliedIndex = installedIndex n snapshot := by
  cases empty : isEmptySnap snapshot with
  | true => simp only [Node.saveReceived, Node.applySnapshot, installedIndex, empty, if_true]; exact ⟨follows, trivial⟩
  | false =>
    obtain ⟨⟨bound, decoded⟩, newer⟩ := taken empty
    simp only [Node.saveReceived, Node.applySnapshot, installedIndex, empty, Bool.false_eq_true, if_false, saved,
      Nat.not_le.mpr newer, DataStore.reloadSnapshot, decoded]
    exact ⟨⟨bound, rfl⟩, trivial⟩

theorem applyEntries (follows : Follows log n)
    (entries : batch = [] ∨ ∃ first last, 1 ≤ first ∧ first ≤ n.appliedIndex + 1 ∧ n.appliedIndex + 1 ≤ last ∧
      last ≤ log.payloads.length ∧ batch = segment log.payloads first last)
    (applied : n.applyEntries env batch = some m) : Follows log m := by
  obtain rfl | ⟨first, last, positive, next, ends, bound, rfl⟩ := entries
  · obtain rfl := Option.some.inj applied
    exact follows
  · rw [Node.applyEntries_segment log.small positive next ends bound, Option.map_eq_some_iff] at applied
    obtain ⟨moved, applied, rfl⟩ := applied
    refine ⟨bound, ?_⟩
    calc moved.kvs = Write.replay (writes ((log.payloads.take last).drop n.appliedIndex)) n.kvs := by
          rw [← segment_payloads]
          exact (Node.applyAll_moves applied).kvs
      _ = fold (log.payloads.take n.appliedIndex ++ (log.payloads.take last).drop n.appliedIndex) := by
          rw [fold_append, follows.2]
          rfl
      _ = log.upTo last := by
          rw [← take_split log.payloads (Nat.le_of_succ_le ends)]
          rfl

/-- A snapshot is taken of what the node holds; the node goes on as it is. -/
theorem trigger (follows : Follows log n) (env : Env) :
    Follows log (n.triggerSnapshotIfNeed env).node ∧
      ∀ snapshot ∈ (n.triggerSnapshotIfNeed env).created, Taken log snapshot := by
  have taken : Taken log n.snapshot := ⟨follows.1, by rw [Node.snapshot, DataStore.decode_snapshot, follows.2]⟩
  rcases n.triggerSnapshotIfNeed_cases env with ⟨none, same⟩ | ⟨created, same | ⟨index, same⟩⟩
  · rw [none, same]
    exact ⟨follows, nofun⟩
  · rw [created, same]
    exact ⟨follows, fun snapshot member => Option.some.inj member ▸ taken⟩
  · rw [created, same]
    exact ⟨follows, fun snapshot member => Option.some.inj member ▸ taken⟩

end Follows

structure Replicated (log : Log V) (s : System V) : Prop where
  nodes : ∀ i, Follows log (s.nodes i)
  produced : ∀ snapshot ∈ s.produced, Taken log snapshot

theorem Replicated.ready {log : Log V} (holds : Replicated log s)
    (contract : Contract log s.produced env rd (s.nodes i)) (handled : (s.nodes i).handleReady env rd = some after) :
    Replicated log { s.assign i after.node with produced := s.produced ++ after.created.toList } := by
  obtain ⟨installed, index⟩ := (holds.nodes i).install rd.snapshot contract.saves.1
    fun received => ⟨holds.produced _ (contract.snapshot received).1, (contract.snapshot received).2⟩
  obtain ⟨moved, applied, rfl⟩ := Node.handleReady_some.mp handled
  obtain ⟨follows, taken⟩ := (installed.applyEntries (index ▸ contract.entries) applied).trigger env
  refine ⟨fun other => ?_, fun snapshot member => ?_⟩
  · simp only [System.assign]
    split
    · exact follows
    · exact holds.nodes other
  · obtain member | member := List.mem_append.mp member
    · exact holds.produced snapshot member
    · exact taken snapshot (Option.mem_toList.mp member)

theorem Replicated.step {log : Log V} (holds : Replicated log s) (step : Step log s l t) : Replicated log t := by
  cases step with
  | ready contract handled => exact holds.ready contract handled
  | setSnapshotThreshold =>
    refine ⟨fun other => ?_, holds.produced⟩
    simp only [System.assign]
    split
    · exact holds.nodes _
    · exact holds.nodes other

/-- After any batches, every map is the fold of the log up to the node's applied
index, so nodes at one index hold one map. -/
theorem replicas_follow_log {log : Log V} {s₀ s : System V} (empty : Empty s₀) (run : Run (Step log) s₀ ls s) :
    (∀ i, (s.nodes i).kvs = fold (log.payloads.take (s.nodes i).appliedIndex)) ∧
      ∀ i j, (s.nodes i).appliedIndex = (s.nodes j).appliedIndex → (s.nodes i).kvs = (s.nodes j).kvs := by
  have holds : Replicated log s := by
    refine run.preserves (P := Replicated log) (fun _ _ _ holds step => holds.step step) ⟨fun i => ?_, ?_⟩
    · obtain ⟨config, started⟩ := empty.nodes i
      rw [← Except.ok.inj started]
      exact ⟨Nat.zero_le _, rfl⟩
    · simp [empty.produced]
  refine ⟨fun i => (holds.nodes i).2, fun i j same => ?_⟩
  rw [(holds.nodes i).2, (holds.nodes j).2, same]

section Samples

/-- A node as it is after starting on an empty disk. -/
def fresh (id : Nat) : Node Nat where
  id := id
  kvs := ∅
  saved := none
  appliedIndex := 0
  snapshotIndex := 0
  confState := ⟨[]⟩
  peers := Node.configPeers ⟨id, ["http://a:1", "http://b:1"]⟩
  snapshotThreshold := defaultSnapshotThreshold
  compactThreshold := defaultCompactThreshold
  isRunning := true

/-- Nothing fails, and raft answers every configuration change with no voters. -/
def calm : Env := ⟨fun _ _ => ⟨[]⟩, none, none, none, none, none⟩

def setEntry (key : String) (value : Nat) : Payload Nat := .normal (.event ⟨opSet, key, value⟩)

def sampleLog : Log Nat where
  payloads := [.normal .empty, .normal (.event ⟨opSet, "a", 1⟩), .normal (.undecodable (.new "bad")),
    .normal (.event ⟨opDelete, "a", 0⟩), .normal (.event ⟨opSet, "b", 2⟩)]
  small := by decide

def sampleKVs : KVs Nat := ((Std.ExtTreeMap.insert ∅ "a" 1).erase "a").insert "b" 2

def sampleSnapshot : Snapshot Nat := ⟨5, ⟨[]⟩, DataStore.getDataStoreSnapshot sampleKVs⟩

def begun : System Nat := ⟨fun i => fresh (i + 1), []⟩

/-- The first node has applied the log. -/
def reached : Node Nat := { fresh 1 with snapshotThreshold := 1, kvs := sampleKVs, appliedIndex := 5 }

/-- It has taken a snapshot. -/
def snapshotted : Node Nat :=
  { fresh 1 with
    kvs := sampleKVs
    saved := some sampleSnapshot
    appliedIndex := 5
    snapshotIndex := 5
    snapshotThreshold := 1 }

/-- The second node has installed it. -/
def restored : Node Nat :=
  { fresh 2 with
    kvs := Std.ExtTreeMap.ofList sampleKVs.toList
    saved := some sampleSnapshot
    appliedIndex := 5
    snapshotIndex := 5 }

end Samples

/-- One node applies five entries and takes a snapshot, another installs it. -/
theorem replicas_follow_log_installed :
    ∃ ls s, Run (Step sampleLog) begun ls s ∧ (s.nodes 0).appliedIndex = 5 ∧ s.nodes 1 = restored ∧
      (s.nodes 1).kvs = (s.nodes 0).kvs := by
  let eager : System Nat := begun.assign 0 { fresh 1 with snapshotThreshold := 1 }
  have entered : (eager.nodes 0).applyEntries calm (segment sampleLog.payloads 1 5) = some reached := by
    rw [Node.applyEntries_segment sampleLog.small (by decide) (by decide) (by decide) (by decide)]
    rfl
  have triggered : reached.triggerSnapshotIfNeed calm = ⟨snapshotted, some sampleSnapshot, some 1, none⟩ :=
    if_neg (by decide +kernel)
  have applied : (eager.nodes 0).handleReady calm ⟨emptySnapshot, segment sampleLog.payloads 1 5⟩ =
      some ⟨snapshotted, some sampleSnapshot, some 1, none⟩ := by
    have none : ((eager.nodes 0).saveReceived calm emptySnapshot).applySnapshot emptySnapshot =
      (eager.nodes 0, none) := rfl
    simp only [Node.handleReady, none, entered, triggered]
  have received : ((fresh 2).saveReceived calm sampleSnapshot).applySnapshot sampleSnapshot = (restored, none) := rfl
  have idle : restored.applyEntries calm [] = some restored := rfl
  have steady : restored.triggerSnapshotIfNeed calm = ⟨restored, none, none, none⟩ := if_pos (by decide +kernel)
  have installed : (fresh 2).handleReady calm ⟨sampleSnapshot, []⟩ = some ⟨restored, none, none, none⟩ := by
    simp only [Node.handleReady, received, idle, steady]
  let ahead : System Nat := { eager.assign 0 snapshotted with produced := [sampleSnapshot] }
  let both : System Nat := { ahead.assign 1 restored with produced := [sampleSnapshot] }
  have empty : Empty begun := ⟨fun i => ⟨⟨i + 1, ["http://a:1", "http://b:1"]⟩, rfl⟩, rfl⟩
  have entries : Contract sampleLog [] calm ⟨emptySnapshot, segment sampleLog.payloads 1 5⟩ (eager.nodes 0) :=
    ⟨⟨rfl, rfl⟩, nofun, .inr ⟨1, 5, by decide, by decide, by decide, by decide, rfl⟩⟩
  have snapshot : Contract sampleLog ahead.produced calm ⟨sampleSnapshot, []⟩ (ahead.nodes 1) :=
    ⟨⟨rfl, rfl⟩, fun _ => ⟨List.mem_singleton_self _, by decide⟩, .inl rfl⟩
  have run : Run (Step sampleLog) begun [.setSnapshotThreshold 0 1,
      .ready 0 calm ⟨emptySnapshot, segment sampleLog.payloads 1 5⟩, .ready 1 calm ⟨sampleSnapshot, []⟩] both :=
    .cons .setSnapshotThreshold (.cons (.ready entries applied) (.cons (.ready snapshot installed) .nil))
  exact ⟨_, both, run, rfl, rfl, (replicas_follow_log empty run).2 1 0 rfl⟩

end Kvrocks.Raft
