import KvrocksController.Raft.Batches

/-! Snapshots against the log that is compacted behind them. The pieces of a round are
steps of their own, in any order, with changes of the threshold between them, and every
call to the disk and to the raft storage may fail. The storage is known by the highest
index it was ever compacted to. -/
namespace Kvrocks.Raft.Compaction
open Kvrocks.Transition
variable {V : Type}

section Frame
variable {env : Env}

/-- Entries leave alone what concerns snapshots. -/
structure Frame (n m : Node V) : Prop where
  appliedIndex : m.appliedIndex = n.appliedIndex
  snapshotIndex : m.snapshotIndex = n.snapshotIndex
  saved : m.saved = n.saved

theorem Frame.refl (n : Node V) : Frame n n := ⟨rfl, rfl, rfl⟩

theorem Frame.trans {n m k : Node V} (first : Frame n m) (second : Frame m k) : Frame n k where
  appliedIndex := second.appliedIndex.trans first.appliedIndex
  snapshotIndex := second.snapshotIndex.trans first.snapshotIndex
  saved := second.saved.trans first.saved

theorem closeInLoop_frame {n m : Node V} (closed : n.closeInLoop env = some m) : Frame n m := by
  unfold Node.closeInLoop at closed
  split at closed
  · exact Option.some.inj closed ▸ Frame.refl n
  · split at closed
    · exact Option.some.inj closed ▸ ⟨rfl, rfl, rfl⟩
    · cases closed

theorem applyConfChange_frame {n m : Node V} (changed : n.applyConfChange env cc = some m) : Frame n m := by
  unfold Node.applyConfChange at changed
  dsimp only at changed
  split at changed
  · split at changed
    · exact Option.some.inj changed ▸ ⟨rfl, rfl, rfl⟩
    · exact Option.some.inj changed ▸ ⟨rfl, rfl, rfl⟩
  · split at changed
    · have same := closeInLoop_frame changed
      exact ⟨same.appliedIndex, same.snapshotIndex, same.saved⟩
    · exact Option.some.inj changed ▸ ⟨rfl, rfl, rfl⟩
  · split at changed
    · exact Option.some.inj changed ▸ ⟨rfl, rfl, rfl⟩
    · exact Option.some.inj changed ▸ ⟨rfl, rfl, rfl⟩
  · exact Option.some.inj changed ▸ ⟨rfl, rfl, rfl⟩

theorem applyEntry_frame {n m : Node V} (applied : n.applyEntry env entry = some (m, err)) : Frame n m := by
  unfold Node.applyEntry at applied
  split at applied
  · split at applied
    · cases applied
      exact Frame.refl n
    · cases applied
      exact ⟨rfl, rfl, rfl⟩
  · cases applied
    exact Frame.refl n
  · obtain ⟨m, changed, same⟩ := Option.map_eq_some_iff.mp applied
    cases same
    exact applyConfChange_frame changed

theorem applyAll_frame {n m : Node V} (applied : n.applyAll env entries = some m) : Frame n m := by
  induction entries generalizing n with
  | nil => exact Option.some.inj applied ▸ Frame.refl n
  | cons entry rest ih =>
    rw [Node.applyAll] at applied
    split at applied
    · cases applied
    · rename_i next err first
      exact (applyEntry_frame first).trans (ih applied)

end Frame

/-- What raft promises of committed entries: they are contiguous, and not all of them lie
behind the applied index. -/
def Offered (n : Node V) (entries : List (Entry V)) : Prop :=
  entries = [] ∨ ∃ batch : Batch V, batch.entries = entries ∧
    (n.appliedIndex + 1 < batch.first ∨ n.appliedIndex < batch.last)

section Pieces
variable {env : Env} {n m : Node V}

theorem saveReceived_cases (env : Env) (snapshot : Snapshot V) (n : Node V) :
    n.saveReceived env snapshot = n ∨
      isEmptySnap snapshot = false ∧ n.saveReceived env snapshot = { n with saved := some snapshot } := by
  unfold Node.saveReceived
  split
  · exact .inl rfl
  · rename_i nonempty
    split
    · exact .inl rfl
    · exact .inr ⟨Bool.eq_false_iff.mpr nonempty, rfl⟩

theorem applySnapshot_cases (snapshot : Snapshot V) (n : Node V) :
    (n.applySnapshot snapshot).1 = n ∨ n.appliedIndex < snapshot.index ∧
      (n.applySnapshot snapshot).1.appliedIndex = snapshot.index ∧
      (n.applySnapshot snapshot).1.snapshotIndex = snapshot.index ∧
      (n.applySnapshot snapshot).1.saved = n.saved := by
  unfold Node.applySnapshot
  split
  · exact .inl rfl
  · split
    · exact .inl rfl
    · rename_i newer
      split
      · exact .inl rfl
      · exact .inr ⟨Nat.lt_of_not_le newer, rfl, rfl, rfl⟩

theorem applyEntries_forward (fits : n.appliedIndex < 2 ^ 64) (offered : Offered n entries)
    (applied : n.applyEntries env entries = some m) :
    m.appliedIndex < 2 ^ 64 ∧ n.appliedIndex ≤ m.appliedIndex ∧ m.snapshotIndex = n.snapshotIndex ∧
      m.saved = n.saved := by
  rcases offered with rfl | ⟨batch, rfl, gap | fresh⟩
  · obtain rfl := Option.some.inj applied
    exact ⟨fits, Nat.le_refl _, rfl, rfl⟩
  · have beyond : uint64 (n.appliedIndex + 1) < batch.first := Nat.lt_of_le_of_lt (Nat.mod_le _ _) gap
    rw [(applyEntries_gap env fits beyond).2] at applied
    obtain rfl := Option.some.inj applied
    exact ⟨fits, Nat.le_refl _, rfl, rfl⟩
  · by_cases beyond : uint64 (n.appliedIndex + 1) < batch.first
    · rw [(applyEntries_gap env fits beyond).2] at applied
      obtain rfl := Option.some.inj applied
      exact ⟨fits, Nat.le_refl _, rfl, rfl⟩
    · rw [(applyEntries_fresh env fits beyond fresh).2, Option.map_eq_some_iff] at applied
      obtain ⟨moved, applied, rfl⟩ := applied
      have frame := applyAll_frame applied
      have small := batch.small
      have some := batch.length_pos
      refine ⟨?_, Nat.le_of_lt fresh, frame.snapshotIndex, frame.saved⟩
      simp only [Batch.last]
      omega

/-- The storage is compacted only once a snapshot at the applied index has been saved. -/
theorem triggerSnapshotIfNeed_compacts (triggered : n.triggerSnapshotIfNeed env = after) :
    after.compactIndex = none ∧ after.node = n ∨
    n.snapshotThreshold < wrappingSub n.appliedIndex n.snapshotIndex ∧ after.compactIndex = some n.compactIndex ∧
      after.node.saved = some n.snapshot ∧ after.node.appliedIndex = n.appliedIndex ∧
      (after.node.snapshotIndex = n.snapshotIndex ∨ after.node.snapshotIndex = n.appliedIndex) := by
  unfold Node.triggerSnapshotIfNeed at triggered
  split at triggered
  · subst triggered
    exact .inl ⟨rfl, rfl⟩
  · rename_i due
    split at triggered
    · subst triggered
      exact .inl ⟨rfl, rfl⟩
    · split at triggered
      · subst triggered
        exact .inl ⟨rfl, rfl⟩
      · dsimp only at triggered
        split at triggered
        · subst triggered
          exact .inr ⟨Nat.lt_of_not_le due, rfl, rfl, rfl, .inl rfl⟩
        · subst triggered
          exact .inr ⟨Nat.lt_of_not_le due, rfl, rfl, rfl, .inr rfl⟩

end Pieces

/-- A node, and the highest index that its raft storage was told to compact to. -/
structure State (V : Type) where
  node : Node V
  discarded : Nat

inductive Label (V : Type) where
  | save (env : Env) (snapshot : Snapshot V)
  | install (snapshot : Snapshot V)
  | apply (env : Env) (entries : List (Entry V))
  | trigger (env : Env)
  | setSnapshotThreshold (threshold : Nat)

/-- A received snapshot is newer than what was applied; all indexes are `uint64` values. -/
inductive Step : State V → Label V → State V → Prop where
  | save (newer : isEmptySnap snapshot = false → s.node.appliedIndex < snapshot.index) :
      Step s (.save env snapshot) { s with node := s.node.saveReceived env snapshot }
  | install (small : snapshot.index < 2 ^ 64) :
      Step s (.install snapshot) { s with node := (s.node.applySnapshot snapshot).1 }
  | apply (offered : Offered s.node entries) (applied : s.node.applyEntries env entries = some m) :
      Step s (.apply env entries) { s with node := m }
  | trigger (triggered : s.node.triggerSnapshotIfNeed env = after) :
      Step s (.trigger env) ⟨after.node, max s.discarded (after.compactIndex.getD 0)⟩
  | setSnapshotThreshold :
      Step s (.setSnapshotThreshold threshold) { s with node := { s.node with snapshotThreshold := threshold } }

/-- A node that has just started, with an uncompacted storage. -/
def Started (s : State V) : Prop :=
  s.discarded = 0 ∧ ∃ config saved wal, Node.run config saved wal = .ok s.node ∧
    ∀ snapshot, saved = some snapshot → snapshot.index < 2 ^ 64

/-- A round of the message loop is four of these steps. -/
theorem handleReady_steps {n : Node V} (handled : n.handleReady env rd = some after)
    (newer : isEmptySnap rd.snapshot = false → n.appliedIndex < rd.snapshot.index)
    (small : rd.snapshot.index < 2 ^ 64)
    (offered : Offered ((n.saveReceived env rd.snapshot).applySnapshot rd.snapshot).1 rd.committedEntries)
    (discarded : Nat) :
    Run Step ⟨n, discarded⟩
      [.save env rd.snapshot, .install rd.snapshot, .apply env rd.committedEntries, .trigger env]
      ⟨after.node, max discarded (after.compactIndex.getD 0)⟩ := by
  obtain ⟨m, applied, triggered⟩ := Node.handleReady_some.mp handled
  exact .cons (.save newer) (.cons (.install small) (.cons (.apply offered applied)
    (.cons (.trigger triggered) .nil)))

/-- The indexes in order, and what was discarded behind a snapshot on the disk. -/
structure Ordered (s : State V) : Prop where
  small : s.node.appliedIndex < 2 ^ 64
  order : s.node.snapshotIndex ≤ s.node.appliedIndex
  reached : s.discarded ≤ s.node.appliedIndex
  covered : s.discarded = 0 ∨ ∃ snapshot, s.node.saved = some snapshot ∧ s.discarded ≤ snapshot.index

section Order
variable {env : Env} {s t : State V}

theorem replayWAL_snapshot {wal : List (Entry V)} (replayed : DataStore.replayWAL saved wal = .ok (snapshot, kvs)) :
    snapshot = saved.getD emptySnapshot := by
  unfold DataStore.replayWAL at replayed
  split at replayed
  · cases replayed
  · split at replayed
    · cases replayed
    · exact (congrArg Prod.fst (Except.ok.inj replayed)).symm

/-- Both indexes start at that of the snapshot. -/
theorem Started.ordered (started : Started s) : Ordered s := by
  obtain ⟨unused, config, saved, wal, began, small⟩ := started
  cases replayed : DataStore.replayWAL saved wal with
  | error e =>
    rw [Node.run, replayed] at began
    cases began
  | ok result =>
    obtain ⟨snapshot, kvs⟩ := result
    rw [Node.run, replayed] at began
    have node := Except.ok.inj began
    have index : snapshot.index < 2 ^ 64 := by
      rw [replayWAL_snapshot replayed]
      cases saved with
      | none => exact Nat.two_pow_pos 64
      | some snapshot => exact small snapshot rfl
    constructor
    · rw [← node]
      exact index
    · apply Nat.le_of_eq
      rw [← node]
    · rw [unused]
      exact Nat.zero_le _
    · exact .inl unused

theorem wrappingSub_eq {a b : Nat} (small : a < 2 ^ 64) (order : b ≤ a) : wrappingSub a b = a - b := by
  simp only [wrappingSub, uint64]
  omega

/-- A snapshot is due only beyond the index of the last one, so the applied index is not
zero. -/
theorem compactIndex_bounds {n : Node V} (small : n.appliedIndex < 2 ^ 64) (order : n.snapshotIndex ≤ n.appliedIndex)
    (due : n.snapshotThreshold < wrappingSub n.appliedIndex n.snapshotIndex) :
    1 ≤ n.compactIndex ∧ n.compactIndex ≤ n.appliedIndex := by
  rw [wrappingSub_eq small order] at due
  unfold Node.compactIndex
  split
  · omega
  · omega

theorem Ordered.step (ordered : Ordered s) (step : Step s label t) : Ordered t := by
  cases step with
  | save newer =>
    rename_i snapshot env
    rcases saveReceived_cases env snapshot s.node with same | ⟨nonempty, saved⟩
    · rw [same]
      exact ordered
    · rw [saved]
      have ahead := newer nonempty
      refine ⟨ordered.small, ordered.order, ordered.reached, .inr ⟨snapshot, rfl, ?_⟩⟩
      exact Nat.le_trans ordered.reached (Nat.le_of_lt ahead)
  | install small =>
    rename_i snapshot
    rcases applySnapshot_cases snapshot s.node with same | ⟨newer, applied, index, saved⟩
    · rw [same]
      exact ordered
    · constructor
      · rwa [applied]
      · apply Nat.le_of_eq
        rw [applied, index]
      · rw [applied]
        exact Nat.le_trans ordered.reached (Nat.le_of_lt newer)
      · rw [saved]
        exact ordered.covered
  | apply offered applied =>
    obtain ⟨small, forward, index, saved⟩ := applyEntries_forward ordered.small offered applied
    constructor
    · exact small
    · rw [index]
      exact Nat.le_trans ordered.order forward
    · exact Nat.le_trans ordered.reached forward
    · rw [saved]
      exact ordered.covered
  | trigger triggered =>
    rcases triggerSnapshotIfNeed_compacts triggered with ⟨none, same⟩ | ⟨due, compacted, saved, applied, index⟩
    · rw [none, same, Option.getD_none, Nat.max_zero]
      exact ordered
    · obtain ⟨_, behind⟩ := compactIndex_bounds ordered.small ordered.order due
      have reached : max s.discarded s.node.compactIndex ≤ s.node.appliedIndex :=
        Nat.max_le.mpr ⟨ordered.reached, behind⟩
      constructor
      · rw [applied]
        exact ordered.small
      · rw [applied]
        rcases index with index | index
        · rw [index]
          exact ordered.order
        · exact Nat.le_of_eq index
      · rw [applied, compacted]
        exact reached
      · rw [compacted]
        exact .inr ⟨_, saved, reached⟩
  | setSnapshotThreshold => exact ⟨ordered.small, ordered.order, ordered.reached, ordered.covered⟩

theorem Ordered.compaction (ordered : Ordered s) (triggered : s.node.triggerSnapshotIfNeed env = after)
    (compacted : after.compactIndex = some index) :
    1 ≤ index ∧ ∃ snapshot, after.node.saved = some snapshot ∧ index ≤ snapshot.index := by
  rcases triggerSnapshotIfNeed_compacts triggered with ⟨none, _⟩ | ⟨due, chosen, saved, _, _⟩
  · rw [none] at compacted
    cases compacted
  · obtain rfl := Option.some.inj (chosen.symm.trans compacted)
    obtain ⟨positive, behind⟩ := compactIndex_bounds ordered.small ordered.order due
    exact ⟨positive, _, saved, behind⟩

end Order

/-- In every state that a node reaches the snapshot index does not pass the applied one,
so their difference never wraps. The storage is compacted to an index from 1 up to that of
the snapshot just saved, and whatever was discarded at any time lies behind the snapshot
that is on the disk now. -/
theorem snapshots_stay_ordered {start s : State V} (started : Started start) (run : Run Step start labels s) :
    s.node.snapshotIndex ≤ s.node.appliedIndex ∧
    wrappingSub s.node.appliedIndex s.node.snapshotIndex = s.node.appliedIndex - s.node.snapshotIndex ∧
    (∀ env after index, s.node.triggerSnapshotIfNeed env = after → after.compactIndex = some index →
      1 ≤ index ∧ ∃ snapshot, after.node.saved = some snapshot ∧ index ≤ snapshot.index) ∧
    (s.discarded = 0 ∨ ∃ snapshot, s.node.saved = some snapshot ∧ s.discarded ≤ snapshot.index) := by
  have ordered : Ordered s := run.preserves (fun _ _ _ ordered step => ordered.step step) started.ordered
  exact ⟨ordered.order, wrappingSub_eq ordered.small ordered.order,
    fun _ _ _ triggered compacted => ordered.compaction triggered compacted, ordered.covered⟩

section Samples

/-- A node that takes a snapshot after every entry. -/
def eager : Node Nat := { fresh 1 with snapshotThreshold := 0 }

def written : Node Nat := { eager with kvs := Std.ExtTreeMap.insert ∅ "a" 1, appliedIndex := 1 }

def compacted : Node Nat := { written with saved := some written.snapshot, snapshotIndex := 1 }

end Samples

theorem snapshots_stay_ordered_compacted : ∃ labels s, Run Step ⟨fresh 1, 0⟩ labels s ∧ s.discarded = 1 ∧
    (s.discarded = 0 ∨ ∃ snapshot, s.node.saved = some snapshot ∧ s.discarded ≤ snapshot.index) := by
  have started : Started ⟨fresh 1, 0⟩ := ⟨rfl, ⟨1, ["http://a:1", "http://b:1"]⟩, none, [], rfl, nofun⟩
  have offered : Offered eager oldWrite.entries := .inr ⟨oldWrite, rfl, .inr (by decide)⟩
  have applied : eager.applyEntries calm oldWrite.entries = some written := by
    rw [Node.applyEntries_eq, toApply_batch oldWrite (by decide), if_neg (by decide), if_pos (by decide)]
    rfl
  have triggered : written.triggerSnapshotIfNeed calm = ⟨compacted, some written.snapshot, some 1, none⟩ :=
    if_neg (by decide +kernel)
  have run : Run Step ⟨fresh 1, 0⟩ [.setSnapshotThreshold 0, .apply calm oldWrite.entries, .trigger calm]
      ⟨compacted, 1⟩ :=
    .cons .setSnapshotThreshold (.cons (.apply offered applied) (.cons (.trigger triggered) .nil))
  exact ⟨_, _, run, rfl, (snapshots_stay_ordered started run).2.2.2⟩

end Kvrocks.Raft.Compaction
