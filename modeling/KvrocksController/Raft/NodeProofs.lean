import KvrocksController.Raft.Node
import Mathlib.Data.List.Basic

/-! What applying committed entries does: the map moves along the log, entry by
entry, and nothing else of the node depends on normal entries. -/
namespace Kvrocks.Raft
variable {V : Type}

section Log

/-- The entries of a log, numbered from 1. -/
def indexed (log : List (Payload V)) : List (Entry V) := (log.zipIdx 1).map fun (payload, i) => ⟨i, payload⟩

/-- The entries with indexes `first` to `last`. -/
def segment (log : List (Payload V)) (first last : Nat) : List (Entry V) := ((indexed log).take last).drop (first - 1)

theorem indexed_payloads (log : List (Payload V)) : (indexed log).map (·.payload) = log := by
  rw [indexed, List.map_map]
  exact List.zipIdx_map_fst 1 log

theorem getElem?_indexed (log : List (Payload V)) (k : Nat) :
    (indexed log)[k]? = log[k]?.map fun payload => ⟨k + 1, payload⟩ := by
  rw [indexed, List.getElem?_map, List.getElem?_zipIdx, Option.map_map]
  simp [Function.comp_def, Nat.add_comm]

@[simp] theorem length_indexed (log : List (Payload V)) : (indexed log).length = log.length := by simp [indexed]

theorem length_segment {log : List (Payload V)} (bound : last ≤ log.length) :
    (segment log first last).length = last - (first - 1) := by
  simp [segment, bound]

theorem segment_head {log : List (Payload V)} (positive : 1 ≤ first) (order : first ≤ last)
    (bound : last ≤ log.length) :
    ∃ entry, (segment log first last).head? = some entry ∧ entry.index = first := by
  have inside : first - 1 < log.length := by omega
  refine ⟨⟨first, log[first - 1]⟩, ?_, rfl⟩
  rw [segment, List.head?_drop, List.getElem?_take, if_pos (by omega), getElem?_indexed,
    List.getElem?_eq_getElem inside, Option.map_some, Nat.sub_add_cancel positive]

theorem segment_getLast {log : List (Payload V)} (positive : 1 ≤ first) (order : first ≤ last)
    (bound : last ≤ log.length) : ∃ entry, (segment log first last).getLast? = some entry ∧ entry.index = last := by
  have inside : last - 1 < log.length := by omega
  refine ⟨⟨last, log[last - 1]⟩, ?_, rfl⟩
  have length : ((indexed log).take last).length = last := by simp [bound]
  rw [segment, List.getLast?_drop, if_neg (by omega), List.getLast?_eq_getElem?, length, List.getElem?_take,
    if_pos (by omega), getElem?_indexed, List.getElem?_eq_getElem inside, Option.map_some,
    Nat.sub_add_cancel (by omega)]

theorem segment_drop (log : List (Payload V)) (first last k : Nat) (positive : 1 ≤ first) :
    (segment log first last).drop k = segment log (first + k) last := by
  rw [segment, List.drop_drop, segment]
  congr 1
  omega

theorem segment_payloads (log : List (Payload V)) (applied last : Nat) :
    (segment log (applied + 1) last).map (·.payload) = (log.take last).drop applied := by
  rw [segment, List.map_drop, List.map_take, indexed_payloads, Nat.add_sub_cancel]

theorem mem_segment {log : List (Payload V)} (here : entry ∈ segment log first last) : entry.payload ∈ log := by
  have listed := List.mem_map_of_mem (f := Entry.payload) (List.mem_of_mem_take (List.mem_of_mem_drop here))
  rwa [indexed_payloads] at listed

/-- A log up to `last` is the log up to `applied` and what comes after it. -/
theorem take_split (log : List (Payload V)) (order : applied ≤ last) :
    log.take last = log.take applied ++ (log.take last).drop applied := by
  conv_lhs => rw [← List.take_append_drop applied (log.take last), List.take_take, Nat.min_eq_left order]

theorem drop_split (log : List (Payload V)) (first : a ≤ last) (second : last ≤ b) (bound : last ≤ log.length) :
    (log.take b).drop a = (log.take last).drop a ++ (log.take b).drop last := by
  have inside : a ≤ (log.take last).length := by
    rw [List.length_take]
    omega
  conv_lhs => rw [take_split log second, List.drop_append_of_le_length inside]

theorem fold_append (log later : List (Payload V)) : fold (log ++ later) = Write.replay (writes later) (fold log) := by
  rw [fold, writes, List.filterMap_append, Write.replay_append]
  rfl

end Log

/-- The entry takes the node `id` out of the cluster. -/
def Payload.removes (id : Nat) : Payload V → Bool
  | .confChange (.ok cc) => cc.type = .removeNode ∧ cc.nodeID = id
  | _ => false

namespace Node
variable {env : Env}

/-- An entry moves the map by its write, whatever else it does or however it fails. -/
structure Moves (env : Env) (log : List (Payload V)) (n m : Node V) : Prop where
  kvs : m.kvs = Write.replay (writes log) n.kvs
  id : m.id = n.id
  running : env.httpServerClose = none → m.isRunning = n.isRunning

theorem Moves.refl (n : Node V) : Moves env [] n n := ⟨rfl, rfl, fun _ => rfl⟩

theorem Moves.trans {n m k : Node V} (first : Moves env log n m) (second : Moves env later m k) :
    Moves env (log ++ later) n k where
  kvs := by rw [second.kvs, first.kvs, writes, writes, writes, List.filterMap_append, Write.replay_append]
  id := second.id.trans first.id
  running := fun open_ => (second.running open_).trans (first.running open_)

theorem Moves.of_none {n m : Node V} (same : Moves env [] n m) (none : payload.write? = none) :
    Moves env [payload] n m :=
  ⟨by simp [same.kvs, writes, none], same.id, same.running⟩

theorem closeInLoop_same {n m : Node V} (closed : n.closeInLoop env = some m) : Moves env [] n m := by
  unfold closeInLoop at closed
  split at closed
  · exact Option.some.inj closed ▸ Moves.refl n
  · split at closed
    · rename_i e failed
      obtain rfl := Option.some.inj closed
      exact ⟨rfl, rfl, fun succeeds => nomatch failed.symm.trans succeeds⟩
    · cases closed

theorem applyConfChange_same {n m : Node V} (changed : n.applyConfChange env cc = some m) : Moves env [] n m := by
  unfold applyConfChange at changed
  dsimp only at changed
  split at changed
  · split at changed <;> exact Option.some.inj changed ▸ ⟨rfl, rfl, fun _ => rfl⟩
  · split at changed
    · have same := closeInLoop_same changed
      exact ⟨same.kvs, same.id, same.running⟩
    · exact Option.some.inj changed ▸ ⟨rfl, rfl, fun _ => rfl⟩
  · split at changed <;> exact Option.some.inj changed ▸ ⟨rfl, rfl, fun _ => rfl⟩
  · exact Option.some.inj changed ▸ ⟨rfl, rfl, fun _ => rfl⟩

theorem applyEntry_moves {n m : Node V} (applied : n.applyEntry env entry = some (m, err)) :
    Moves env [entry.payload] n m := by
  unfold applyEntry at applied
  split at applied
  · rename_i data normal
    rw [normal]
    cases replayable : (Payload.normal data).replayable with
    | true =>
      rw [DataStore.applyDataEntry_ok _ _ replayable] at applied
      cases applied
      refine ⟨?_, rfl, fun _ => rfl⟩
      cases write : (Payload.normal data).write? <;> simp [writes, write]
    | false =>
      obtain ⟨⟨e, failed⟩, none⟩ := DataStore.applyDataEntry_error (.normal data) n.kvs replayable
      rw [failed] at applied
      cases applied
      exact (Moves.refl n).of_none none
  · rename_i undecodable
    cases applied
    exact (Moves.refl n).of_none (by rw [undecodable]; rfl)
  · rename_i cc change
    obtain ⟨m, changed, same⟩ := Option.map_eq_some_iff.mp applied
    cases same
    exact (applyConfChange_same changed).of_none (by rw [change]; rfl)

theorem applyAll_moves {n m : Node V} (applied : n.applyAll env entries = some m) :
    Moves env (entries.map (·.payload)) n m := by
  induction entries generalizing n with
  | nil => exact Option.some.inj applied ▸ Moves.refl n
  | cons entry rest ih =>
    rw [applyAll] at applied
    split at applied
    · cases applied
    · rename_i next err first
      exact (applyEntry_moves first).trans (ih applied)

/-- Applying an entry hangs only where a running node closes itself. -/
theorem applyEntry_none {n : Node V} : n.applyEntry env entry = none ↔
    n.isRunning = true ∧ env.httpServerClose = none ∧ entry.payload.removes n.id = true := by
  obtain ⟨index, payload⟩ := entry
  match payload with
  | .normal data =>
    simp only [applyEntry, Payload.removes, Bool.false_eq_true, and_false, iff_false]
    split <;> simp
  | .confChange (.error e) => simp [applyEntry, Payload.removes]
  | .confChange (.ok cc) =>
    simp only [applyEntry, Option.map_eq_none_iff, Payload.removes, decide_eq_true_eq]
    unfold applyConfChange
    dsimp only
    split
    · rename_i add
      split <;> simp [add]
    · rename_i remove
      split
      · rename_i self
        simp only [closeInLoop, remove, self]
        cases n.isRunning <;> cases env.httpServerClose <;> simp
      · rename_i other
        simp [other]
    · rename_i update
      split <;> simp [update]
    · rename_i learner
      simp [learner]

theorem applyAll_none {n : Node V} : n.applyAll env entries = none ↔
    n.isRunning = true ∧ env.httpServerClose = none ∧ ∃ entry ∈ entries, entry.payload.removes n.id = true := by
  induction entries generalizing n with
  | nil => simp [applyAll]
  | cons entry rest ih =>
    rw [applyAll]
    cases first : n.applyEntry env entry with
    | none =>
      obtain ⟨running, closes, removes⟩ := applyEntry_none.mp first
      simpa using ⟨running, closes, .inl removes⟩
    | some result =>
      have moved := applyEntry_moves first
      have stays : ¬ (n.isRunning = true ∧ env.httpServerClose = none ∧ entry.payload.removes n.id = true) := by
        rw [← applyEntry_none, first]
        nofun
      simp only [ih, moved.id, List.mem_cons, exists_eq_or_imp]
      grind [moved.running]

/-- What is left of a batch that starts at or before the next index and ends after the
applied one is the segment in between. -/
theorem applyEntries_segment {log : List (Payload V)} {n : Node V} (small : log.length < 2 ^ 64) (positive : 1 ≤ first)
    (next : first ≤ n.appliedIndex + 1) (ends : n.appliedIndex + 1 ≤ last) (bound : last ≤ log.length) :
    n.applyEntries env (segment log first last) =
      (n.applyAll env (segment log (n.appliedIndex + 1) last)).map fun m => { m with appliedIndex := last } := by
  obtain ⟨head, atHead, index⟩ := segment_head positive (Nat.le_trans next ends) bound
  have trimmed : uint64 (wrappingSub n.appliedIndex first + 1) = n.appliedIndex + 1 - first := by
    simp only [uint64, wrappingSub]
    omega
  have fits : ¬ first > uint64 (n.appliedIndex + 1) := by
    simp only [uint64]
    omega
  have some : n.appliedIndex + 1 - first < (segment log first last).length := by
    rw [length_segment bound]
    omega
  have rest : (segment log first last).drop (n.appliedIndex + 1 - first) = segment log (n.appliedIndex + 1) last := by
    rw [segment_drop _ _ _ _ positive, Nat.add_sub_cancel' next]
  obtain ⟨final, atEnd, reached⟩ := segment_getLast (by omega) ends bound
  simp only [applyEntries, atHead, index, fits, if_false, trimmed, some, if_true, rest, atEnd, Option.map_some,
    Option.getD_some, reached]
  cases n.applyAll env (segment log (n.appliedIndex + 1) last) <;> rfl

/-- A round that ends: install, apply, trigger. -/
theorem handleReady_some {n : Node V} : n.handleReady env rd = some after ↔
    ∃ m, ((n.saveReceived env rd.snapshot).applySnapshot rd.snapshot).1.applyEntries env rd.committedEntries = some m ∧
      m.triggerSnapshotIfNeed env = after := by
  simp only [handleReady]
  cases ((n.saveReceived env rd.snapshot).applySnapshot rd.snapshot).1.applyEntries env rd.committedEntries with
  | none => simp
  | some m => simp

/-- The snapshot of what the node holds. -/
def snapshot (n : Node V) : Snapshot V := ⟨n.appliedIndex, n.confState, DataStore.getDataStoreSnapshot n.kvs⟩

/-- The trigger creates that snapshot or none, and only what concerns snapshots changes. -/
theorem triggerSnapshotIfNeed_cases (env : Env) (n : Node V) :
    (n.triggerSnapshotIfNeed env).created = none ∧ (n.triggerSnapshotIfNeed env).node = n ∨
      (n.triggerSnapshotIfNeed env).created = some n.snapshot ∧
        ((n.triggerSnapshotIfNeed env).node = n ∨
          ∃ index, (n.triggerSnapshotIfNeed env).node = { n with saved := some n.snapshot, snapshotIndex := index }) := by
  unfold triggerSnapshotIfNeed
  split
  · exact .inl ⟨rfl, rfl⟩
  · split
    · exact .inl ⟨rfl, rfl⟩
    · split
      · exact .inr ⟨rfl, .inl rfl⟩
      · dsimp only
        split
        · exact .inr ⟨rfl, .inr ⟨n.snapshotIndex, rfl⟩⟩
        · exact .inr ⟨rfl, .inr ⟨n.appliedIndex, rfl⟩⟩

end Node
end Kvrocks.Raft
