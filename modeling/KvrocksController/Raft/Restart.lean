import KvrocksController.Raft.Agreement

/-! A node that restarts from its snapshot and write-ahead log. The whole log is
replayed into the map while the applied index stays at the snapshot, so entries that
never got committed are in the map before the committed ones are delivered. -/
namespace Kvrocks.Raft
variable {V : Type}

namespace DataStore

theorem applyWAL_ok {entries : List (Entry V)} (replayable : ∀ entry ∈ entries, entry.payload.replayable = true)
    (kvs : KVs V) : applyWAL entries kvs = .ok (Write.replay (writes (entries.map (·.payload))) kvs) := by
  induction entries generalizing kvs with
  | nil => rfl
  | cons entry rest ih =>
    rw [applyWAL, applyDataEntry_ok _ _ (replayable entry (by simp))]
    simp only [ih fun entry member => replayable entry (by simp [member])]
    rw [← Write.replay_append]
    cases write : entry.payload.write? <;> simp [writes, write]

theorem applyWAL_error {entries : List (Entry V)} (failing : ∃ entry ∈ entries, entry.payload.replayable = false)
    (kvs : KVs V) : ∃ e, applyWAL entries kvs = .error e := by
  induction entries generalizing kvs with
  | nil => simp at failing
  | cons entry rest ih =>
    rw [applyWAL]
    cases replayable : entry.payload.replayable with
    | false =>
      obtain ⟨⟨e, failed⟩, _⟩ := applyDataEntry_error entry.payload kvs replayable
      exact ⟨_, by rw [failed]⟩
    | true =>
      rw [applyDataEntry_ok _ _ replayable]
      exact ih (by simpa [replayable] using failing) _

end DataStore

/-- The newest snapshot on disk is of the committed log at index `s`. -/
def OnDisk (log : Log V) (s : Nat) : Option (Snapshot V) → Prop
  | none => s = 0
  | some snapshot => Taken log snapshot ∧ snapshot.index = s

theorem reload_onDisk {log : Log V} (disk : OnDisk log s saved) :
    DataStore.reloadSnapshot saved ∅ = .ok (log.upTo s) ∧ (saved.getD emptySnapshot).index = s := by
  cases saved with
  | none =>
    obtain rfl : s = 0 := disk
    exact ⟨rfl, rfl⟩
  | some snapshot =>
    obtain ⟨⟨_, decoded⟩, rfl⟩ := disk
    exact ⟨decoded, rfl⟩

/-- Committed entries arrive in batches that take the node from `a` to `b`. Entries
already applied may come again at the head of a batch. -/
inductive Delivery (log : Log V) : (a : Nat) → List (List (Entry V)) → (b : Nat) → Prop where
  | done : Delivery log a [] a
  | batch (positive : 1 ≤ first) (next : first ≤ a + 1) (ends : a + 1 ≤ last) (bound : last ≤ log.payloads.length)
      (rest : Delivery log last batches b) : Delivery log a (segment log.payloads first last :: batches) b

def deliver (env : Env) : List (List (Entry V)) → Node V → Option (Node V)
  | [], n => some n
  | batch :: batches, n =>
    match n.applyEntries env batch with
    | none => none
    | some n => deliver env batches n

theorem Delivery.le {log : Log V} (delivery : Delivery log a batches b) : a ≤ b := by
  induction delivery with
  | done => exact Nat.le_refl _
  | batch _ _ ends _ _ ih => omega

/-- Whatever the batches, the entries between take effect once each, in order. -/
theorem Delivery.deliver {log : Log V} (delivery : Delivery log a batches b) {n : Node V} (start : n.appliedIndex = a)
    (env : Env) :
    (Raft.deliver env batches n = none ↔ n.isRunning = true ∧ env.httpServerClose = none ∧
      ∃ payload ∈ (log.payloads.take b).drop a, payload.removes n.id = true) ∧
    ∀ m, Raft.deliver env batches n = some m → Node.Moves env ((log.payloads.take b).drop a) n m := by
  induction delivery generalizing n with
  | done =>
    have nothing (a : Nat) : (log.payloads.take a).drop a = [] :=
      List.drop_eq_nil_of_le (by rw [List.length_take]; omega)
    rw [nothing]
    refine ⟨by simp [Raft.deliver], fun m delivered => ?_⟩
    exact Option.some.inj delivered ▸ Node.Moves.refl n
  | @batch first a last batches b positive next ends bound rest ih =>
    subst start
    have parts := drop_split log.payloads (Nat.le_of_succ_le ends) rest.le bound
    have hangs : n.applyAll env (segment log.payloads (n.appliedIndex + 1) last) = none ↔
        n.isRunning = true ∧ env.httpServerClose = none ∧
          ∃ payload ∈ (log.payloads.take last).drop n.appliedIndex, payload.removes n.id = true := by
      rw [Node.applyAll_none, ← segment_payloads]
      simp
    rw [Raft.deliver, Node.applyEntries_segment log.small positive next ends bound, parts]
    cases applied : n.applyAll env (segment log.payloads (n.appliedIndex + 1) last) with
    | none =>
      obtain ⟨running, closes, payload, member, removes⟩ := hangs.mp applied
      simp only [Option.map_none, true_iff, reduceCtorEq, false_implies, implies_true, and_true]
      exact ⟨running, closes, payload, List.mem_append_left _ member, removes⟩
    | some m =>
      have moved := Node.applyAll_moves applied
      rw [segment_payloads] at moved
      have ready : Node.Moves env ((log.payloads.take last).drop n.appliedIndex) n { m with appliedIndex := last } :=
        ⟨moved.kvs, moved.id, moved.running⟩
      obtain ⟨later, moves⟩ := ih (n := { m with appliedIndex := last }) rfl
      refine ⟨?_, fun k delivered => ready.trans (moves k delivered)⟩
      simp only [Option.map_some, moved.id, List.mem_append]
      have stays := hangs.not.mp (by simp [applied])
      grind [moved.running]

/-- The map before the first delivery: snapshot, committed entries and whatever else
the log holds. -/
theorem run_ok {log : Log V} (disk : OnDisk log s saved) (contents : wal.map (·.payload) = committed ++ uncommitted)
    (replayable : ∀ entry ∈ wal, entry.payload.replayable = true) (config : Config) :
    ∃ n : Node V, Node.run config saved wal = .ok n ∧ n.appliedIndex = s ∧ n.id = config.id ∧ n.isRunning = true ∧
      n.kvs = Write.replay (writes committed ++ writes uncommitted) (log.upTo s) := by
  obtain ⟨reloaded, index⟩ := reload_onDisk disk
  have replayed := DataStore.applyWAL_ok replayable (log.upTo s)
  rw [contents, writes, List.filterMap_append] at replayed
  simp only [Node.run, DataStore.replayWAL, reloaded, replayed, Except.ok.injEq, exists_eq_left']
  exact ⟨index, trivial, trivial, rfl⟩

theorem run_error {log : Log V} (disk : OnDisk log s saved)
    (failing : ∃ entry ∈ wal, entry.payload.replayable = false) (config : Config) :
    ∃ e, Node.run config saved wal = .error e := by
  obtain ⟨e, failed⟩ := DataStore.applyWAL_error failing (log.upTo s)
  exact ⟨e, by simp only [Node.run, DataStore.replayWAL, (reload_onDisk disk).1, failed]⟩

/-- A restarted node that is delivered the committed log ends up with its map exactly
if every entry of its write-ahead log can be replayed, the log does not take the node
out of the cluster, and no uncommitted write shows through the committed ones. -/
theorem restart_equals_log {log : Log V} {saved : Option (Snapshot V)} {wal : List (Entry V)}
    {committed rest uncommitted : List (Payload V)} (disk : OnDisk log s saved)
    (contents : wal.map (·.payload) = committed ++ uncommitted) (later : log.payloads.drop s = committed ++ rest)
    (delivery : Delivery log s batches log.payloads.length) (config : Config) (env : Env) :
    (∃ n m, Node.run config saved wal = .ok n ∧ deliver env batches n = some m ∧ m.kvs = fold log.payloads) ↔
      (∀ entry ∈ wal, entry.payload.replayable = true) ∧
      (env.httpServerClose = none → ∀ payload ∈ log.payloads.drop s, payload.removes config.id = false) ∧
      ∀ key, Write.last? key (writes (log.payloads.drop s)) = none →
        (Write.last? key (writes uncommitted)).getD (log.upTo s)[key]? = (log.upTo s)[key]? := by
  have whole : fold log.payloads = Write.replay (writes (log.payloads.drop s)) (log.upTo s) := by
    rw [Log.upTo, ← fold_append, List.take_append_drop]
  have spread : writes (log.payloads.drop s) = writes committed ++ writes rest := by
    rw [later, writes, List.filterMap_append]
    rfl
  by_cases replayable : ∀ entry ∈ wal, entry.payload.replayable = true
  · obtain ⟨n, started, index, id, running, kvs⟩ := run_ok disk contents replayable config
    obtain ⟨hangs, moves⟩ := delivery.deliver index env
    rw [List.take_length] at hangs moves
    have recovers (m : Node V) (delivered : deliver env batches n = some m) : m.kvs = fold log.payloads ↔
        ∀ key, Write.last? key (writes (log.payloads.drop s)) = none →
          (Write.last? key (writes uncommitted)).getD (log.upTo s)[key]? = (log.upTo s)[key]? := by
      rw [(moves m delivered).kvs, kvs, whole, spread]
      exact Write.replay_over_iff _ _ _ _
    constructor
    · rintro ⟨n', m, started', delivered, equal⟩
      obtain rfl := Except.ok.inj (started.symm.trans started')
      refine ⟨replayable, fun closes payload member => ?_, (recovers m delivered).mp equal⟩
      rw [← Bool.not_eq_true, ← id]
      intro removes
      have none := hangs.mpr ⟨running, closes, payload, member, removes⟩
      rw [delivered] at none
      cases none
    · rintro ⟨_, stays, harmless⟩
      cases delivered : deliver env batches n with
      | none =>
        obtain ⟨_, closes, payload, member, removes⟩ := hangs.mp delivered
        rw [id, stays closes payload member] at removes
        cases removes
      | some m => exact ⟨n, m, started, delivered, (recovers m delivered).mpr harmless⟩
  · refine iff_of_false ?_ fun all => replayable all.1
    rintro ⟨n, m, started, _⟩
    have failing : ∃ entry ∈ wal, entry.payload.replayable = false := by simpa using replayable
    obtain ⟨e, failed⟩ := run_error disk failing config
    rw [started] at failed
    cases failed

section Samples

/-- The committed log has one entry, without data. -/
def shortLog : Log Nat := ⟨[.normal .empty], by decide⟩

/-- The write-ahead log has another one at its place, which was never committed. -/
def staleWAL : List (Entry Nat) := [⟨1, .normal (.event ⟨opSet, "a", 1⟩)⟩]

def rewrites : Log Nat := ⟨[setEntry "b" 1, setEntry "a" 1, setEntry "a" 3], by decide⟩

/-- Of the first entry. -/
def firstSnapshot : Snapshot Nat := ⟨1, ⟨[1, 2]⟩, DataStore.getDataStoreSnapshot (rewrites.upTo 1)⟩

/-- The last entry is not that of the committed log. -/
def replacedWAL : List (Entry Nat) := [⟨2, setEntry "a" 1⟩, ⟨3, setEntry "a" 2⟩]

def sampleConfig : Config := ⟨1, ["http://a:1", "http://b:1"]⟩

/-- Restarted with the stale entry in the map. -/
def stale : Node Nat := { fresh 1 with kvs := Std.ExtTreeMap.insert ∅ "a" 1 }

end Samples

/-- The snapshot has `b`; of the last two entries, written while the node was up, one was
committed and the other gave way to what a new leader wrote at its index. The committed log
comes in batches that overlap. -/
theorem restart_equals_log_replaced :
    ∃ n m, Node.run sampleConfig (some firstSnapshot) replacedWAL = .ok n ∧ n.kvs["a"]? = some 2 ∧
      deliver calm [segment rewrites.payloads 1 2, segment rewrites.payloads 2 3] n = some m ∧
      m.kvs = fold rewrites.payloads ∧ m.kvs["a"]? = some 3 ∧ m.kvs["b"]? = some 1 := by
  have disk : OnDisk rewrites 1 (some firstSnapshot) := ⟨⟨by decide, DataStore.decode_snapshot _⟩, rfl⟩
  have contents : replacedWAL.map (·.payload) = [setEntry "a" 1] ++ [setEntry "a" 2] := rfl
  have later : rewrites.payloads.drop 1 = [setEntry "a" 1] ++ [setEntry "a" 3] := rfl
  have delivery : Delivery rewrites 1 [segment rewrites.payloads 1 2, segment rewrites.payloads 2 3] 3 :=
    .batch (by decide) (by decide) (by decide) (by decide) <|
    .batch (by decide) (by decide) (by decide) (by decide) .done
  have replayable : ∀ entry ∈ replacedWAL, entry.payload.replayable = true := by decide
  have harmless (key : String) (unwritten : Write.last? key (writes (rewrites.payloads.drop 1)) = none) :
      (Write.last? key (writes [setEntry "a" 2])).getD (rewrites.upTo 1)[key]? = (rewrites.upTo 1)[key]? := by
    have other : "a" ≠ key := by
      rintro rfl
      cases unwritten
    have none : Write.last? key (writes [setEntry "a" 2]) = none := by
      simp [writes, setEntry, Payload.write?, Write.last?, Write.at?, other]
    rw [none]
    rfl
  obtain ⟨n, m, started, delivered, equal⟩ :=
    (restart_equals_log disk contents later delivery sampleConfig calm).mpr ⟨replayable, by decide, harmless⟩
  obtain ⟨n', started', _, _, _, map⟩ := run_ok disk contents replayable sampleConfig
  obtain rfl := Except.ok.inj (started.symm.trans started')
  refine ⟨n, m, started, ?_, delivered, equal, ?_, ?_⟩
  · rw [map, Write.getElem?_replay]
    rfl
  · rw [equal, fold, Write.getElem?_replay]
    rfl
  · rw [equal, fold, Write.getElem?_replay]
    rfl

/-- The uncommitted write stays in the map of the restarted node; a node that never
restarted does not have it. -/
theorem restart_keeps_uncommitted :
    Node.run sampleConfig none staleWAL = .ok stale ∧
      deliver calm [segment shortLog.payloads 1 1] stale = some { stale with appliedIndex := 1 } ∧
      Node.run sampleConfig none [] = .ok (fresh 1) ∧
      deliver calm [segment shortLog.payloads 1 1] (fresh 1) = some { fresh 1 with appliedIndex := 1 } ∧
      fold shortLog.payloads = (fresh 1).kvs ∧ stale.kvs ≠ (fresh 1).kvs := by
  have delivered (n : Node Nat) (start : n.appliedIndex = 0) :
      deliver calm [segment shortLog.payloads 1 1] n = some { n with appliedIndex := 1 } := by
    rw [deliver, Node.applyEntries_segment shortLog.small (by decide) (by omega) (by omega) (by decide), start]
    rfl
  refine ⟨rfl, delivered stale rfl, rfl, delivered (fresh 1) rfl, rfl, fun same => ?_⟩
  have found : stale.kvs["a"]? = some 1 := Std.ExtTreeMap.getElem?_insert_self
  rw [same] at found
  cases found

end Kvrocks.Raft
