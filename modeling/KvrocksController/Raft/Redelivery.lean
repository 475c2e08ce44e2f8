import KvrocksController.Raft.Batches
import KvrocksController.Raft.Restart

/-! Entries that reach the map twice. A restarted node replays its write-ahead log into
the map and is then delivered the same entries; a snapshot may be newer than the entries
that follow it. Either way the log's suffix is applied again, and the last write of each
key is what it was. But the replay gives up at an entry that the node, while it was up, had
skipped. -/
namespace Kvrocks.Raft
variable {V : Type}

namespace DataStore

/-- The loop of `applyEntries` as the map sees it: an entry that fails changes nothing. -/
def applyLog (log : List (Payload V)) (kvs : KVs V) : KVs V :=
  log.foldl (fun kvs payload =>
    match applyDataEntry payload kvs with
    | .error _ => kvs
    | .ok kvs => kvs) kvs

theorem applyLog_eq (log : List (Payload V)) (kvs : KVs V) : applyLog log kvs = Write.replay (writes log) kvs := by
  induction log generalizing kvs with
  | nil => rfl
  | cons payload log ih =>
    rw [applyLog, List.foldl_cons, ← applyLog, ih]
    cases replayable : payload.replayable with
    | true =>
      rw [applyDataEntry_ok _ _ replayable]
      simp only [← Write.replay_append]
      cases write : payload.write? <;> simp [writes, write]
    | false =>
      obtain ⟨⟨e, failed⟩, write⟩ := applyDataEntry_error payload kvs replayable
      simp [failed, writes, write]

theorem applyLog_overlap (seen again rest : List (Payload V)) (kvs : KVs V) :
    applyLog (again ++ rest) (applyLog (seen ++ again) kvs) = applyLog (seen ++ again ++ rest) kvs := by
  simp only [applyLog_eq, writes, List.filterMap_append]
  exact Write.replay_overlap _ _ _ _

theorem applyLog_again (seen again : List (Payload V)) (kvs : KVs V) :
    applyLog again (applyLog (seen ++ again) kvs) = applyLog (seen ++ again) kvs := by
  have twice := applyLog_overlap seen again [] kvs
  rwa [List.append_nil, List.append_nil] at twice

/-- The replay that ends at a failing entry, if there is none. -/
theorem applyWAL_applyLog {entries : List (Entry V)} (replayed : applyWAL entries kvs = .ok after) :
    after = applyLog (entries.map (·.payload)) kvs := by
  have replayable : ∀ entry ∈ entries, entry.payload.replayable = true := by
    intro entry member
    by_contra failing
    obtain ⟨e, failed⟩ := applyWAL_error ⟨entry, member, Bool.eq_false_iff.mpr failing⟩ kvs
    rw [failed] at replayed
    cases replayed
  rw [applyWAL_ok replayable, Except.ok.injEq] at replayed
  rw [← replayed, applyLog_eq]

theorem replayWAL_ok {saved : Option (Snapshot V)} (replayed : replayWAL saved wal = .ok (snapshot, kvs)) :
    ∃ start, reloadSnapshot saved ∅ = .ok start ∧ snapshot = saved.getD emptySnapshot ∧
      kvs = applyLog (wal.map (·.payload)) start := by
  unfold replayWAL at replayed
  split at replayed
  · cases replayed
  · rename_i start reloaded
    split at replayed
    · cases replayed
    · rename_i after applied
      cases replayed
      exact ⟨start, reloaded, rfl, applyWAL_applyLog applied⟩

end DataStore

namespace Node
open DataStore

theorem applyAll_applyLog {n m : Node V} (applied : n.applyAll env entries = some m) :
    m.kvs = applyLog (entries.map (·.payload)) n.kvs := by
  rw [applyLog_eq]
  exact (applyAll_moves applied).kvs

theorem run_replayed {saved : Option (Snapshot V)} {n : Node V} (started : run config saved wal = .ok n) :
    n.appliedIndex = (saved.getD emptySnapshot).index ∧ n.id = config.id ∧ n.isRunning = true ∧
      ∃ start, reloadSnapshot saved ∅ = .ok start ∧ n.kvs = applyLog (wal.map (·.payload)) start := by
  unfold run at started
  split at started
  · cases started
  · rename_i snapshot kvs replayed
    obtain rfl := Except.ok.inj started
    obtain ⟨start, reloaded, rfl, rfl⟩ := replayWAL_ok replayed
    exact ⟨rfl, rfl, rfl, start, reloaded, rfl⟩

end Node

/-- Whatever is cut off is cut off at the head. -/
theorem toApply_suffix (a : Nat) (entries : List (Entry V)) : toApply a entries <:+ entries := by
  unfold toApply
  split
  · exact List.nil_suffix
  · split
    · exact List.nil_suffix
    · dsimp only
      split
      · exact List.drop_suffix _ _
      · exact List.suffix_refl _

theorem Node.applyEntries_applyLog {n m : Node V} (applied : n.applyEntries env entries = some m) :
    m.kvs = DataStore.applyLog ((toApply n.appliedIndex entries).map (·.payload)) n.kvs := by
  rw [Node.applyEntries_eq] at applied
  cases last : (toApply n.appliedIndex entries).getLast? with
  | none =>
    rw [List.getLast?_eq_none_iff] at last
    simp only [last, List.getLast?_nil, Option.some.injEq] at applied
    rw [← applied, last]
    rfl
  | some final =>
    simp only [last, Option.map_eq_some_iff] at applied
    obtain ⟨reached, loop, rfl⟩ := applied
    exact (Node.applyAll_applyLog loop :)

/-- The log starts a node exactly if its snapshot can be read and every entry applied. -/
theorem Node.run_starts {saved : Option (Snapshot V)} {wal : List (Entry V)} (config : Config) :
    (∃ n, Node.run config saved wal = .ok n) ↔
      (∃ start, DataStore.reloadSnapshot saved ∅ = .ok start) ∧ ∀ entry ∈ wal, entry.payload.replayable = true := by
  simp only [Node.run, DataStore.replayWAL]
  cases DataStore.reloadSnapshot saved (∅ : KVs V) with
  | error e => simp
  | ok start =>
    by_cases replayable : ∀ entry ∈ wal, entry.payload.replayable = true
    · simp only [DataStore.applyWAL_ok replayable]
      exact iff_of_true ⟨_, rfl⟩ ⟨⟨start, rfl⟩, replayable⟩
    · have failing : ∃ entry ∈ wal, entry.payload.replayable = false := by simpa using replayable
      obtain ⟨e, failed⟩ := DataStore.applyWAL_error failing start
      simp [failed, replayable]

/-- The same entries in any number of batches: what the batches bring is what the log
brought, unless one of them takes the node out of the cluster. -/
theorem deliver_again {n : Node V} {log : Log V} (delivery : Delivery log n.appliedIndex batches b)
    (running : n.isRunning = true)
    (map : n.kvs = DataStore.applyLog ((log.payloads.take b).drop n.appliedIndex) start) (env : Env) :
    (∃ m, deliver env batches n = some m ∧ m.kvs = n.kvs) ↔
      (env.httpServerClose = none → ∀ payload ∈ (log.payloads.take b).drop n.appliedIndex,
        payload.removes n.id = false) := by
  obtain ⟨hangs, moves⟩ := delivery.deliver rfl env
  cases delivered : deliver env batches n with
  | none =>
    obtain ⟨_, closes, payload, member, removes⟩ := hangs.mp delivered
    refine iff_of_false (by simp) fun stays => ?_
    rw [stays closes payload member] at removes
    cases removes
  | some m =>
    refine iff_of_true ⟨m, rfl, ?_⟩ fun closes payload member => ?_
    · rw [(moves m delivered).kvs, ← DataStore.applyLog_eq, map]
      exact DataStore.applyLog_again [] _ start
    · by_contra removes
      have stuck := hangs.mpr ⟨running, closes, payload, member, Bool.not_eq_false _ ▸ removes⟩
      rw [delivered] at stuck
      cases stuck

/-- A restart and the delivery of the same entries end in the map of the log exactly where
the snapshot can be read, no entry is one the replay gives up at, and none removes the node. -/
theorem restart_again {saved : Option (Snapshot V)} {wal : List (Entry V)} {log : Log V}
    (same : wal.map (·.payload) = (log.payloads.take b).drop (saved.getD emptySnapshot).index)
    (delivery : Delivery log (saved.getD emptySnapshot).index batches b) (config : Config) (env : Env) :
    (∃ start n m, DataStore.reloadSnapshot saved ∅ = .ok start ∧ Node.run config saved wal = .ok n ∧
      deliver env batches n = some m ∧ m.kvs = DataStore.applyLog (wal.map (·.payload)) start) ↔
    (∃ start, DataStore.reloadSnapshot saved ∅ = .ok start) ∧ (∀ entry ∈ wal, entry.payload.replayable = true) ∧
      (env.httpServerClose = none → ∀ entry ∈ wal, entry.payload.removes config.id = false) := by
  have again (n : Node V) (started : Node.run config saved wal = .ok n) :
      (∃ m, deliver env batches n = some m ∧ m.kvs = n.kvs) ↔
        (env.httpServerClose = none → ∀ entry ∈ wal, entry.payload.removes config.id = false) := by
    obtain ⟨index, id, running, start, _, map⟩ := Node.run_replayed started
    rw [same, ← index] at map
    rw [deliver_again (index ▸ delivery) running map env, id, index, ← same]
    simp only [List.forall_mem_map]
  constructor
  · rintro ⟨start, n, m, reloaded, started, delivered, equal⟩
    obtain ⟨_, _, _, loaded, sameStart, map⟩ := Node.run_replayed started
    obtain rfl := Except.ok.inj (reloaded.symm.trans sameStart)
    obtain ⟨readable, replayable⟩ := (Node.run_starts config).mp ⟨n, started⟩
    exact ⟨readable, replayable, (again n started).mp ⟨m, delivered, equal.trans map.symm⟩⟩
  · rintro ⟨readable, replayable, stays⟩
    obtain ⟨n, started⟩ := (Node.run_starts config).mpr ⟨readable, replayable⟩
    obtain ⟨_, _, _, start, reloaded, map⟩ := Node.run_replayed started
    obtain ⟨m, delivered, kept⟩ := (again n started).mpr stays
    exact ⟨start, n, m, reloaded, started, delivered, kept.trans map⟩

/-- The entries after a snapshot that has seen some of them. -/
theorem replayWAL_newer {snapshot : Snapshot V} {wal : List (Entry V)}
    (taken : snapshot.data = DataStore.getDataStoreSnapshot (DataStore.applyLog (seen ++ again) kvs))
    (entries : wal.map (·.payload) = again ++ rest) :
    DataStore.replayWAL (some snapshot) wal = .ok (snapshot, DataStore.applyLog (seen ++ again ++ rest) kvs) ↔
      ∀ entry ∈ wal, entry.payload.replayable = true := by
  have reloaded : DataStore.reloadSnapshot (some snapshot) ∅ = .ok (DataStore.applyLog (seen ++ again) kvs) := by
    rw [DataStore.reloadSnapshot, taken, DataStore.decode_snapshot]
  simp only [DataStore.replayWAL, reloaded]
  by_cases replayable : ∀ entry ∈ wal, entry.payload.replayable = true
  · rw [DataStore.applyWAL_ok replayable, entries, ← DataStore.applyLog_eq, DataStore.applyLog_overlap]
    exact iff_of_true rfl replayable
  · refine iff_of_false (fun replayed => ?_) replayable
    obtain ⟨e, failed⟩ := DataStore.applyWAL_error (by simpa using replayable) (DataStore.applyLog (seen ++ again) kvs)
    rw [failed] at replayed
    cases replayed

/-- Applying a suffix of the log once more changes nothing. So a restart that is delivered
the entries of its own log again, in whatever batches, ends in the map of that log, and a
snapshot that is ahead of the entries replayed over it gives the map of the whole log: both
exactly where the replay gets through. -/
theorem overlapping_suffix_harmless (V : Type) :
    (∀ (kvs : KVs V) (seen again : List (Payload V)),
      DataStore.applyLog again (DataStore.applyLog (seen ++ again) kvs) = DataStore.applyLog (seen ++ again) kvs) ∧
    (∀ (config : Config) (env : Env) (saved : Option (Snapshot V)) (wal : List (Entry V)) (log : Log V) batches b,
      wal.map (·.payload) = (log.payloads.take b).drop (saved.getD emptySnapshot).index →
      Delivery log (saved.getD emptySnapshot).index batches b →
      ((∃ start n m, DataStore.reloadSnapshot saved ∅ = .ok start ∧ Node.run config saved wal = .ok n ∧
          deliver env batches n = some m ∧ m.kvs = DataStore.applyLog (wal.map (·.payload)) start) ↔
        (∃ start, DataStore.reloadSnapshot saved ∅ = .ok start) ∧ (∀ entry ∈ wal, entry.payload.replayable = true) ∧
          (env.httpServerClose = none → ∀ entry ∈ wal, entry.payload.removes config.id = false))) ∧
    (∀ (config : Config) (saved : Option (Snapshot V)) (seen again : List (Entry V)) (n : Node V),
      Node.run config saved (seen ++ again) = .ok n → ∃ start, DataStore.reloadSnapshot saved ∅ = .ok start ∧
        n.kvs = DataStore.applyLog ((seen ++ again).map (·.payload)) start ∧
        ∀ env m, n.applyEntries env again = some m → m.kvs = n.kvs) ∧
    ∀ (kvs : KVs V) (seen again rest : List (Payload V)) (snapshot : Snapshot V) (wal : List (Entry V)),
      snapshot.data = DataStore.getDataStoreSnapshot (DataStore.applyLog (seen ++ again) kvs) →
      wal.map (·.payload) = again ++ rest →
      (DataStore.replayWAL (some snapshot) wal = .ok (snapshot, DataStore.applyLog (seen ++ again ++ rest) kvs) ↔
        ∀ entry ∈ wal, entry.payload.replayable = true) := by
  refine ⟨fun kvs seen again => DataStore.applyLog_again seen again kvs,
    fun config env saved wal log batches b same delivery => restart_again same delivery config env, ?_,
    fun kvs seen again rest snapshot wal taken entries => replayWAL_newer taken entries⟩
  intro config saved seen again n started
  obtain ⟨_, _, _, start, reloaded, map⟩ := Node.run_replayed started
  refine ⟨start, reloaded, map, fun env m applied => ?_⟩
  -- what is applied is a suffix of the suffix
  obtain ⟨cut, parts⟩ := toApply_suffix n.appliedIndex again
  have whole : (seen ++ again).map (·.payload) =
      (seen ++ cut).map (·.payload) ++ (toApply n.appliedIndex again).map (·.payload) := by
    rw [← List.map_append, List.append_assoc, parts]
  rw [Node.applyEntries_applyLog applied, map, whole]
  exact DataStore.applyLog_again _ _ start

/-- The two entries after the snapshot are replayed and delivered again, in two batches
that overlap. -/
theorem overlapping_suffix_harmless_restart :
    ∃ n m, Node.run sampleConfig (some firstSnapshot) (segment rewrites.payloads 2 3) = .ok n ∧
      deliver calm [segment rewrites.payloads 1 2, segment rewrites.payloads 2 3] n = some m ∧
      m.kvs["a"]? = some 3 := by
  have same : (segment rewrites.payloads 2 3).map (·.payload) = (rewrites.payloads.take 3).drop firstSnapshot.index := rfl
  have delivery : Delivery rewrites firstSnapshot.index
      [segment rewrites.payloads 1 2, segment rewrites.payloads 2 3] 3 :=
    .batch (by decide) (by decide) (by decide) (by decide) <|
    .batch (by decide) (by decide) (by decide) (by decide) .done
  obtain ⟨start, n, m, _, started, delivered, equal⟩ :=
    ((overlapping_suffix_harmless Nat).2.1 sampleConfig calm (some firstSnapshot) _ rewrites _ 3 same delivery).mpr
      ⟨⟨_, DataStore.decode_snapshot _⟩, by decide, by decide⟩
  refine ⟨n, m, started, delivered, ?_⟩
  rw [equal, DataStore.applyLog_eq, Write.getElem?_replay]
  rfl

section Samples

/-- The second entry has an operation that nobody knows. -/
def unknownOperation : Batch Nat where
  first := 1
  entries := [⟨1, setEntry "a" 1⟩, ⟨2, .normal (.event ⟨9, "a", 2⟩)⟩]
  nonempty := by simp
  contiguous := rfl
  small := by decide

end Samples

/-- A running node skips the entry and has the map of the log; restarted from that log the
node does not come up. -/
theorem unknown_operation_stops_restart :
    (∃ m, (fresh 1).applyEntries calm unknownOperation.entries = some m ∧
      m.kvs = DataStore.applyLog (unknownOperation.entries.map (·.payload)) ∅ ∧ m.kvs["a"]? = some 1) ∧
    ∃ e, Node.run sampleConfig none unknownOperation.entries = .error e := by
  have applied : (fresh 1).applyEntries calm unknownOperation.entries = some _ :=
    (applyEntries_fresh calm (by decide) (by decide) (by decide)).2.trans rfl
  exact ⟨⟨_, applied, rfl, Std.ExtTreeMap.getElem?_insert_self⟩, _, rfl⟩

end Kvrocks.Raft
