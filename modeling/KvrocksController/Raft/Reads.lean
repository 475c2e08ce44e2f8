import KvrocksController.Server.Context
import KvrocksController.Store.ExactListing
import KvrocksController.Store.Postgresql

/-! What the raft engine answers to reads, beside etcd over the same content. Both list
the same names. The raft store looks a listed value up under the name and not under the
key it was listed for, and its error for an absent key is one of its own. -/
namespace Kvrocks.Raft
open Kvrocks.Isolation

/-- A read of the key fails as etcd's does where the key is absent, and the listing has
etcd's entries. -/
def ReadsAlike (outcome : WriteOutcome) (r : Replica) (key base : String) : Prop :=
  (r.kvs[key]? = none → ∃ e, (engine outcome).get key r = .error e ∧ e.is = some .notFound) ∧
    ∃ shown, Etcd.list base r.kvs = .ok shown ∧ (DataStore.list base r.kvs).Perm shown

theorem engine_get_absent (absent : r.kvs[key]? = none) : (engine outcome).get key r = .error errKeyNotFound := by
  simp only [engine, absent]

/-- Bytes that are those of a text find what is stored under it. -/
theorem DataStore.lookup_bytes (key : String) (kv : KV) :
    DataStore.lookup (Utf8.bytes key.toList) kv = kv[key]?.getD nilValue := by
  rw [lookup]
  cases found : kv.keys.find? fun other => Utf8.bytes other.toList == Utf8.bytes key.toList with
  | some other =>
    have same := List.find?_some found
    rw [beq_iff_eq, Utf8.bytes_inj, String.toList_inj] at same
    rw [same]
    rfl
  | none =>
    have absent : key ∉ kv := fun stored =>
      List.find?_eq_none.mp found key (Std.ExtTreeMap.mem_keys.mpr stored) (by simp)
    rw [Std.ExtTreeMap.getElem?_eq_none absent]
    rfl

theorem mem_shownBelow {kv : KV} : shown ∈ shownBelow base kv.toList ↔
    ∃ key, kv[key]? = some shown.value ∧ base.toList <+: key.toList ∧ rawName base key = some shown.key := by
  simp only [shownBelow, rawEntry, List.mem_filterMap, List.mem_filter, Prod.exists, List.isPrefixOf_iff_prefix,
    Std.ExtTreeMap.mem_toList_iff_getElem?_eq_some, Option.map_eq_some_iff]
  constructor
  · rintro ⟨key, value, ⟨stored, below⟩, name, named, rfl⟩
    exact ⟨key, stored, below, named⟩
  · rintro ⟨key, stored, below, named⟩
    exact ⟨key, shown.value, ⟨stored, below⟩, shown.key, named, rfl⟩

/-- The names agree in any case; the values do if each is found again under the name it is
listed by. -/
theorem list_perm_iff {kv : KV} : (DataStore.list base kv).Perm (shownBelow base kv.toList) ↔
    ∀ key value name, kv[key]? = some value → base.toList <+: key.toList → rawName base key = some name →
      value = DataStore.lookup name kv := by
  rw [dataStore_list, ((List.mergeSort_perm _ _).map _).congr_left]
  constructor
  · intro same key value name stored below named
    have shown : ⟨name, value⟩ ∈ shownBelow base kv.toList := mem_shownBelow.mpr ⟨key, stored, below, named⟩
    obtain ⟨other, _, entry⟩ := List.mem_map.mp (same.mem_iff.mpr shown)
    cases entry
    rfl
  · intro found
    apply List.Perm.of_eq
    rw [scannedRaw, ← Std.ExtTreeMap.map_fst_toList_eq_keys, List.filter_map, List.filterMap_map, List.map_filterMap,
      shownBelow]
    apply List.filterMap_congr
    intro pair member
    obtain ⟨stored, below⟩ := List.mem_filter.mp member
    have stored : kv[pair.1]? = some pair.2 := Std.ExtTreeMap.mem_toList_iff_getElem?_eq_some.mp stored
    cases named : rawName base pair.1 with
    | none => simp [rawEntry, named]
    | some name =>
      have value := found pair.1 pair.2 name stored (List.isPrefixOf_iff_prefix.mp below) named
      simp [rawEntry, named, value]

theorem readsAlike_iff : ReadsAlike outcome r key base ↔
    r.kvs[key]? ≠ none ∧ (DataStore.list base r.kvs).Perm (shownBelow base r.kvs.toList) := by
  unfold ReadsAlike
  apply and_congr
  · constructor
    · intro fails absent
      obtain ⟨e, failed, notFound⟩ := fails absent
      rw [engine_get_absent absent] at failed
      cases failed
      cases notFound
    · intro present absent
      exact absurd absent present
  · rw [Etcd.list, listRows_below]
    constructor
    · rintro ⟨shown, listed, same⟩
      cases listed
      exact same
    · intro same
      exact ⟨_, rfl, same⟩

/-- The two engines read alike exactly where the key is present and no listed value is
missed. -/
theorem raft_reads_alike (outcome : WriteOutcome) (r : Replica) (key base : String) :
    ReadsAlike outcome r key base ↔ (∃ value, r.kvs[key]? = some value) ∧
      ∀ full value name, r.kvs[full]? = some value → base.toList <+: full.toList → rawName base full = some name →
        value = DataStore.lookup name r.kvs := by
  rw [readsAlike_iff, list_perm_iff, Option.ne_none_iff_exists']

section Samples

/-- One record, below `/a`. -/
def oneRecord : Replica := ⟨Std.ExtTreeMap.insert ∅ "/a/x" (.text "v"), []⟩

theorem oneRecord_stored : oneRecord.kvs[key]? = if "/a/x" = key then some (.text "v") else none := by
  simp only [oneRecord, Std.ExtTreeMap.getElem?_insert, Std.LawfulEqOrd.compare_eq_iff_eq]
  rfl

end Samples

/-- An unknown cluster is an internal error instead of a missing one, and the value of the
one record is not in the listing. -/
theorem raft_reads_differ :
    (∃ e, ClusterStore.getCluster (engine .done) "ns" "c" ⟨∅, []⟩ = .error e ∧ Server.Context.errorCode e = 500) ∧
    (∃ e, ClusterStore.getCluster (etcd Faults.none) "ns" "c" ∅ = .error e ∧ Server.Context.errorCode e = 404) ∧
    ¬ ReadsAlike .done oneRecord "/b" "/b" ∧ ¬ ReadsAlike .done oneRecord "/a/x" "/a" ∧
    (∃ shown, Etcd.list "/a" oneRecord.kvs = .ok shown ∧ ⟨Utf8.bytes "x".toList, .text "v"⟩ ∈ shown) ∧
    ⟨Utf8.bytes "x".toList, nilValue⟩ ∈ DataStore.list "/a" oneRecord.kvs := by
  have stored : oneRecord.kvs["/a/x"]? = some (.text "v") := oneRecord_stored
  have missing : DataStore.lookup (Utf8.bytes "x".toList) oneRecord.kvs = nilValue := by
    rw [DataStore.lookup_bytes, oneRecord_stored, if_neg (by decide)]
    rfl
  have named : rawName "/a" "/a/x" = some (Utf8.bytes "x".toList) := by decide
  have below : "/a".toList <+: "/a/x".toList := by decide
  refine ⟨⟨_, rfl, rfl⟩, ⟨_, rfl, rfl⟩, ?_, ?_, ⟨_, listRows_below _ _, ?_⟩, ?_⟩
  · rw [readsAlike_iff, oneRecord_stored, if_neg (by decide)]
    rintro ⟨present, _⟩
    exact present rfl
  · rw [readsAlike_iff, list_perm_iff]
    rintro ⟨_, found⟩
    have value := found "/a/x" _ _ stored below named
    rw [missing] at value
    exact absurd value (by simp [nilValue])
  · exact mem_shownBelow.mpr ⟨"/a/x", stored, below, named⟩
  · have member : Utf8.bytes "x".toList ∈ scannedRaw "/a" oneRecord.kvs :=
      mem_scannedRaw.mpr ⟨"/a/x", _, stored, below, named⟩
    rw [dataStore_list]
    refine List.mem_map.mpr ⟨_, (List.mergeSort_perm _ _).mem_iff.mpr member, ?_⟩
    rw [missing]

end Kvrocks.Raft
