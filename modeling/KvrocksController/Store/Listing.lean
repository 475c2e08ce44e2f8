import KvrocksController.Lib.Entries
import KvrocksController.Store.ClusterStoreProofs
import KvrocksController.Store.Keys

/-! What etcd's listing shows of the records. A name without a slash is always listed;
over records whose names have none, nothing else is. -/
namespace Kvrocks
open ClusterStore Utf8

theorem mem_iff_stored {kv : KV} {key : String} : key ∈ kv ↔ ∃ value, kv[key]? = some value := by
  rw [Std.ExtTreeMap.mem_iff_isSome_getElem?, Option.isSome_iff_exists]

theorem mem_etcdList {kv : KV} : entry ∈ etcdList base kv ↔
    ∃ key, kv[key]? = some entry.value ∧ base.toList <+: key.toList ∧ etcdName base key = some entry.key := by
  simp only [etcdList, List.mem_filterMap, List.mem_filter, Prod.exists, Std.ExtTreeMap.mem_toList_iff_getElem?_eq_some,
    List.isPrefixOf_iff_prefix, Option.map_eq_some_iff]
  constructor
  · rintro ⟨key, value, ⟨stored, below⟩, name, named, rfl⟩
    exact ⟨key, stored, below, named⟩
  · rintro ⟨key, stored, below, named⟩
    exact ⟨key, entry.value, ⟨stored, below⟩, entry.key, named, rfl⟩

section Below
variable {base key : String} (split : key.toList = base.toList ++ c :: rest)
include split

theorem ne_of_below : key ≠ base := by
  rintro rfl
  simpa using congrArg List.length split

/-- The cut takes one byte of the character behind the prefix. -/
theorem trimmedKey_below :
    trimmedKey base key = ((String.utf8EncodeChar c).drop 1 ++ bytes rest).dropWhile (· == slash) := by
  have one : 1 ≤ (String.utf8EncodeChar c).length := List.length_pos_iff.mpr String.utf8EncodeChar_ne_nil
  rw [trimmedKey, split, bytes_append, bytes_cons, ← List.drop_drop, List.drop_left, List.drop_append_of_le_length one]

end Below

/-- Behind a slash the cut falls between characters. -/
theorem trimmedKey_slash (split : key.toList = base.toList ++ '/' :: rest) :
    trimmedKey base key = bytes (rest.dropWhile (· == '/')) := by
  have low : '/'.toNat < 128 := by decide
  rw [trimmedKey_below split, encode_ascii low, slash, ← dropWhile_bytes low]
  rfl

theorem etcdName_slash (split : key.toList = base.toList ++ '/' :: rest) :
    etcdName base key =
      if '/' ∈ rest.dropWhile (· == '/') then none else some (String.ofList (rest.dropWhile (· == '/'))) := by
  rw [etcdName, rawName, if_neg (ne_of_below split), trimmedKey_slash split]
  simp only [List.contains_iff_mem, slash, mem_bytes (show '/'.toNat < 128 by decide)]
  split
  · rfl
  · rw [Option.map_some, decode_bytes]

theorem etcdName_below (split : key.toList = base.toList ++ '/' :: name.toList) (noSlash : NoSlash name) :
    etcdName base key = some name := by
  have trimmed : name.toList.dropWhile (· == '/') = name.toList := by
    cases chars : name.toList with
    | nil => rfl
    | cons c cs =>
      refine List.dropWhile_cons_of_neg ?_
      simp only [beq_iff_eq]
      rintro rfl
      exact noSlash (by rw [chars]; simp)
  rw [etcdName_slash split, trimmed, if_neg noSlash, String.ofList_toList]

/-- Where a text without slashes ends, when a slash follows it. -/
theorem slash_inj {a b x y : List Char} (left : '/' ∉ a) (right : '/' ∉ b) (same : a ++ '/' :: x = b ++ '/' :: y) :
    a = b ∧ x = y := by
  induction a generalizing b with
  | nil =>
    cases b with
    | nil => exact ⟨rfl, (List.cons.inj same).2⟩
    | cons c cs => exact absurd (List.cons.inj same).1 fun here => right (by simp [← here])
  | cons d ds ih =>
    cases b with
    | nil => exact absurd (List.cons.inj same).1 fun here => left (by simp [here])
    | cons c cs =>
      obtain ⟨rfl, tails⟩ := List.cons.inj same
      obtain ⟨rfl, rfl⟩ := ih (fun here => left (by simp [here])) (fun here => right (by simp [here])) tails
      exact ⟨rfl, rfl⟩

theorem buildClusterKey_below (ns cluster : String) :
    (buildClusterKey ns cluster).toList = (buildClusterPrefix ns).toList ++ '/' :: cluster.toList := by
  simp only [buildClusterKey, String.toList_append, slash_toList, List.append_assoc, List.cons_append, List.nil_append]

theorem buildClusterPrefix_toList (ns : String) :
    (buildClusterPrefix ns).toList = nsPrefix.toList ++ '/' :: (ns.toList ++ '/' :: "cluster".toList) := by
  have spelled : "/cluster".toList = '/' :: "cluster".toList := rfl
  simp only [buildClusterPrefix, String.toList_append, slash_toList, spelled, List.append_assoc, List.cons_append,
    List.nil_append]

section Calls
variable {kv : KV}

theorem etcd_listCluster_ok : listCluster (etcd faults) ns kv = .ok names ↔
    faults.read (.list (buildClusterPrefix ns)) = none ∧ (etcdList (buildClusterPrefix ns) kv).map (·.key) = names := by
  simp only [listCluster, etcd, Faults.reading, orFailed]
  cases faults.read (.list (buildClusterPrefix ns)) with
  | some err => simp [bind, Except.bind]
  | none => simp [bind, Except.bind]

theorem etcd_listCluster_error (failed : listCluster (etcd faults) ns kv = .error e) :
    faults.read (.list (buildClusterPrefix ns)) = some e := by
  simp only [listCluster, etcd, Faults.reading, orFailed] at failed
  cases outcome : faults.read (.list (buildClusterPrefix ns)) with
  | some err =>
    rw [outcome] at failed
    cases failed
    rfl
  | none =>
    rw [outcome] at failed
    cases failed

theorem etcd_listNamespace_ok : listNamespace (etcd faults) kv = .ok names ↔
    faults.read (.list nsPrefix) = none ∧ (etcdList nsPrefix kv).map (·.key) = names := by
  simp only [listNamespace, etcd, Faults.reading, orFailed]
  cases faults.read (.list nsPrefix) with
  | some err => simp [bind, Except.bind]
  | none => simp [bind, Except.bind]

theorem listCluster_complete (listed : listCluster (etcd faults) ns kv = .ok names) (noSlash : NoSlash cluster)
    (stored : kv[buildClusterKey ns cluster]? = some value) : cluster ∈ names := by
  obtain ⟨_, rfl⟩ := etcd_listCluster_ok.mp listed
  refine List.mem_map.mpr ⟨⟨cluster, value⟩, mem_etcdList.mpr ⟨_, stored, ?_, ?_⟩, rfl⟩
  · rw [buildClusterKey_below]
    exact List.prefix_append _ _
  · exact etcdName_below (buildClusterKey_below ns cluster) noSlash

theorem listNamespace_complete (listed : listNamespace (etcd faults) kv = .ok names) (noSlash : NoSlash ns)
    (stored : kv[appendPrefix ns]? = some value) : ns ∈ names := by
  obtain ⟨_, rfl⟩ := etcd_listNamespace_ok.mp listed
  refine List.mem_map.mpr ⟨⟨ns, value⟩, mem_etcdList.mpr ⟨_, stored, ?_, ?_⟩, rfl⟩
  · rw [appendPrefix_toList]
    exact List.prefix_append _ _
  · exact etcdName_below (appendPrefix_toList ns) noSlash

theorem etcd_createNamespace_cases (faults : Faults) (ns : String) (kv : KV) :
    (createNamespace (etcd faults) ns kv).1 = kv ∨
      (createNamespace (etcd faults) ns kv).1 = kv.insert (appendPrefix ns) (.text ns) := by
  unfold createNamespace
  split
  · exact .inl rfl
  · exact finish_cases (Prod.mk.eta).symm

/-- A namespace goes only where the listing shows nothing in it. -/
theorem etcd_removeNamespace_cases (faults : Faults) (ns : String) (kv : KV) :
    (removeNamespace (etcd faults) ns kv).1 = kv ∨
      listCluster (etcd faults) ns kv = .ok [] ∧ (removeNamespace (etcd faults) ns kv).1 = kv.erase (appendPrefix ns) := by
  unfold removeNamespace
  split
  · exact .inl rfl
  · cases listed : listCluster (etcd faults) ns kv with
    | error err => exact .inl rfl
    | ok clusters =>
      dsimp only
      split
      · exact .inl rfl
      · rename_i empty
        obtain rfl : clusters = [] := List.eq_nil_of_length_eq_zero (not_not.mp empty)
        rcases finish_cases (Prod.mk.eta (p := (etcd faults).delete (appendPrefix ns) kv)).symm with same | erased
        · exact .inl same
        · exact .inr ⟨rfl, erased⟩

/-- Every key is of a namespace or a cluster whose names have no slash. -/
def Tidy : KV → Prop := Entries.All fun key _ =>
  (∃ ns, NoSlash ns ∧ key = appendPrefix ns) ∨ ∃ ns cluster, NoSlash ns ∧ NoSlash cluster ∧ key = buildClusterKey ns cluster

theorem tidy_insert (tidy : Tidy kv) (own : (∃ ns, NoSlash ns ∧ key = appendPrefix ns) ∨
    ∃ ns cluster, NoSlash ns ∧ NoSlash cluster ∧ key = buildClusterKey ns cluster) :
    Tidy (kv.insert key value) := Entries.All.insert tidy own

theorem tidy_erase (tidy : Tidy kv) : Tidy (kv.erase key) := Entries.All.erase tidy

section Names
variable {key : String} (tidy : Tidy kv) (stored : kv[key]? = some value)
include tidy stored

/-- A key that is listed below a namespace's clusters is the key of that cluster. -/
theorem Tidy.cluster_key (noSlash : NoSlash ns) (below : (buildClusterPrefix ns).toList <+: key.toList)
    (named : etcdName (buildClusterPrefix ns) key = some cluster) :
    NoSlash cluster ∧ key = buildClusterKey ns cluster := by
  obtain ⟨rest, below⟩ := below
  rw [buildClusterPrefix_toList, List.append_assoc, List.cons_append, List.append_assoc, List.cons_append] at below
  rcases tidy key _ stored with ⟨other, plain, rfl⟩ | ⟨other, name, plain, plainName, rfl⟩
  · -- a namespace's key has no second slash
    rw [appendPrefix_toList, List.append_cancel_left_eq, List.cons.injEq] at below
    exact absurd (below.2 ▸ by simp) plain
  · have inside := below
    rw [buildClusterKey_toList, List.append_cancel_left_eq, List.cons.injEq, marker, List.append_assoc,
      List.cons_append] at inside
    obtain ⟨same, _⟩ := slash_inj noSlash plain inside.2
    obtain rfl := String.toList_inj.mp same
    rw [etcdName_below (buildClusterKey_below ns name) plainName] at named
    obtain rfl := Option.some.inj named
    exact ⟨plainName, rfl⟩

/-- A key that is listed among the namespaces is the key of that namespace. -/
theorem Tidy.namespace_key (named : etcdName nsPrefix key = some ns) : NoSlash ns ∧ key = appendPrefix ns := by
  rcases tidy key _ stored with ⟨other, plain, rfl⟩ | ⟨other, name, plain, plainName, rfl⟩
  · rw [etcdName_below (appendPrefix_toList other) plain] at named
    obtain rfl := Option.some.inj named
    exact ⟨plain, rfl⟩
  · -- what follows the prefix of a cluster's key still has a slash
    exfalso
    have slash : '/' ∈ ((other.toList ++ marker ++ name.toList)).dropWhile (· == '/') := by
      cases chars : other.toList with
      | nil => simp [marker]
      | cons c cs =>
        have letter : c ≠ '/' := by
          rintro rfl
          exact plain (by rw [chars]; simp)
        rw [List.cons_append, List.cons_append, List.dropWhile_cons_of_neg (by simpa using letter)]
        simp [marker]
    rw [etcdName_slash (buildClusterKey_toList other name), if_pos slash] at named
    cases named

end Names

theorem Tidy.listCluster_sound (tidy : Tidy kv) (noSlash : NoSlash ns)
    (listed : listCluster (etcd faults) ns kv = .ok names) (member : cluster ∈ names) :
    NoSlash cluster ∧ ∃ value, kv[buildClusterKey ns cluster]? = some value := by
  obtain ⟨_, rfl⟩ := etcd_listCluster_ok.mp listed
  obtain ⟨entry, shown, rfl⟩ := List.mem_map.mp member
  obtain ⟨key, stored, below, named⟩ := mem_etcdList.mp shown
  obtain ⟨plain, rfl⟩ := tidy.cluster_key stored noSlash below named
  exact ⟨plain, entry.value, stored⟩

theorem Tidy.listNamespace_sound (tidy : Tidy kv) (listed : listNamespace (etcd faults) kv = .ok names)
    (member : ns ∈ names) : NoSlash ns ∧ ∃ value, kv[appendPrefix ns]? = some value := by
  obtain ⟨_, rfl⟩ := etcd_listNamespace_ok.mp listed
  obtain ⟨entry, shown, rfl⟩ := List.mem_map.mp member
  obtain ⟨key, stored, _, named⟩ := mem_etcdList.mp shown
  obtain ⟨plain, rfl⟩ := tidy.namespace_key stored named
  exact ⟨plain, entry.value, stored⟩

end Calls
end Kvrocks
