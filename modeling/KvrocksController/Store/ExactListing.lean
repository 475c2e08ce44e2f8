import KvrocksController.Raft.Engine
import KvrocksController.Store.Addresses
import KvrocksController.Store.Isolation
import KvrocksController.Store.Listing

/-! Listings along a whole sequence of store calls. The engines that list by scanning a
prefix show, up to their order, the same names; over records whose names have no slash
these are the records that were made and not removed since, each of them once. -/
namespace Kvrocks.Isolation
open ClusterStore

section Scan

/-- The names that a scan of `base` shows, in key order. -/
def scanned (base : String) (kv : KV) : List String :=
  (kv.keys.filter fun key => base.toList.isPrefixOf key.toList).filterMap (etcdName base)

/-- A listing that shows what a scan does, in some order. -/
def Scans (list : String → KV → Except Error (List Entry)) : Prop :=
  ∀ base kv, ∃ entries, list base kv = .ok entries ∧ (entries.map (·.key)).Perm (scanned base kv)

theorem etcd_scans : Scans fun base kv => .ok (etcdList base kv) := by
  intro base kv
  refine ⟨_, rfl, .of_eq ?_⟩
  rw [etcdList, scanned, ← Std.ExtTreeMap.map_fst_toList_eq_keys, List.map_filterMap, List.filter_map,
    List.filterMap_map]
  refine congrArg₂ _ ?_ rfl
  funext entry
  simp [Function.comp_def]

/-- The same as bytes. -/
def scannedRaw (base : String) (kv : KV) : List (List UInt8) :=
  (kv.keys.filter fun key => base.toList.isPrefixOf key.toList).filterMap (rawName base)

theorem scanned_eq (base : String) (kv : KV) :
    scanned base kv = (scannedRaw base kv).map fun name => String.ofList (Utf8.decode name) := by
  rw [scanned, scannedRaw, List.map_filterMap]
  rfl

/-- The raft store skips the key `base` and names with a slash after cutting them; etcd
does so before. -/
theorem dataStore_list (base : String) (kv : KV) : Raft.DataStore.list base kv =
    ((scannedRaw base kv).mergeSort (fun a b => a ≤ b)).map fun name => ⟨name, Raft.DataStore.lookup name kv⟩ := by
  have names : ((kv.keys.filter fun key => base.toList.isPrefixOf key.toList && key != base).map
      (trimmedKey base)).filter (fun name => !name.contains slash) = scannedRaw base kv := by
    simp only [scannedRaw, ← List.filterMap_eq_map, ← List.filterMap_eq_filter, List.filterMap_filterMap]
    refine congrArg₂ _ ?_ rfl
    funext key
    by_cases below : base.toList.isPrefixOf key.toList = true
    · by_cases same : key = base
      · subst same
        simp [Option.guard, rawName]
      · by_cases deeper : slash ∈ trimmedKey base key
        · simp [Option.guard, below, rawName, same, deeper]
        · simp [Option.guard, below, rawName, same, deeper]
    · simp [Option.guard, below]
  rw [Raft.DataStore.list, names]

theorem dataStore_scans : Scans fun base kv => .ok ((Raft.DataStore.list base kv).map (·.entry)) := by
  intro base kv
  refine ⟨_, rfl, ?_⟩
  rw [dataStore_list, scanned_eq, List.map_map, List.map_map]
  exact (List.mergeSort_perm _ _).map _

variable {kv : KV}

/-- The names of the keys that start with `base`, however they are read off a key. -/
theorem mem_names {base : String} {read : String → Option α} :
    name ∈ (kv.keys.filter fun key => base.toList.isPrefixOf key.toList).filterMap read ↔
      ∃ key value, kv[key]? = some value ∧ base.toList <+: key.toList ∧ read key = some name := by
  simp only [List.mem_filterMap, List.mem_filter, Std.ExtTreeMap.mem_keys, List.isPrefixOf_iff_prefix, mem_iff_stored]
  constructor
  · rintro ⟨key, ⟨⟨value, stored⟩, below⟩, named⟩
    exact ⟨key, value, stored, below, named⟩
  · rintro ⟨key, value, stored, below, named⟩
    exact ⟨key, ⟨⟨value, stored⟩, below⟩, named⟩

theorem mem_scanned : name ∈ scanned base kv ↔
    ∃ key value, kv[key]? = some value ∧ base.toList <+: key.toList ∧ etcdName base key = some name := mem_names

theorem mem_scannedRaw : name ∈ scannedRaw base kv ↔
    ∃ key value, kv[key]? = some value ∧ base.toList <+: key.toList ∧ rawName base key = some name := mem_names

/-- Where a listed name gives its key away, no name is listed twice. -/
theorem scanned_nodup (keyOf : String → String) (own : ∀ key value name, kv[key]? = some value →
    base.toList <+: key.toList → etcdName base key = some name → key = keyOf name) : (scanned base kv).Nodup := by
  rw [scanned, List.Nodup, List.pairwise_filterMap]
  refine (Std.ExtTreeMap.nodup_keys.filter _).imp_of_mem ?_
  intro key key' member member' distinct name named name' named' same
  subst same
  have keyed {key : String} (member : key ∈ kv.keys.filter fun key => base.toList.isPrefixOf key.toList)
      (named : etcdName base key = some name) : key = keyOf name := by
    obtain ⟨stored, below⟩ := List.mem_filter.mp member
    obtain ⟨value, stored⟩ := mem_iff_stored.mp (Std.ExtTreeMap.mem_keys.mp stored)
    exact own key value name stored (List.isPrefixOf_iff_prefix.mp below) named
  exact distinct ((keyed member named).trans (keyed member' named').symm)

theorem scanned_namespaces (tidy : Tidy kv) : (scanned nsPrefix kv).Nodup ∧
    ∀ ns, ns ∈ scanned nsPrefix kv ↔ NoSlash ns ∧ ∃ value, kv[appendPrefix ns]? = some value := by
  refine ⟨scanned_nodup appendPrefix fun key value ns stored _ named => (tidy.namespace_key stored named).2, fun ns => ?_⟩
  rw [mem_scanned]
  constructor
  · rintro ⟨key, value, stored, _, named⟩
    obtain ⟨plain, rfl⟩ := tidy.namespace_key stored named
    exact ⟨plain, value, stored⟩
  · rintro ⟨plain, value, stored⟩
    refine ⟨_, value, stored, ?_, etcdName_below (appendPrefix_toList ns) plain⟩
    rw [appendPrefix_toList]
    exact List.prefix_append _ _

theorem scanned_clusters (tidy : Tidy kv) (noSlash : NoSlash ns) : (scanned (buildClusterPrefix ns) kv).Nodup ∧
    ∀ name, name ∈ scanned (buildClusterPrefix ns) kv ↔
      NoSlash name ∧ ∃ value, kv[buildClusterKey ns name]? = some value := by
  refine ⟨scanned_nodup (buildClusterKey ns) fun key value name stored below named =>
    (tidy.cluster_key stored noSlash below named).2, fun name => ?_⟩
  rw [mem_scanned]
  constructor
  · rintro ⟨key, value, stored, below, named⟩
    obtain ⟨plain, rfl⟩ := tidy.cluster_key stored noSlash below named
    exact ⟨plain, value, stored⟩
  · rintro ⟨plain, value, stored⟩
    refine ⟨_, value, stored, ?_, etcdName_below (buildClusterKey_below ns name) plain⟩
    rw [buildClusterKey_below]
    exact List.prefix_append _ _

end Scan

section Runs

/-- Existing: created, and not removed since. -/
def State.Existing (s : State) (ns : String) : Prop := lastOn (.space ns) s.log = some (.created ns)

/-- The cluster was last written with this content, and not removed since. -/
def State.Stored (s : State) (ns name : String) (content : Cluster) : Prop :=
  lastOn (.cluster ns name) s.log = some (.written ns content)

def Record.NoSlash : Record → Prop
  | .space ns => Kvrocks.NoSlash ns
  | .cluster ns name => Kvrocks.NoSlash ns ∧ Kvrocks.NoSlash name

instance : (r : Record) → Decidable r.NoSlash
  | .space ns => inferInstanceAs (Decidable (Kvrocks.NoSlash ns))
  | .cluster ns name => inferInstanceAs (Decidable (Kvrocks.NoSlash ns ∧ Kvrocks.NoSlash name))

/-- What the listings show, and what a check of new addresses reports. -/
structure Exact (e : Engine KV) (s : State) : Prop where
  namespaces : ∃ names, listNamespace e s.kv = .ok names ∧ names.Nodup ∧ ∀ ns, ns ∈ names ↔ s.Existing ns
  clusters : ∀ ns, Kvrocks.NoSlash ns → ∃ names, listCluster e ns s.kv = .ok names ∧ names.Nodup ∧
    ∀ name, name ∈ names ↔ ∃ content, s.Stored ns name content

/-- A check reports a clash exactly if an address is in use in an existing namespace. -/
def Checked (e : Engine KV) (s : State) : Prop :=
  ∀ nodes, (∃ err, checkNewNodes e nodes s.kv = .error err ∧ err.is = some .alreadyExists) ↔
    ∃ addr ∈ nodes, ∃ ns name content, s.Existing ns ∧ s.Stored ns name content ∧ addr ∈ content.addrs

/-- What holds of the map and of the log after any calls on names without slashes. -/
structure Orderly (s : State) : Prop where
  tidy : Tidy s.kv
  holds : Holds Record.NoSlash s
  plain : ∀ event ∈ s.log, event.record.NoSlash

theorem noSlash_apart : ∀ r r' : Record, r.NoSlash → r'.NoSlash → r.key = r'.key → r = r' :=
  plain_keys_apart (fun _ plain => NoSlash.plain plain) fun _ _ plain => NoSlash.plain plain.1

theorem tidy_apply (tidy : Tidy kv) (plain : (Event.record event).NoSlash) : Tidy (event.write.apply kv) := by
  cases event with
  | created ns => exact tidy_insert tidy (.inl ⟨ns, plain, rfl⟩)
  | written ns content => exact tidy_insert tidy (.inr ⟨ns, content.name, plain.1, plain.2, rfl⟩)
  | removed ns => exact tidy_erase tidy
  | deleted ns name => exact tidy_erase tidy

variable {list : String → KV → Except Error (List Entry)} {s : State}

theorem Orderly.perform (orderly : Orderly s) (plain : (Op.record op).NoSlash) :
    Orderly (perform (listing list) s op) := by
  refine ⟨?_, orderly.holds.perform noSlash_apart plain, ?_⟩
  · rcases perform_cases s op with same | ⟨event, about, _, changed⟩
    · rw [same]
      exact orderly.tidy
    · rw [changed]
      exact tidy_apply orderly.tidy (about ▸ plain)
  · rcases perform_cases s op with same | ⟨event, about, _, changed⟩
    · rw [same]
      exact orderly.plain
    · rw [changed]
      intro other member
      rcases List.mem_cons.mp member with rfl | member
      · exact about ▸ plain
      · exact orderly.plain other member

theorem Orderly.run {ops : List Op} (orderly : Orderly s) (plain : ∀ op ∈ ops, op.record.NoSlash) :
    Orderly (ops.foldl (Isolation.perform (listing list)) s) := by
  induction ops generalizing s with
  | nil => exact orderly
  | cons op ops ih =>
    exact ih (orderly.perform (plain op (by simp))) fun op member => plain op (by simp [member])

theorem Orderly.initial : Orderly initial where
  tidy _ _ stored := by simp [Isolation.initial] at stored
  holds _ _ := by simp [Isolation.initial, lastOn]
  plain _ member := by simp [Isolation.initial] at member

theorem bounds_run {ops : List Op} (bounds : ∀ event ∈ s.log, event.InBounds) (given : ∀ op ∈ ops, op.InBounds) :
    ∀ event ∈ (ops.foldl (perform (listing list)) s).log, event.InBounds := by
  induction ops generalizing s with
  | nil => exact bounds
  | cons op ops ih =>
    refine ih ?_ fun op member => given op (by simp [member])
    rcases perform_cases s op with same | ⟨event, _, keeps, changed⟩
    · rw [same]
      exact bounds
    · rw [changed]
      intro other member
      rcases List.mem_cons.mp member with rfl | member
      · exact keeps (given op (by simp))
      · exact bounds other member

section Reading
variable (orderly : Orderly s)
include orderly

theorem Orderly.existing_iff : s.Existing ns ↔ NoSlash ns ∧ ∃ value, s.kv[appendPrefix ns]? = some value := by
  constructor
  · intro existing
    have plain : NoSlash ns := orderly.plain _ (List.mem_of_find?_eq_some existing)
    exact ⟨plain, .text ns, (orderly.holds (.space ns) plain).trans (lastOn_space_value.mpr ⟨existing, rfl⟩)⟩
  · rintro ⟨plain, value, stored⟩
    exact (lastOn_space_value.mp ((orderly.holds (.space ns) plain).symm.trans stored)).1

theorem Orderly.stored_value (stored : s.Stored ns name content) : (NoSlash ns ∧ NoSlash name) ∧
    s.kv[buildClusterKey ns name]? = some (.json content.marshalJSON) := by
  have about := lastOn_record stored
  have plain := orderly.plain _ (List.mem_of_find?_eq_some stored)
  rw [about] at plain
  exact ⟨plain, (orderly.holds (.cluster ns name) plain).trans (lastOn_cluster_value.mpr ⟨content, stored, rfl⟩)⟩

theorem Orderly.stored_iff : (∃ content, s.Stored ns name content) ↔
    (NoSlash ns ∧ NoSlash name) ∧ ∃ value, s.kv[buildClusterKey ns name]? = some value := by
  constructor
  · rintro ⟨content, stored⟩
    obtain ⟨plain, held⟩ := orderly.stored_value stored
    exact ⟨plain, _, held⟩
  · rintro ⟨plain, value, stored⟩
    obtain ⟨content, last, _⟩ := lastOn_cluster_value.mp ((orderly.holds (.cluster ns name) plain).symm.trans stored)
    exact ⟨content, last⟩

end Reading

theorem Scans.names (scans : Scans list) (base : String) (kv : KV) :
    ∃ names, (list base kv).map (·.map (·.key)) = .ok names ∧ names.Perm (scanned base kv) := by
  obtain ⟨entries, listed, shown⟩ := scans base kv
  exact ⟨entries.map (·.key), by rw [listed]; rfl, shown⟩

theorem Orderly.exact (orderly : Orderly s) (scans : Scans list) : Exact (listing list) s := by
  constructor
  · obtain ⟨names, listed, shown⟩ := scans.names nsPrefix s.kv
    obtain ⟨once, members⟩ := scanned_namespaces orderly.tidy
    refine ⟨names, listed, shown.nodup_iff.mpr once, fun ns => ?_⟩
    rw [shown.mem_iff, members, orderly.existing_iff]
  · intro ns plain
    obtain ⟨names, listed, shown⟩ := scans.names (buildClusterPrefix ns) s.kv
    obtain ⟨once, members⟩ := scanned_clusters orderly.tidy plain
    refine ⟨names, listed, shown.nodup_iff.mpr once, fun name => ?_⟩
    rw [shown.mem_iff, members, orderly.stored_iff]
    exact ⟨fun ⟨own, held⟩ => ⟨⟨plain, own⟩, held⟩, fun ⟨⟨_, own⟩, held⟩ => ⟨own, held⟩⟩

theorem Orderly.getCluster_stored (orderly : Orderly s) (stored : s.Stored ns name content)
    (bounds : content.InBounds) : getCluster (listing list) ns name s.kv = .ok content.stored := by
  rw [listing_getCluster]
  exact flat_read_ok.mpr ⟨_, (orderly.stored_value stored).2, Cluster.unmarshal_marshal bounds⟩

theorem stored_addrs (bounds : Cluster.InBounds content) : content.stored.addrs = content.addrs :=
  congrArg List.flatten (Cluster.unmarshal_shardAddrs (Cluster.unmarshal_marshal bounds))

theorem Orderly.checked (orderly : Orderly s) (scans : Scans list) (bounds : ∀ event ∈ s.log, event.InBounds) :
    Checked (listing list) s := by
  intro nodes
  have exact := orderly.exact scans
  obtain ⟨namespaces, listed, _, existing⟩ := exact.namespaces
  choose clustersOf shown _ using fun ns => scans.names (buildClusterPrefix ns) s.kv
  have clusters {ns name} (there : s.Existing ns) :
      name ∈ clustersOf ns ↔ ∃ content, s.Stored ns name content := by
    obtain ⟨names, same, _, members⟩ := exact.clusters ns (orderly.existing_iff.mp there).1
    obtain rfl := Except.ok.inj ((shown ns).symm.trans same)
    exact members name
  have readable {ns name content} (stored : s.Stored ns name content) : content.InBounds :=
    bounds _ (List.mem_of_find?_eq_some stored)
  rw [checkNewNodes_clash listed (fun ns _ => shown ns) ?_]
  · constructor
    · rintro ⟨ns, member, name, inside, c, read, addr, asked, used⟩
      have there := (existing ns).mp member
      obtain ⟨content, stored⟩ := (clusters there).mp inside
      obtain rfl := Except.ok.inj ((orderly.getCluster_stored stored (readable stored)).symm.trans read)
      exact ⟨addr, asked, ns, name, content, there, stored, stored_addrs (readable stored) ▸ used⟩
    · rintro ⟨addr, asked, ns, name, content, there, stored, used⟩
      exact ⟨ns, (existing ns).mpr there, name, (clusters there).mpr ⟨content, stored⟩, content.stored,
        orderly.getCluster_stored stored (readable stored), addr, asked, (stored_addrs (readable stored)).symm ▸ used⟩
  · intro ns member name inside
    obtain ⟨content, stored⟩ := (clusters ((existing ns).mp member)).mp inside
    exact ⟨content.stored, orderly.getCluster_stored stored (readable stored)⟩

end Runs

section Engines

/-- A prefix-scanning engine with the raft store's listing. -/
def scanning : Engine KV := listing fun base kv => .ok ((Raft.DataStore.list base kv).map (·.entry))

/-- After every sequence of calls on names without slashes, the listings show each
record that exists once and nothing else, over the raft store's scan as over etcd's. If the
clusters written have slot ranges that can be read back, new addresses clash exactly with
those of the clusters of existing namespaces. -/
theorem listings_exact (ops : List Op) (plain : ∀ op ∈ ops, op.record.NoSlash) {e : Engine KV}
    (kind : e = scanning ∨ e = etcd .none) :
    Exact e (ops.foldl (perform e) initial) ∧
      ((∀ op ∈ ops, op.InBounds) → Checked e (ops.foldl (perform e) initial)) := by
  have scan {list} (scans : Scans list) : Exact (listing list) (ops.foldl (perform (listing list)) initial) ∧
      ((∀ op ∈ ops, op.InBounds) → Checked (listing list) (ops.foldl (perform (listing list)) initial)) := by
    have orderly : Orderly (ops.foldl (perform (listing list)) initial) := Orderly.initial.run plain
    exact ⟨orderly.exact scans, fun given =>
      orderly.checked scans (bounds_run (fun event member => by cases member) given)⟩
  rcases kind with rfl | rfl
  · exact scan dataStore_scans
  · exact scan etcd_scans

section Samples

def serving (slots : List SlotRange) : Cluster :=
  ⟨"cluster", 1, [⟨[⟨0, "id", "a:1", "master", "", 0⟩], slots, -1, none⟩]⟩

def nested (slots : List SlotRange) : List Op :=
  [.createNamespace "a", .createNamespace "ab", .createCluster "a" (serving slots), .removeNamespace "ab"]

end Samples

theorem listings_exact_shared :
    (Exact scanning ((nested [⟨0, 5⟩]).foldl (perform scanning) initial) ∧
      Checked scanning ((nested [⟨0, 5⟩]).foldl (perform scanning) initial)) ∧
    listNamespace scanning ((nested [⟨0, 5⟩]).foldl (perform scanning) initial).kv = .ok ["a"] := by
  have plain : ∀ op ∈ nested [⟨0, 5⟩], op.record.NoSlash := by decide +kernel
  obtain ⟨exact, checked⟩ := listings_exact (nested [⟨0, 5⟩]) plain (.inl rfl)
  refine ⟨⟨exact, checked ?_⟩, by decide +kernel⟩
  have bounds : (serving [⟨0, 5⟩]).InBounds := by
    simp [serving, Cluster.InBounds, Shard.InBounds, SlotRange.InBounds, minSlotID, maxSlotID]
  simp [nested, Op.InBounds, bounds]

/-- A cluster with a range that cannot be read back: the check fails before it gets to
the address. -/
theorem clash_hidden_by_range :
    (∀ op ∈ nested [⟨5, 3⟩], op.record.NoSlash) ∧
      ¬ Checked scanning ((nested [⟨5, 3⟩]).foldl (perform scanning) initial) := by
  refine ⟨by decide +kernel, fun checked => ?_⟩
  have existing : lastOn (.space "a") ((nested [⟨5, 3⟩]).foldl (perform scanning) initial).log = some (.created "a") := by
    decide +kernel
  have stored : lastOn (.cluster "a" "cluster") ((nested [⟨5, 3⟩]).foldl (perform scanning) initial).log =
      some (.written "a" (serving [⟨5, 3⟩])) := by
    decide +kernel
  obtain ⟨err, failed, clash⟩ := (checked ["a:1"]).mpr
    ⟨"a:1", by simp, "a", "cluster", _, existing, stored, by decide +kernel⟩
  have undecoded : checkNewNodes scanning ["a:1"] ((nested [⟨5, 3⟩]).foldl (perform scanning) initial).kv =
      .error (.new "cluster: start slot id greater than stop slot id") := by
    decide +kernel
  cases undecoded.symm.trans failed
  cases clash

end Engines
end Kvrocks.Isolation
