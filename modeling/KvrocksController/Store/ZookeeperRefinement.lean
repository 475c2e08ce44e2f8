import KvrocksController.Store.ExactListing
import KvrocksController.Store.ZookeeperProofs

/-! The store over Zookeeper against the store over a flat engine, call by call. The tree
holds the flat map's records and the nodes above them; as long as these are exactly the
nodes that stand for existing namespaces, every call answers the same. -/
namespace Kvrocks
open ClusterStore Isolation PathTree

inductive Call where
  | createNamespace (ns : String)
  | existsNamespace (ns : String)
  | listNamespace
  | removeNamespace (ns : String)
  | createCluster (ns : String) (cluster : Cluster)
  | getCluster (ns name : String)
  | updateCluster (ns : String) (cluster : Cluster)
  | listCluster (ns : String)
  | removeCluster (ns name : String)

inductive Answer where
  | done (err : Option Error)
  | has (outcome : Except Error Bool)
  | names (outcome : Except Error (List String))
  | cluster (outcome : Except Error Cluster)
  | updated (version : Int) (err : Option Error)
deriving DecidableEq

/-- The same answer, but for the order of a listing. -/
inductive Answer.Same : Answer → Answer → Prop where
  | refl (a : Answer) : Same a a
  | names (perm : l.Perm l') : Same (.names (.ok l)) (.names (.ok l'))

theorem Answer.Same.of_eq (same : a = b) : Answer.Same a b := same ▸ .refl a

theorem Answer.Same.cluster_eq (same : Answer.Same (.cluster a) (.cluster b)) : a = b := by
  cases same
  rfl

namespace Call

def perform (e : Engine σ) (s : σ) : Call → σ × Answer
  | .createNamespace ns =>
    let (s, err) := ClusterStore.createNamespace e ns s
    (s, .done err)
  | .existsNamespace ns => (s, .has (ClusterStore.existsNamespace e ns s))
  | .listNamespace => (s, .names (ClusterStore.listNamespace e s))
  | .removeNamespace ns =>
    let (s, err) := ClusterStore.removeNamespace e ns s
    (s, .done err)
  | .createCluster ns cluster =>
    let (s, err) := ClusterStore.createCluster e ns cluster s
    (s, .done err)
  | .getCluster ns name => (s, .cluster (ClusterStore.getCluster e ns name s))
  | .updateCluster ns cluster =>
    let updated := ClusterStore.updateCluster e ns s cluster
    (updated.store, .updated updated.version updated.err)
  | .listCluster ns => (s, .names (ClusterStore.listCluster e ns s))
  | .removeCluster ns name =>
    let (s, err) := ClusterStore.removeCluster e ns name s
    (s, .done err)

/-- The answers of a sequence of calls. -/
def answers (e : Engine σ) : σ → List Call → List Answer
  | _, [] => []
  | s, call :: calls => (call.perform e s).2 :: answers e (call.perform e s).1 calls

/-- The names it is called with have no slash. -/
def NoSlash : Call → Prop
  | .createNamespace ns | .existsNamespace ns | .removeNamespace ns | .listCluster ns => Kvrocks.NoSlash ns
  | .listNamespace => True
  | .createCluster ns cluster | .updateCluster ns cluster => Kvrocks.NoSlash ns ∧ Kvrocks.NoSlash cluster.name
  | .getCluster ns name | .removeCluster ns name => Kvrocks.NoSlash ns ∧ Kvrocks.NoSlash name

/-- A cluster is read or updated only if it exists, created only in an existing
namespace, and a namespace without clusters is removed only if it never had one. -/
def Suits (t : Znodes) : Call → Prop
  | .getCluster ns name => buildClusterKey ns name ∈ t.nodes
  | .updateCluster ns cluster => buildClusterKey ns cluster.name ∈ t.nodes
  | .createCluster ns _ => appendPrefix ns ∈ t.nodes
  | .removeNamespace ns => buildClusterPrefix ns ∈ t.nodes →
      ∃ key ∈ t.nodes.keys, parentPath key = some (buildClusterPrefix ns)
  | .createNamespace _ | .existsNamespace _ | .listNamespace | .listCluster _ | .removeCluster .. => True

instance (t : Znodes) : (call : Call) → Decidable (call.Suits t)
  | .getCluster .. | .updateCluster .. | .createCluster .. => inferInstanceAs (Decidable (_ ∈ t.nodes))
  | .removeNamespace _ => inferInstanceAs (Decidable (_ ∈ t.nodes → ∃ key ∈ t.nodes.keys, _))
  | .createNamespace _ | .existsNamespace _ | .listNamespace | .listCluster _ | .removeCluster .. => isTrue trivial

/-- Every call of the sequence suits the tree it is made on. -/
def AllSuit (e : Engine Znodes) : Znodes → List Call → Prop
  | _, [] => True
  | t, call :: calls => call.Suits t ∧ AllSuit e (call.perform e t).1 calls

instance : (e : Engine Znodes) → (t : Znodes) → (calls : List Call) → Decidable (AllSuit e t calls)
  | _, _, [] => isTrue trivial
  | e, t, call :: calls =>
    have := instDecidableAllSuit e (call.perform e t).1 calls
    inferInstanceAs (Decidable (_ ∧ _))

instance : (call : Call) → Decidable call.NoSlash
  | .createNamespace _ | .existsNamespace _ | .removeNamespace _ | .listCluster _ =>
    inferInstanceAs (Decidable (Kvrocks.NoSlash _))
  | .listNamespace => isTrue trivial
  | .createCluster .. | .updateCluster .. | .getCluster .. | .removeCluster .. =>
    inferInstanceAs (Decidable (Kvrocks.NoSlash _ ∧ Kvrocks.NoSlash _))

end Call

/-- The nodes that are no record: those above the namespaces, and the one that holds an
existing namespace's clusters. -/
def Inner (kv : KV) (key : String) : Prop :=
  key = nsPrefix ∨ Above parentPath key nsPrefix ∨ ∃ ns, NoSlash ns ∧ appendPrefix ns ∈ kv ∧ key = buildClusterPrefix ns

structure Mirrors (t : Znodes) (kv : KV) : Prop where
  kept : ∀ (key : String) value, kv[key]? = some value → t.nodes[key]? = some value
  known : ∀ (key : String) value, t.nodes[key]? = some value → kv[key]? = some value ∨ Inner kv key
  tidy : Tidy kv

theorem mirrors_empty : Mirrors .empty ∅ where
  kept key value stored := by simp at stored
  known key value stored := by simp [PathTree.empty] at stored
  tidy key value stored := by simp at stored

section Mirror
variable {t : Znodes} {kv : KV} (mirrors : Mirrors t kv)

theorem Inner.level (inner : Inner kv key) : level key ≤ 2 ∨ level key = 4 := by
  rcases inner with rfl | above | ⟨ns, plain, _, rfl⟩
  · exact .inl (by decide)
  · have := level_above above
    exact .inl (this.le.trans (by decide))
  · exact .inr (level_buildClusterPrefix plain)

theorem Tidy.level (tidy : Tidy kv) (stored : kv[key]? = some value) : level key = 3 ∨ level key = 5 := by
  rcases tidy key value stored with ⟨ns, plain, rfl⟩ | ⟨ns, name, plain, plainName, rfl⟩
  · exact .inl (level_appendPrefix plain)
  · exact .inr (level_buildClusterKey plain plainName)

include mirrors

/-- On the levels of the records the two agree. -/
theorem Mirrors.same (record : level key = 3 ∨ level key = 5) : t.nodes[key]? = kv[key]? := by
  cases stored : kv[key]? with
  | some value => exact mirrors.kept key value stored
  | none =>
    cases found : t.nodes[key]? with
    | none => rfl
    | some value =>
      rcases mirrors.known key value found with here | inner
      · cases stored.symm.trans here
      · have := inner.level
        omega

theorem Mirrors.mem_iff (record : level key = 3 ∨ level key = 5) : key ∈ t.nodes ↔ key ∈ kv := by
  rw [mem_iff_stored, mem_iff_stored, mirrors.same record]

theorem Mirrors.levels (present : key ∈ t.nodes) : level key ≤ 5 := by
  obtain ⟨value, found⟩ := mem_iff_stored.mp present
  rcases mirrors.known key value found with stored | inner
  · have := mirrors.tidy.level stored
    omega
  · have := inner.level
    omega

section Calls
variable {list : String → KV → Except Error (List Entry)}

theorem Mirrors.existsKey (record : level key = 3 ∨ level key = 5) :
    Zookeeper.existsKey key t = (listing list).existsKey key kv := by
  have same : decide (key ∈ t.nodes) = kv[key]?.isSome := by
    rw [← mirrors.same record]
    by_cases present : key ∈ t.nodes
    · simp [present]
    · simp [present]
  rw [Zookeeper.existsKey, same]
  rfl

theorem Mirrors.get (present : key ∈ t.nodes) (record : level key = 3 ∨ level key = 5) :
    Zookeeper.get key t = (listing list).get key kv := by
  obtain ⟨value, found⟩ := mem_iff_stored.mp present
  have stored : kv[key]? = some value := mirrors.same record ▸ found
  have read : (listing list).get key kv = .ok value := by
    simp [listing, flat, Faults.reading, orFailed, Faults.none, stored]
  rw [read, Zookeeper.get, get_ok.mpr found]

/-- Writing a record whose missing nodes above are no records. -/
theorem Mirrors.set (value : Value) (own : (∃ ns, NoSlash ns ∧ key = appendPrefix ns) ∨
      ∃ ns cluster, NoSlash ns ∧ NoSlash cluster ∧ key = buildClusterKey ns cluster)
    (above : ∀ other, Above parentPath other key → other ∈ t.nodes ∨ Inner (kv.insert key value) other) :
    ∃ t', Zookeeper.set key value t = (t', none) ∧ Mirrors t' (kv.insert key value) := by
  obtain ⟨t', done, created⟩ := Zookeeper.set_ok key value t
  have inserted {other : String} (distinct : other ≠ key) : (kv.insert key value)[other]? = kv[other]? := by
    rw [Std.ExtTreeMap.getElem?_insert, if_neg]
    simpa using Ne.symm distinct
  refine ⟨t', done, ?_, ?_, tidy_insert mirrors.tidy own⟩
  · intro other found stored
    by_cases same : other = key
    · subst same
      rwa [Std.ExtTreeMap.getElem?_insert_self, ← created.own] at stored
    · rw [inserted same] at stored
      have here := mirrors.kept other found stored
      rcases created.others other same with kept | ⟨fresh, _⟩
      · rwa [kept]
      · exact absurd (mem_iff_stored.mpr ⟨found, here⟩) fresh
  · intro other found here
    by_cases same : other = key
    · subst same
      rw [created.own] at here
      exact .inl (Std.ExtTreeMap.getElem?_insert_self.trans here)
    · rw [inserted same]
      rcases created.others other same with kept | ⟨fresh, reached, _⟩
      · refine (mirrors.known other found (kept ▸ here)).imp id (Or.imp id (Or.imp id ?_))
        rintro ⟨ns, plain, there, rfl⟩
        exact ⟨ns, plain, Std.ExtTreeMap.mem_insert.mpr (.inr there), rfl⟩
      · exact .inr ((above other reached).resolve_left fresh)

/-- Deleting a record with nothing below it. -/
theorem Mirrors.delete (present : key ∈ t.nodes) (bare : ∀ other ∈ t.nodes, parentPath other ≠ some key) :
    ∃ t', Zookeeper.delete key t = (t', none) ∧ Mirrors t' (kv.erase key) := by
  obtain ⟨t', done, nodes⟩ := Zookeeper.delete_ok present bare
  refine ⟨t', done, ?_, ?_, tidy_erase mirrors.tidy⟩
  · intro other found stored
    rw [nodes]
    rw [Std.ExtTreeMap.getElem?_erase] at stored ⊢
    split at stored
    · cases stored
    · rename_i distinct
      rw [if_neg distinct]
      exact mirrors.kept other found stored
  · intro other found here
    rw [nodes, Std.ExtTreeMap.getElem?_erase] at here
    split at here
    · cases here
    · rename_i distinct
      rw [Std.ExtTreeMap.getElem?_erase, if_neg distinct]
      refine (mirrors.known other found here).imp id (Or.imp id (Or.imp id ?_))
      rintro ⟨ns, plain, there, rfl⟩
      refine ⟨ns, plain, Std.ExtTreeMap.mem_erase.mpr ⟨fun same => ?_, there⟩, rfl⟩
      obtain rfl := Std.LawfulEqOrd.compare_eq_iff_eq.mp same
      exact bare _ (mem_iff_stored.mpr ⟨found, here⟩) (buildClusterPrefix_parent ns)

end Calls

section Listings

theorem Mirrors.below_namespaces : (Zookeeper.below nsPrefix t).Perm (scanned nsPrefix kv) := by
  obtain ⟨once, members⟩ := scanned_namespaces mirrors.tidy
  refine (List.perm_ext_iff_of_nodup (Zookeeper.below_nodup _ _) once).mpr fun name => ?_
  rw [Zookeeper.mem_below, members]
  constructor
  · rintro ⟨key, present, parent, rfl⟩
    have third : level key = 3 := level_parent parent
    obtain ⟨value, found⟩ := mem_iff_stored.mp present
    have stored : kv[key]? = some value := mirrors.same (.inl third) ▸ found
    rcases mirrors.tidy key value stored with ⟨ns, plain, rfl⟩ | ⟨ns, name, plain, plainName, rfl⟩
    · rw [(appendPrefix_parent plain).2]
      exact ⟨plain, value, stored⟩
    · have := level_buildClusterKey plain plainName
      omega
  · rintro ⟨plain, value, stored⟩
    obtain ⟨parent, named⟩ := appendPrefix_parent plain
    exact ⟨_, mem_iff_stored.mpr ⟨value, mirrors.kept _ _ stored⟩, parent, named⟩

theorem Mirrors.below_clusters (noSlash : NoSlash ns) :
    (Zookeeper.below (buildClusterPrefix ns) t).Perm (scanned (buildClusterPrefix ns) kv) := by
  obtain ⟨once, members⟩ := scanned_clusters mirrors.tidy noSlash
  refine (List.perm_ext_iff_of_nodup (Zookeeper.below_nodup _ _) once).mpr fun name => ?_
  rw [Zookeeper.mem_below, members]
  constructor
  · rintro ⟨key, present, parent, rfl⟩
    have fifth : level key = 5 := by rw [level_parent parent, level_buildClusterPrefix noSlash]
    obtain ⟨value, found⟩ := mem_iff_stored.mp present
    have stored : kv[key]? = some value := mirrors.same (.inr fifth) ▸ found
    rcases mirrors.tidy key value stored with ⟨other, plain, rfl⟩ | ⟨other, name, plain, plainName, rfl⟩
    · have := level_appendPrefix plain
      omega
    · obtain ⟨own, named⟩ := buildClusterKey_parent other plainName
      obtain rfl := buildClusterPrefix_inj (Option.some.inj (own.symm.trans parent))
      rw [named]
      exact ⟨plainName, value, stored⟩
  · rintro ⟨plain, value, stored⟩
    obtain ⟨parent, named⟩ := buildClusterKey_parent ns plain
    exact ⟨_, mem_iff_stored.mpr ⟨value, mirrors.kept _ _ stored⟩, parent, named⟩

end Listings

/-- Two ends of a call that agree. -/
def Agree (left : Znodes × Option Error) (right : KV × Option Error) : Prop :=
  left.2 = right.2 ∧ Mirrors left.1 right.1

section Store
variable {arrange : List String → List String} {list : String → KV → Except Error (List Entry)}

theorem Mirrors.existsNamespace (plain : NoSlash ns) :
    existsNamespace (zookeeper arrange) ns t = existsNamespace (listing list) ns kv :=
  mirrors.existsKey (.inl (level_appendPrefix plain))

theorem Mirrors.existsCluster (plain : NoSlash ns) (plainName : NoSlash name) :
    existsCluster (zookeeper arrange) ns name t = existsCluster (listing list) ns name kv :=
  mirrors.existsKey (.inr (level_buildClusterKey plain plainName))

theorem Mirrors.createNamespace (plain : NoSlash ns) :
    Agree (createNamespace (zookeeper arrange) ns t) (createNamespace (listing list) ns kv) := by
  have same : ClusterStore.existsNamespace (zookeeper arrange) ns t = ClusterStore.existsNamespace (listing list) ns kv :=
    mirrors.existsNamespace plain
  rw [ClusterStore.createNamespace, ClusterStore.createNamespace, same]
  by_cases has : found (ClusterStore.existsNamespace (listing list) ns kv) = true
  · rw [if_pos has, if_pos has]
    exact ⟨rfl, mirrors⟩
  · rw [if_neg has, if_neg has]
    obtain ⟨t', done, after⟩ := mirrors.set (.text ns) (.inl ⟨ns, plain, rfl⟩) fun other reached => by
      -- above a namespace there are only the nodes of the prefix
      rcases (above_iff (appendPrefix_parent plain).1).mp reached with rfl | reached
      · exact .inr (.inl rfl)
      · exact .inr (.inr (.inl reached))
    rw [show (zookeeper arrange).set = Zookeeper.set from rfl, done]
    exact ⟨rfl, after⟩

theorem Mirrors.putCluster (plain : NoSlash ns) (plainName : NoSlash (Cluster.name cluster))
    (there : appendPrefix ns ∈ t.nodes) :
    Agree (putCluster (zookeeper arrange) ns cluster t) (putCluster (listing list) ns cluster kv) := by
  have own : (∃ n, NoSlash n ∧ buildClusterKey ns cluster.name = appendPrefix n) ∨
      ∃ n c, NoSlash n ∧ NoSlash c ∧ buildClusterKey ns cluster.name = buildClusterKey n c :=
    .inr ⟨ns, cluster.name, plain, plainName, rfl⟩
  obtain ⟨t', done, after⟩ := mirrors.set (.json cluster.marshalJSON) own fun other reached => by
    -- of the nodes above, only the one that holds the clusters may be missing
    rcases (above_iff (buildClusterKey_parent ns plainName).1).mp reached with rfl | reached
    · have stored : appendPrefix ns ∈ kv := (mirrors.mem_iff (.inl (level_appendPrefix plain))).mp there
      exact .inr (.inr (.inr ⟨ns, plain, Std.ExtTreeMap.mem_insert.mpr (.inr stored), rfl⟩))
    · rcases (above_iff (buildClusterPrefix_parent ns)).mp reached with rfl | reached
      · exact .inl there
      · exact .inl (above_mem t reached there)
  rw [ClusterStore.putCluster, show (zookeeper arrange).set = Zookeeper.set from rfl, done]
  exact ⟨rfl, after⟩

theorem Mirrors.createCluster (plain : NoSlash ns) (plainName : NoSlash (Cluster.name cluster))
    (there : appendPrefix ns ∈ t.nodes) :
    Agree (createCluster (zookeeper arrange) ns cluster t) (createCluster (listing list) ns cluster kv) := by
  have same : ClusterStore.existsCluster (zookeeper arrange) ns cluster.name t =
      ClusterStore.existsCluster (listing list) ns cluster.name kv := mirrors.existsCluster plain plainName
  rw [ClusterStore.createCluster, ClusterStore.createCluster, same]
  by_cases has : found (ClusterStore.existsCluster (listing list) ns cluster.name kv) = true
  · rw [if_pos has, if_pos has]
    exact ⟨rfl, mirrors⟩
  · rw [if_neg has, if_neg has]
    exact mirrors.putCluster plain plainName there

theorem Mirrors.getCluster (plain : NoSlash ns) (plainName : NoSlash name)
    (there : buildClusterKey ns name ∈ t.nodes) :
    getCluster (zookeeper arrange) ns name t = getCluster (listing list) ns name kv := by
  have read : (zookeeper arrange).get (buildClusterKey ns name) t = (listing list).get (buildClusterKey ns name) kv :=
    mirrors.get there (.inr (level_buildClusterKey plain plainName))
  rw [ClusterStore.getCluster, ClusterStore.getCluster, getClusterWithoutLock, getClusterWithoutLock, read]

theorem Mirrors.updateCluster (plain : NoSlash ns) (plainName : NoSlash (Cluster.name cluster))
    (there : buildClusterKey ns cluster.name ∈ t.nodes) :
    (updateCluster (zookeeper arrange) ns t cluster).version = (updateCluster (listing list) ns kv cluster).version ∧
      Agree ((updateCluster (zookeeper arrange) ns t cluster).store, (updateCluster (zookeeper arrange) ns t cluster).err)
        ((updateCluster (listing list) ns kv cluster).store, (updateCluster (listing list) ns kv cluster).err) := by
  have read : getClusterWithoutLock (zookeeper arrange) ns cluster.name t =
      getClusterWithoutLock (listing list) ns cluster.name kv := mirrors.getCluster plain plainName there
  have inside : appendPrefix ns ∈ t.nodes :=
    t.rooted _ _ (t.rooted _ _ there (buildClusterKey_parent ns plainName).1) (buildClusterPrefix_parent ns)
  rw [ClusterStore.updateCluster, ClusterStore.updateCluster, read]
  cases getClusterWithoutLock (listing list) ns cluster.name kv with
  | error err => exact ⟨rfl, rfl, mirrors⟩
  | ok old =>
    by_cases newer : old.version > cluster.version
    · simp only [if_pos newer]
      exact ⟨trivial, rfl, mirrors⟩
    · have put : Agree
          (ClusterStore.putCluster (zookeeper arrange) ns { cluster with version := nextVersion cluster.version } t)
          (ClusterStore.putCluster (listing list) ns { cluster with version := nextVersion cluster.version } kv) :=
        mirrors.putCluster plain plainName inside
      simp only [if_neg newer]
      exact ⟨trivial, put⟩

theorem Mirrors.removeCluster (plain : NoSlash ns) (plainName : NoSlash name) :
    Agree (removeCluster (zookeeper arrange) ns name t) (removeCluster (listing list) ns name kv) := by
  have fifth := level_buildClusterKey plain plainName
  have same : ClusterStore.existsCluster (zookeeper arrange) ns name t =
      ClusterStore.existsCluster (listing list) ns name kv := mirrors.existsCluster plain plainName
  rw [ClusterStore.removeCluster, ClusterStore.removeCluster, same]
  by_cases has : buildClusterKey ns name ∈ t.nodes
  · have there : found (ClusterStore.existsCluster (listing list) ns name kv) = true := by
      rw [← same]
      exact decide_eq_true has
    obtain ⟨t', done, after⟩ := mirrors.delete has fun other present parent => by
      have := mirrors.levels present
      have := level_parent parent
      omega
    rw [there, show (zookeeper arrange).delete = Zookeeper.delete from rfl, done]
    exact ⟨rfl, after⟩
  · have gone : found (ClusterStore.existsCluster (listing list) ns name kv) = false := by
      rw [← same]
      exact decide_eq_false has
    rw [gone]
    exact ⟨rfl, mirrors⟩

omit mirrors in
theorem Inner.holder (inner : Inner kv key) (parent : parentPath key = some (appendPrefix ns)) (plain : NoSlash ns) :
    key = buildClusterPrefix ns := by
  have fourth := level_parent parent
  rw [level_appendPrefix plain] at fourth
  rcases inner with rfl | above | ⟨other, _, _, rfl⟩
  · cases fourth
  · have low : Kvrocks.level nsPrefix = 2 := by decide
    have := level_above above
    omega
  · rw [appendPrefix_inj.mp (Option.some.inj ((buildClusterPrefix_parent other).symm.trans parent))]

/-- The only node that can stand below a namespace's. -/
theorem Mirrors.holder (plain : NoSlash ns) (present : key ∈ t.nodes)
    (parent : parentPath key = some (appendPrefix ns)) : key = buildClusterPrefix ns := by
  obtain ⟨value, found⟩ := mem_iff_stored.mp present
  rcases mirrors.known key value found with stored | inner
  · have fourth := level_parent parent
    rw [level_appendPrefix plain] at fourth
    have := mirrors.tidy.level stored
    omega
  · exact inner.holder parent plain

section Lists
variable (arranged : ∀ l, (arrange l).Perm l) (scans : Scans list)
include arranged scans

theorem Mirrors.listNamespace : Answer.Same (.names (listNamespace (zookeeper arrange) t))
    (.names (listNamespace (listing list) kv)) := by
  obtain ⟨entries, listed, shown⟩ := Zookeeper.list_ok arranged nsPrefix t
  obtain ⟨names, listed', shown'⟩ := scans.names nsPrefix kv
  have left : ClusterStore.listNamespace (zookeeper arrange) t = .ok (entries.map (·.key)) := by
    rw [ClusterStore.listNamespace, show (zookeeper arrange).list = Zookeeper.list arrange from rfl, listed]
    rfl
  rw [left, show ClusterStore.listNamespace (listing list) kv = .ok names from listed']
  exact .names (shown.trans (mirrors.below_namespaces.trans shown'.symm))

theorem Mirrors.clusters (plain : NoSlash ns) : ∃ l l', listCluster (zookeeper arrange) ns t = .ok l ∧
    listCluster (listing list) ns kv = .ok l' ∧ l.Perm l' ∧ l.Perm (Zookeeper.below (buildClusterPrefix ns) t) := by
  obtain ⟨entries, listed, shown⟩ := Zookeeper.list_ok arranged (buildClusterPrefix ns) t
  obtain ⟨names, listed', shown'⟩ := scans.names (buildClusterPrefix ns) kv
  refine ⟨entries.map (·.key), names, ?_, listed', shown.trans ((mirrors.below_clusters plain).trans shown'.symm), shown⟩
  rw [ClusterStore.listCluster, show (zookeeper arrange).list = Zookeeper.list arrange from rfl, listed]
  rfl

/-- A namespace goes only when nothing is left below its node. -/
theorem Mirrors.removeNamespace (plain : NoSlash ns) (suits : (Call.removeNamespace ns).Suits t) :
    Agree (removeNamespace (zookeeper arrange) ns t) (removeNamespace (listing list) ns kv) := by
  have same : ClusterStore.existsNamespace (zookeeper arrange) ns t = ClusterStore.existsNamespace (listing list) ns kv :=
    mirrors.existsNamespace plain
  obtain ⟨l, l', shown, shown', perm, all⟩ := mirrors.clusters arranged scans plain
  rw [ClusterStore.removeNamespace, ClusterStore.removeNamespace, same, shown, shown']
  by_cases has : appendPrefix ns ∈ t.nodes
  · have there : found (ClusterStore.existsNamespace (listing list) ns kv) = true := by
      rw [← same]
      exact decide_eq_true has
    rw [there]
    by_cases empty : l.length = 0
    · have bare : ∀ other ∈ t.nodes, parentPath other ≠ some (appendPrefix ns) := by
        intro other present parent
        obtain rfl := mirrors.holder plain present parent
        obtain ⟨key, inside, parent⟩ := suits present
        have member := all.mem_iff.mpr
          (Zookeeper.mem_below.mpr ⟨key, Std.ExtTreeMap.mem_keys.mp inside, parent, rfl⟩)
        rw [List.eq_nil_of_length_eq_zero empty] at member
        cases member
      obtain ⟨t', done, after⟩ := mirrors.delete has bare
      simp only [Bool.not_true, Bool.false_eq_true, if_false, ← perm.length_eq, empty, ne_eq, not_true_eq_false]
      rw [show (zookeeper arrange).delete = Zookeeper.delete from rfl, done]
      exact ⟨rfl, after⟩
    · simp only [Bool.not_true, Bool.false_eq_true, if_false, ← perm.length_eq, empty, ne_eq, not_false_eq_true, if_true]
      exact ⟨rfl, mirrors⟩
  · have gone : found (ClusterStore.existsNamespace (listing list) ns kv) = false := by
      rw [← same]
      exact decide_eq_false has
    rw [gone]
    exact ⟨rfl, mirrors⟩

end Lists

/-- One call on both sides. -/
theorem Mirrors.perform (arranged : ∀ l, (arrange l).Perm l) (scans : Scans list) (plain : Call.NoSlash call)
    (suits : call.Suits t) :
    Answer.Same (call.perform (zookeeper arrange) t).2 (call.perform (listing list) kv).2 ∧
      Mirrors (call.perform (zookeeper arrange) t).1 (call.perform (listing list) kv).1 := by
  cases call with
  | createNamespace ns =>
    obtain ⟨err, after⟩ : Agree (ClusterStore.createNamespace (zookeeper arrange) ns t)
      (ClusterStore.createNamespace (listing list) ns kv) := mirrors.createNamespace plain
    exact ⟨Answer.Same.of_eq (congrArg Answer.done err), after⟩
  | existsNamespace ns => exact ⟨Answer.Same.of_eq (congrArg Answer.has (mirrors.existsNamespace plain)), mirrors⟩
  | listNamespace => exact ⟨mirrors.listNamespace arranged scans, mirrors⟩
  | removeNamespace ns =>
    obtain ⟨err, after⟩ := mirrors.removeNamespace arranged scans plain suits
    exact ⟨Answer.Same.of_eq (congrArg Answer.done err), after⟩
  | createCluster ns cluster =>
    obtain ⟨err, after⟩ : Agree (ClusterStore.createCluster (zookeeper arrange) ns cluster t)
      (ClusterStore.createCluster (listing list) ns cluster kv) := mirrors.createCluster plain.1 plain.2 suits
    exact ⟨Answer.Same.of_eq (congrArg Answer.done err), after⟩
  | getCluster ns name =>
    exact ⟨Answer.Same.of_eq (congrArg Answer.cluster (mirrors.getCluster plain.1 plain.2 suits)), mirrors⟩
  | updateCluster ns cluster =>
    have both : _ ∧ Agree ((ClusterStore.updateCluster (zookeeper arrange) ns t cluster).store, _)
      ((ClusterStore.updateCluster (listing list) ns kv cluster).store, _) :=
      mirrors.updateCluster plain.1 plain.2 suits
    obtain ⟨version, err, after⟩ := both
    exact ⟨Answer.Same.of_eq (congrArg₂ Answer.updated version err), after⟩
  | listCluster ns =>
    obtain ⟨l, l', shown, shown', perm, _⟩ := mirrors.clusters arranged scans plain
    refine ⟨?_, mirrors⟩
    simp only [Call.perform, shown, shown']
    exact .names perm
  | removeCluster ns name =>
    obtain ⟨err, after⟩ : Agree (ClusterStore.removeCluster (zookeeper arrange) ns name t)
      (ClusterStore.removeCluster (listing list) ns name kv) := mirrors.removeCluster plain.1 plain.2
    exact ⟨Answer.Same.of_eq (congrArg Answer.done err), after⟩

end Store
end Mirror

theorem answers_same {t : Znodes} {kv : KV} (arranged : ∀ l, (arrange l).Perm l) (scans : Scans list)
    (mirrors : Mirrors t kv) (plain : ∀ call ∈ calls, Call.NoSlash call)
    (suit : Call.AllSuit (zookeeper arrange) t calls) :
    List.Forall₂ Answer.Same (Call.answers (zookeeper arrange) t calls) (Call.answers (listing list) kv calls) := by
  induction calls generalizing t kv with
  | nil => exact .nil
  | cons call calls ih =>
    obtain ⟨suits, rest⟩ := suit
    obtain ⟨same, after⟩ := mirrors.perform arranged scans (plain call (by simp)) suits
    exact .cons same (ih after (fun call member => plain call (by simp [member])) rest)

/-- Over Zookeeper, in whatever order it lists names, a sequence of calls that all suit
the tree they are made on gets the answers it gets over etcd. -/
theorem zookeeper_answers_as_etcd (arrange : List String → List String) (arranged : ∀ l, (arrange l).Perm l)
    (calls : List Call) (plain : ∀ call ∈ calls, call.NoSlash) (suit : Call.AllSuit (zookeeper arrange) .empty calls) :
    List.Forall₂ Answer.Same (Call.answers (zookeeper arrange) .empty calls) (Call.answers (etcd .none) ∅ calls) :=
  answers_same arranged etcd_scans mirrors_empty plain suit

section Samples

def wholeLife : List Call :=
  [.createNamespace "m", .removeNamespace "m", .createNamespace "n", .createCluster "n" ⟨"c", 1, []⟩,
    .updateCluster "n" ⟨"c", 1, []⟩, .removeNamespace "n", .getCluster "n" "c", .removeCluster "n" "c"]

end Samples

theorem zookeeper_answers_whole_life :
    List.Forall₂ Answer.Same (Call.answers (zookeeper List.reverse) .empty wholeLife)
      (Call.answers (etcd .none) ∅ wholeLife) :=
  zookeeper_answers_as_etcd List.reverse List.reverse_perm wholeLife (by decide +kernel) (by decide +kernel)

/-- A namespace whose clusters are all removed cannot be removed; a missing cluster is
not reported as not found; and a cluster of a missing namespace makes it exist. -/
theorem zookeeper_answers_differ :
    ¬ List.Forall₂ Answer.Same
        (Call.answers (zookeeper id) .empty [.createNamespace "n", .createCluster "n" ⟨"c", 1, []⟩,
          .removeCluster "n" "c", .removeNamespace "n"])
        (Call.answers (etcd .none) ∅ [.createNamespace "n", .createCluster "n" ⟨"c", 1, []⟩,
          .removeCluster "n" "c", .removeNamespace "n"]) ∧
      ¬ List.Forall₂ Answer.Same (Call.answers (zookeeper id) .empty [.getCluster "n" "c"])
        (Call.answers (etcd .none) ∅ [.getCluster "n" "c"]) ∧
      ¬ List.Forall₂ Answer.Same
        (Call.answers (zookeeper id) .empty [.createCluster "n" ⟨"c", 1, []⟩, .existsNamespace "n"])
        (Call.answers (etcd .none) ∅ [.createCluster "n" ⟨"c", 1, []⟩, .existsNamespace "n"]) := by
  have left : Call.answers (zookeeper id) .empty [.createNamespace "n", .createCluster "n" ⟨"c", 1, []⟩,
      .removeCluster "n" "c", .removeNamespace "n"] =
      [.done none, .done none, .done none, .done (some (.new "zk: node has children"))] := by decide +kernel
  have right : Call.answers (etcd .none) ∅ [.createNamespace "n", .createCluster "n" ⟨"c", 1, []⟩,
      .removeCluster "n" "c", .removeNamespace "n"] = [.done none, .done none, .done none, .done none] := by
    decide +kernel
  have missing : Call.answers (zookeeper id) .empty [.getCluster "n" "c"] =
      [.cluster (.error (.new "cluster: unexpected end of JSON input"))] := by decide +kernel
  have notFound : Call.answers (etcd .none) ∅ [.getCluster "n" "c"] =
      [.cluster (.error (.wrap "cluster: " (.of .notFound) ""))] := by decide +kernel
  have appeared : Call.answers (zookeeper id) .empty [.createCluster "n" ⟨"c", 1, []⟩, .existsNamespace "n"] =
      [.done none, .has (.ok true)] := by decide +kernel
  have absent : Call.answers (etcd .none) ∅ [.createCluster "n" ⟨"c", 1, []⟩, .existsNamespace "n"] =
      [.done none, .has (.ok false)] := by decide +kernel
  rw [left, right, missing, notFound, appeared, absent]
  simp only [List.forall₂_cons]
  refine ⟨fun ⟨_, _, _, same, _⟩ => ?_, fun ⟨same, _⟩ => ?_, fun ⟨_, same, _⟩ => ?_⟩
  · cases same
  · exact absurd same.cluster_eq (by decide)
  · cases same

end Kvrocks
