import KvrocksController.Store.Postgresql

/-! When a prefix used as a pattern lists what etcd lists. The prefix goes into the
pattern as it is, so one with a sign of the pattern language also selects keys that only
look like it: a shorter one makes the cut panic, and one of the right length is shown as
if it stood below the prefix. -/
namespace Kvrocks.Postgresql
open Utf8

variable {dialect : Dialect}

/-- The same entries as etcd over every table, in whatever order its rows come. -/
def Agrees (dialect : Dialect) (base : String) : Prop :=
  ∀ (kv : KV) (rows : List (String × Value)), rows.Perm kv.toList →
    ∃ entries shown, list dialect base rows = .ok entries ∧ Etcd.list base kv = .ok shown ∧
      ∀ entry, entry ∈ entries ↔ entry ∈ shown

/-- The key of a cluster of another namespace. -/
def Foreign (ns key : String) : Prop := ∃ other cluster, other ≠ ns ∧ key = buildClusterKey other cluster

/-- A row of another namespace's cluster makes no difference to `ListCluster`. -/
def Isolated (dialect : Dialect) (ns : String) : Prop :=
  ∀ before row after, Foreign ns row.1 →
    listCluster dialect ns (before ++ row :: after) = listCluster dialect ns (before ++ after)

section Prefix
variable {base : String} (plain : dialect.signs.Plain base.toList)
include plain

theorem list_plain (rows : List (String × Value)) : list dialect base rows = .ok (shownBelow base rows) := by
  have selected (row : String × Value) :
      Like.accepts (dialect.signs.below base.toList) row.1.toList = base.toList.isPrefixOf row.1.toList := by
    rw [Bool.eq_iff_iff, Like.Signs.below_plain plain, Like.accepts_prefix, List.isPrefixOf_iff_prefix]
  simp only [list_eq, selected]
  exact listRows_below base rows

theorem agrees_of_plain : Agrees dialect base := by
  intro kv rows order
  exact ⟨_, _, list_plain plain rows, listRows_below base _, fun entry => (shownBelow_perm order).mem_iff⟩

end Prefix

section Sample

/-- A text that the pattern accepts, with a letter for every sign of one letter. -/
def lookalike (dialect : Dialect) (base : String) : List Char := Like.sample 'x' (dialect.signs.below base.toList)

theorem lookalike_length (dialect : Dialect) (base : String) :
    (bytes (lookalike dialect base)).length ≤ (bytes base.toList).length := by
  rw [length_bytes, length_bytes]
  apply Like.sample_weight
  · rw [utf8Size_sign dialect (.inr (.inl rfl))]
    exact Nat.le_refl 1
  · intro e escaped
    rw [utf8Size_sign dialect (.inl rfl), utf8Size_sign dialect (.inr (.inr escaped))]

theorem lookalike_ne (signed : ¬ dialect.signs.Plain base.toList) : lookalike dialect base ≠ base.toList := by
  intro same
  refine signed (Like.plain_of_sample ?_ same)
  cases dialect <;> decide

/-- Over a table that holds the lookalike the listing panics. -/
theorem plain_of_agrees (agrees : Agrees dialect base) : dialect.signs.Plain base.toList := by
  by_contra signed
  let key := String.ofList (lookalike dialect base)
  let kv : KV := (∅ : KV).insert key (.text "")
  obtain ⟨entries, _, listed, _⟩ := agrees kv kv.toList (List.Perm.refl _)
  rw [list_eq, listRows_ok] at listed
  have row : (key, Value.text "") ∈ kv.toList := by
    rw [Std.ExtTreeMap.mem_toList_iff_getElem?_eq_some]
    exact Std.ExtTreeMap.getElem?_insert_self
  have selected : Like.accepts (dialect.signs.below base.toList) key.toList = true := by
    rw [String.toList_ofList]
    exact Like.accepts_sample _
  have long := listed.1 _ (List.mem_filter.mpr ⟨row, selected⟩)
  have short := lookalike_length dialect base
  rcases long with same | longer
  · exact lookalike_ne signed (String.toList_ofList.symm.trans (congrArg String.toList same))
  · rw [String.toList_ofList] at longer
    omega

end Sample

section Namespaces
variable {ns : String}

/-- A namespace's clusters are listed below a prefix whose own letters are no signs. -/
theorem clusterPrefix_plain :
    dialect.signs.Plain (buildClusterPrefix ns).toList ↔ dialect.signs.Plain ns.toList := by
  have around : dialect.signs.Plain (nsPrefix.toList ++ ['/']) ∧ dialect.signs.Plain ('/' :: "cluster".toList) := by
    cases dialect <;> decide
  have split : (buildClusterPrefix ns).toList = nsPrefix.toList ++ ['/'] ++ (ns.toList ++ '/' :: "cluster".toList) := by
    rw [buildClusterPrefix_toList, List.append_assoc]
    rfl
  rw [split]
  constructor
  · intro plain c member
    exact plain c (List.mem_append_right _ (List.mem_append_left _ member))
  · intro plain
    exact around.1.append (plain.append around.2)

/-- Trimming slashes on the left does not reach the marker's second slash. -/
theorem marker_kept (l d : List Char) : '/' ∈ (l ++ 'r' :: '/' :: d).dropWhile (· == '/') := by
  induction l with
  | nil => simp
  | cons e l ih =>
    by_cases slash : e = '/'
    · rw [List.cons_append, List.dropWhile_cons_of_pos (by simpa using slash)]
      exact ih
    · rw [List.cons_append, List.dropWhile_cons_of_neg (by simpa using slash)]
      simp

/-- A key below one namespace's clusters, read as a cluster's of a longer namespace: a
slash is left behind the cut. -/
theorem slash_left {a b d rest : List Char} (same : a ++ '/' :: ("cluster".toList ++ c :: rest) = b ++ marker ++ d)
    (longer : a.length < b.length) : '/' ∈ rest.dropWhile (· == '/') := by
  have spelled : marker ++ d = '/' :: ("cluste".toList ++ 'r' :: '/' :: d) := rfl
  have below (behind : c :: rest = marker ++ d) : '/' ∈ rest.dropWhile (· == '/') := by
    rw [(List.cons.inj (behind.trans spelled)).2]
    exact marker_kept _ d
  rw [List.append_assoc, List.append_eq_append_iff] at same
  obtain ⟨gap, rfl, tail⟩ | ⟨gap, rfl, _⟩ := same
  swap
  · rw [List.length_append] at longer
    omega
  cases gap with
  | nil => simp at longer
  | cons g gap =>
    obtain ⟨_, tail⟩ := List.cons.inj tail
    obtain ⟨more, rfl, behind⟩ | ⟨left, word, behind⟩ := List.append_eq_append_iff.mp tail
    · cases more with
      | nil => exact below behind
      | cons m more =>
        have later : rest = (more ++ '/' :: "cluste".toList) ++ 'r' :: '/' :: d := by
          rw [List.append_assoc]
          exact (List.cons.inj behind).2
        rw [later]
        exact marker_kept _ d
    · cases left with
      | nil => exact below behind.symm
      | cons e left =>
        -- the marker would begin inside the word, which has no slash
        obtain rfl := (List.cons.inj behind).1
        have inside : '/' ∈ "cluster".toList := word ▸ by simp
        exact absurd inside (by decide)

theorem foreign_hidden (plain : Plain ns) (foreign : Foreign ns key)
    (below : (buildClusterPrefix ns).toList <+: key.toList) : rawName (buildClusterPrefix ns) key = none := by
  obtain ⟨other, cluster, distinct, rfl⟩ := foreign
  obtain ⟨rest, split⟩ := below
  cases rest with
  | nil =>
    rw [List.append_nil, String.toList_inj] at split
    rw [rawName, if_pos split.symm]
  | cons c rest =>
    have same : ns.toList ++ '/' :: ("cluster".toList ++ c :: rest) = other.toList ++ marker ++ cluster.toList := by
      rw [buildClusterPrefix_toList, buildClusterKey_toList] at split
      simpa using split
    have left : '/' ∈ rest.dropWhile (· == '/') := by
      rcases Nat.lt_trichotomy ns.toList.length other.toList.length with longer | equal | shorter
      · exact slash_left same longer
      · rw [List.append_assoc] at same
        exact absurd (String.toList_inj.mp (List.append_inj same equal).1).symm distinct
      · exact absurd (marker_before_slash same shorter) plain
    have low : '/'.toNat < 128 := by decide
    have shown : slash ∈ ((String.utf8EncodeChar c).drop 1 ++ bytes rest).dropWhile (· == slash) := by
      rw [List.dropWhile_append]
      split
      · rw [slash, dropWhile_bytes low, mem_bytes low]
        exact left
      · exact List.mem_append_right _ ((mem_bytes low).mpr ((List.dropWhile_sublist _).subset left))
    rw [rawName_below split.symm]
    exact if_pos (List.contains_iff_mem.mpr shown)

theorem isolated_of_plain (unsigned : dialect.signs.Plain ns.toList) (plain : Plain ns) : Isolated dialect ns := by
  intro before row after foreign
  have unshown := shownBelow_hidden (foreign_hidden plain foreign) before after
  simp only [listCluster, list_plain (clusterPrefix_plain.mpr unsigned), unshown]

/-- A single row that the pattern lets through. -/
theorem listCluster_single
    (selected : Like.accepts (dialect.signs.below (buildClusterPrefix ns).toList) key.toList = true)
    (long : Long (buildClusterPrefix ns) key) (named : rawName (buildClusterPrefix ns) key = some name) :
    listCluster dialect ns [(key, value)] = .ok [name] := by
  have listed : list dialect (buildClusterPrefix ns) [(key, value)] = .ok [⟨name, value⟩] := by
    rw [list_eq, List.filter_cons, if_pos selected, List.filter_nil, listRows_ok, List.forall_mem_singleton]
    refine ⟨long, ?_⟩
    have entry : rawEntry (buildClusterPrefix ns) (key, value) = some ⟨name, value⟩ := by
      rw [rawEntry, named]
      rfl
    rw [List.filterMap_cons_some entry, List.filterMap_nil]
  rw [listCluster, listed]
  rfl

/-- With the marker inside the namespace, what is listed below it is another namespace's. -/
theorem foreign_of_marker (unsigned : dialect.signs.Plain ns.toList) (inside : ¬ Plain ns) (value : Value) :
    ∃ key name, Foreign ns key ∧ listCluster dialect ns [(key, value)] = .ok [name] := by
  obtain ⟨before, after, split⟩ := Decidable.not_not.mp inside
  obtain ⟨other, rfl⟩ : ∃ other : String, other.toList = before := ⟨String.ofList before, String.toList_ofList⟩
  have distinct : other ≠ ns := by
    rintro rfl
    simpa [marker] using congrArg List.length split
  have key : buildClusterPrefix ns ++ "/n" = buildClusterKey other (String.ofList (after ++ "cluster/n".toList)) := by
    have cluster : (String.ofList (after ++ "cluster/n".toList)).toList = after ++ "cluster/n".toList :=
      String.toList_ofList
    rw [← String.toList_inj, String.toList_append, buildClusterPrefix_toList, buildClusterKey_toList, cluster,
      ← List.append_assoc _ after, split]
    simp
  have last : bytes (buildClusterPrefix ns ++ "/n").toList =
      (bytes (buildClusterPrefix ns).toList ++ [slash]) ++ [110] := by
    rw [String.toList_append, bytes_append, List.append_assoc]
    rfl
  obtain ⟨long, named⟩ := rawName_last last (List.length_append ..) (by decide)
  refine ⟨_, _, ⟨_, _, distinct, key⟩, listCluster_single ?_ long named⟩
  rw [Like.Signs.below_plain (clusterPrefix_plain.mpr unsigned), Like.accepts_prefix, String.toList_append]
  exact List.prefix_append _ _

/-- Around the items of the namespace the prefix stands for itself. -/
theorem below_clusterPrefix (dialect : Dialect) (ns : String) : dialect.signs.below (buildClusterPrefix ns).toList =
    (nsPrefix.toList.map .exactly ++ .exactly '/' :: ((dialect.signs.scan ns.toList).1 ++
      .exactly '/' :: "cluster".toList.map .exactly)) ++ [.many] := by
  have slash : ¬ dialect.signs.Sign '/' := by cases dialect <;> decide
  have first : dialect.signs.Plain nsPrefix.toList := by cases dialect <;> decide
  have last : dialect.signs.Plain "cluster".toList := by cases dialect <;> decide
  rw [buildClusterPrefix_toList, Like.Signs.below_letter slash, Like.Signs.below_letter slash,
    Like.Signs.scan_plain first, Like.Signs.below_plain last]
  simp only [List.append_assoc, List.cons_append]

/-- The lookalike of a namespace with signs is another namespace, and a cluster of it with
a name long enough for the cut is listed. -/
theorem foreign_of_sign (signed : ¬ dialect.signs.Plain ns.toList) (value : Value) :
    ∃ key name, Foreign ns key ∧ listCluster dialect ns [(key, value)] = .ok [name] := by
  obtain ⟨other, sampled⟩ : ∃ other : String, other.toList = Like.sample 'x' (dialect.signs.scan ns.toList).1 :=
    ⟨String.ofList _, String.toList_ofList⟩
  have spelled : lookalike dialect (buildClusterPrefix ns) = (buildClusterPrefix other).toList := by
    rw [lookalike, below_clusterPrefix, buildClusterPrefix_toList, sampled]
    simp [Like.sample_exactly, Like.Item.sample]
  have distinct : other ≠ ns := by
    intro same
    refine lookalike_ne (mt clusterPrefix_plain.mp signed) ?_
    rw [spelled, same]
  have short := lookalike_length dialect (buildClusterPrefix ns)
  rw [spelled] at short
  -- as many letters as bring the last one behind the cut
  obtain ⟨gap, cut⟩ := Nat.exists_eq_add_of_le short
  obtain ⟨cluster, letters⟩ : ∃ cluster : String, cluster.toList = List.replicate gap 'n' ++ ['n'] :=
    ⟨String.ofList _, String.toList_ofList⟩
  have key : (buildClusterKey other cluster).toList =
      (buildClusterPrefix other).toList ++ ('/' :: List.replicate gap 'n') ++ ['n'] := by
    rw [buildClusterKey_below, letters, List.append_assoc]
    rfl
  have last : bytes (buildClusterKey other cluster).toList =
      bytes ((buildClusterPrefix other).toList ++ ('/' :: List.replicate gap 'n')) ++ [110] := by
    rw [key, bytes_append]
    rfl
  have length : (bytes ((buildClusterPrefix other).toList ++ ('/' :: List.replicate gap 'n'))).length =
      (bytes (buildClusterPrefix ns).toList).length + 1 := by
    have letter : 'n'.utf8Size = 1 ∧ '/'.utf8Size = 1 := by decide
    rw [cut, bytes_append, List.length_append, length_bytes ('/' :: _), List.map_cons, List.map_replicate,
      List.sum_cons, List.sum_replicate_nat, letter.1, letter.2]
    omega
  obtain ⟨long, named⟩ := rawName_last last length (by decide)
  refine ⟨_, _, ⟨other, cluster, distinct, rfl⟩, listCluster_single ?_ long named⟩
  rw [key, List.append_assoc, ← spelled, lookalike, below_clusterPrefix]
  exact Like.accepts_sample_append _ _

theorem plain_of_isolated (isolated : Isolated dialect ns) : dialect.signs.Plain ns.toList ∧ Plain ns := by
  have empty : listCluster dialect ns [] = .ok [] := by
    rw [listCluster, list_eq]
    rfl
  have hidden : ¬ ∃ key name, Foreign ns key ∧ listCluster dialect ns [(key, .text "")] = .ok [name] := by
    rintro ⟨key, name, foreign, listed⟩
    have same := isolated [] (key, .text "") [] foreign
    rw [List.nil_append, List.nil_append, listed, empty] at same
    cases same
  have unsigned : dialect.signs.Plain ns.toList := by
    by_contra signed
    exact hidden (foreign_of_sign signed _)
  refine ⟨unsigned, ?_⟩
  by_contra inside
  exact hidden (foreign_of_marker unsigned inside _)

end Namespaces

/-- The listing is etcd's exactly for prefixes without signs; a namespace is kept apart
from the others exactly if it has no signs and the marker does not begin inside it. -/
theorem pattern_listing (dialect : Dialect) :
    (∀ base, Agrees dialect base ↔ dialect.signs.Plain base.toList) ∧
    ∀ ns, Isolated dialect ns ↔ dialect.signs.Plain ns.toList ∧ Plain ns :=
  ⟨fun _ => ⟨plain_of_agrees, agrees_of_plain⟩,
    fun _ => ⟨plain_of_isolated, fun plain => isolated_of_plain plain.1 plain.2⟩⟩

/-- Namespace `a_b` lists a cluster of `axb`, which etcd does not; a prefix with `%` makes
the listing panic on a key that the sign for any text makes shorter. -/
theorem pattern_listing_lookalikes :
    listCluster .standard "a_b" [(buildClusterKey "axb" "c", .text "")] = .ok [bytes "c".toList] ∧
    listCluster .postgresql "a_b" [(buildClusterKey "axb" "c", .text "")] = .ok [bytes "c".toList] ∧
    Etcd.list (buildClusterPrefix "a_b") ((∅ : KV).insert (buildClusterKey "axb" "c") (.text "")) = .ok [] ∧
    list .standard "a%b" [("ab", .text "")] = .error .panicked ∧
    list .postgresql "a%b" [("ab", .text "")] = .error .panicked ∧
    Etcd.list "a%b" ((∅ : KV).insert "ab" (.text "")) = .ok [] := by
  exact ⟨by decide +kernel, by decide +kernel, by rfl, by rfl, by rfl, by rfl⟩

end Kvrocks.Postgresql
