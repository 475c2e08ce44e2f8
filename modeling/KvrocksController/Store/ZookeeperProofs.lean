import KvrocksController.Lib.Fallible
import KvrocksController.Store.Listing
import KvrocksController.Store.Zookeeper
import Mathlib.Data.List.TakeWhile

/-! What the Zookeeper engine's calls do to the tree, and where the store's keys stand
in it: namespaces on the third level, the node that holds a namespace's clusters on the
fourth, clusters on the fifth. -/
namespace Kvrocks
open PathTree

section Levels

/-- The level of a path that starts with a slash. -/
def level (path : String) : Nat := path.toList.count '/'

theorem nodeName_noSlash (path : String) : NoSlash (nodeName path) := by
  intro slash
  rw [nodeName, String.toList_ofList, List.mem_reverse] at slash
  simpa using List.mem_takeWhile_imp slash

theorem level_parent (parent : parentPath path = some above) : level path = level above + 1 := by
  have name : (nodeName path).toList.count '/' = 0 := List.count_eq_zero.mpr (nodeName_noSlash path)
  rw [level, parentPath_split parent, List.count_append, List.count_cons_self, name, level]

theorem level_above (reached : Above parentPath above path) : level above < level path := by
  induction reached with
  | single parent =>
    rw [level_parent parent]
    omega
  | tail _ parent ih =>
    rw [level_parent parent]
    omega

theorem parent_inj (parent : parentPath path = some above) (parent' : parentPath path' = some above)
    (same : nodeName path = nodeName path') : path = path' := by
  rw [← String.toList_inj, parentPath_split parent, parentPath_split parent', same]

theorem appendPrefix_parent (noSlash : NoSlash ns) :
    parentPath (appendPrefix ns) = some nsPrefix ∧ nodeName (appendPrefix ns) = ns :=
  parentPath_below (appendPrefix_toList ns) noSlash (by decide)

theorem buildClusterPrefix_parent (ns : String) : parentPath (buildClusterPrefix ns) = some (appendPrefix ns) := by
  have split : (buildClusterPrefix ns).toList = (appendPrefix ns).toList ++ '/' :: "cluster".toList := by
    rw [buildClusterPrefix_toList, appendPrefix_toList]
    simp
  refine (parentPath_below split (by decide) ?_).1
  intro empty
  simpa [appendPrefix_toList] using congrArg String.toList empty

theorem buildClusterKey_parent (ns : String) (noSlash : NoSlash name) :
    parentPath (buildClusterKey ns name) = some (buildClusterPrefix ns) ∧ nodeName (buildClusterKey ns name) = name := by
  refine parentPath_below (buildClusterKey_below ns name) noSlash ?_
  intro empty
  simpa [buildClusterPrefix_toList] using congrArg String.toList empty

theorem level_appendPrefix (noSlash : NoSlash ns) : level (appendPrefix ns) = 3 :=
  level_parent (appendPrefix_parent noSlash).1

theorem level_buildClusterPrefix (noSlash : NoSlash ns) : level (buildClusterPrefix ns) = 4 := by
  rw [level_parent (buildClusterPrefix_parent ns), level_appendPrefix noSlash]

theorem level_buildClusterKey (plain : NoSlash ns) (noSlash : NoSlash name) : level (buildClusterKey ns name) = 5 := by
  rw [level_parent (buildClusterKey_parent ns noSlash).1, level_buildClusterPrefix plain]

theorem buildClusterPrefix_inj (same : buildClusterPrefix ns = buildClusterPrefix other) : ns = other := by
  have parents := buildClusterPrefix_parent ns
  rw [same, buildClusterPrefix_parent other] at parents
  exact appendPrefix_inj.mp (Option.some.inj parents).symm

end Levels

namespace Zookeeper
variable {t : Znodes}

theorem create_eq (key : String) (value : Value) (t : Znodes) :
    create key value t = match parentPath key with
      | none => answered t (t.create key value)
      | some substring =>
        if substring ∈ t.nodes then answered t (t.create key value)
        else
          match create substring noData t with
          | (t, some err) => (t, some err)
          | (t, none) => answered t (t.create key value) := by
  rw [create]
  split
  · rename_i top
    rw [top]
  · rename_i substring parent
    rw [parent]
    dsimp only
    generalize create substring noData t = made
    obtain ⟨left, err⟩ := made
    cases err with
    | none => simp [existsKey, ClusterStore.found]
    | some err => simp [existsKey, ClusterStore.found]

/-- A new key and the missing nodes above it are all that `Create` makes. -/
structure Created (key : String) (value : Value) (t t' : Znodes) : Prop where
  own : t'.nodes[key]? = some value
  others : ∀ other, other ≠ key → t'.nodes[other]? = t.nodes[other]? ∨
    other ∉ t.nodes ∧ Above parentPath other key ∧ t'.nodes[other]? = some noData

theorem created_below (value : Value) (absent : key ∉ t.nodes)
    (grounded : ∀ above, parentPath key = some above → above ∈ t.nodes) :
    ∃ t', answered t (t.create key value) = (t', none) ∧ Created key value t t' := by
  obtain ⟨t', made, nodes⟩ := create_absent value absent grounded
  refine ⟨t', by rw [made]; rfl, ?_, fun other distinct => .inl ?_⟩
  · rw [nodes, Std.ExtTreeMap.getElem?_insert_self]
  · rw [nodes, Std.ExtTreeMap.getElem?_insert, if_neg]
    simpa using Ne.symm distinct

theorem create_ok (value : Value) (absent : key ∉ t.nodes) :
    ∃ t', create key value t = (t', none) ∧ Created key value t t' := by
  induction size : key.length using Nat.strong_induction_on generalizing key value with
  | _ n ih =>
    rw [create_eq]
    split
    · rename_i top
      exact created_below value absent fun above parent => by cases top.symm.trans parent
    · rename_i substring parent
      have only (above) (up : parentPath key = some above) : above = substring :=
        Option.some.inj (up.symm.trans parent)
      split
      · rename_i present
        exact created_below value absent fun above up => only above up ▸ present
      · rename_i missing
        obtain ⟨middle, made, created⟩ := ih _ (size ▸ parentPath_shorter parent) noData missing rfl
        have free : key ∉ middle.nodes := by
          have higher := level_parent parent
          rcases created.others key (fun same => by rw [same] at higher; omega) with same | ⟨_, reached, _⟩
          · rw [mem_iff_stored, same, ← mem_iff_stored]
            exact absent
          · have := level_above reached
            omega
        have grounded : substring ∈ middle.nodes := mem_iff_stored.mpr ⟨_, created.own⟩
        obtain ⟨t', done, last⟩ := created_below value free fun above up => only above up ▸ grounded
        refine ⟨t', by rw [made]; exact done, last.own, fun other distinct => ?_⟩
        rcases last.others other distinct with kept | ⟨fresh, reached, _⟩
        · rw [kept]
          by_cases own : other = substring
          · subst own
            exact .inr ⟨missing, .single parent, created.own⟩
          · exact (created.others other own).imp id fun ⟨fresh, reached, empty⟩ => ⟨fresh, reached.tail parent, empty⟩
        · -- nothing above the key was missing any more
          rcases (above_iff parent).mp reached with rfl | reached
          · exact absurd grounded fresh
          · exact absurd (above_mem middle reached grounded) fresh

/-- The names of the nodes one level below. -/
def below (base : String) (t : Znodes) : List String :=
  (t.nodes.keys.filter (parentPath · = some base)).map nodeName

theorem mem_below : name ∈ below base t ↔ ∃ key ∈ t.nodes, parentPath key = some base ∧ nodeName key = name := by
  simp only [below, List.mem_map, List.mem_filter, Std.ExtTreeMap.mem_keys, decide_eq_true_eq, and_assoc]

theorem below_nodup (base : String) (t : Znodes) : (below base t).Nodup := by
  rw [below, List.Nodup, List.pairwise_map]
  refine (Std.ExtTreeMap.nodup_keys.filter _).imp_of_mem ?_
  intro key key' member member' distinct same
  have parent {key : String} (member : key ∈ t.nodes.keys.filter (parentPath · = some base)) :
      parentPath key = some base := by simpa using (List.mem_filter.mp member).2
  exact distinct (parent_inj (parent member) (parent member') same)

theorem below_absent (absent : base ∉ t.nodes) : below base t = [] := by
  refine List.eq_nil_iff_forall_not_mem.mpr fun name member => ?_
  obtain ⟨key, present, parent, _⟩ := mem_below.mp member
  exact absent (t.rooted key base present parent)

theorem get_child (member : name ∈ below base t) : ∃ data, t.get (base ++ "/" ++ name) = .ok data := by
  obtain ⟨key, present, parent, rfl⟩ := mem_below.mp member
  have path : base ++ "/" ++ nodeName key = key := by
    rw [← String.toList_inj, parentPath_split parent]
    simp
  rw [path]
  obtain ⟨data, found⟩ := mem_iff_stored.mp present
  exact ⟨data, get_ok.mpr found⟩

/-- A listing shows the nodes below, each once, in the order Zookeeper chose. -/
theorem list_ok (arranged : ∀ l, (arrange l).Perm l) (base : String) (t : Znodes) :
    ∃ entries, list arrange base t = .ok entries ∧ (entries.map (·.key)).Perm (below base t) := by
  by_cases present : base ∈ t.nodes
  · have children : t.children base = .ok (t.nodes.keys.filter (parentPath · = some base)) := if_pos present
    obtain ⟨entries, looped⟩ : ∃ entries, list arrange base t = .ok entries := by
      rw [list, children]
      refine mapM_ok fun name member => ?_
      obtain ⟨data, read⟩ := get_child ((arranged _).mem_iff.mp member)
      exact ⟨⟨name, data⟩, by rw [read]⟩
    refine ⟨entries, looped, ?_⟩
    rw [list, children] at looped
    have named : entries.map (·.key) = arrange (below base t) := mapM_origins looped fun name entry read => by
      split at read
      · cases read
      · exact Except.ok.inj read ▸ rfl
    rw [named]
    exact arranged _
  · refine ⟨[], ?_, by rw [below_absent present]; rfl⟩
    have children : t.children base = .error .noNode := if_neg present
    rw [list, children]

theorem delete_ok (present : key ∈ t.nodes) (bare : ∀ other ∈ t.nodes, parentPath other ≠ some key) :
    ∃ t', delete key t = (t', none) ∧ t'.nodes = t.nodes.erase key := by
  obtain ⟨t', done, nodes⟩ := delete_bare present bare
  exact ⟨t', by rw [delete, done]; rfl, nodes⟩

/-- `Set` writes the key, and makes what is missing above it. -/
theorem set_ok (key : String) (value : Value) (t : Znodes) :
    ∃ t', set key value t = (t', none) ∧ Created key value t t' := by
  by_cases present : key ∈ t.nodes
  · obtain ⟨t', done, nodes⟩ := set_present value present
    refine ⟨t', ?_, ?_, fun other distinct => .inl ?_⟩
    · simp only [set, existsKey, ClusterStore.found, present, decide_true, if_true, done]
      rfl
    · rw [nodes, Std.ExtTreeMap.getElem?_insert_self]
    · rw [nodes, Std.ExtTreeMap.getElem?_insert, if_neg]
      simpa using Ne.symm distinct
  · obtain ⟨t', done, created⟩ := create_ok value present
    exact ⟨t', by simpa [set, existsKey, ClusterStore.found, present] using done, created⟩

end Zookeeper
end Kvrocks
