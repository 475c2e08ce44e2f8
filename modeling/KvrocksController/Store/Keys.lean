import KvrocksController.Store.ClusterStore
import Mathlib.Data.List.Infix

/-! The keys of namespaces and clusters. A key does not tell where a namespace ends
and a cluster name begins, so two records can share one; names without a slash keep
them apart, and are also the ones that a listing shows. -/
namespace Kvrocks

def NoSlash (name : String) : Prop := '/' ∉ name.toList

instance (name : String) : Decidable (NoSlash name) := inferInstanceAs (Decidable (_ ∉ _))

/-- What stands between a namespace and a cluster name in a key. -/
def marker : List Char := ['/', 'c', 'l', 'u', 's', 't', 'e', 'r', '/']

/-- The marker does not begin inside the namespace. -/
def Plain (ns : String) : Prop := ¬ marker <:+: ns.toList ++ ['/']

instance (ns : String) : Decidable (Plain ns) := inferInstanceAs (Decidable (¬ _))

theorem slash_toList : "/".toList = ['/'] := rfl

theorem marker_eq : marker = "/cluster".toList ++ ['/'] := rfl

theorem appendPrefix_toList (ns : String) : (appendPrefix ns).toList = nsPrefix.toList ++ '/' :: ns.toList := by
  rw [appendPrefix, String.toList_append, String.toList_append, slash_toList, List.append_assoc]
  rfl

theorem buildClusterKey_toList (ns cluster : String) :
    (buildClusterKey ns cluster).toList = nsPrefix.toList ++ '/' :: (ns.toList ++ marker ++ cluster.toList) := by
  simp only [buildClusterKey, buildClusterPrefix, String.toList_append, slash_toList, marker_eq, List.append_assoc,
    List.cons_append, List.nil_append]

theorem appendPrefix_inj : appendPrefix ns = appendPrefix other ↔ ns = other := by
  rw [← String.toList_inj, ← String.toList_inj, appendPrefix_toList, appendPrefix_toList]
  simp

/-- A key is a cluster's and a namespace's at once when the namespace spells out both. -/
theorem buildClusterKey_eq_appendPrefix :
    buildClusterKey ns cluster = appendPrefix other ↔ other.toList = ns.toList ++ marker ++ cluster.toList := by
  rw [← String.toList_inj, buildClusterKey_toList, appendPrefix_toList]
  simp [eq_comm]

theorem buildClusterKey_eq :
    buildClusterKey ns cluster = buildClusterKey ns' cluster' ↔
      ns.toList ++ marker ++ cluster.toList = ns'.toList ++ marker ++ cluster'.toList := by
  rw [← String.toList_inj, buildClusterKey_toList, buildClusterKey_toList]
  simp

theorem Plain.ne_clusterKey (plain : Plain other) : buildClusterKey ns cluster ≠ appendPrefix other := by
  intro same
  rw [buildClusterKey_eq_appendPrefix] at same
  refine plain ⟨ns.toList, cluster.toList ++ ['/'], ?_⟩
  rw [same]
  simp

theorem NoSlash.plain (noSlash : NoSlash ns) : Plain ns := by
  rintro ⟨before, after, split⟩
  have inner := congrArg List.dropLast split
  rw [List.dropLast_concat, marker, List.append_assoc, List.cons_append,
    List.dropLast_append_of_ne_nil (by simp), List.cons_append, List.dropLast_cons_cons] at inner
  exact noSlash (inner ▸ by simp)

/-- A name with a slash behind it, read again as a shorter name with the marker behind it:
the marker begins inside the longer name, or is the longer name's end and the slash. -/
theorem marker_before_slash {a b c d : List Char} (same : a ++ '/' :: c = b ++ marker ++ d)
    (shorter : b.length < a.length) : marker <:+: a ++ ['/'] := by
  rw [List.append_assoc, List.append_eq_append_iff] at same
  obtain ⟨gap, longer, _⟩ | ⟨gap, rfl, rest⟩ := same
  · rw [longer, List.length_append] at shorter
    omega
  have nonempty : 0 < gap.length := by
    rw [List.length_append] at shorter
    omega
  have slash : (marker ++ d)[gap.length]? = some '/' := by
    rw [rest, List.getElem?_append_right (Nat.le_refl _), Nat.sub_self]
    rfl
  have far : 8 ≤ gap.length := by
    by_contra near
    have letter : ∀ k < 8, 0 < k → marker[k]? ≠ some '/' := by decide
    rw [List.getElem?_append_left (by simp only [marker, List.length_cons, List.length_nil]; omega)] at slash
    exact letter gap.length (by omega) nonempty slash
  have whole : gap ++ ['/'] <+: marker ++ d := ⟨c, by rw [rest]; simp⟩
  have inside : marker <+: gap ++ ['/'] := by
    refine List.prefix_of_prefix_length_le (List.prefix_append marker d) whole ?_
    simp only [marker, List.length_append, List.length_cons, List.length_nil]
    omega
  obtain ⟨rest, ends⟩ := inside
  exact ⟨b, rest, by rw [List.append_assoc, List.append_assoc, ends]⟩

theorem marker_inside {a b c d : List Char} (same : a ++ marker ++ c = b ++ marker ++ d)
    (shorter : b.length < a.length) : marker <:+: a ++ ['/'] := by
  have slash : a ++ '/' :: (marker.tail ++ c) = b ++ marker ++ d := by
    rw [← same, List.append_assoc]
    rfl
  exact marker_before_slash slash shorter

/-- Plain namespaces: a key belongs to one cluster only. -/
theorem Plain.clusterKey_inj (plain : Plain ns) (plain' : Plain ns')
    (same : buildClusterKey ns cluster = buildClusterKey ns' cluster') : ns = ns' ∧ cluster = cluster' := by
  rw [buildClusterKey_eq] at same
  rcases Nat.lt_trichotomy ns.toList.length ns'.toList.length with shorter | equal | longer
  · exact absurd (marker_inside same.symm shorter) plain'
  · obtain ⟨front, back⟩ := List.append_inj same (by simp [equal])
    exact ⟨String.toList_inj.mp (List.append_cancel_right front), String.toList_inj.mp back⟩
  · exact absurd (marker_inside same longer) plain

/-- A plain namespace with a name without a slash: no other pair has this key. -/
theorem Plain.clusterKey_unique (plain : Plain ns) (noSlash : NoSlash cluster)
    (same : buildClusterKey ns cluster = buildClusterKey ns' cluster') : ns' = ns ∧ cluster' = cluster := by
  rw [buildClusterKey_eq] at same
  rcases Nat.lt_trichotomy ns.toList.length ns'.toList.length with shorter | equal | longer
  · -- the other reading's marker ends with a slash beyond this one's
    exfalso
    have slash : (ns'.toList ++ marker ++ cluster'.toList)[ns'.toList.length + 8]? = some '/' := by
      rw [List.append_assoc, List.getElem?_append_right (by omega), Nat.add_sub_cancel_left]
      rfl
    rw [← same, List.getElem?_append_right (by simp [marker]; omega)] at slash
    exact noSlash (List.mem_of_getElem? slash)
  · obtain ⟨front, back⟩ := List.append_inj same (by simp [equal])
    exact ⟨(String.toList_inj.mp (List.append_cancel_right front)).symm, (String.toList_inj.mp back).symm⟩
  · exact absurd (marker_inside same longer) plain

end Kvrocks
