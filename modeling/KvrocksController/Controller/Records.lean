import KvrocksController.Concurrency.Orphans
import KvrocksController.Controller.Pending
import KvrocksController.Store.Listing

/-! The stored clusters, as the events tell of them: over a store in order, a call creates
or removes exactly the cluster that its event names. -/
namespace Kvrocks.Controller
open ClusterStore
open Orphans (Present present_insert present_erase)

def Stored (kv : KV) (ns cluster : String) : Prop := ∃ value, kv[Kvrocks.buildClusterKey ns cluster]? = some value

/-- No name has a slash, and every cluster's namespace is there. -/
structure Orderly (kv : KV) : Prop where
  tidy : Tidy kv
  spaced : ∀ ns cluster, Stored kv ns cluster → Present kv ns

/-- The call names what a listing shows, creates clusters in a namespace only, and hears
how its write ended. -/
def Op.Fits (kv : KV) (faults : Faults) : Op → Prop
  | createNamespace ns | removeNamespace ns => NoSlash ns
  | createCluster ns object =>
    NoSlash ns ∧ NoSlash object.name ∧ Present kv ns ∧ ∀ err, faults.write ≠ .unacknowledged err
  | removeCluster _ _ => ∀ err, faults.write ≠ .unacknowledged err
  | updateCluster _ _ | setCluster _ _ => True

/-- A controller's key, too, belongs to one cluster only. -/
theorem key_unique (plainNs : NoSlash ns) (plainName : NoSlash cluster)
    (same : buildClusterKey ns' cluster' = buildClusterKey ns cluster) : ns' = ns ∧ cluster' = cluster := by
  have texts := congrArg String.toList same
  simp only [buildClusterKey, String.toList_append, slash_toList, List.append_assoc, List.singleton_append] at texts
  have slashes := congrArg (List.count '/') texts
  simp only [List.count_append, List.count_cons_self, List.count_eq_zero_of_not_mem plainNs,
    List.count_eq_zero_of_not_mem plainName] at slashes
  have plainNs' : NoSlash ns' := List.count_eq_zero.mp (by omega)
  obtain ⟨front, back⟩ := slash_inj plainNs' plainNs texts
  exact ⟨String.toList_inj.mp front, String.toList_inj.mp back⟩

section Keys
variable {kv : KV}

theorem stored_insert (plain : Plain own) (noSlash : NoSlash name) :
    Stored (kv.insert (Kvrocks.buildClusterKey own name) value) ns cluster ↔
      (ns = own ∧ cluster = name) ∨ Stored kv ns cluster := by
  rw [Stored, Std.ExtTreeMap.getElem?_insert]
  split
  · rename_i same
    have pair := plain.clusterKey_unique noSlash (Std.LawfulEqOrd.compare_eq_iff_eq.mp same)
    exact ⟨fun _ => .inl pair, fun _ => ⟨value, rfl⟩⟩
  · rename_i other
    constructor
    · exact .inr
    · rintro (⟨rfl, rfl⟩ | there)
      · exact absurd Std.ReflCmp.compare_self other
      · exact there

theorem stored_erase (plain : Plain own) (noSlash : NoSlash name) :
    Stored (kv.erase (Kvrocks.buildClusterKey own name)) ns cluster ↔
      ¬ (ns = own ∧ cluster = name) ∧ Stored kv ns cluster := by
  rw [Stored, Std.ExtTreeMap.getElem?_erase]
  split
  · rename_i same
    have pair := plain.clusterKey_unique noSlash (Std.LawfulEqOrd.compare_eq_iff_eq.mp same)
    simp [pair]
  · rename_i other
    constructor
    · intro there
      refine ⟨?_, there⟩
      rintro ⟨rfl, rfl⟩
      exact other Std.ReflCmp.compare_self
    · exact And.right

theorem stored_insert_namespace (plain : Plain own) :
    Stored (kv.insert (appendPrefix own) value) ns cluster ↔ Stored kv ns cluster := by
  have other : ¬ compare (appendPrefix own) (Kvrocks.buildClusterKey ns cluster) = .eq :=
    fun same => plain.ne_clusterKey (Std.LawfulEqOrd.compare_eq_iff_eq.mp same).symm
  rw [Stored, Std.ExtTreeMap.getElem?_insert, if_neg other, Stored]

theorem stored_erase_namespace (plain : Plain own) :
    Stored (kv.erase (appendPrefix own)) ns cluster ↔ Stored kv ns cluster := by
  have other : ¬ compare (appendPrefix own) (Kvrocks.buildClusterKey ns cluster) = .eq :=
    fun same => plain.ne_clusterKey (Std.LawfulEqOrd.compare_eq_iff_eq.mp same).symm
  rw [Stored, Std.ExtTreeMap.getElem?_erase, if_neg other, Stored]

end Keys

namespace Orderly
variable {kv : KV}

theorem plain (orderly : Orderly kv) (stored : Stored kv ns cluster) : NoSlash ns ∧ NoSlash cluster := by
  obtain ⟨value, here⟩ := stored
  rcases orderly.tidy _ _ here with ⟨other, noSlash, same⟩ | ⟨other, name, noSlash, named, same⟩
  · exact absurd same noSlash.plain.ne_clusterKey
  · obtain ⟨rfl, rfl⟩ := noSlash.plain.clusterKey_unique named same.symm
    exact ⟨noSlash, named⟩

theorem insert_cluster (orderly : Orderly kv) (plain : NoSlash own) (named : NoSlash name) (there : Present kv own) :
    Orderly (kv.insert (Kvrocks.buildClusterKey own name) value) := by
  constructor
  · exact tidy_insert orderly.tidy (.inr ⟨own, name, plain, named, rfl⟩)
  · intro ns cluster stored
    rcases (stored_insert plain.plain named).mp stored with ⟨rfl, _⟩ | before
    · exact present_insert there
    · exact present_insert (orderly.spaced ns cluster before)

theorem erase_cluster (orderly : Orderly kv) (plain : NoSlash own) (named : NoSlash name) :
    Orderly (kv.erase (Kvrocks.buildClusterKey own name)) := by
  constructor
  · exact tidy_erase orderly.tidy
  · intro ns cluster stored
    have before := ((stored_erase plain.plain named).mp stored).2
    exact present_erase (orderly.spaced ns cluster before) (orderly.plain before).1.plain.ne_clusterKey

theorem insert_namespace (orderly : Orderly kv) (plain : NoSlash own) : Orderly (kv.insert (appendPrefix own) value) := by
  constructor
  · exact tidy_insert orderly.tidy (.inl ⟨own, plain, rfl⟩)
  · intro ns cluster stored
    exact present_insert (orderly.spaced ns cluster ((stored_insert_namespace plain.plain).mp stored))

theorem erase_namespace (orderly : Orderly kv) (plain : NoSlash own) (empty : ∀ cluster, ¬ Stored kv own cluster) :
    Orderly (kv.erase (appendPrefix own)) := by
  constructor
  · exact tidy_erase orderly.tidy
  · intro ns cluster stored
    have before := (stored_erase_namespace plain.plain).mp stored
    refine present_erase (orderly.spaced ns cluster before) fun same => ?_
    obtain rfl := appendPrefix_inj.mp same
    exact empty cluster before

end Orderly

/-- `said` tells all that became of the stored clusters. -/
structure Told (kv after : KV) (said : String → String → Option Command) : Prop where
  orderly : Orderly after
  plain : ∀ ns cluster command, said ns cluster = some command → NoSlash ns ∧ NoSlash cluster
  named : ∀ ns cluster command, said ns cluster = some command → (Stored after ns cluster ↔ command = .create)
  others : ∀ ns cluster, said ns cluster = none → (Stored after ns cluster ↔ Stored kv ns cluster)

namespace Told
variable {kv after : KV}

theorem silent (orderly : Orderly after) (quiet : ∀ ns cluster, said ns cluster = none)
    (same : ∀ ns cluster, Stored after ns cluster ↔ Stored kv ns cluster) : Told kv after said := by
  constructor
  · exact orderly
  · intro ns cluster command told
    rw [quiet ns cluster] at told
    cases told
  · intro ns cluster command told
    rw [quiet ns cluster] at told
    cases told
  · exact fun ns cluster _ => same ns cluster

theorem failed {op : Op} (orderly : Orderly kv) : Told kv kv (op.tells (some err)) :=
  silent orderly (fun _ _ => rfl) fun _ _ => Iff.rfl

/-- A stored record is replaced. -/
theorem replaced (orderly : Orderly kv) (quiet : ∀ ns cluster, said ns cluster = none) (stored : Stored kv own name) :
    Told kv (kv.insert (Kvrocks.buildClusterKey own name) value) said := by
  obtain ⟨plain, named⟩ := orderly.plain stored
  refine silent (orderly.insert_cluster plain named (orderly.spaced own name stored)) quiet fun ns cluster => ?_
  rw [stored_insert plain.plain named]
  constructor
  · rintro (⟨rfl, rfl⟩ | before)
    · exact stored
    · exact before
  · exact .inr

/-- One cluster is told of. -/
theorem one (orderly : Orderly after) (plain : NoSlash own) (noSlash : NoSlash name)
    (said : ∀ ns cluster, tells ns cluster = if own = ns ∧ name = cluster then some command else none)
    (named : Stored after own name ↔ command = .create)
    (others : ∀ ns cluster, ¬ (ns = own ∧ cluster = name) → (Stored after ns cluster ↔ Stored kv ns cluster)) :
    Told kv after tells := by
  constructor
  · exact orderly
  · intro ns cluster other told
    obtain ⟨⟨rfl, rfl⟩, _⟩ := Option.ite_none_right_eq_some.mp ((said ns cluster).symm.trans told)
    exact ⟨plain, noSlash⟩
  · intro ns cluster other told
    obtain ⟨⟨rfl, rfl⟩, same⟩ := Option.ite_none_right_eq_some.mp ((said ns cluster).symm.trans told)
    obtain rfl := Option.some.inj same
    exact named
  · intro ns cluster nothing
    refine others ns cluster ?_
    rintro ⟨rfl, rfl⟩
    rw [said, if_pos ⟨rfl, rfl⟩] at nothing
    cases nothing

end Told

theorem stored_of_read {kv : KV} (read : getClusterWithoutLock (flat .none) ns name kv = .ok old) : Stored kv ns name := by
  obtain ⟨value, got, _⟩ := getClusterWithoutLock_ok.mp read
  exact ⟨value, (flat_get_ok.mp got).2⟩

namespace Op
variable {kv after : KV} {op : Op}

/-- Events of namespaces and of updates tell nothing of a cluster's existence. -/
theorem tells_nothing (op : Op) (quiet : ∀ e, op.event = some e → e.type = .eventNamespace ∨ e.command = .update)
    (err : Option Error) (ns cluster : String) : op.tells err ns cluster = none := by
  unfold tells
  split
  · cases event : op.event with
    | none => rfl
    | some e =>
      rcases quiet e event with type | command
      · simp [EventPayload.about, type]
      · simp [EventPayload.about, command]
  · rfl

theorem createNamespace_told (orderly : Orderly kv) (plain : NoSlash own)
    (done : (createNamespace own).perform faults kv = (after, err)) : Told kv after ((createNamespace own).tells err) := by
  have quiet := tells_nothing (createNamespace own) (by rintro e ⟨⟩; exact .inl rfl) err
  obtain rfl : _ = after := congrArg Prod.fst done
  rcases etcd_createNamespace_cases faults own kv with same | inserted
  · rw [perform, same]
    exact .silent orderly quiet fun _ _ => Iff.rfl
  · rw [perform, inserted]
    exact .silent (orderly.insert_namespace plain) quiet fun _ _ => stored_insert_namespace plain.plain

theorem removeNamespace_told (orderly : Orderly kv) (plain : NoSlash own)
    (done : (removeNamespace own).perform faults kv = (after, err)) : Told kv after ((removeNamespace own).tells err) := by
  have quiet := tells_nothing (removeNamespace own) (by rintro e ⟨⟩; exact .inl rfl) err
  obtain rfl : _ = after := congrArg Prod.fst done
  rcases etcd_removeNamespace_cases faults own kv with same | ⟨listed, erased⟩
  · rw [perform, same]
    exact .silent orderly quiet fun _ _ => Iff.rfl
  · have empty (cluster : String) : ¬ Stored kv own cluster := by
      intro stored
      have shown := listCluster_complete listed (orderly.plain stored).2 stored.choose_spec
      cases shown
    rw [perform, erased]
    exact .silent (orderly.erase_namespace plain empty) quiet fun _ _ => stored_erase_namespace plain.plain

theorem updateCluster_told (orderly : Orderly kv) (done : (updateCluster own object).perform faults kv = (after, err)) :
    Told kv after ((updateCluster own object).tells err) := by
  have quiet := tells_nothing (updateCluster own object) (by rintro e ⟨⟩; exact .inr rfl) err
  simp only [perform, etcd_updateCluster] at done
  rcases flat_updateCluster_cases faults own kv object with ⟨version, failure, refused⟩ | ⟨old, failure, read, _, written⟩
  · rw [refused] at done
    cases done
    exact .failed orderly
  · rw [written] at done
    cases done
    exact .replaced orderly quiet (stored_of_read read)

theorem setCluster_told (orderly : Orderly kv) (done : (setCluster own object).perform faults kv = (after, err)) :
    Told kv after ((setCluster own object).tells err) := by
  have quiet := tells_nothing (setCluster own object) nofun err
  rcases flat_setCluster_cases faults own kv object with ⟨failure, refused⟩ | ⟨old, failure, read, _, written⟩
  · cases refused.symm.trans done
    exact .failed orderly
  · cases written.symm.trans done
    exact .replaced orderly quiet (stored_of_read read)

/-- A creation or removal tells of its own cluster only. -/
theorem tells_own (event : op.event = some ⟨own, name, .eventCluster, command⟩) (lasting : command ≠ .update) :
    op.tells none ns cluster = if own = ns ∧ name = cluster then some command else none := by
  simp [tells, event, EventPayload.about, lasting]

theorem createCluster_told (orderly : Orderly kv) (fits : (createCluster own object).Fits kv faults)
    (done : (createCluster own object).perform faults kv = (after, err)) :
    Told kv after ((createCluster own object).tells err) := by
  obtain ⟨plain, named, there, acknowledged⟩ := fits
  simp only [perform, ClusterStore.createCluster] at done
  split at done
  · cases done
    exact .failed orderly
  · rcases finish_acknowledged acknowledged kv
      (kv.insert (Kvrocks.buildClusterKey own object.name) (.json object.marshalJSON)) with ⟨failure, refused⟩ | written
    · cases refused.symm.trans done
      exact .failed orderly
    · cases written.symm.trans done
      refine .one (orderly.insert_cluster plain named there) plain named (fun _ _ => tells_own rfl (by decide)) ?_ ?_
      · simp [stored_insert plain.plain named]
      · intro ns cluster other
        simp [stored_insert plain.plain named, other]

theorem removeCluster_told (orderly : Orderly kv) (fits : (removeCluster own name).Fits kv faults)
    (done : (removeCluster own name).perform faults kv = (after, err)) :
    Told kv after ((removeCluster own name).tells err) := by
  rcases flat_removeCluster_cases faults own name kv with ⟨failure, refused⟩ | ⟨stored, _⟩
  · cases refused.symm.trans done
    exact .failed orderly
  obtain ⟨plain, named⟩ := orderly.plain stored
  simp only [perform, ClusterStore.removeCluster] at done
  split at done
  · cases done
    exact .failed orderly
  · rcases finish_acknowledged fits kv (kv.erase (Kvrocks.buildClusterKey own name)) with ⟨failure, refused⟩ | written
    · cases refused.symm.trans done
      exact .failed orderly
    · cases written.symm.trans done
      refine .one (orderly.erase_cluster plain named) plain named (fun _ _ => tells_own rfl (by decide)) ?_ ?_
      · simp [stored_erase plain.plain named]
      · intro ns cluster other
        simp [stored_erase plain.plain named, other]

theorem perform_told (orderly : Orderly kv) (fits : op.Fits kv faults) (done : op.perform faults kv = (after, err)) :
    Told kv after (op.tells err) := by
  cases op with
  | createNamespace => exact createNamespace_told orderly fits done
  | removeNamespace => exact removeNamespace_told orderly fits done
  | createCluster => exact createCluster_told orderly fits done
  | removeCluster => exact removeCluster_told orderly fits done
  | updateCluster => exact updateCluster_told orderly done
  | setCluster => exact setCluster_told orderly done

end Op
end Kvrocks.Controller
