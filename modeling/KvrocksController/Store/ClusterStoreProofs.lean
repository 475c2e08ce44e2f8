import KvrocksController.Lib.Strconv
import KvrocksController.Store.ClusterStore
import KvrocksController.Store.CodecProofs

/-! What the store calls can do: which reads they make, when they write, and what. -/
namespace Kvrocks
open Kvrocks.Strconv

theorem nextVersion_eq (lower : -(maxInt64 + 1) ≤ v) (upper : v < maxInt64) : nextVersion v = v + 1 := by
  simp only [maxInt64] at lower upper
  unfold nextVersion
  rw [Int.bmod_eq_of_le] <;> omega

namespace ClusterStore
variable {σ : Type} {e : Engine σ}

theorem decode_marshal_header (decoded : decode (.json (Cluster.marshalJSON cluster)) = .ok c) :
    c.name = cluster.name ∧ c.version = cluster.version :=
  Cluster.unmarshal_marshal_header decoded

theorem updateCluster_outcome (e : Engine σ) (ns : String) (s : σ) (object : Cluster) :
    (∃ err, getClusterWithoutLock e ns object.name s = .error err ∧
        updateCluster e ns s object = ⟨s, object.version, some err⟩) ∨
      ∃ old, getClusterWithoutLock e ns object.name s = .ok old ∧
        (object.version < old.version ∧ updateCluster e ns s object = ⟨s, object.version, some updatedByOthers⟩ ∨
          old.version ≤ object.version ∧ updateCluster e ns s object =
            let written := putCluster e ns { object with version := nextVersion object.version } s
            ⟨written.1, nextVersion object.version, written.2⟩) := by
  unfold updateCluster
  cases getClusterWithoutLock e ns object.name s with
  | error err => exact .inl ⟨err, rfl, rfl⟩
  | ok old =>
    refine .inr ⟨old, rfl, ?_⟩
    dsimp only
    split
    · exact .inl ⟨by omega, rfl⟩
    · exact .inr ⟨by omega, rfl⟩

/-- Either nothing is written, or the stored version was not above the submitted one
and exactly the object with the next version is handed to the engine. -/
theorem updateCluster_cases (e : Engine σ) (ns : String) (s : σ) (object : Cluster) :
    (∃ err, updateCluster e ns s object = ⟨s, object.version, some err⟩) ∨
      ∃ old, getClusterWithoutLock e ns object.name s = .ok old ∧ old.version ≤ object.version ∧
        updateCluster e ns s object =
          let written := putCluster e ns { object with version := nextVersion object.version } s
          ⟨written.1, nextVersion object.version, written.2⟩ := by
  rcases updateCluster_outcome e ns s object with ⟨err, _, failed⟩ | ⟨old, read, ⟨_, refused⟩ | written⟩
  · exact .inl ⟨err, failed⟩
  · exact .inl ⟨_, refused⟩
  · exact .inr ⟨old, read, written⟩

theorem setCluster_cases (e : Engine σ) (ns : String) (s : σ) (object : Cluster) :
    (∃ err, getClusterWithoutLock e ns object.name s = .error err ∧ setCluster e ns object s = (s, some err)) ∨
      ∃ old, getClusterWithoutLock e ns object.name s = .ok old ∧
        (object.version < old.version ∧ setCluster e ns object s = (s, some updatedByOthers) ∨
          old.version ≤ object.version ∧ setCluster e ns object s = putCluster e ns object s) := by
  unfold setCluster
  cases getClusterWithoutLock e ns object.name s with
  | error err => exact .inl ⟨err, rfl, rfl⟩
  | ok old =>
    refine .inr ⟨old, rfl, ?_⟩
    dsimp only
    split
    · exact .inl ⟨by omega, rfl⟩
    · exact .inr ⟨by omega, rfl⟩

theorem getClusterWithoutLock_ok :
    getClusterWithoutLock e ns name s = .ok cluster ↔
      ∃ value, e.get (buildClusterKey ns name) s = .ok value ∧ decode value = .ok cluster := by
  unfold getClusterWithoutLock
  cases read : e.get (buildClusterKey ns name) s with
  | error err => simp
  | ok value =>
    cases decoded : decode value with
    | error err => simp [decoded]
    | ok c => simp [decoded]

theorem flat_get_ok {kv : KV} :
    (flat faults).get key kv = .ok value ↔ faults.read (.get key) = none ∧ kv[key]? = some value := by
  simp only [flat, Faults.reading, orFailed]
  cases faults.read (.get key) with
  | some err => simp
  | none =>
    cases kv[key]? with
    | none => simp
    | some found => simp

/-- A flat engine's write leaves the map alone or puts exactly the record there. -/
theorem flat_put_cases (faults : Faults) (ns : String) (object : Cluster) (kv : KV) :
    (∃ err, faults.write = .refused err ∧ putCluster (flat faults) ns object kv = (kv, some err)) ∨
      (∀ err, faults.write ≠ .refused err) ∧ ∃ err, putCluster (flat faults) ns object kv =
        (kv.insert (buildClusterKey ns object.name) (.json object.marshalJSON), err) := by
  simp only [putCluster, flat, WriteOutcome.finish]
  cases faults.write with
  | done => exact .inr ⟨nofun, _, rfl⟩
  | refused err => exact .inl ⟨err, rfl, rfl⟩
  | unacknowledged err => exact .inr ⟨nofun, _, rfl⟩

/-- The record found under a readable key, and the header a decoder sees in it. -/
theorem flat_read_version {kv : KV} {record old : Cluster}
    (stored : kv[buildClusterKey ns name]? = some (.json record.marshalJSON))
    (read : getClusterWithoutLock (flat faults) ns name kv = .ok old) :
    old.version = record.version ∧ old.name = record.name := by
  obtain ⟨value, found, decoded⟩ := getClusterWithoutLock_ok.mp read
  have same := (flat_get_ok.mp found).2
  rw [stored] at same
  obtain rfl := Option.some.inj same
  exact ⟨(decode_marshal_header decoded).2, (decode_marshal_header decoded).1⟩

/-- A read that some fault did not stop is the read without faults. -/
theorem flat_read_sound {kv : KV} (read : getClusterWithoutLock (flat faults) ns name kv = .ok cluster) :
    getClusterWithoutLock (flat .none) ns name kv = .ok cluster := by
  obtain ⟨value, found, decoded⟩ := getClusterWithoutLock_ok.mp read
  exact getClusterWithoutLock_ok.mpr ⟨value, flat_get_ok.mpr ⟨rfl, (flat_get_ok.mp found).2⟩, decoded⟩

theorem flat_read_ok {kv : KV} : getClusterWithoutLock (flat .none) ns name kv = .ok cluster ↔
    ∃ value, kv[buildClusterKey ns name]? = some value ∧ decode value = .ok cluster := by
  rw [getClusterWithoutLock_ok]
  simp only [flat_get_ok, Faults.none, true_and]

theorem flat_read_congr {kv after : KV} (same : after[buildClusterKey ns name]? = kv[buildClusterKey ns name]?) :
    getCluster (flat .none) ns name after = getCluster (flat .none) ns name kv := by
  simp only [getCluster, getClusterWithoutLock, flat, same]

/-- Over a flat engine an update leaves the map alone, and then fails, or the stored
version is not above the submitted one and the record becomes the object with the
next version. -/
theorem flat_updateCluster_cases (faults : Faults) (ns : String) (kv : KV) (object : Cluster) :
    (∃ version err, updateCluster (flat faults) ns kv object = ⟨kv, version, some err⟩) ∨
      ∃ old err, getClusterWithoutLock (flat .none) ns object.name kv = .ok old ∧ old.version ≤ object.version ∧
        updateCluster (flat faults) ns kv object =
          ⟨kv.insert (buildClusterKey ns object.name)
            (.json { object with version := nextVersion object.version }.marshalJSON),
            nextVersion object.version, err⟩ := by
  rcases updateCluster_cases (flat faults) ns kv object with ⟨err, refused⟩ | ⟨old, read, notAbove, result⟩
  · exact .inl ⟨_, err, refused⟩
  · rcases flat_put_cases faults ns { object with version := nextVersion object.version } kv
      with ⟨err, _, refused⟩ | ⟨_, err, written⟩
    · refine .inl ⟨nextVersion object.version, err, result.trans ?_⟩
      rw [refused]
    · refine .inr ⟨old, err, flat_read_sound read, notAbove, result.trans ?_⟩
      rw [written]

theorem flat_setCluster_cases (faults : Faults) (ns : String) (kv : KV) (object : Cluster) :
    (∃ err, setCluster (flat faults) ns object kv = (kv, some err)) ∨
      ∃ old err, getClusterWithoutLock (flat .none) ns object.name kv = .ok old ∧ old.version ≤ object.version ∧
        setCluster (flat faults) ns object kv =
          (kv.insert (buildClusterKey ns object.name) (.json object.marshalJSON), err) := by
  rcases setCluster_cases (flat faults) ns kv object with ⟨err, _, failed⟩ | ⟨old, read, ⟨_, refused⟩ | ⟨notAbove, put⟩⟩
  · exact .inl ⟨err, failed⟩
  · exact .inl ⟨_, refused⟩
  · rcases flat_put_cases faults ns object kv with ⟨err, _, refused⟩ | ⟨_, err, written⟩
    · exact .inl ⟨err, put.trans refused⟩
    · exact .inr ⟨old, err, flat_read_sound read, notAbove, put.trans written⟩

/-- What `SetCluster` has stored reads back, if its ranges are in bounds. -/
theorem flat_setCluster_stored {kv kv' : KV} {object before : Cluster} (bounds : object.InBounds)
    (read : getCluster (flat .none) ns object.name kv = .ok before)
    (stored : setCluster (flat faults) ns object kv = (kv', none)) :
    getCluster (flat .none) ns object.name kv' = .ok object.stored ∧ before.version ≤ object.version := by
  rcases flat_setCluster_cases faults ns kv object with ⟨err, failed⟩ | ⟨old, err, present, notAbove, written⟩
  · rw [failed] at stored
    cases stored
  · obtain rfl := Except.ok.inj (read.symm.trans present)
    obtain rfl := congrArg Prod.fst (written.symm.trans stored)
    refine ⟨flat_read_ok.mpr ⟨.json object.marshalJSON, ?_, Cluster.unmarshal_marshal bounds⟩, notAbove⟩
    exact Std.ExtTreeMap.getElem?_insert_self

/-- A failed existence check reads as absent, so only a successful one protects a
record from a creation. -/
theorem flat_createCluster_cases (faults : Faults) (ns : String) (kv : KV) (object : Cluster) :
    (∃ err, createCluster (flat faults) ns object kv = (kv, some err)) ∨
      (faults.read (.existsKey (buildClusterKey ns object.name)) = none → kv[buildClusterKey ns object.name]? = none) ∧
        ∃ err, createCluster (flat faults) ns object kv =
          (kv.insert (buildClusterKey ns object.name) (.json object.marshalJSON), err) := by
  unfold createCluster
  split
  · exact .inl ⟨_, rfl⟩
  · rename_i absent
    rcases flat_put_cases faults ns object kv with ⟨err, _, refused⟩ | ⟨_, err, written⟩
    · exact .inl ⟨err, refused⟩
    · refine .inr ⟨fun answered => ?_, err, written⟩
      simpa [found, existsCluster, flat, Faults.reading, orFailed, answered] using absent

theorem flat_removeCluster_cases (faults : Faults) (ns name : String) (kv : KV) :
    (∃ err, removeCluster (flat faults) ns name kv = (kv, some err)) ∨
      (∃ value, kv[buildClusterKey ns name]? = some value) ∧
        ∃ err, removeCluster (flat faults) ns name kv = (kv.erase (buildClusterKey ns name), err) := by
  unfold removeCluster
  split
  · exact .inl ⟨_, rfl⟩
  · rename_i present
    have stored : ∃ value, kv[buildClusterKey ns name]? = some value := by
      rw [← Option.isSome_iff_exists]
      cases reading : faults.read (.existsKey (buildClusterKey ns name)) with
      | none => simpa [found, existsCluster, flat, Faults.reading, orFailed, reading] using present
      | some err => simp [found, existsCluster, flat, Faults.reading, orFailed, reading] at present
    simp only [flat, WriteOutcome.finish]
    cases faults.write with
    | done => exact .inr ⟨stored, _, rfl⟩
    | refused err => exact .inl ⟨err, rfl⟩
    | unacknowledged err => exact .inr ⟨stored, _, rfl⟩

theorem finish_cases {outcome : WriteOutcome} {before after left : σ} (ended : outcome.finish before after = (left, err)) :
    left = before ∨ left = after := by
  cases outcome with
  | done => exact .inr (Prod.ext_iff.mp ended).1.symm
  | refused _ => exact .inl (Prod.ext_iff.mp ended).1.symm
  | unacknowledged _ => exact .inr (Prod.ext_iff.mp ended).1.symm

/-- A write whose answer arrives is done exactly when it is said to be. -/
theorem finish_acknowledged {outcome : WriteOutcome} (acknowledged : ∀ err, outcome ≠ .unacknowledged err)
    (before after : σ) :
    (∃ err, outcome.finish before after = (before, some err)) ∨ outcome.finish before after = (after, none) := by
  cases outcome with
  | done => exact .inr rfl
  | refused err => exact .inl ⟨err, rfl⟩
  | unacknowledged err => exact absurd rfl (acknowledged err)

section Etcd
variable (faults : Faults) (ns name : String) (kv : KV) (object : Cluster)

/-! Only the listing of etcd is its own. -/

theorem etcd_existsNamespace : existsNamespace (etcd faults) ns kv = existsNamespace (flat faults) ns kv := rfl
theorem etcd_createCluster : createCluster (etcd faults) ns object kv = createCluster (flat faults) ns object kv := rfl
theorem etcd_updateCluster : updateCluster (etcd faults) ns kv object = updateCluster (flat faults) ns kv object := rfl
theorem etcd_setCluster : setCluster (etcd faults) ns object kv = setCluster (flat faults) ns object kv := rfl
theorem etcd_removeCluster : removeCluster (etcd faults) ns name kv = removeCluster (flat faults) ns name kv := rfl

end Etcd

theorem flat_existsCluster_answers {kv : KV} (answered : existsCluster (flat faults) ns name kv = .ok has) :
    faults.read (.existsKey (buildClusterKey ns name)) = none := by
  simp only [existsCluster, flat, Faults.reading, orFailed] at answered
  split at answered
  · assumption
  · cases answered

theorem flat_existsNamespace_ok {kv : KV} : existsNamespace (flat faults) ns kv = .ok has ↔
    faults.read (.existsKey (appendPrefix ns)) = none ∧ kv[appendPrefix ns]?.isSome = has := by
  simp only [existsNamespace, flat, Faults.reading, orFailed]
  cases faults.read (.existsKey (appendPrefix ns)) with
  | some err => simp
  | none => simp

end ClusterStore
end Kvrocks
