import KvrocksController.Lib.Transition
import KvrocksController.Store.ClusterStoreProofs

/-! Clients that read a cluster, edit what they got and write it back, in any
interleaving over one flat engine. The version check is one-sided, yet it amounts to
a compare-and-swap: an object whose version is not below the stored one was computed
from the stored record itself. -/
namespace Kvrocks.Optimistic
open Kvrocks.Transition Kvrocks.Strconv ClusterStore

/-- What a client holds. `base` and `readAt` are ghosts: the record the object was
computed from, and how many writes of the record had been made then. -/
structure Session where
  object : Cluster
  base : Value
  readAt : Nat

structure State where
  kv : KV
  sessions : Nat → Option Session
  commits : Nat

inductive Label where
  | get (client : Nat) (faults : Faults)
  | modify (client : Nat) (shards : List Shard)
  | update (client : Nat) (faults : Faults)
  /-- Anything that leaves this cluster's record alone. -/
  | elsewhere (kv : KV)

def State.assign (s : State) (client : Nat) (session : Option Session) : State :=
  { s with sessions := fun other => if other = client then session else s.sessions other }

section System
variable (ns name : String)

/-- A client edits the shards as it likes; name and version are the store's. After
a failed update it starts over with `GetCluster`. -/
inductive Step : State → Label → State → Prop where
  | got (read : getCluster (flat faults) ns name s.kv = .ok object)
      (record : s.kv[buildClusterKey ns name]? = some base) :
      Step s (.get client faults) (s.assign client (some ⟨object, base, s.commits⟩))
  | missed (failed : getCluster (flat faults) ns name s.kv = .error e) : Step s (.get client faults) s
  | modified (holds : s.sessions client = some session) :
      Step s (.modify client shards)
        (s.assign client (some { session with object := { session.object with shards } }))
  | committed (holds : s.sessions client = some session) (small : session.object.version < maxInt64)
      (result : updateCluster (flat faults) ns s.kv session.object = ⟨kv, version, none⟩) :
      Step s (.update client faults)
        (State.assign { s with kv, commits := s.commits + 1 } client
          (some ⟨{ session.object with version }, .json { session.object with version }.marshalJSON,
            s.commits + 1⟩))
  | failed (holds : s.sessions client = some session) (small : session.object.version < maxInt64)
      (result : updateCluster (flat faults) ns s.kv session.object = ⟨kv, version, some e⟩)
      (counted : (kv = s.kv ∧ commits = s.commits) ∨ (kv ≠ s.kv ∧ commits = s.commits + 1)) :
      Step s (.update client faults) (State.assign { s with kv, commits } client none)
  | elsewhere (same : kv[buildClusterKey ns name]? = s.kv[buildClusterKey ns name]?) :
      Step s (.elsewhere kv) { s with kv }

/-- The record was made by `CreateCluster`, and nobody has read it yet. -/
structure Start (s : State) : Prop where
  record : ∃ c : Cluster, s.kv[buildClusterKey ns name]? = some (.json c.marshalJSON) ∧ c.name = name ∧
    -(maxInt64 + 1) ≤ c.version
  sessions : ∀ client, s.sessions client = none

/-- An object is current, and then equal in version to the record it came from, or
strictly behind the record that overtook it. -/
def Tracks (commits : Nat) (record : Cluster) (session : Session) : Prop :=
  session.object.name = name ∧ -(maxInt64 + 1) ≤ session.object.version ∧
    (session.readAt = commits ∧ session.base = .json record.marshalJSON ∧
        session.object.version = record.version ∨
      session.readAt < commits ∧ session.object.version < record.version)

structure Holds (s : State) (record : Cluster) : Prop where
  stored : s.kv[buildClusterKey ns name]? = some (.json record.marshalJSON)
  named : record.name = name
  lower : -(maxInt64 + 1) ≤ record.version
  sessions : ∀ client session, s.sessions client = some session → Tracks name s.commits record session

end System

namespace Holds
variable {ns name : String} {s : State} {record : Cluster}

theorem assign (holds : Holds ns name s record)
    (own : ∀ session, after = some session → Tracks name s.commits record session) :
    Holds ns name (s.assign client after) record where
  stored := holds.stored
  named := holds.named
  lower := holds.lower
  sessions := assigned holds.sessions own

/-- A read that an update makes is of the record, so an object that passes the check
is current. -/
theorem read_version (holds : Holds ns name s record)
    (read : getClusterWithoutLock (flat faults) ns name s.kv = .ok old) : old.version = record.version ∧
      old.name = name :=
  (flat_read_version holds.stored read).imp_right (·.trans holds.named)

theorem current (holds : Holds ns name s record) (found : s.sessions client = some session)
    (notBehind : record.version ≤ session.object.version) :
    session.readAt = s.commits ∧ session.base = .json record.marshalJSON ∧
      session.object.version = record.version := by
  rcases (holds.sessions client session found).2.2 with current | ⟨_, behind⟩
  · exact current
  · omega

/-- Writing the next version makes every other object stale. -/
theorem write (holds : Holds ns name s record) (found : s.sessions client = some session)
    (small : session.object.version < maxInt64) (notBehind : record.version ≤ session.object.version)
    (own : ∀ kept, after = some kept → kept =
      ⟨{ session.object with version := nextVersion session.object.version },
        .json { session.object with version := nextVersion session.object.version }.marshalJSON, s.commits + 1⟩) :
    Holds ns name
      (State.assign { s with
        kv := s.kv.insert (buildClusterKey ns name)
          (.json { session.object with version := nextVersion session.object.version }.marshalJSON)
        commits := s.commits + 1 } client after)
      { session.object with version := nextVersion session.object.version } := by
  obtain ⟨named, lower, _⟩ := holds.sessions client session found
  have next := nextVersion_eq lower small
  refine Holds.assign ⟨?_, named, ?_, ?_⟩ ?_
  · simp
  · simp only [next]
    omega
  · intro other session' found'
    obtain ⟨named', lower', state⟩ := holds.sessions other session' found'
    refine ⟨named', lower', .inr ?_⟩
    simp only [next]
    rcases state with ⟨readAt, _, version⟩ | ⟨readAt, version⟩ <;> constructor <;> omega
  · intro kept same
    rw [own kept same]
    refine ⟨named, ?_, .inl ⟨rfl, rfl, rfl⟩⟩
    simp only [next]
    omega

theorem update_cases (holds : Holds ns name s record) (found : s.sessions client = some session)
    (faults : Faults) :
    (∃ err, updateCluster (flat faults) ns s.kv session.object = ⟨s.kv, session.object.version, some err⟩) ∨
      record.version ≤ session.object.version ∧
        ∃ kv err, updateCluster (flat faults) ns s.kv session.object =
          ⟨kv, nextVersion session.object.version, err⟩ ∧
          (kv = s.kv ∧ err ≠ none ∨ kv = s.kv.insert (buildClusterKey ns name)
            (.json { session.object with version := nextVersion session.object.version }.marshalJSON)) := by
  have named := (holds.sessions client session found).1
  rcases updateCluster_cases (flat faults) ns s.kv session.object with refused | ⟨old, read, notAbove, result⟩
  · exact .inl refused
  · rw [named] at read
    rw [(holds.read_version read).1] at notAbove
    refine .inr ⟨notAbove, _, _, result, ?_⟩
    rcases flat_put_cases faults ns { session.object with version := nextVersion session.object.version } s.kv
      with ⟨err, _, refused⟩ | ⟨_, err, written⟩
    · rw [refused]
      exact .inl ⟨rfl, nofun⟩
    · rw [written]
      exact .inr (by rw [named])

theorem step (holds : Holds ns name s record) (step : Step ns name s l t) : ∃ record, Holds ns name t record := by
  cases step with
  | got read stored =>
    obtain ⟨version, named⟩ := holds.read_version read
    have base := Option.some.inj (stored.symm.trans holds.stored)
    refine ⟨record, holds.assign ?_⟩
    rintro session same
    obtain rfl := Option.some.inj same
    exact ⟨named, version ▸ holds.lower, .inl ⟨rfl, base, version⟩⟩
  | missed => exact ⟨record, holds⟩
  | modified found =>
    have tracked := holds.sessions _ _ found
    refine ⟨record, holds.assign ?_⟩
    rintro session same
    obtain rfl := Option.some.inj same
    exact tracked
  | committed found small result =>
    rcases holds.update_cases found _ with ⟨err, refused⟩ | ⟨notBehind, kv, err, written, effect⟩
    · rw [result] at refused
      cases refused
    · rw [result] at written
      cases written
      rcases effect with ⟨_, impossible⟩ | rfl
      · exact absurd rfl impossible
      · exact ⟨_, holds.write found small notBehind (by rintro kept ⟨⟩; rfl)⟩
  | failed found small result counted =>
    rcases counted with ⟨rfl, rfl⟩ | ⟨changed, rfl⟩
    · exact ⟨record, holds.assign nofun⟩
    · rcases holds.update_cases found _ with ⟨_, refused⟩ | ⟨notBehind, _, _, written, effect⟩
      · rw [result] at refused
        cases refused
        exact absurd rfl changed
      · rw [result] at written
        cases written
        rcases effect with ⟨same, _⟩ | rfl
        · exact absurd same changed
        · exact ⟨_, holds.write found small notBehind nofun⟩
  | elsewhere same => exact ⟨record, same.trans holds.stored, holds.named, holds.lower, holds.sessions⟩

end Holds

/-- In every reachable state an update that succeeds was computed from the record it
replaces and adds one to its version, and one that was overtaken changes nothing. -/
theorem optimistic_updates_serialise {s₀ s : State} (start : Start ns name s₀) (run : Run (Step ns name) s₀ ls s)
    (holds : s.sessions client = some session) (small : session.object.version < maxInt64) (faults : Faults) :
    ((updateCluster (flat faults) ns s.kv session.object).err = none →
      session.readAt = s.commits ∧ s.kv[buildClusterKey ns name]? = some session.base ∧
      ∃ old new : Cluster, s.kv[buildClusterKey ns name]? = some (.json old.marshalJSON) ∧
        (updateCluster (flat faults) ns s.kv session.object).store[buildClusterKey ns name]? =
          some (.json new.marshalJSON) ∧
        new.version = old.version + 1 ∧ new.shards = session.object.shards) ∧
    (session.readAt < s.commits →
      (updateCluster (flat faults) ns s.kv session.object).err ≠ none ∧
      (updateCluster (flat faults) ns s.kv session.object).store = s.kv) := by
  have reached : ∃ record, Holds ns name s record := by
    refine run.preserves (P := fun s => ∃ record, Holds ns name s record) ?_ ?_
    · rintro s l t ⟨record, holds⟩ step
      exact holds.step step
    · obtain ⟨record, stored, named, lower⟩ := start.record
      refine ⟨record, stored, named, lower, ?_⟩
      intro client session found
      rw [start.sessions client] at found
      cases found
  obtain ⟨record, inv⟩ := reached
  have lower := (inv.sessions client session holds).2.1
  rcases inv.update_cases holds faults with ⟨err, refused⟩ | ⟨notBehind, kv, err, written, effect⟩
  · rw [refused]
    exact ⟨nofun, fun _ => ⟨nofun, rfl⟩⟩
  · obtain ⟨readAt, base, version⟩ := inv.current holds notBehind
    rw [written]
    refine ⟨fun success => ?_, fun overtaken => by omega⟩
    rcases effect with ⟨_, impossible⟩ | rfl
    · exact absurd success impossible
    · refine ⟨readAt, base ▸ inv.stored, record, _, inv.stored, Std.ExtTreeMap.getElem?_insert_self, ?_, rfl⟩
      exact (nextVersion_eq lower small).trans (by rw [version])

section Samples

def empty : Cluster := ⟨"c", 1, []⟩

def stored (cluster : Cluster) : KV := (∅ : KV).insert (buildClusterKey "ns" "c") (.json cluster.marshalJSON)

def initial : State := ⟨stored empty, fun _ => none, 0⟩

def bothRead : State :=
  (initial.assign 0 (some ⟨empty, .json empty.marshalJSON, 0⟩)).assign 1
    (some ⟨empty, .json empty.marshalJSON, 0⟩)

def written : Cluster := { empty with version := 2 }

def firstCommitted : State :=
  State.assign
    { bothRead with
      kv := (stored empty).insert (buildClusterKey "ns" "c") (.json written.marshalJSON)
      commits := 1 }
    0 (some ⟨written, .json written.marshalJSON, 1⟩)

end Samples

/-- Two clients read version 1, the first commits version 2, the second is refused. -/
theorem optimistic_updates_two_clients :
    Run (Step "ns" "c") initial [.get 0 .none, .get 1 .none, .update 0 .none] firstCommitted ∧
      (updateCluster (flat .none) "ns" firstCommitted.kv empty).err ≠ none := by
  have record : (stored empty)[buildClusterKey "ns" "c"]? = some (.json empty.marshalJSON) :=
    Std.ExtTreeMap.getElem?_insert_self
  have read : getClusterWithoutLock (flat .none) "ns" empty.name (stored empty) = .ok empty := by decide +kernel
  have result : updateCluster (flat .none) "ns" (stored empty) empty =
      ⟨(stored empty).insert (buildClusterKey "ns" "c") (.json written.marshalJSON), 2, none⟩ := by
    simp only [updateCluster, read]
    rfl
  have start : Start "ns" "c" initial := ⟨⟨empty, record, rfl, by decide⟩, fun _ => rfl⟩
  have run : Run (Step "ns" "c") initial [.get 0 .none, .get 1 .none, .update 0 .none] firstCommitted :=
    .cons (.got read record) (.cons (.got read record) (.cons (.committed rfl (by decide) result) .nil))
  have behind : firstCommitted.sessions 1 = some ⟨empty, .json empty.marshalJSON, 0⟩ := rfl
  exact ⟨run, ((optimistic_updates_serialise start run behind (by decide) .none).2 (by decide)).1⟩

end Kvrocks.Optimistic
