import KvrocksController.Controller.Failover
import KvrocksController.Lib.Transition
import KvrocksController.Store.ClusterProofs
import KvrocksController.Store.ClusterStoreProofs

/-! Failovers of one cluster, several at once, next to any other writer of its record.
A failover edits by a shard index that is older than the cluster it edits; the id of
the failing master and the version check decide what it may commit. -/
namespace Kvrocks.Failover
open Kvrocks.Transition Kvrocks.Strconv ClusterStore

structure State where
  kv : KV
  failureCounts : FailureCounts
  goroutines : Nat → Option Goroutine

inductive Label where
  | probeFailed (goroutine : Nat) (shardIndex : Int) (node : ClusterNode)
  | load (goroutine : Nat) (faults : Faults)
  | promote (goroutine : Nat) (replies : NodeReplies)
  | update (goroutine : Nat) (faults : Faults) (err : Option Error)
  /-- `UpdateCluster` by anyone else, with any object of this name. -/
  | edit (object : Cluster) (faults : Faults)
  /-- Anything that leaves this cluster's record alone. -/
  | elsewhere (kv : KV)

/-- A step made inside `increaseFailureCount`. -/
def Label.own : Label → Bool
  | .probeFailed .. | .load .. | .promote .. | .update .. => true
  | .edit .. | .elsewhere .. => false

/-- The failover's `UpdateCluster` returned no error. -/
def Label.succeeds : Label → Bool
  | .update _ _ none => true
  | _ => false

def State.assign (s : State) (goroutine : Nat) (work : Option Goroutine) : State :=
  { s with goroutines := fun other => if other = goroutine then work else s.goroutines other }

section System
variable (ns name : String) (maxFailureCount : Int)

inductive Step : State → Label → State → Prop where
  | counted (free : s.goroutines g = none) (named : node.id ≠ "")
      (result : increaseFailureCount maxFailureCount shardIndex node s.failureCounts = (failureCounts, work)) :
      Step s (.probeFailed g shardIndex node) (State.assign { s with failureCounts } g work)
  | loaded (holds : s.goroutines g = some ⟨shardIndex, node, .loading⟩)
      (read : getCluster (flat faults) ns name s.kv = .ok cluster) :
      Step s (.load g faults) (s.assign g (some ⟨shardIndex, node, .promoting cluster⟩))
  | notLoaded (holds : s.goroutines g = some ⟨shardIndex, node, .loading⟩)
      (failed : getCluster (flat faults) ns name s.kv = .error e) : Step s (.load g faults) (s.assign g none)
  | promoted (holds : s.goroutines g = some ⟨shardIndex, node, .promoting cluster⟩)
      (chosen : cluster.promoteNewMaster replies shardIndex node.id "" = .ok (object, newMasterID)) :
      Step s (.promote g replies)
        (State.assign { s with failureCounts := resetFailureCount newMasterID s.failureCounts } g
          (some ⟨shardIndex, node, .updating object newMasterID replies⟩))
  | notPromoted (holds : s.goroutines g = some ⟨shardIndex, node, .promoting cluster⟩)
      (refused : cluster.promoteNewMaster replies shardIndex node.id "" = .error e) :
      Step s (.promote g replies) (s.assign g none)
  | updated (holds : s.goroutines g = some ⟨shardIndex, node, .updating object newMasterID replies⟩)
      (result : updateCluster (flat faults) ns s.kv object = ⟨kv, version, err⟩) :
      Step s (.update g faults err) (State.assign { s with kv } g none)
  | edited (named : object.name = name) (int64 : InInt64 object.version)
      (result : updateCluster (flat faults) ns s.kv object = ⟨kv, version, err⟩) :
      Step s (.edit object faults) { s with kv }
  | elsewhere (same : kv[buildClusterKey ns name]? = s.kv[buildClusterKey ns name]?) :
      Step s (.elsewhere kv) { s with kv }

/-- Nobody fails over yet; the record, if there is one, is of this name. -/
structure Start (s : State) : Prop where
  record : ∀ stored, getCluster (flat .none) ns name s.kv = .ok stored → stored.name = name ∧ InInt64 stored.version
  idle : ∀ g, s.goroutines g = none

/-- No submitted version is the largest 64-bit one. -/
def VersionsBelowMax (s : State) : Label → Prop
  | .update g _ _ => ∀ w object newMasterID replies, s.goroutines g = some w →
      w.phase = .updating object newMasterID replies → object.version < maxInt64
  | .edit object _ => object.version < maxInt64
  | _ => True

/-- What a failover does to a cluster: the failing node was the master of the shard
and is now a slave, one other node of that shard, which answered as a slave with a
non-zero sequence, is now the master, and the version is the next one. -/
def FailedOver (replies : NodeReplies) (shardIndex : Int) (failing newMasterID : String) (old new : Cluster) : Prop :=
  ∃ (i : Nat) (shard : Shard) (a b : Nat) (master replica : ClusterNode),
    shardIndex = i ∧ old.shards[i]? = some shard ∧ a ≠ b ∧
    shard.nodes[a]? = some master ∧ master.role = roleMaster ∧ master.id = failing ∧
    shard.nodes[b]? = some replica ∧ replica.id = newMasterID ∧
    (∃ clusterInfo nodeInfo, replies.getClusterInfo replica = .ok clusterInfo ∧
      replies.getClusterNodeInfo replica = .ok nodeInfo ∧ nodeInfo.role = roleSlave ∧ nodeInfo.sequence ≠ 0) ∧
    new = { old.swapRoles i shard a master b replica with version := old.version + 1 }

/-- A cluster that was read is the stored one, or has been overtaken by a higher version. -/
structure Tracks (kv : KV) (cluster : Cluster) : Prop where
  named : cluster.name = name
  int64 : InInt64 cluster.version
  apart : (cluster.getNodes.map (·.ptr)).Nodup
  bounds : cluster.InBounds
  latest : ∀ stored, getCluster (flat .none) ns name kv = .ok stored →
    cluster.version ≤ stored.version ∧ (cluster.version = stored.version → stored = cluster)

/-- A failover's object was made from a cluster that was read, by the answers it got. -/
def Based (kv : KV) (work : Goroutine) : Prop :=
  work.node.id ≠ "" ∧ match work.phase with
    | .loading => True
    | .promoting cluster => Tracks ns name kv cluster
    | .updating object newMasterID replies => ∃ cluster, Tracks ns name kv cluster ∧
        cluster.promoteNewMaster replies work.shardIndex work.node.id "" = .ok (object, newMasterID)

structure Holds (s : State) : Prop where
  record : ∀ stored, getCluster (flat .none) ns name s.kv = .ok stored → stored.name = name ∧ InInt64 stored.version
  work : ∀ g w, s.goroutines g = some w → Based ns name s.kv w

end System

variable {ns name : String} {maxFailureCount : Int} {s t : State}

theorem candidate_answers (answers : (Shard.candidateSequence replies node).isSome) :
    ∃ clusterInfo nodeInfo, replies.getClusterInfo node = .ok clusterInfo ∧
      replies.getClusterNodeInfo node = .ok nodeInfo ∧ nodeInfo.role = roleSlave ∧ nodeInfo.sequence ≠ 0 := by
  unfold Shard.candidateSequence at answers
  split at answers
  · cases answers
  · rename_i clusterInfo reachable
    split at answers
    · cases answers
    · rename_i nodeInfo reported
      split at answers
      · cases answers
      · rename_i fit
        simp only [ne_eq, not_or, not_not] at fit
        exact ⟨clusterInfo, nodeInfo, reachable, reported, fit⟩

namespace Tracks
variable {kv after : KV} {cluster object : Cluster}

/-- What a promotion leaves has the name and the version it was read with. -/
theorem promoted (tracks : Tracks ns name kv cluster)
    (chosen : cluster.promoteNewMaster replies shardIndex masterNodeID preferredNodeID = .ok (object, newMasterID)) :
    object.name = name ∧ object.version = cluster.version ∧ object.InBounds := by
  obtain ⟨i, shard, a, b, master, replica, _, found, _, _, _, _, _, _, _, rfl⟩ :=
    Cluster.promoteNewMaster_swaps tracks.apart chosen
  refine ⟨tracks.named, rfl, ?_⟩
  intro other member
  obtain member | rfl := List.mem_or_eq_of_mem_set member
  · exact tracks.bounds other member
  · exact tracks.bounds shard (List.mem_of_getElem? found)

/-- The record of a higher version replaces what was tracked. -/
theorem overtaken (tracks : Tracks ns name kv cluster)
    (read : getCluster (flat .none) ns name kv = .ok old) (higher : old.version < object.version) :
    Tracks ns name (kv.insert (buildClusterKey ns name) (.json object.marshalJSON)) cluster := by
  refine { tracks with latest := ?_ }
  intro stored readBack
  have same := (flat_read_version Std.ExtTreeMap.getElem?_insert_self readBack).1
  have behind := (tracks.latest old read).1
  constructor <;> omega

theorem elsewhere (tracks : Tracks ns name kv cluster)
    (same : after[buildClusterKey ns name]? = kv[buildClusterKey ns name]?) : Tracks ns name after cluster := by
  exact { tracks with latest := fun stored read => tracks.latest stored (flat_read_congr same ▸ read) }

end Tracks

/-- `Based` only looks at the map through what it tracks. -/
theorem Based.mono {kv after : KV} (based : Based ns name kv work)
    (kept : ∀ cluster, Tracks ns name kv cluster → Tracks ns name after cluster) : Based ns name after work := by
  obtain ⟨shardIndex, node, phase⟩ := work
  refine ⟨based.1, ?_⟩
  have based := based.2
  cases phase with
  | loading => trivial
  | promoting cluster => exact kept cluster based
  | updating object newMasterID replies =>
    obtain ⟨cluster, tracks, chosen⟩ := based
    exact ⟨cluster, kept cluster tracks, chosen⟩

namespace Holds
variable {old object : Cluster}

theorem assign (holds : Holds ns name s) (own : ∀ w, after = some w → Based ns name s.kv w) :
    Holds ns name (s.assign g after) where
  record := holds.record
  work := assigned holds.work own

/-- A write of a version above the stored one keeps the invariant. -/
theorem write (holds : Holds ns name s) (read : getCluster (flat .none) ns name s.kv = .ok old)
    (named : object.name = name) (int64 : InInt64 object.version) (higher : old.version < object.version) :
    Holds ns name { s with kv := s.kv.insert (buildClusterKey ns name) (.json object.marshalJSON) } where
  record := by
    intro stored readBack
    obtain ⟨version, sameName⟩ := flat_read_version Std.ExtTreeMap.getElem?_insert_self readBack
    exact ⟨sameName.trans named, version ▸ int64⟩
  work := by
    intro g w found
    exact (holds.work g w found).mono fun cluster tracks => tracks.overtaken read higher

/-- One `UpdateCluster` of an object of this name. -/
theorem update (holds : Holds ns name s) (named : object.name = name) (int64 : InInt64 object.version)
    (small : object.version < maxInt64)
    (result : updateCluster (flat faults) ns s.kv object = ⟨kv, version, err⟩) : Holds ns name { s with kv } := by
  subst named
  rcases flat_updateCluster_cases faults ns s.kv object with ⟨_, _, refused⟩ | ⟨old, _, read, notAbove, written⟩
  · rw [result] at refused
    cases refused
    exact holds
  · rw [result] at written
    cases written
    have next := nextVersion_eq int64.1 small
    have lower := int64.1
    refine holds.write read rfl ⟨?_, ?_⟩ ?_ <;> simp only [next] <;> omega

theorem step (holds : Holds ns name s) (step : Guarded (Step ns name maxFailureCount) VersionsBelowMax s l t) :
    Holds ns name t := by
  obtain ⟨small, step⟩ := step
  cases step with
  | counted free named result =>
    refine Holds.assign (s := { s with failureCounts := _ }) ⟨holds.record, holds.work⟩ ?_
    rintro w rfl
    simp only [increaseFailureCount, Prod.mk.injEq] at result
    obtain ⟨_, started⟩ := result
    split at started
    · obtain rfl := Option.some.inj started
      exact ⟨named, trivial⟩
    · cases started
  | loaded found read =>
    refine holds.assign ?_
    rintro w ⟨⟩
    obtain ⟨value, _, decoded⟩ := flat_read_ok.mp (flat_read_sound read)
    obtain ⟨named, int64⟩ := holds.record _ (flat_read_sound read)
    refine ⟨(holds.work _ _ found).1, named, int64, ?_, ?_, ?_⟩
    · cases value with
      | text _ => cases decoded
      | json j => exact Cluster.unmarshal_ptrs decoded
    · cases value with
      | text _ => cases decoded
      | json j => exact Cluster.unmarshal_inBounds decoded
    · intro stored again
      obtain rfl := Except.ok.inj ((flat_read_sound read).symm.trans again)
      exact ⟨le_refl _, fun _ => rfl⟩
  | notLoaded => exact holds.assign nofun
  | promoted found chosen =>
    obtain ⟨named, tracks⟩ := holds.work _ _ found
    refine Holds.assign (s := { s with failureCounts := _ }) ⟨holds.record, holds.work⟩ ?_
    rintro w ⟨⟩
    exact ⟨named, _, tracks, chosen⟩
  | notPromoted => exact holds.assign nofun
  | updated found result =>
    obtain ⟨_, cluster, tracks, chosen⟩ := holds.work _ _ found
    obtain ⟨named, version, _⟩ := tracks.promoted chosen
    refine Holds.assign (holds.update named (version ▸ tracks.int64) ?_ result) nofun
    exact small _ _ _ _ found rfl
  | edited named int64 result => exact holds.update named int64 small result
  | elsewhere same =>
    exact ⟨fun stored read => holds.record stored (flat_read_congr same ▸ read),
      fun g w found => (holds.work g w found).mono fun cluster tracks => tracks.elsewhere same⟩

end Holds

/-- A step of a failover leaves the store as it is, or replaces the stored cluster by
that cluster with the roles of its failing master and of one replica swapped. -/
theorem failover_swaps_roles {s₀ : State} (start : Start ns name s₀)
    (run : Run (Guarded (Step ns name maxFailureCount) VersionsBelowMax) s₀ ls s)
    (step : Guarded (Step ns name maxFailureCount) VersionsBelowMax s l t) (own : l.own = true) :
    t.kv = s.kv ∧ l.succeeds = false ∨
      ∃ g shardIndex node object newMasterID replies old new,
        s.goroutines g = some ⟨shardIndex, node, .updating object newMasterID replies⟩ ∧
        getCluster (flat .none) ns name s.kv = .ok old ∧
        FailedOver replies shardIndex node.id newMasterID old new ∧
        t.kv = s.kv.insert (buildClusterKey ns name) (.json new.marshalJSON) ∧
        getCluster (flat .none) ns name t.kv = .ok new.stored := by
  have holds : Holds ns name s := by
    refine run.preserves (fun _ _ _ holds step => holds.step step) ⟨start.record, ?_⟩
    intro g w found
    rw [start.idle g] at found
    cases found
  obtain ⟨small, step⟩ := step
  cases step with
  | counted => exact .inl ⟨rfl, rfl⟩
  | loaded => exact .inl ⟨rfl, rfl⟩
  | notLoaded => exact .inl ⟨rfl, rfl⟩
  | promoted => exact .inl ⟨rfl, rfl⟩
  | notPromoted => exact .inl ⟨rfl, rfl⟩
  | edited | elsewhere => cases own
  | updated found result =>
    rename_i faults object kv version err g shardIndex node newMasterID replies
    obtain ⟨named, cluster, tracks, chosen⟩ := holds.work _ _ found
    obtain ⟨sameName, sameVersion, bounds⟩ := tracks.promoted chosen
    rcases flat_updateCluster_cases faults ns s.kv object with ⟨_, _, refused⟩ | ⟨old, _, read, notAbove, written⟩
    · rw [result] at refused
      cases refused
      exact .inl ⟨rfl, rfl⟩
    · rw [result] at written
      cases written
      -- the stored version is not above the one read, so the stored cluster is the one read
      rw [sameName] at read
      obtain ⟨notBelow, same⟩ := tracks.latest old read
      obtain rfl := same (by omega)
      have next : nextVersion object.version = old.version + 1 :=
        sameVersion ▸ nextVersion_eq (sameVersion ▸ tracks.int64.1) (small _ _ _ _ found rfl)
      rw [next, congrArg (buildClusterKey ns) sameName]
      obtain ⟨i, shard, a, b, master, replica, index, shardAt, distinct, masterAt, isMaster, asked, replicaAt,
        newID, answers, rfl⟩ := Cluster.promoteNewMaster_swaps tracks.apart chosen
      refine .inr ⟨g, shardIndex, node, _, newMasterID, replies, old, _, found, read,
        ⟨i, shard, a, b, master, replica, index, shardAt, distinct, masterAt, of_decide_eq_true isMaster,
          asked named, replicaAt, newID, candidate_answers answers, rfl⟩, rfl, ?_⟩
      exact flat_read_ok.mpr ⟨_, Std.ExtTreeMap.getElem?_insert_self, Cluster.unmarshal_marshal bounds⟩

section Samples

def failing : ClusterNode := ⟨0, "m", "a:1", roleMaster, "", 0⟩

/-- One shard with a master and a replica. -/
def pair (version : Int) : Cluster :=
  ⟨"c", version, [⟨[failing, ⟨1, "r", "b:1", roleSlave, "", 0⟩], [⟨0, 16383⟩], -1, none⟩]⟩

def swapped (version : Int) : Cluster :=
  ⟨"c", version, [⟨[failing.setRole roleSlave, ⟨1, "r", "b:1", roleMaster, "", 0⟩], [⟨0, 16383⟩], -1, none⟩]⟩

def slaves : NodeReplies where
  getClusterInfo _ := .ok ⟨1, none, ""⟩
  getClusterNodeInfo _ := .ok ⟨1, roleSlave⟩
  migrateSlot _ _ _ := .ok ()

def initial (version : Int) : State :=
  ⟨(∅ : KV).insert (buildClusterKey "ns" "c") (.json (pair version).marshalJSON), ∅, fun _ => none⟩

def beforeUpdate : List Label := [.probeFailed 0 0 failing, .load 0 .none, .promote 0 slaves]

theorem pair_decodes (version : Int) : decode (.json (pair version).marshalJSON) = .ok (pair version) := by
  refine Cluster.unmarshal_marshal ?_
  intro shard member
  obtain rfl := List.mem_singleton.mp member
  refine ⟨fun r here => ?_, nofun⟩
  obtain rfl := List.mem_singleton.mp here
  decide

theorem pair_read (version : Int) : getCluster (flat .none) "ns" "c" (initial version).kv = .ok (pair version) :=
  flat_read_ok.mpr ⟨_, Std.ExtTreeMap.getElem?_insert_self, pair_decodes version⟩

theorem pair_start (int64 : InInt64 version) : Start "ns" "c" (initial version) where
  record := by
    intro stored read
    obtain rfl := Except.ok.inj ((pair_read version).symm.trans read)
    exact ⟨rfl, int64⟩
  idle := fun _ => rfl

/-- With a limit of one failure the first failed probe leads up to the update. -/
theorem pair_run (version : Int) :
    ∃ s, Run (Guarded (Step "ns" "c" 1) VersionsBelowMax) (initial version) beforeUpdate s ∧
      s.kv = (initial version).kv ∧
      s.goroutines 0 = some ⟨0, failing, .updating (swapped version) "r" slaves⟩ := by
  have chosen : (pair version).promoteNewMaster slaves 0 failing.id "" = .ok (swapped version, "r") := rfl
  have run : Run (Guarded (Step "ns" "c" 1) VersionsBelowMax) (initial version) beforeUpdate _ :=
    .cons ⟨trivial, .counted rfl (by decide) rfl⟩
      (.cons ⟨trivial, .loaded rfl (pair_read version)⟩ (.cons ⟨trivial, .promoted rfl chosen⟩ .nil))
  exact ⟨_, run, rfl, rfl⟩

end Samples

/-- The failover of a pair stored with version 1. -/
theorem failover_swaps_pair :
    ∃ s t, Run (Guarded (Step "ns" "c" 1) VersionsBelowMax) (initial 1) beforeUpdate s ∧
      Guarded (Step "ns" "c" 1) VersionsBelowMax s (.update 0 .none none) t ∧
      ∃ old new : Cluster, getCluster (flat .none) "ns" "c" s.kv = .ok old ∧ new.version = old.version + 1 ∧
        getCluster (flat .none) "ns" "c" t.kv = .ok new.stored := by
  obtain ⟨s, run, kv, work⟩ := pair_run 1
  have result : updateCluster (flat .none) "ns" s.kv (swapped 1) =
      ⟨s.kv.insert (buildClusterKey "ns" "c") (.json (swapped 2).marshalJSON), 2, none⟩ := by
    have read : getClusterWithoutLock (flat .none) "ns" (swapped 1).name s.kv = .ok (pair 1) := kv ▸ pair_read 1
    simp only [updateCluster, read]
    rfl
  have small : VersionsBelowMax s (.update 0 .none none) := by
    rintro w object newMasterID replies found phase
    obtain rfl := Option.some.inj (work.symm.trans found)
    cases phase
    decide
  have step : Guarded (Step "ns" "c" 1) VersionsBelowMax s (.update 0 .none none)
      (State.assign { s with kv := s.kv.insert (buildClusterKey "ns" "c") (.json (swapped 2).marshalJSON) } 0 none) :=
    ⟨small, .updated work result⟩
  have start : Start "ns" "c" (initial 1) := pair_start (by constructor <;> decide)
  rcases failover_swaps_roles start run step rfl with ⟨_, failed⟩ | ⟨_, _, _, _, _, _, old, new, _, read, swap, _, readBack⟩
  · cases failed
  · obtain ⟨_, _, _, _, _, _, _, _, _, _, _, _, _, _, _, rfl⟩ := swap
    exact ⟨s, _, run, step, old, _, read, rfl, readBack⟩

/-- At the largest version the failover commits the smallest one. -/
theorem failover_wraps_version :
    ∃ s t, Start "ns" "c" (initial maxInt64) ∧ Run (Step "ns" "c" 1) (initial maxInt64) beforeUpdate s ∧
      Step "ns" "c" 1 s (.update 0 .none none) t ∧
      getCluster (flat .none) "ns" "c" s.kv = .ok (pair 9223372036854775807) ∧
      t.kv[buildClusterKey "ns" "c"]? = some (.json (swapped (-9223372036854775808)).marshalJSON) := by
  obtain ⟨s, run, kv, work⟩ := pair_run maxInt64
  have read : getClusterWithoutLock (flat .none) "ns" "c" s.kv = .ok (pair maxInt64) := kv ▸ pair_read maxInt64
  have wrapped : nextVersion maxInt64 = -9223372036854775808 := by decide +kernel
  have result : updateCluster (flat .none) "ns" s.kv (swapped maxInt64) =
      ⟨s.kv.insert (buildClusterKey "ns" "c") (.json (swapped (-9223372036854775808)).marshalJSON),
        -9223372036854775808, none⟩ := by
    simp only [updateCluster, show (swapped maxInt64).name = "c" from rfl, read]
    simp only [show (swapped maxInt64).version = maxInt64 from rfl, wrapped]
    rfl
  refine ⟨s, _, pair_start (by constructor <;> decide), run.unguarded, .updated work result, read, ?_⟩
  exact Std.ExtTreeMap.getElem?_insert_self

end Kvrocks.Failover
