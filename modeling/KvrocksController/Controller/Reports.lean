import KvrocksController.Controller.StatusPass
import KvrocksController.Store.ClusterStoreProofs
import Mathlib.Data.Set.Card

/-! What a whole status pass makes of the replies when every write succeeds. Several
migrations may end in one pass, and a shard may give slots in one round and receive
some in another: the ranges on the move are disjoint, so each round's effect stands. -/
namespace Kvrocks
open Kvrocks.Interval Kvrocks.Cluster

/-- `UpdateCluster` over a flat engine; the faults of the `n`-th call are its own. -/
def updateCalls (faults : Nat → Faults) (ns : String) (state : KV × Nat) (cluster : Cluster) : Updated (KV × Nat) :=
  let result := ClusterStore.updateCluster (flat (faults state.2)) ns state.1 cluster
  ⟨(result.store, state.2 + 1), result.version, result.err⟩

def Verdict.concludes : Verdict → Bool
  | .cleared | .moved _ _ => true
  | _ => false

section Spec
variable (answers : Nat → NodeReplies) (cluster : Cluster)

/-- The verdict on the shard at `i`, by the answers of round `i`. -/
def verdictAt (i : Nat) : Verdict :=
  match cluster.shards[i]? with
  | none => .kept
  | some shard => verdict (answers i) cluster.shards.length shard

/-- How many of the first `k` shards have their migration concluded. -/
def concluded (k : Nat) : Nat := (List.range k).countP fun i => (verdictAt answers cluster i).concludes

/-- Who owns a slot once the moves of the first `k` rounds are made. -/
def OwnerAfter (k j : Nat) (x : Int) : Prop :=
  (∃ i < k, ∃ slot, verdictAt answers cluster i = .moved slot j ∧ x ∈ slot.points) ∨
    (∀ i < k, ∀ slot target, verdictAt answers cluster i = .moved slot target → x ∉ slot.points) ∧ cluster.SlotOf j x

/-- The record of the shard at `j` after the first `k` rounds. -/
def recordAfter (k j : Nat) (shard : Shard) : Shard :=
  if j < k ∧ (verdictAt answers cluster j).concludes = true then shard.clearMigrateState else shard

end Spec

/-- What a pass starts from: disjoint normal ranges, a migrating range that its shard
owns, a target in range. -/
structure Migratable (cluster : Cluster) : Prop where
  normal : ∀ shard ∈ cluster.shards, Normal shard.slotRanges
  disjoint : ∀ j k x, cluster.SlotOf j x → cluster.SlotOf k x → j = k
  masters : ∀ shard ∈ cluster.shards, ∃ node, shard.getMasterNode = some node
  owned : ∀ i shard slot, cluster.shards[i]? = some shard → shard.isMigrating = true →
    shard.migratingSlot = some slot → ∀ x, slot.slotRange.start ≤ x → x ≤ slot.slotRange.stop → cluster.SlotOf i x
  targets : ∀ shard ∈ cluster.shards, shard.isMigrating = true → TargetInRange cluster shard

/-- The state after `k` rounds. -/
structure Settled (answers : Nat → NodeReplies) (ns : String) (kv : KV) (cluster : Cluster) (k : Nat)
    (pass : Pass (KV × Nat)) : Prop where
  running : pass.progress = .running
  name : pass.clonedCluster.name = cluster.name
  normal : ∀ l ∈ pass.clonedCluster.ranges, Normal l
  owner : ∀ j x, pass.clonedCluster.SlotOf j x ↔ OwnerAfter answers cluster k j x
  shards : ∀ j, pass.clonedCluster.shards[j]?.map Shard.bare =
    cluster.shards[j]?.map fun shard => (recordAfter answers cluster k j shard).bare
  version : pass.clonedCluster.version = cluster.version + concluded answers cluster k
  stored : pass.store.1[buildClusterKey ns cluster.name]? = some (.json pass.clonedCluster.marshalJSON)
  others : ∀ key, key ≠ buildClusterKey ns cluster.name → pass.store.1[key]? = kv[key]?
  published : pass.published = true ↔ 0 < concluded answers cluster k

section Rounds
variable {answers : Nat → NodeReplies} {texts : Nat → ClusterNode → Except Error String} {cluster : Cluster}
  {faults : Nat → Faults} {ns : String} {kv : KV}

theorem concluded_succ : concluded answers cluster (k + 1) =
    concluded answers cluster k + if (verdictAt answers cluster k).concludes then 1 else 0 := by
  rw [concluded, concluded, List.range_succ, List.countP_append, List.countP_singleton]

variable (answers cluster) in
theorem concluded_mono (order : k ≤ m) : concluded answers cluster k ≤ concluded answers cluster m := by
  induction order with
  | refl => exact Nat.le_refl _
  | step _ ih =>
    rw [concluded_succ]
    omega

/-- A write that succeeds leaves the edited copy, one version on, in the store. -/
theorem commit_succeeded {pass : Pass (KV × Nat)} {edited : Cluster} (running : pass.progress = .running)
    (succeeds : (updateCalls faults ns pass.store edited).err = none) :
    pass.commit (updateCalls faults ns) edited =
      { clonedCluster := { edited with version := nextVersion edited.version }
        store := (pass.store.1.insert (buildClusterKey ns edited.name)
          (.json { edited with version := nextVersion edited.version }.marshalJSON), pass.store.2 + 1)
        published := true
        progress := .running } := by
  unfold Pass.commit
  simp only [succeeds]
  unfold updateCalls at succeeds ⊢
  rcases ClusterStore.flat_updateCluster_cases (faults pass.store.2) ns pass.store.1 edited
    with ⟨version, err, failed⟩ | ⟨old, err, _, _, written⟩
  · simp [failed] at succeeds
  · simp only [written, running]

/-- A moved range is on record for its shard, owned by it, and on its way to a shard. -/
theorem Migratable.moved (migratable : Migratable cluster)
    (reads : ∀ i node, (answers i).getClusterInfo node = getClusterInfo (texts i node))
    (moves : verdictAt answers cluster i = .moved slot target) :
    slot.Valid ∧ target < cluster.shards.length ∧ ∀ x, x ∈ slot.points → cluster.SlotOf i x := by
  unfold verdictAt at moves
  split at moves
  · cases moves
  · rename_i shard found
    have member := List.mem_of_getElem? found
    obtain ⟨infoStr, info, recorded, replied, ⟨reported, recorded', some, onRecord', same⟩, _, onRecord, rfl, aimed,
      bound⟩ := (verdict_moved_iff (reads i) (migratable.masters shard member)).mp moves
    obtain rfl := Option.some.inj (onRecord.symm.trans onRecord')
    obtain ⟨migrating, _, _, _, parsed⟩ := replied
    have inBounds := same ▸ parseClusterInfo_inBounds parsed some
    exact ⟨inBounds.2.1, bound, fun x inside =>
      migratable.owned i shard recorded found migrating onRecord x inside.1 inside.2⟩

theorem ownerAfter_same (stays : ∀ slot target, verdictAt answers cluster k ≠ .moved slot target) :
    OwnerAfter answers cluster (k + 1) j x ↔ OwnerAfter answers cluster k j x := by
  have earlier {i : Nat} {slot : SlotRange} {target : Nat} (within : i < k + 1)
      (moves : verdictAt answers cluster i = .moved slot target) : i < k := by
    rcases Nat.lt_succ_iff_lt_or_eq.mp within with before | rfl
    · exact before
    · exact absurd moves (stays slot target)
  constructor
  · rintro (⟨i, within, slot, moves, inside⟩ | ⟨outside, owned⟩)
    · exact .inl ⟨i, earlier within moves, slot, moves, inside⟩
    · exact .inr ⟨fun i before => outside i (by omega), owned⟩
  · rintro (⟨i, before, slot, moves, inside⟩ | ⟨outside, owned⟩)
    · exact .inl ⟨i, by omega, slot, moves, inside⟩
    · exact .inr ⟨fun i within slot target moves => outside i (earlier within moves) slot target moves, owned⟩

theorem ownerAfter_moved (moves : verdictAt answers cluster k = .moved slot t)
    (fresh : ∀ i < k, ∀ range target, verdictAt answers cluster i = .moved range target → x ∈ slot.points →
      x ∉ range.points) :
    OwnerAfter answers cluster (k + 1) j x ↔ if x ∈ slot.points then j = t else OwnerAfter answers cluster k j x := by
  split
  · rename_i inside
    constructor
    · rintro (⟨i, within, range, moved, here⟩ | ⟨outside, _⟩)
      · rcases Nat.lt_succ_iff_lt_or_eq.mp within with before | rfl
        · exact absurd here (fresh i before range j moved inside)
        · exact (Verdict.moved.inj (moved.symm.trans moves)).2
      · exact absurd inside (outside k (by omega) slot t moves)
    · rintro rfl
      exact .inl ⟨k, by omega, slot, moves, inside⟩
  · rename_i outside
    constructor
    · rintro (⟨i, within, range, moved, here⟩ | ⟨elsewhere, owned⟩)
      · rcases Nat.lt_succ_iff_lt_or_eq.mp within with before | rfl
        · exact .inl ⟨i, before, range, moved, here⟩
        · exact absurd ((Verdict.moved.inj (moved.symm.trans moves)).1 ▸ here) outside
      · exact .inr ⟨fun i before => elsewhere i (by omega), owned⟩
    · rintro (⟨i, before, range, moved, here⟩ | ⟨elsewhere, owned⟩)
      · exact .inl ⟨i, by omega, range, moved, here⟩
      · refine .inr ⟨fun i within range target moved => ?_, owned⟩
        rcases Nat.lt_succ_iff_lt_or_eq.mp within with before | rfl
        · exact elsewhere i before range target moved
        · exact (Verdict.moved.inj (moved.symm.trans moves)).1 ▸ outside

theorem recordAfter_succ (j : Nat) (shard : Shard) :
    (recordAfter answers cluster (k + 1) j shard).bare =
      if j = k ∧ (verdictAt answers cluster k).concludes = true then
        (recordAfter answers cluster k j shard).bare.clearMigrateState
      else (recordAfter answers cluster k j shard).bare := by
  unfold recordAfter
  by_cases here : j = k
  · subst here
    by_cases concludes : (verdictAt answers cluster j).concludes = true <;> simp [concludes, Shard.bare]
    rfl
  · have within : j < k + 1 ↔ j < k := by omega
    simp [here, within]

theorem Settled.kept {pass : Pass (KV × Nat)} (settled : Settled answers ns kv cluster k pass)
    (kept : verdictAt answers cluster k = .kept) : Settled answers ns kv cluster (k + 1) pass where
  running := settled.running
  name := settled.name
  normal := settled.normal
  owner j x := (settled.owner j x).trans (ownerAfter_same (by simp [kept])).symm
  shards j := by
    rw [settled.shards]
    simp only [recordAfter_succ, kept, Verdict.concludes, Bool.false_eq_true, and_false, if_false]
  version := by
    rw [settled.version, concluded_succ, kept]
    rfl
  stored := settled.stored
  others := settled.others
  published := by
    rw [settled.published, concluded_succ, kept]
    rfl

/-- A round that concludes a migration and whose write succeeds. -/
theorem Settled.commit {pass : Pass (KV × Nat)} {edited : Cluster} (settled : Settled answers ns kv cluster k pass)
    (concludes : (verdictAt answers cluster k).concludes = true) (clears : ClearsOnly pass.clonedCluster k edited)
    (name : edited.name = pass.clonedCluster.name) (version : edited.version = pass.clonedCluster.version)
    (normal : ∀ l ∈ edited.ranges, Normal l) (owner : ∀ j x, edited.SlotOf j x ↔ OwnerAfter answers cluster (k + 1) j x)
    (lower : -(Strconv.maxInt64 + 1) ≤ cluster.version)
    (upper : cluster.version + concluded answers cluster (k + 1) ≤ Strconv.maxInt64)
    (succeeds : (updateCalls faults ns pass.store edited).err = none) :
    Settled answers ns kv cluster (k + 1) (pass.commit (updateCalls faults ns) edited) := by
  have name := name.trans settled.name
  have version := version.trans settled.version
  have count : concluded answers cluster (k + 1) = concluded answers cluster k + 1 := by
    rw [concluded_succ, if_pos concludes]
  have next : nextVersion edited.version = cluster.version + concluded answers cluster (k + 1) := by
    rw [nextVersion_eq (by omega) (by omega)]
    omega
  rw [commit_succeeded settled.running succeeds]
  refine ⟨rfl, name, normal, owner, fun j => ?_, next, ?_, fun key elsewhere => ?_, by simp [count]⟩
  · rw [clears, settled.shards, Option.map_map]
    simp only [Function.comp_def, recordAfter_succ, concludes, and_true]
  · rw [name]
    exact Std.ExtTreeMap.getElem?_insert_self
  · rw [name, Std.ExtTreeMap.getElem?_insert]
    simp only [Std.LawfulEqCmp.compare_eq_iff_eq]
    rw [if_neg fun same => elsewhere same.symm, settled.others key elsewhere]

section Effects
variable {pass : Pass (KV × Nat)} (settled : Settled answers ns kv cluster k pass)
include settled

theorem Settled.ranges_cleared (cleared : verdictAt answers cluster k = .cleared) :
    let edited := pass.clonedCluster.modifyShard k (·.clearMigrateState)
    (∀ l ∈ edited.ranges, Normal l) ∧ ∀ j x, edited.SlotOf j x ↔ OwnerAfter answers cluster (k + 1) j x := by
  intro edited
  have same : edited.ranges = pass.clonedCluster.ranges := ranges_clear pass.clonedCluster k
  refine ⟨same ▸ settled.normal, fun j x => ?_⟩
  rw [slotOf_iff, same, ← slotOf_iff, settled.owner]
  exact (ownerAfter_same (by simp [cleared])).symm

/-- The range on the move is still where it was before the pass: no earlier round took
any of it, since the moved ranges have different owners. -/
theorem Settled.ranges_moved (migratable : Migratable cluster)
    (reads : ∀ i node, (answers i).getClusterInfo node = getClusterInfo (texts i node))
    (length : pass.clonedCluster.shards.length = cluster.shards.length)
    (moves : verdictAt answers cluster k = .moved slot target) :
    let edited := pass.clonedCluster.moveSlot slot k target
    (∀ l ∈ edited.ranges, Normal l) ∧ ∀ j x, edited.SlotOf j x ↔ OwnerAfter answers cluster (k + 1) j x := by
  intro edited
  obtain ⟨valid, bound, owned⟩ := migratable.moved reads moves
  have fresh (x : Int) (i : Nat) (before : i < k) (range : SlotRange) (t : Nat)
      (earlier : verdictAt answers cluster i = .moved range t) (inside : x ∈ slot.points) : x ∉ range.points := by
    intro here
    have same := migratable.disjoint i k x ((migratable.moved reads earlier).2.2 x here) (owned x inside)
    omega
  have only (j : Nat) (x : Int) (inside : x ∈ slot.points) (owns : pass.clonedCluster.SlotOf j x) : j = k := by
    rcases (settled.owner j x).mp owns with ⟨i, before, range, earlier, here⟩ | ⟨_, owns⟩
    · exact absurd here (fresh x i before range j earlier inside)
    · exact migratable.disjoint j k x owns (owned x inside)
  have normal : ∀ shard ∈ pass.clonedCluster.shards, Normal shard.slotRanges := fun shard member =>
    settled.normal _ (List.mem_map_of_mem member)
  obtain ⟨after, owner⟩ := moveSlot_owner normal valid only (length ▸ bound)
  refine ⟨fun l member => ?_, fun j x => ?_⟩
  · obtain ⟨shard, inside, rfl⟩ := List.mem_map.mp member
    exact after shard inside
  · rw [owner, settled.owner, ownerAfter_moved moves (fresh x)]

end Effects

theorem Settled.start (migratable : Migratable cluster)
    (stored : kv[buildClusterKey ns cluster.name]? = some (.json cluster.marshalJSON)) :
    Settled answers ns kv cluster 0 ⟨cluster, (kv, 0), false, .running⟩ where
  running := rfl
  name := rfl
  normal := by simpa [ranges] using migratable.normal
  owner := by simp [OwnerAfter]
  shards := by simp [recordAfter]
  version := by simp [concluded]
  stored := stored
  others _ _ := rfl
  published := by simp [concluded]

/-- The object that round `k` hands to `UpdateCluster`, where it concludes a migration. -/
def submitted (answers : Nat → NodeReplies) (update : σ → Cluster → Updated σ) (store : σ) (cluster : Cluster)
    (k : Nat) : Option Cluster :=
  let clonedCluster := (statusRounds answers update store cluster k).clonedCluster
  match verdictAt answers cluster k with
  | .cleared => some (clonedCluster.modifyShard k (·.clearMigrateState))
  | .moved slot target => some (clonedCluster.moveSlot slot k target)
  | _ => none

/-- No `UpdateCluster` call of the pass fails. -/
def AllSucceed (answers : Nat → NodeReplies) (update : σ → Cluster → Updated σ) (store : σ) (cluster : Cluster) : Prop :=
  ∀ k < cluster.shards.length, ∀ edited, submitted answers update store cluster k = some edited →
    (update (statusRounds answers update store cluster k).store edited).err = none

/-- Every reply that is accepted names a migrating slot. -/
def Reporting (texts : Nat → ClusterNode → Except Error String) (cluster : Cluster) : Prop :=
  ∀ i shard infoStr info, cluster.shards[i]? = some shard → Replied (texts i) shard infoStr info →
    info.migratingSlot ≠ none

theorem Settled.rounds (migratable : Migratable cluster)
    (reads : ∀ i node, (answers i).getClusterInfo node = getClusterInfo (texts i node))
    (reporting : Reporting texts cluster)
    (stored : kv[buildClusterKey ns cluster.name]? = some (.json cluster.marshalJSON))
    (lower : -(Strconv.maxInt64 + 1) ≤ cluster.version)
    (upper : cluster.version + concluded answers cluster cluster.shards.length ≤ Strconv.maxInt64)
    (succeed : AllSucceed answers (updateCalls faults ns) (kv, 0) cluster) (bound : k ≤ cluster.shards.length) :
    Settled answers ns kv cluster k (statusRounds answers (updateCalls faults ns) (kv, 0) cluster k) := by
  induction k with
  | zero => exact .start migratable stored
  | succ k ih =>
    have settled := ih (by omega)
    have found := List.getElem?_eq_getElem (show k < cluster.shards.length by omega)
    have member := List.getElem_mem (show k < cluster.shards.length by omega)
    have master := migratable.masters _ member
    have atK : verdictAt answers cluster k = verdict (answers k) cluster.shards.length cluster.shards[k] := by
      simp only [verdictAt, found]
    have fits : cluster.version + concluded answers cluster (k + 1) ≤ Strconv.maxInt64 := by
      have := concluded_mono answers cluster bound
      omega
    obtain ⟨met, here, same⟩ := (statusRounds_ahead k).verdict found (answers k)
    rw [statusRounds, Pass.visit_eq settled.running here, same, ← atK]
    have writes := succeed k (by omega)
    unfold submitted at writes
    cases settles : verdictAt answers cluster k with
    | kept => exact settled.kept settles
    | cleared =>
      simp only [settles] at writes
      obtain ⟨normal, owner⟩ := settled.ranges_cleared settles
      exact settled.commit (by rw [settles]; rfl) (clearsOnly_clear _ k) rfl rfl normal owner lower fits (writes _ rfl)
    | moved slot target =>
      simp only [settles] at writes
      obtain ⟨normal, owner⟩ := settled.ranges_moved migratable reads (statusRounds_ahead k).length settles
      exact settled.commit (by rw [settles]; rfl) (clearsOnly_move _ slot k target) rfl rfl normal owner lower fits
        (writes _ rfl)
    | stops =>
      rw [atK, verdict_stops_iff (reads k) master] at settles
      obtain ⟨_, _, replied, _, outside⟩ := settles
      exact absurd (migratable.targets _ member replied.1) outside
    | panics =>
      rw [atK, verdict_panics_iff (reads k) master] at settles
      obtain ⟨infoStr, info, replied, silent⟩ := settles
      obtain ⟨_, _, _, _, parsed⟩ := id replied
      exact absurd ((parseClusterInfo_none parsed).mpr silent) (reporting k _ infoStr info found replied)

end Rounds

section Outcome

/-- The master's reply is about the recorded range and reports success. -/
def Succeeded (texts : ClusterNode → Except Error String) (shard : Shard) : Prop :=
  ∃ infoStr info, Replied texts shard infoStr info ∧ Matches shard info ∧ info.migratingState = "success"

/-- The reply is about the recorded range and its state is neither `none` nor `start`. -/
def Concluded (texts : ClusterNode → Except Error String) (shard : Shard) : Prop :=
  ∃ infoStr info, Replied texts shard infoStr info ∧ Matches shard info ∧
    info.migratingState ≠ "none" ∧ info.migratingState ≠ "start"

/-- The positions whose migration the replies conclude. -/
def conclusions (texts : Nat → ClusterNode → Except Error String) (cluster : Cluster) : Set Nat :=
  { i | ∃ shard, cluster.shards[i]? = some shard ∧ Concluded (texts i) shard }

/-- The slot `x` is on the move from the shard at `i`, which reports success. -/
def MovesFrom (texts : Nat → ClusterNode → Except Error String) (cluster : Cluster) (i : Nat) (shard : Shard)
    (x : Int) : Prop :=
  cluster.shards[i]? = some shard ∧ Succeeded (texts i) shard ∧ ∃ recorded, shard.migratingSlot = some recorded ∧
    recorded.slotRange.start ≤ x ∧ x ≤ recorded.slotRange.stop

/-- What a pass has made of the cluster and of the record, by what the nodes report. -/
structure Reported (texts : Nat → ClusterNode → Except Error String) (ns : String) (kv : KV) (cluster : Cluster)
    (pass : Pass (KV × Nat)) : Prop where
  running : pass.progress = .running
  moved : ∀ i shard x, MovesFrom texts cluster i shard x →
    ∀ j : Nat, pass.clonedCluster.SlotOf j x ↔ shard.targetShardIndex = j
  stayed : ∀ x, (∀ i shard, ¬ MovesFrom texts cluster i shard x) →
    ∀ j, pass.clonedCluster.SlotOf j x ↔ cluster.SlotOf j x
  canonical : ∀ shard ∈ pass.clonedCluster.shards, Normal shard.slotRanges
  count : pass.clonedCluster.shards.length = cluster.shards.length
  shards : ∀ i shard, cluster.shards[i]? = some shard → ∃ after, pass.clonedCluster.shards[i]? = some after ∧
    after.nodes = shard.nodes ∧
    (Concluded (texts i) shard → after.migratingSlot = none ∧ after.targetShardIndex = -1) ∧
    (¬ Concluded (texts i) shard →
      after.migratingSlot = shard.migratingSlot ∧ after.targetShardIndex = shard.targetShardIndex)
  name : pass.clonedCluster.name = cluster.name
  version : pass.clonedCluster.version = cluster.version + (conclusions texts cluster).ncard
  stored : pass.store.1[buildClusterKey ns cluster.name]? = some (.json pass.clonedCluster.marshalJSON)
  others : ∀ key, key ≠ buildClusterKey ns cluster.name → pass.store.1[key]? = kv[key]?
  published : (conclusions texts cluster).Nonempty → pass.published = true

variable {answers : Nat → NodeReplies} {texts : Nat → ClusterNode → Except Error String} {cluster : Cluster}

theorem stateVerdict_concludes :
    (stateVerdict slot target state).concludes = true ↔ state ≠ "none" ∧ state ≠ "start" := by
  unfold stateVerdict
  split
  · rename_i pending
    rcases pending with rfl | rfl <;> simp [Verdict.concludes]
  · rename_i ended
    rw [not_or] at ended
    split <;> simp [Verdict.concludes, ended]

theorem verdict_concludes_iff {replies : NodeReplies} {texts : ClusterNode → Except Error String}
    (reads : ∀ node, replies.getClusterInfo node = getClusterInfo (texts node))
    (master : ∃ node, shard.getMasterNode = some node) (target : shard.isMigrating = true → TargetInRange cluster shard) :
    (verdict replies cluster.shards.length shard).concludes = true ↔ Concluded texts shard := by
  by_cases answered : ∃ infoStr info, Replied texts shard infoStr info
  · obtain ⟨infoStr, info, replied⟩ := answered
    obtain ⟨recorded, onRecord⟩ := isMigrating_recorded replied.1
    rw [verdict_replied reads replied onRecord]
    have one : Concluded texts shard ↔
        Matches shard info ∧ info.migratingState ≠ "none" ∧ info.migratingState ≠ "start" := by
      constructor
      · rintro ⟨_, _, other, concluded⟩
        exact (replied.unique other).2 ▸ concluded
      · exact fun concluded => ⟨infoStr, info, replied, concluded⟩
    rw [one]
    unfold infoVerdict
    split
    · rename_i none
      simp [Verdict.concludes, Matches, none]
    · rename_i reported some
      have about : Matches shard info ↔ reported.slotRange = recorded.slotRange := by
        simp [Matches, some, onRecord]
      rw [about]
      split
      · rename_i differs
        simp [Verdict.concludes, differs]
      · rename_i same
        rw [not_not] at same
        have inside : 0 ≤ shard.targetShardIndex ∧ shard.targetShardIndex < cluster.shards.length := target replied.1
        rw [if_pos inside, stateVerdict_concludes]
        simp [same]
  · simp only [not_exists] at answered
    rw [verdict_unreplied reads master answered]
    simp [Verdict.concludes, Concluded, answered]

theorem Shard.bare_eq {a b : Shard} : a.bare = b.bare ↔
    a.nodes = b.nodes ∧ a.migratingSlot = b.migratingSlot ∧ a.targetShardIndex = b.targetShardIndex := by
  simp only [Shard.bare, Shard.mk.injEq, true_and, and_comm]

section Readings
variable (migratable : Migratable cluster)
  (reads : ∀ i node, (answers i).getClusterInfo node = getClusterInfo (texts i node))
include migratable reads

theorem Migratable.concludes_iff (found : cluster.shards[i]? = some shard) :
    (verdictAt answers cluster i).concludes = true ↔ Concluded (texts i) shard := by
  have member := List.mem_of_getElem? found
  simp only [verdictAt, found]
  exact verdict_concludes_iff (reads i) (migratable.masters shard member) (migratable.targets shard member)

theorem Migratable.moves_iff : (∃ slot, verdictAt answers cluster i = .moved slot j ∧ x ∈ slot.points) ↔
    ∃ shard, MovesFrom texts cluster i shard x ∧ shard.targetShardIndex = j := by
  unfold verdictAt MovesFrom
  cases found : cluster.shards[i]? with
  | none => simp
  | some shard =>
    have member := List.mem_of_getElem? found
    simp only [verdict_moved_iff (reads i) (migratable.masters shard member), Option.some.injEq]
    constructor
    · rintro ⟨slot, ⟨infoStr, info, recorded, replied, same, success, onRecord, rfl, aimed, _⟩, inside⟩
      exact ⟨shard, ⟨rfl, ⟨infoStr, info, replied, same, success⟩, recorded, onRecord, inside⟩, aimed⟩
    · rintro ⟨_, ⟨rfl, ⟨infoStr, info, replied, same, success⟩, recorded, onRecord, inside⟩, aimed⟩
      have bound := (migratable.targets shard member replied.1).2
      exact ⟨_, ⟨infoStr, info, recorded, replied, same, success, onRecord, rfl, aimed, by omega⟩, inside⟩

theorem Migratable.ncard_conclusions :
    (conclusions texts cluster).ncard = concluded answers cluster cluster.shards.length := by
  have same : conclusions texts cluster =
      ↑((Finset.range cluster.shards.length).filter fun i => (verdictAt answers cluster i).concludes = true) := by
    ext i
    simp only [conclusions, Set.mem_ofPred_eq, Finset.coe_filter, Finset.mem_range]
    constructor
    · rintro ⟨shard, found, concluded⟩
      exact ⟨(List.getElem?_eq_some_iff.mp found).1, (migratable.concludes_iff reads found).mpr concluded⟩
    · rintro ⟨within, concludes⟩
      have found := List.getElem?_eq_getElem within
      exact ⟨_, found, (migratable.concludes_iff reads found).mp concludes⟩
  rw [same, Set.ncard_coe_finset, Finset.card_def, Finset.filter_val, Finset.range_val, ← Multiset.countP_eq_card_filter,
    ← Multiset.coe_range, Multiset.coe_countP, concluded]
  simp only [Bool.decide_eq_true]

end Readings

/-- A slot is on the move from one shard only, its owner. -/
theorem Migratable.one_source (migratable : Migratable cluster) (first : MovesFrom texts cluster i shard x)
    (second : MovesFrom texts cluster j other x) : shard = other := by
  have owner {i : Nat} {shard : Shard} (moves : MovesFrom texts cluster i shard x) : cluster.SlotOf i x := by
    obtain ⟨found, ⟨_, _, replied, _⟩, recorded, onRecord, low, high⟩ := moves
    exact migratable.owned i shard recorded found replied.1 onRecord x low high
  obtain rfl := migratable.disjoint i j x (owner first) (owner second)
  exact Option.some.inj (first.1.symm.trans second.1)

theorem Migratable.target_nonneg (migratable : Migratable cluster) (moves : MovesFrom texts cluster i shard x) :
    0 ≤ shard.targetShardIndex := by
  obtain ⟨found, ⟨_, _, replied, _⟩, _⟩ := moves
  exact (migratable.targets shard (List.mem_of_getElem? found) replied.1).1

section Ended
variable {pass : Pass (KV × Nat)} (migratable : Migratable cluster)
  (reads : ∀ i node, (answers i).getClusterInfo node = getClusterInfo (texts i node))
  (settled : Settled answers ns kv cluster cluster.shards.length pass)
include migratable reads settled

theorem Settled.moved_owner (moves : MovesFrom texts cluster i shard x) (j : Nat) :
    pass.clonedCluster.SlotOf j x ↔ shard.targetShardIndex = j := by
  have within : i < cluster.shards.length := (List.getElem?_eq_some_iff.mp moves.1).1
  rw [settled.owner]
  constructor
  · rintro (⟨_, _, other⟩ | ⟨elsewhere, owned⟩)
    · obtain ⟨_, moves', aimed⟩ := (migratable.moves_iff reads).mp other
      exact migratable.one_source moves moves' ▸ aimed
    · obtain ⟨t, aimed⟩ := Int.eq_ofNat_of_zero_le (migratable.target_nonneg moves)
      obtain ⟨slot, goes, inside⟩ := (migratable.moves_iff reads).mpr ⟨shard, moves, aimed⟩
      exact absurd inside (elsewhere i within slot t goes)
  · intro aimed
    exact .inl ⟨i, within, (migratable.moves_iff reads).mpr ⟨shard, moves, aimed⟩⟩

theorem Settled.stayed_owner (stays : ∀ i shard, ¬ MovesFrom texts cluster i shard x) (j : Nat) :
    pass.clonedCluster.SlotOf j x ↔ cluster.SlotOf j x := by
  have never (i : Nat) (slot : SlotRange) (t : Nat) (goes : verdictAt answers cluster i = .moved slot t) :
      x ∉ slot.points := by
    intro inside
    obtain ⟨shard, moves, _⟩ := (migratable.moves_iff reads).mp ⟨slot, goes, inside⟩
    exact stays i shard moves
  rw [settled.owner]
  constructor
  · rintro (⟨i, _, slot, goes, inside⟩ | ⟨_, owned⟩)
    · exact absurd inside (never i slot j goes)
    · exact owned
  · exact fun owned => .inr ⟨fun i _ => never i, owned⟩

theorem Settled.records (found : cluster.shards[i]? = some shard) :
    ∃ after, pass.clonedCluster.shards[i]? = some after ∧ after.nodes = shard.nodes ∧
      (Concluded (texts i) shard → after.migratingSlot = none ∧ after.targetShardIndex = -1) ∧
      (¬ Concluded (texts i) shard →
        after.migratingSlot = shard.migratingSlot ∧ after.targetShardIndex = shard.targetShardIndex) := by
  have same := settled.shards i
  rw [found, Option.map_some, Option.map_eq_some_iff] at same
  obtain ⟨after, here, bare⟩ := same
  have bound := (List.getElem?_eq_some_iff.mp found).1
  have record := migratable.concludes_iff reads found
  rw [recordAfter] at bare
  refine ⟨after, here, ?_, fun concludes => ?_, fun continues => ?_⟩
  · split at bare <;> exact (Shard.bare_eq.mp bare).1
  · rw [if_pos ⟨bound, record.mpr concludes⟩] at bare
    exact (Shard.bare_eq.mp bare).2
  · rw [if_neg fun concludes => continues (record.mp concludes.2)] at bare
    exact (Shard.bare_eq.mp bare).2

end Ended

/-- Several migrations may end in one pass: with every write accepted and no version at
the end of its range, each moves or clears exactly as its source reports. -/
theorem status_pass_reports {faults : Nat → Faults} {kv : KV} (migratable : Migratable cluster)
    (reads : ∀ i node, (answers i).getClusterInfo node = getClusterInfo (texts i node))
    (reporting : Reporting texts cluster)
    (stored : kv[buildClusterKey ns cluster.name]? = some (.json cluster.marshalJSON))
    (lower : -(Strconv.maxInt64 + 1) ≤ cluster.version)
    (upper : cluster.version + (conclusions texts cluster).ncard ≤ Strconv.maxInt64)
    (succeed : AllSucceed answers (updateCalls faults ns) (kv, 0) cluster) :
    Reported texts ns kv cluster (statusPass answers (updateCalls faults ns) (kv, 0) cluster) := by
  rw [migratable.ncard_conclusions reads] at upper
  have settled := Settled.rounds migratable reads reporting stored lower upper succeed (Nat.le_refl _)
  refine ⟨settled.running, fun _ _ _ => settled.moved_owner migratable reads,
    fun _ => settled.stayed_owner migratable reads, fun shard member => ?_, (statusRounds_ahead _).length,
    fun _ _ => settled.records migratable reads, settled.name, ?_, settled.stored, settled.others, ?_⟩
  · exact settled.normal _ (List.mem_map_of_mem member)
  · rw [migratable.ncard_conclusions reads]
    exact settled.version
  · rintro ⟨i, shard, found, concludes⟩
    refine settled.published.mpr (List.countP_pos_iff.mpr ⟨i, ?_, ?_⟩)
    · exact List.mem_range.mpr (List.getElem?_eq_some_iff.mp found).1
    · exact (migratable.concludes_iff reads found).mpr concludes

section Samples

/-- Two migrations at once: the second shard gives slot 6 while slot 0 is on its way to
it. -/
def chained (version : Int) : Cluster where
  name := "c"
  version := version
  shards := [⟨[⟨0, "x", "a:1", roleMaster, "", 0⟩], [⟨0, 5⟩], 1, some ⟨⟨0, 0⟩, true⟩⟩,
    ⟨[⟨1, "y", "b:1", roleMaster, "", 0⟩], [⟨6, 99⟩], 0, some ⟨⟨6, 6⟩, true⟩⟩]

def chainedText : Nat → String
  | 0 => "migrating_slot:0\r\nmigrating_state:success"
  | _ => "migrating_slot:6\r\nmigrating_state:success"

def chainedStore (version : Int) : KV :=
  (∅ : KV).insert (buildClusterKey "ns" "c") (.json (chained version).marshalJSON)

theorem chained_slots {version : Int} : (chained version).SlotOf k x ↔
    k = 0 ∧ 0 ≤ x ∧ x ≤ 5 ∨ k = 1 ∧ 6 ≤ x ∧ x ≤ 99 := by
  match k with
  | 0 => simp [SlotOf, chained]
  | 1 => simp [SlotOf, chained]
  | k + 2 => simp [SlotOf, chained]

theorem chained_migratable (version : Int) : Migratable (chained version) where
  normal := by
    intro shard member
    simp only [chained, List.mem_cons, List.not_mem_nil, or_false] at member
    rcases member with rfl | rfl <;> exact ⟨by simp [Valid], by simp⟩
  disjoint j k x first second := by
    rw [chained_slots] at first second
    omega
  masters := by
    intro shard member
    simp only [chained, List.mem_cons, List.not_mem_nil, or_false] at member
    rcases member with rfl | rfl <;> exact ⟨_, rfl⟩
  owned i shard slot found _ recorded x low high := by
    rw [chained_slots]
    rcases i with _ | _ | i
    case succ.succ => cases found
    all_goals
      obtain rfl := Option.some.inj found
      obtain rfl := Option.some.inj recorded
      simp only at low high
      omega
  targets := by
    intro shard member _
    simp only [chained, List.mem_cons, List.not_mem_nil, or_false] at member
    rcases member with rfl | rfl <;> simp [TargetInRange, chained]

theorem chained_reporting (version : Int) : Reporting (fun i _ => .ok (chainedText i)) (chained version) := by
  have named : ∀ i < 2, ∃ line ∈ infoLines (chainedText i), namesSlot line = true := by decide +kernel
  rintro i shard infoStr info found ⟨_, _, _, text, parsed⟩ silent
  obtain rfl := Except.ok.inj text
  obtain ⟨line, member, names⟩ := named i (List.getElem?_eq_some_iff.mp found).1
  rw [(parseClusterInfo_none parsed).mp silent line member] at names
  cases names

def chainedPass (version : Int) : Pass (KV × Nat) :=
  statusPass (fun i => replying (chainedText i)) (updateCalls (fun _ => .none) "ns") (chainedStore version, 0)
    (chained version)

/-- Where the writes of the two rounds succeed, all of them do. -/
theorem chained_succeed {version : Int} {update : σ → Cluster → Updated σ} {store : σ}
    (writes : ∀ k < 2, ((submitted answers update store (chained version) k).all fun edited =>
      (update (statusRounds answers update store (chained version) k).store edited).err.isNone) = true) :
    AllSucceed answers update store (chained version) := by
  intro k bound edited submits
  have succeeds := writes k bound
  rw [submits, Option.all_some, Option.isNone_iff_eq_none] at succeeds
  exact succeeds

end Samples

/-- Slot 0 arrives at the shard that gives slot 6 away in the next round. -/
theorem status_pass_reports_chained :
    Reported (fun i _ => .ok (chainedText i)) "ns" (chainedStore 1) (chained 1) (chainedPass 1) ∧
      (chainedPass 1).clonedCluster.version = 3 := by
  have reads : ∀ (i : Nat) (node : ClusterNode),
      (replying (chainedText i)).getClusterInfo node = getClusterInfo (.ok (chainedText i)) := fun _ _ => rfl
  have two : (conclusions (fun i _ => .ok (chainedText i)) (chained 1)).ncard = 2 := by
    rw [(chained_migratable 1).ncard_conclusions reads]
    decide +kernel
  have succeed : AllSucceed (fun i => replying (chainedText i)) (updateCalls (fun _ => .none) "ns")
      (chainedStore 1, 0) (chained 1) := chained_succeed (by decide +kernel)
  have reported : Reported (fun i _ => .ok (chainedText i)) "ns" (chainedStore 1) (chained 1) (chainedPass 1) :=
    status_pass_reports (chained_migratable 1) reads (chained_reporting 1) Std.ExtTreeMap.getElem?_insert_self
      (by decide) (by rw [two]; decide) succeed
  have version : (chainedPass 1).clonedCluster.version = 1 + ((2 : Nat) : Int) := two ▸ reported.version
  exact ⟨reported, version⟩

/-- At the largest version the first conclusion wraps it around. -/
theorem status_pass_wraps_version :
    Migratable (chained Strconv.maxInt64) ∧
      Reporting (fun i _ => .ok (chainedText i)) (chained Strconv.maxInt64) ∧
      AllSucceed (fun i => replying (chainedText i)) (updateCalls (fun _ => .none) "ns")
        (chainedStore Strconv.maxInt64, 0) (chained Strconv.maxInt64) ∧
      (chainedPass Strconv.maxInt64).progress = .running ∧
      (chainedPass Strconv.maxInt64).clonedCluster.version = -9223372036854775807 := by
  refine ⟨chained_migratable _, chained_reporting _, chained_succeed (by decide +kernel), ?_⟩
  decide +kernel

end Outcome
end Kvrocks
