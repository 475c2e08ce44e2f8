import KvrocksController.Controller.Migration
import KvrocksController.Store.ClusterProofs

/-! What a round of a status pass does with its shard is the verdict on the reply of the
shard's master. A pass so edits its working copy in two ways only, at a shard that is
migrating; an invariant of these edits is an invariant of every pass. -/
namespace Kvrocks
variable {σ : Type}

/-- The edit a reported outcome of the migration of shard `i` makes. -/
inductive StatusEdit (cluster : Cluster) (i : Nat) : Cluster → Prop where
  | cleared (found : cluster.shards[i]? = some shard) (migrating : shard.isMigrating = true) :
      StatusEdit cluster i (cluster.modifyShard i (·.clearMigrateState))
  | moved {target : Nat} (found : cluster.shards[i]? = some shard) (migrating : shard.isMigrating = true)
      (recorded : shard.migratingSlot = some slot) (aimed : shard.targetShardIndex = target)
      (bound : target < cluster.shards.length) :
      StatusEdit cluster i (cluster.moveSlot slot.slotRange i target)

/-- What a reply settles about the migration of a shard. -/
inductive Verdict where
  | kept
  | cleared
  | moved (slot : SlotRange) (target : Nat)
  | stops
  | panics
deriving DecidableEq, Repr

/-- A reply for the recorded range and a target in range. -/
def stateVerdict (slot : SlotRange) (target : Nat) (state : String) : Verdict :=
  if state = "none" ∨ state = "start" then .kept
  else if state = "success" then .moved slot target
  else .cleared

def infoVerdict (count : Nat) (target : Int) (slot : SlotRange) (info : ClusterInfo) : Verdict :=
  match info.migratingSlot with
  | none => .panics
  | some reported =>
    if reported.slotRange ≠ slot then .kept
    else if 0 ≤ target ∧ target < count then stateVerdict slot target.toNat info.migratingState
    else .stops

/-- The verdict on a shard of a cluster with `count` shards. -/
def verdict (answers : NodeReplies) (count : Nat) (shard : Shard) : Verdict :=
  if shard.isMigrating then
    match shard.migratingSlot, shard.getMasterNode with
    | some recorded, some sourceNode =>
      match answers.getClusterInfo sourceNode with
      | .error _ => .kept
      | .ok info => infoVerdict count shard.targetShardIndex recorded.slotRange info
    | _, _ => .panics
  else .kept

theorem SlotRange.equal_iff {a b : SlotRange} : SlotRange.equal a b = true ↔ a = b := by
  obtain ⟨start, stop⟩ := a
  obtain ⟨start', stop'⟩ := b
  unfold SlotRange.equal
  split
  · simp_all
  · split <;> simp_all

/-- What a verdict on the shard at `i` makes of the pass. -/
def Pass.settle (update : σ → Cluster → Updated σ) (i : Nat) (pass : Pass σ) : Verdict → Pass σ
  | .kept => pass
  | .cleared => pass.commit update (pass.clonedCluster.modifyShard i (·.clearMigrateState))
  | .moved slot target => pass.commit update (pass.clonedCluster.moveSlot slot i target)
  | .stops => { pass with progress := .returned }
  | .panics => { pass with progress := .panicked }

theorem Pass.conclude_eq (update : σ → Cluster → Updated σ) (i target : Nat) (slot : SlotRange) (state : String)
    (pass : Pass σ) :
    pass.conclude update i target slot state = pass.settle update i (stateVerdict slot target state) := by
  unfold conclude stateVerdict
  split
  · rfl
  · split
    · rename_i failed
      rw [if_neg (by rw [failed]; decide)]
      rfl
    · split
      · rfl
      · rfl

/-- A round of a pass that still runs does what the verdict on its shard says. -/
theorem Pass.visit_eq {pass : Pass σ} {shard : Shard} (running : pass.progress = .running)
    (found : pass.clonedCluster.shards[i]? = some shard) (answers : NodeReplies) (update : σ → Cluster → Updated σ) :
    pass.visit answers update i =
      pass.settle update i (verdict answers pass.clonedCluster.shards.length shard) := by
  simp only [visit, running, found, statusStep, verdict]
  cases migrating : shard.isMigrating with
  | false => rfl
  | true =>
    cases recorded : shard.migratingSlot with
    | none => simp [Shard.isMigrating, recorded] at migrating
    | some slot =>
      cases shard.getMasterNode with
      | none => rfl
      | some sourceNode =>
        cases replied : answers.getClusterInfo sourceNode with
        | error e =>
          simp only [replied]
          rfl
        | ok info =>
          simp only [replied, infoVerdict]
          cases info.migratingSlot with
          | none => rfl
          | some reported =>
            simp only [Bool.not_true, Bool.false_eq_true, if_false, if_true, Bool.not_eq_eq_eq_not,
              ← Bool.not_eq_true, SlotRange.equal_iff, ne_eq]
            by_cases same : reported.slotRange = slot.slotRange
            · simp only [same, not_true, if_false]
              cases position : pass.clonedCluster.position? shard.targetShardIndex with
              | none =>
                simp only [if_neg (Cluster.position?_eq_none.mp position)]
                rfl
              | some target =>
                obtain ⟨aimed, bound⟩ := Cluster.position?_eq_some.mp position
                have inside : 0 ≤ (target : Int) ∧ (target : Int) < pass.clonedCluster.shards.length := by omega
                simp only [aimed, if_pos inside, conclude_eq, Int.toNat_natCast]
            · simp only [same, not_false_eq_true, if_true]
              rfl

theorem Pass.visit_ended {pass : Pass σ} {update : σ → Cluster → Updated σ} (ended : pass.progress ≠ .running)
    (replies : NodeReplies) (i : Nat) : pass.visit replies update i = pass := by
  unfold visit
  split
  · rename_i running _
    exact absurd running ended
  · rfl

@[simp] theorem Pass.commit_shards (update : σ → Cluster → Updated σ) (edited : Cluster) (pass : Pass σ) :
    (pass.commit update edited).clonedCluster.shards = edited.shards := by
  unfold commit
  dsimp only
  split <;> rfl

theorem infoVerdict_moved : infoVerdict count target slot info = .moved range t ↔
    (∃ reported, info.migratingSlot = some reported ∧ reported.slotRange = slot) ∧ (0 ≤ target ∧ target < count) ∧
      info.migratingState = "success" ∧ range = slot ∧ t = target.toNat := by
  unfold infoVerdict stateVerdict
  split
  · rename_i none
    simp [none]
  · rename_i reported some
    simp only [some, Option.some.injEq, exists_eq_left', ne_eq]
    split
    · rename_i differs
      simp [differs]
    · rename_i same
      rw [not_not] at same
      split
      · rename_i inside
        simp only [same, inside, true_and, and_self]
        split
        · rename_i pending
          rcases pending with pending | pending <;> simp [pending]
        · split
          · rename_i success
            simp [success, eq_comm]
          · rename_i other
            simp [other]
      · rename_i outside
        simp [outside]

/-- A move is of the recorded range of a migrating shard, to a target in range. -/
theorem verdict_moved (moves : verdict answers count shard = .moved slot target) : shard.isMigrating = true ∧
    ∃ recorded, shard.migratingSlot = some recorded ∧ recorded.slotRange = slot ∧ shard.targetShardIndex = target ∧
      target < count := by
  unfold verdict at moves
  split at moves
  · rename_i migrating
    split at moves
    · rename_i recorded sourceNode onRecord _
      split at moves
      · cases moves
      · obtain ⟨_, ⟨low, high⟩, _, rfl, rfl⟩ := infoVerdict_moved.mp moves
        exact ⟨migrating, recorded, onRecord, rfl, by omega, by omega⟩
    · cases moves
  · cases moves

theorem verdict_cleared (clears : verdict answers count shard = .cleared) : shard.isMigrating = true := by
  unfold verdict at clears
  split at clears
  · assumption
  · cases clears

/-- A round of the loop touches nothing but `progress`, or commits one edit. -/
theorem Pass.visit_cases (replies : NodeReplies) (update : σ → Cluster → Updated σ) (pass : Pass σ) (i : Nat) :
    (∃ progress, pass.visit replies update i = { pass with progress }) ∨
      ∃ edited, StatusEdit pass.clonedCluster i edited ∧
        pass.visit replies update i = pass.commit update edited := by
  by_cases running : pass.progress = .running
  · cases found : pass.clonedCluster.shards[i]? with
    | none =>
      refine .inl ⟨pass.progress, ?_⟩
      unfold visit
      rw [found]
      split
      · contradiction
      · rfl
    | some shard =>
      rw [visit_eq running found]
      cases settled : verdict replies pass.clonedCluster.shards.length shard with
      | kept => exact .inl ⟨pass.progress, rfl⟩
      | cleared => exact .inr ⟨_, .cleared found (verdict_cleared settled), rfl⟩
      | moved slot target =>
        obtain ⟨migrating, recorded, onRecord, rfl, aimed, bound⟩ := verdict_moved settled
        exact .inr ⟨_, .moved found migrating onRecord aimed bound, rfl⟩
      | stops => exact .inl ⟨.returned, rfl⟩
      | panics => exact .inl ⟨.panicked, rfl⟩
  · exact .inl ⟨pass.progress, visit_ended running replies i⟩

/-- A success report for the recorded range moves it to the shard at the recorded index. -/
theorem Pass.visit_success {pass : Pass σ} {shard : Shard} {target : Nat} (running : pass.progress = .running)
    (found : pass.clonedCluster.shards[i]? = some shard) (migrating : shard.isMigrating = true)
    (master : shard.getMasterNode = some sourceNode) (replied : replies.getClusterInfo sourceNode = .ok info)
    (reported : info.migratingSlot = some ⟨slot, reportedFlag⟩)
    (recorded : shard.migratingSlot = some ⟨slot, recordedFlag⟩) (success : info.migratingState = "success")
    (aimed : shard.targetShardIndex = target) (bound : target < pass.clonedCluster.shards.length) :
    (pass.visit replies update i).clonedCluster.shards = (pass.clonedCluster.moveSlot slot i target).shards := by
  have moves : verdict replies pass.clonedCluster.shards.length shard = .moved slot target := by
    simp only [verdict, migrating, if_true, recorded, master, replied]
    exact infoVerdict_moved.mpr ⟨⟨_, reported, rfl⟩, by omega, success, rfl, by omega⟩
  rw [visit_eq running found, moves, settle, commit_shards]

/-- The loop rule: `P` of the working copy and `Q` of the store. -/
theorem tryUpdateMigrationStatus_invariant {P : List Shard → Prop} {Q : σ → Prop}
    (edits : ∀ cluster i edited, P cluster.shards → StatusEdit cluster i edited → P edited.shards)
    (writes : ∀ store cluster, Q store → P cluster.shards → Q (update store cluster).store)
    (copy : P cluster.shards) (kept : Q store) :
    P (tryUpdateMigrationStatus replies update store cluster).clonedCluster.shards ∧
      Q (tryUpdateMigrationStatus replies update store cluster).store := by
  have round (pass : Pass σ) (i : Nat) (holds : P pass.clonedCluster.shards ∧ Q pass.store) :
      P (pass.visit replies update i).clonedCluster.shards ∧ Q (pass.visit replies update i).store := by
    rcases pass.visit_cases replies update i with ⟨progress, same⟩ | ⟨edited, edit, same⟩
    · rw [same]
      exact holds
    · have copy := edits _ _ _ holds.1 edit
      have kept := writes _ _ holds.2 copy
      rw [same]
      unfold Pass.commit
      dsimp only
      split <;> exact ⟨copy, kept⟩
  have loop (rounds : List Nat) (pass : Pass σ) (holds : P pass.clonedCluster.shards ∧ Q pass.store) :
      P (rounds.foldl (Pass.visit replies update) pass).clonedCluster.shards ∧
        Q (rounds.foldl (Pass.visit replies update) pass).store := by
    induction rounds generalizing pass with
    | nil => exact holds
    | cons i rounds ih => exact ih _ (round pass i holds)
  exact loop _ _ ⟨copy, kept⟩

end Kvrocks
