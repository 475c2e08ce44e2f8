import KvrocksController.Store.ClusterStore

/-! One pass of `tryUpdateMigrationStatus` over a working copy of the cluster. The
store is an interface in the source and an argument here: a pass is generic in the
store's state and in what `UpdateCluster` does to it. -/
namespace Kvrocks

inductive Progress where
  | running
  | returned
  | panicked
deriving DecidableEq, Repr

/-- `published` is set once `c.cluster` is the working copy itself. -/
structure Pass (σ : Type) where
  clonedCluster : Cluster
  store : σ
  published : Bool
  progress : Progress

variable {σ : Type}

/-- Write the edited working copy back; a refusal ends the pass. -/
def Pass.commit (update : σ → Cluster → Updated σ) (edited : Cluster) (pass : Pass σ) : Pass σ :=
  let result := update pass.store edited
  let pass := { pass with clonedCluster := { edited with version := result.version }, store := result.store }
  match result.err with
  | some _ => { pass with progress := .returned }
  | none => { pass with published := true }

/-- The `switch` on the reported state, for the shard at `i` and a valid target. -/
def Pass.conclude (update : σ → Cluster → Updated σ) (i target : Nat) (slot : SlotRange) (state : String)
    (pass : Pass σ) : Pass σ :=
  if state = "none" ∨ state = "start" then pass
  else if state = "fail" then
    pass.commit update (pass.clonedCluster.modifyShard i (·.clearMigrateState))
  else if state = "success" then pass.commit update (pass.clonedCluster.moveSlot slot i target)
  else pass.commit update (pass.clonedCluster.modifyShard i (·.clearMigrateState))

/-- A nil master and a reply without a migrating slot are dereferenced. -/
def Pass.statusStep (replies : NodeReplies) (update : σ → Cluster → Updated σ) (i : Nat) (shard : Shard)
    (pass : Pass σ) : Pass σ :=
  if !shard.isMigrating then pass
  else
    match shard.getMasterNode with
    | none => { pass with progress := .panicked }
    | some sourceNode =>
      match replies.getClusterInfo sourceNode with
      | .error _ => pass
      | .ok info =>
        match info.migratingSlot, shard.migratingSlot with
        | some reported, some recorded =>
          if !SlotRange.equal reported.slotRange recorded.slotRange then pass
          else
            match pass.clonedCluster.position? shard.targetShardIndex with
            | none => { pass with progress := .returned }
            | some target => pass.conclude update i target recorded.slotRange info.migratingState
        | _, _ => { pass with progress := .panicked }

/-- The body of the loop; nothing happens once the function has returned. -/
def Pass.visit (replies : NodeReplies) (update : σ → Cluster → Updated σ) (pass : Pass σ) (i : Nat) : Pass σ :=
  match pass.progress, pass.clonedCluster.shards[i]? with
  | .running, some shard => pass.statusStep replies update i shard
  | _, _ => pass

def tryUpdateMigrationStatus (replies : NodeReplies) (update : σ → Cluster → Updated σ) (store : σ)
    (clonedCluster : Cluster) : Pass σ :=
  (List.range clonedCluster.shards.length).foldl (Pass.visit replies update) ⟨clonedCluster, store, false, .running⟩

end Kvrocks
