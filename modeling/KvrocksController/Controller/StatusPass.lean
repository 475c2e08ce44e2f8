import KvrocksController.Controller.MigrationProofs
import KvrocksController.Store.ClusterInfo
import KvrocksController.Store.SlotMoves

/-! A status pass round by round. What a round does with its shard is decided by the
shard as it was before the pass, since earlier rounds only move slots into it; the one
way to a nil dereference is a reply that names no migrating slot. -/
namespace Kvrocks
variable {σ : Type}

/-- The first `k` rounds of a pass, with the answers that the nodes give in each. -/
def statusRounds (answers : Nat → NodeReplies) (update : σ → Cluster → Updated σ) (store : σ) (cluster : Cluster) :
    (k : Nat) → Pass σ
  | 0 => ⟨cluster, store, false, .running⟩
  | k + 1 => (statusRounds answers update store cluster k).visit (answers k) update k

/-- A pass in which a node that is asked twice need not answer alike. -/
def statusPass (answers : Nat → NodeReplies) (update : σ → Cluster → Updated σ) (store : σ) (cluster : Cluster) :
    Pass σ :=
  statusRounds answers update store cluster cluster.shards.length

theorem tryUpdateMigrationStatus_eq (replies : NodeReplies) (update : σ → Cluster → Updated σ) (store : σ)
    (cluster : Cluster) :
    tryUpdateMigrationStatus replies update store cluster = statusPass (fun _ => replies) update store cluster := by
  have rounds (k : Nat) : (List.range k).foldl (Pass.visit replies update) ⟨cluster, store, false, .running⟩ =
      statusRounds (fun _ => replies) update store cluster k := by
    induction k with
    | zero => rfl
    | succ k ih => rw [List.range_succ, List.foldl_append, ih, List.foldl_cons, List.foldl_nil, statusRounds]
  exact rounds cluster.shards.length

/-- A shard without its ranges: all that a verdict depends on. -/
def Shard.bare (shard : Shard) : Shard := { shard with slotRanges := [] }

theorem verdict_bare (answers : NodeReplies) (count : Nat) (shard : Shard) :
    verdict answers count shard.bare = verdict answers count shard := rfl

section Frame

/-- The nodes are as they were, and so is the record of every shard but the one at `i`. -/
def ClearsOnly (cluster : Cluster) (i : Nat) (next : Cluster) : Prop :=
  ∀ j : Nat, next.shards[j]?.map Shard.bare =
    (cluster.shards[j]?.map Shard.bare).map fun bare => if j = i then bare.clearMigrateState else bare

theorem clearsOnly_clear (cluster : Cluster) (i : Nat) :
    ClearsOnly cluster i (cluster.modifyShard i (·.clearMigrateState)) := by
  intro j
  simp only [Cluster.modifyShard, List.getElem?_modify, eq_comm (a := i)]
  cases cluster.shards[j]? with
  | none => rfl
  | some shard => split <;> rfl

theorem clearsOnly_move (cluster : Cluster) (slot : SlotRange) (i target : Nat) :
    ClearsOnly cluster i (cluster.moveSlot slot i target) := by
  intro j
  rw [Cluster.getElem?_moveSlot]
  cases cluster.shards[j]? with
  | none => rfl
  | some shard =>
    simp only [Option.map_some, Option.some.injEq]
    split <;> rfl

theorem StatusEdit.clearsOnly (edit : StatusEdit cluster i next) : ClearsOnly cluster i next := by
  cases edit with
  | cleared => exact clearsOnly_clear cluster i
  | moved => exact clearsOnly_move cluster _ i _

theorem StatusEdit.length (edit : StatusEdit cluster i next) : next.shards.length = cluster.shards.length := by
  cases edit with
  | cleared => simp [Cluster.modifyShard]
  | moved => simp [Cluster.moveSlot, Cluster.modifyShard]

/-- Before round `k` the shards from `k` on are as they were, up to their ranges. -/
structure Ahead (cluster : Cluster) (k : Nat) (pass : Pass σ) : Prop where
  length : pass.clonedCluster.shards.length = cluster.shards.length
  later : ∀ j, k ≤ j → pass.clonedCluster.shards[j]?.map Shard.bare = cluster.shards[j]?.map Shard.bare

variable {answers : Nat → NodeReplies} {update : σ → Cluster → Updated σ} {store : σ} {cluster : Cluster}

theorem Ahead.visit {pass : Pass σ} (ahead : Ahead cluster k pass) (replies : NodeReplies) :
    Ahead cluster (k + 1) (pass.visit replies update k) := by
  rcases pass.visit_cases replies update k with ⟨progress, same⟩ | ⟨edited, edit, same⟩
  · rw [same]
    exact ⟨ahead.length, fun j later => ahead.later j (by omega)⟩
  · rw [same]
    refine ⟨?_, fun j later => ?_⟩
    · rw [Pass.commit_shards, edit.length, ahead.length]
    · rw [Pass.commit_shards, edit.clearsOnly, ahead.later j (by omega)]
      simp only [if_neg (show j ≠ k by omega), Option.map_id']

theorem statusRounds_ahead (k : Nat) : Ahead cluster k (statusRounds answers update store cluster k) := by
  induction k with
  | zero => exact ⟨rfl, fun _ _ => rfl⟩
  | succ k ih => exact ih.visit (answers k)

/-- The shard a round meets gets the verdict that it had before the pass. -/
theorem Ahead.verdict {pass : Pass σ} (ahead : Ahead cluster k pass) (found : cluster.shards[k]? = some shard)
    (replies : NodeReplies) :
    ∃ met, pass.clonedCluster.shards[k]? = some met ∧
      Kvrocks.verdict replies pass.clonedCluster.shards.length met =
        Kvrocks.verdict replies cluster.shards.length shard := by
  have same := ahead.later k (Nat.le_refl k)
  rw [found, Option.map_some, Option.map_eq_some_iff] at same
  obtain ⟨met, here, bare⟩ := same
  refine ⟨met, here, ?_⟩
  rw [← verdict_bare, bare, verdict_bare, ahead.length]

/-- None of the first `k` rounds ends the pass for what its shard or its reply is. -/
def Passable (answers : Nat → NodeReplies) (cluster : Cluster) (k : Nat) : Prop :=
  ∀ i < k, ∀ shard, cluster.shards[i]? = some shard →
    Kvrocks.verdict (answers i) cluster.shards.length shard ≠ .stops ∧
      Kvrocks.verdict (answers i) cluster.shards.length shard ≠ .panics

/-- Round `i` is the first to end the pass by itself, with this verdict. -/
def EndsAt (answers : Nat → NodeReplies) (cluster : Cluster) (i : Nat) (reason : Verdict) : Prop :=
  Passable answers cluster i ∧
    ∃ shard, cluster.shards[i]? = some shard ∧ Kvrocks.verdict (answers i) cluster.shards.length shard = reason

theorem Passable.succ (passable : Passable answers cluster k) (found : cluster.shards[k]? = some shard)
    (passes : Kvrocks.verdict (answers k) cluster.shards.length shard ≠ .stops ∧
      Kvrocks.verdict (answers k) cluster.shards.length shard ≠ .panics) : Passable answers cluster (k + 1) := by
  intro i within other here
  rcases Nat.lt_succ_iff_lt_or_eq.mp within with before | rfl
  · exact passable i before other here
  · obtain rfl := Option.some.inj (found.symm.trans here)
    exact passes

/-- Why the first `k` rounds have ended the way they have. -/
def Explained (answers : Nat → NodeReplies) (update : σ → Cluster → Updated σ) (cluster : Cluster) (k : Nat) :
    Progress → Prop
  | .running => Passable answers cluster k
  | .panicked => ∃ i < k, EndsAt answers cluster i .panics
  | .returned => (∃ i < k, EndsAt answers cluster i .stops) ∨ ∃ s c, (update s c).err ≠ none

theorem Explained.succ (ended : progress ≠ .running) (explained : Explained answers update cluster k progress) :
    Explained answers update cluster (k + 1) progress := by
  cases progress with
  | running => exact absurd rfl ended
  | panicked =>
    obtain ⟨i, before, here⟩ := explained
    exact ⟨i, by omega, here⟩
  | returned =>
    refine Or.imp_left ?_ explained
    rintro ⟨i, before, here⟩
    exact ⟨i, by omega, here⟩

theorem Passable.commit {pass : Pass σ} (passable : Passable answers cluster k) (running : pass.progress = .running)
    (edited : Cluster) : Explained answers update cluster k (pass.commit update edited).progress := by
  unfold Pass.commit
  dsimp only
  cases failed : (update pass.store edited).err with
  | none =>
    simp only [running]
    exact passable
  | some e => exact .inr ⟨pass.store, edited, by simp [failed]⟩

variable (answers update store) in
theorem statusRounds_explained (bound : k ≤ cluster.shards.length) :
    Explained answers update cluster k (statusRounds answers update store cluster k).progress := by
  induction k with
  | zero => exact fun i none => absurd none (Nat.not_lt_zero i)
  | succ k ih =>
    have explained := ih (by omega)
    rw [statusRounds]
    by_cases running : (statusRounds answers update store cluster k).progress = .running
    · have found := List.getElem?_eq_getElem (show k < cluster.shards.length by omega)
      obtain ⟨met, atK, same⟩ := (statusRounds_ahead k).verdict found (answers k)
      rw [Pass.visit_eq running atK, same]
      rw [running] at explained
      cases settled : Kvrocks.verdict (answers k) cluster.shards.length cluster.shards[k] with
      | kept =>
        simp only [Pass.settle, running]
        exact Passable.succ explained found (by simp [settled])
      | cleared => exact (Passable.succ explained found (by simp [settled])).commit running _
      | moved slot target => exact (Passable.succ explained found (by simp [settled])).commit running _
      | stops => exact .inl ⟨k, by omega, explained, _, found, settled⟩
      | panics => exact ⟨k, by omega, explained, _, found, settled⟩
    · rw [Pass.visit_ended running]
      exact explained.succ running

/-- Whatever the writes come to, a pass panics exactly if some round would and no
earlier one stops it. -/
theorem statusPass_panics_iff :
    (∀ (σ : Type) (update : σ → Cluster → Updated σ) (store : σ),
      (statusPass answers update store cluster).progress ≠ .panicked) ↔
    ∀ i shard, cluster.shards[i]? = some shard →
      Kvrocks.verdict (answers i) cluster.shards.length shard = .panics →
      ∃ j < i, ∃ earlier, cluster.shards[j]? = some earlier ∧
        Kvrocks.verdict (answers j) cluster.shards.length earlier = .stops := by
  constructor
  · intro never i shard found panics
    have within := (List.getElem?_eq_some_iff.mp found).1
    -- a store that accepts every write leaves only the verdicts to end the pass
    let accept : Unit → Cluster → Updated Unit := fun _ cluster => ⟨(), cluster.version, none⟩
    have noPanic := never Unit accept ()
    have explained := statusRounds_explained answers accept () (Nat.le_refl cluster.shards.length)
    rw [statusPass] at noPanic
    cases progress : (statusRounds answers accept () cluster cluster.shards.length).progress with
    | running =>
      rw [progress] at explained
      exact absurd panics (explained i within shard found).2
    | panicked => exact absurd progress noPanic
    | returned =>
      rw [progress] at explained
      rcases explained with ⟨j, _, passable, earlier, here, stops⟩ | ⟨_, _, refused⟩
      · refine ⟨j, ?_, earlier, here, stops⟩
        rcases Nat.lt_trichotomy j i with before | rfl | after
        · exact before
        · obtain rfl := Option.some.inj (found.symm.trans here)
          rw [stops] at panics
          cases panics
        · exact absurd panics (passable i after shard found).2
      · exact absurd rfl refused
  · intro stopped σ update store panicked
    have explained := statusRounds_explained answers update store (Nat.le_refl cluster.shards.length)
    rw [statusPass] at panicked
    rw [panicked] at explained
    obtain ⟨i, _, passable, shard, found, panics⟩ := explained
    obtain ⟨j, before, earlier, here, stops⟩ := stopped i shard found panics
    exact (passable j before earlier here).1 stops

end Frame

section Replies

/-- The shard is migrating and its master's reply reads as `info`. -/
def Replied (texts : ClusterNode → Except Error String) (shard : Shard) (infoStr : String) (info : ClusterInfo) : Prop :=
  shard.isMigrating = true ∧ ∃ sourceNode, shard.getMasterNode = some sourceNode ∧
    texts sourceNode = .ok infoStr ∧ parseClusterInfo infoStr = .ok info

/-- The reply is about the range that the shard has on record. -/
def Matches (shard : Shard) (info : ClusterInfo) : Prop :=
  ∃ reported recorded, info.migratingSlot = some reported ∧ shard.migratingSlot = some recorded ∧
    reported.slotRange = recorded.slotRange

def TargetInRange (cluster : Cluster) (shard : Shard) : Prop :=
  0 ≤ shard.targetShardIndex ∧ shard.targetShardIndex < cluster.shards.length

variable {replies : NodeReplies} {texts : ClusterNode → Except Error String}

theorem isMigrating_recorded {shard : Shard} (migrating : shard.isMigrating = true) :
    ∃ recorded, shard.migratingSlot = some recorded := by
  unfold Shard.isMigrating at migrating
  split at migrating
  · cases migrating
  · exact ⟨_, ‹_›⟩

theorem getClusterInfo_ok : getClusterInfo answer = .ok info ↔
    ∃ infoStr, answer = .ok infoStr ∧ parseClusterInfo infoStr = .ok info := by
  cases answer with
  | error e => simp [getClusterInfo]
  | ok infoStr => simp [getClusterInfo]

/-- Where the master answers, the verdict is about what it answered. -/
theorem verdict_replied (reads : ∀ node, replies.getClusterInfo node = getClusterInfo (texts node))
    (replied : Replied texts shard infoStr info) (recorded : shard.migratingSlot = some slot) :
    verdict replies count shard = infoVerdict count shard.targetShardIndex slot.slotRange info := by
  obtain ⟨migrating, sourceNode, master, text, parsed⟩ := replied
  have read : replies.getClusterInfo sourceNode = .ok info := by
    rw [reads, getClusterInfo_ok]
    exact ⟨infoStr, text, parsed⟩
  simp only [verdict, migrating, if_true, recorded, master, read]

/-- Without an answer, or without a migration, nothing is settled. -/
theorem verdict_unreplied (reads : ∀ node, replies.getClusterInfo node = getClusterInfo (texts node))
    (master : ∃ node, shard.getMasterNode = some node) (silent : ∀ infoStr info, ¬ Replied texts shard infoStr info) :
    verdict replies count shard = .kept := by
  obtain ⟨sourceNode, master⟩ := master
  unfold verdict
  split
  · rename_i migrating
    obtain ⟨recorded, onRecord⟩ := isMigrating_recorded migrating
    simp only [onRecord, master, reads]
    cases read : getClusterInfo (texts sourceNode) with
    | error e => rfl
    | ok info =>
      obtain ⟨infoStr, text, parsed⟩ := getClusterInfo_ok.mp read
      exact absurd ⟨migrating, sourceNode, master, text, parsed⟩ (silent infoStr info)
  · rfl

theorem stateVerdict_settles : stateVerdict slot target state ≠ .stops ∧ stateVerdict slot target state ≠ .panics := by
  unfold stateVerdict
  split
  · simp
  · split <;> simp

theorem infoVerdict_panics : infoVerdict count target slot info = .panics ↔ info.migratingSlot = none := by
  unfold infoVerdict
  split
  · rename_i none
    simp [none]
  · rename_i reported some
    simp only [some, reduceCtorEq, iff_false]
    split
    · simp
    · split
      · exact stateVerdict_settles.2
      · simp

theorem infoVerdict_stops : infoVerdict count target slot info = .stops ↔
    ∃ reported, info.migratingSlot = some reported ∧ reported.slotRange = slot ∧ ¬ (0 ≤ target ∧ target < count) := by
  unfold infoVerdict
  split
  · rename_i none
    simp [none]
  · rename_i reported some
    simp only [some, Option.some.injEq, exists_eq_left', ne_eq]
    split
    · rename_i differs
      simp [differs]
    · rename_i same
      split
      · rename_i inside
        simp [stateVerdict_settles.1, inside]
      · rename_i outside
        simp [not_not.mp same, outside]

theorem Replied.unique (first : Replied texts shard infoStr info) (second : Replied texts shard infoStr' info') :
    infoStr = infoStr' ∧ info = info' := by
  obtain ⟨_, node, master, text, parsed⟩ := first
  obtain ⟨_, node', master', text', parsed'⟩ := second
  obtain rfl := Option.some.inj (master.symm.trans master')
  obtain rfl := Except.ok.inj (text.symm.trans text')
  exact ⟨rfl, Except.ok.inj (parsed.symm.trans parsed')⟩

section Verdicts
variable {shard : Shard} (reads : ∀ node, replies.getClusterInfo node = getClusterInfo (texts node))
  (master : ∃ node, shard.getMasterNode = some node)
include reads master

theorem verdict_panics_iff : verdict replies count shard = .panics ↔
    ∃ infoStr info, Replied texts shard infoStr info ∧ ∀ line ∈ infoLines infoStr, namesSlot line = false := by
  by_cases answered : ∃ infoStr info, Replied texts shard infoStr info
  · obtain ⟨infoStr, info, replied⟩ := answered
    obtain ⟨recorded, onRecord⟩ := isMigrating_recorded replied.1
    obtain ⟨_, _, _, _, parsed⟩ := id replied
    rw [verdict_replied reads replied onRecord, infoVerdict_panics, parseClusterInfo_none parsed]
    constructor
    · exact fun silent => ⟨infoStr, info, replied, silent⟩
    · rintro ⟨_, _, other, silent⟩
      exact (replied.unique other).1 ▸ silent
  · simp only [not_exists] at answered
    rw [verdict_unreplied reads master answered]
    simp [answered]

theorem verdict_stops_iff {cluster : Cluster} : verdict replies cluster.shards.length shard = .stops ↔
    ∃ infoStr info, Replied texts shard infoStr info ∧ Matches shard info ∧ ¬ TargetInRange cluster shard := by
  by_cases answered : ∃ infoStr info, Replied texts shard infoStr info
  · obtain ⟨infoStr, info, replied⟩ := answered
    obtain ⟨recorded, onRecord⟩ := isMigrating_recorded replied.1
    rw [verdict_replied reads replied onRecord, infoVerdict_stops]
    constructor
    · rintro ⟨reported, some, same, outside⟩
      exact ⟨infoStr, info, replied, ⟨reported, recorded, some, onRecord, same⟩, outside⟩
    · rintro ⟨_, _, other, ⟨reported, recorded', some, onRecord', same⟩, outside⟩
      obtain ⟨rfl, rfl⟩ := replied.unique other
      obtain rfl := Option.some.inj (onRecord.symm.trans onRecord')
      exact ⟨reported, some, same, outside⟩
  · simp only [not_exists] at answered
    rw [verdict_unreplied reads master answered]
    simp [answered]

/-- A move needs a matching reply that reports success. -/
theorem verdict_moved_iff : verdict replies count shard = .moved slot target ↔
    ∃ infoStr info recorded, Replied texts shard infoStr info ∧ Matches shard info ∧
      info.migratingState = "success" ∧ shard.migratingSlot = some recorded ∧ recorded.slotRange = slot ∧
      shard.targetShardIndex = target ∧ target < count := by
  by_cases answered : ∃ infoStr info, Replied texts shard infoStr info
  · obtain ⟨infoStr, info, replied⟩ := answered
    obtain ⟨recorded, onRecord⟩ := isMigrating_recorded replied.1
    rw [verdict_replied reads replied onRecord, infoVerdict_moved]
    constructor
    · rintro ⟨⟨reported, some, same⟩, ⟨low, high⟩, success, rfl, rfl⟩
      exact ⟨infoStr, info, recorded, replied, ⟨reported, recorded, some, onRecord, same⟩, success, onRecord, rfl,
        by omega, by omega⟩
    · rintro ⟨_, _, _, other, ⟨reported, recorded', some, onRecord', same⟩, success, onRecord'', rfl, aimed, bound⟩
      obtain ⟨rfl, rfl⟩ := replied.unique other
      obtain rfl := Option.some.inj (onRecord.symm.trans onRecord')
      obtain rfl := Option.some.inj (onRecord.symm.trans onRecord'')
      exact ⟨⟨reported, some, same⟩, ⟨by omega, by omega⟩, success, rfl, by omega⟩
  · simp only [not_exists] at answered
    rw [verdict_unreplied reads master answered]
    simp [answered]

end Verdicts

/-- A pass over shards that all have a master never panics, whatever the writes come to,
exactly if every reply of a migrating shard's master names a slot, or an earlier shard's
record has a target out of range and so ends the pass before. -/
theorem status_pass_survives {cluster : Cluster} {answers : Nat → NodeReplies}
    {texts : Nat → ClusterNode → Except Error String}
    (masters : ∀ shard ∈ cluster.shards, ∃ node, shard.getMasterNode = some node)
    (reads : ∀ i node, (answers i).getClusterInfo node = getClusterInfo (texts i node)) :
    (∀ (σ : Type) (update : σ → Cluster → Updated σ) (store : σ),
      (statusPass answers update store cluster).progress ≠ .panicked) ↔
    ∀ i shard infoStr info, cluster.shards[i]? = some shard → Replied (texts i) shard infoStr info →
      (∀ line ∈ infoLines infoStr, namesSlot line = false) →
      ∃ j < i, ∃ earlier infoStr info, cluster.shards[j]? = some earlier ∧ Replied (texts j) earlier infoStr info ∧
        Matches earlier info ∧ ¬ TargetInRange cluster earlier := by
  have master {k : Nat} {shard : Shard} (found : cluster.shards[k]? = some shard) :=
    masters shard (List.mem_of_getElem? found)
  rw [statusPass_panics_iff]
  constructor
  · intro stopped i shard infoStr info found replied silent
    obtain ⟨j, before, earlier, here, stops⟩ := stopped i shard found
      ((verdict_panics_iff (reads i) (master found)).mpr ⟨infoStr, info, replied, silent⟩)
    obtain ⟨infoStr, info, ends⟩ := (verdict_stops_iff (reads j) (master here)).mp stops
    exact ⟨j, before, earlier, infoStr, info, here, ends⟩
  · intro stopped i shard found panics
    obtain ⟨infoStr, info, replied, silent⟩ := (verdict_panics_iff (reads i) (master found)).mp panics
    obtain ⟨j, before, earlier, infoStr, info, here, ends⟩ := stopped i shard infoStr info found replied silent
    exact ⟨j, before, earlier, here, (verdict_stops_iff (reads j) (master here)).mpr ⟨infoStr, info, ends⟩⟩

section Samples

/-- A shard that is migrating slot 0 to the shard at 1. -/
def restartedCluster : Cluster where
  name := "c"
  version := 1
  shards := [⟨[⟨0, "x", "a:1", roleMaster, "", 0⟩], [⟨0, 5⟩], 1, some ⟨⟨0, 0⟩, true⟩⟩,
    ⟨[⟨1, "y", "b:1", roleMaster, "", 0⟩], [⟨6, 16383⟩], -1, none⟩]

/-- Every node sends the same text. -/
def replying (infoStr : String) : NodeReplies where
  getClusterInfo _ := getClusterInfo (.ok infoStr)
  getClusterNodeInfo _ := .ok ⟨1, roleSlave⟩
  migrateSlot _ _ _ := .ok ()

def migratingText : String := "cluster_state:ok\r\nmigrating_slot: 0\r\nmigrating_state: start\r\n"

/-- What a restarted source answers: it has forgotten the migration. -/
def restartedText : String := "cluster_state:ok\r\ncluster_current_epoch:1\r\n"

theorem restarted_masters : ∀ shard ∈ restartedCluster.shards, ∃ node, shard.getMasterNode = some node := by
  intro shard member
  simp only [restartedCluster, List.mem_cons, List.not_mem_nil, or_false] at member
  rcases member with rfl | rfl <;> exact ⟨_, rfl⟩

end Samples

/-- A source that names its slot. -/
theorem status_pass_survives_migrating :
    (∀ (σ : Type) (update : σ → Cluster → Updated σ) (store : σ),
      (statusPass (fun _ => replying migratingText) update store restartedCluster).progress ≠ .panicked) ∧
    ∃ line ∈ infoLines migratingText, namesSlot line = true := by
  have named : ∃ line ∈ infoLines migratingText, namesSlot line = true := by decide +kernel
  have reads : ∀ (i : Nat) (node : ClusterNode),
      (replying migratingText).getClusterInfo node = getClusterInfo (.ok migratingText) := fun _ _ => rfl
  refine ⟨(status_pass_survives restarted_masters reads).mpr ?_, named⟩
  rintro i shard infoStr info _ ⟨_, _, _, text, _⟩ silent
  obtain rfl := Except.ok.inj text
  obtain ⟨line, member, named⟩ := named
  rw [silent line member] at named
  cases named

/-- A source that was restarted during the migration: its reply is accepted, names no
slot, and its nil slot is dereferenced before any write. -/
theorem status_pass_panics_after_restart :
    (∃ info, parseClusterInfo restartedText = .ok info ∧ info.currentEpoch = 1 ∧ info.migratingSlot = none) ∧
      (∃ sourceNode, (restartedCluster.shards.map (·.getMasterNode))[0]? = some (some sourceNode)) ∧
      (tryUpdateMigrationStatus (replying restartedText) (fun (_ : Unit) cluster => ⟨(), cluster.version, none⟩) ()
        restartedCluster).progress = .panicked := by
  refine ⟨⟨⟨1, none, ""⟩, by decide +kernel, rfl, rfl⟩, ⟨_, rfl⟩, by decide +kernel⟩

end Replies
end Kvrocks
