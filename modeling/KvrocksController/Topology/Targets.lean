import KvrocksController.Controller.MigrationProofs
import KvrocksController.Store.SlotProofs
import KvrocksController.Topology.Run
import Mathlib.Data.List.InsertIdx

/-! A recorded migration names its target by position. Each shard is given an
identity here, and each recorded migration the identity of the shard it was started
for; the positions stay right exactly as long as no removal shifts a target. -/
namespace Kvrocks.Topology
open Kvrocks.Interval Kvrocks.Transition

structure Tag where
  id : Nat
  startedFor : Option Nat
deriving DecidableEq, Repr

/-- The tags run parallel to the shards; `issued` is above every identity given out. -/
structure Traced where
  cluster : Cluster
  tags : List Tag
  issued : Nat

namespace Traced

def start (cluster : Cluster) : Traced where
  cluster := cluster
  tags := (List.range cluster.shards.length).map (⟨·, none⟩)
  issued := cluster.shards.length

/-- A created shard gets a new identity, a removed one takes its own along, and a
migration accepted in data mode is started for the shard at its target now. -/
def retag (s : Traced) : Op → List Tag
  | .createShard draw nodes password =>
    match ShardHandler.create draw nodes password s.cluster with
    | .ok _ => s.tags ++ [⟨s.issued, none⟩]
    | .error _ => s.tags
  | .removeShard shardIdx =>
    match ShardHandler.remove shardIdx s.cluster with
    | .ok _ => s.tags.eraseIdx shardIdx.toNat
    | .error _ => s.tags
  | .migrateSlot replies slot target false =>
    match s.cluster.migrateSlot replies slot target false, s.cluster.findShardIndexBySlot slot,
        s.tags[target.toNat]? with
    | (_, none), .ok source, some aim => s.tags.modify source fun tag => { tag with startedFor := some aim.id }
    | _, _, _ => s.tags
  | _ => s.tags

def next (s : Traced) (op : Op) : Traced := ⟨op.apply s.cluster, s.retag op, s.issued + 1⟩

end Traced

/-- Histories without store round trips. -/
def Op.Edits : Op → Prop
  | .roundTrip => False
  | _ => True

def Traced.Step (s : Traced) (op : Op) (t : Traced) : Prop := op.Edits ∧ t = s.next op

/-- A reported success of the migration of shard `i` leaves its slots with shard `t`. -/
def SuccessReaches (cluster : Cluster) (i t : Nat) (shard : Shard) : Prop :=
  ∀ (σ : Type) (update : σ → Cluster → Updated σ) (store : σ) (published : Bool) (replies : NodeReplies)
    (sourceNode : ClusterNode) (info : ClusterInfo) (slot : SlotRange) (reportedFlag recordedFlag : Bool),
    shard.getMasterNode = some sourceNode → replies.getClusterInfo sourceNode = .ok info →
    info.migratingSlot = some ⟨slot, reportedFlag⟩ → shard.migratingSlot = some ⟨slot, recordedFlag⟩ →
    info.migratingState = "success" →
    ∃ target,
      (Pass.visit replies update ⟨cluster, store, published, .running⟩ i).clonedCluster.shards[t]? = some target ∧
      slot.points ⊆ covers target.slotRanges

/-- Every migrating shard aims at a position of another shard, the only one that has
the identity its migration was started for, and a success gives the slots to it. -/
def RecordedTargets (s : Traced) : Prop :=
  ∀ (i : Nat) (shard : Shard), s.cluster.shards[i]? = some shard → shard.isMigrating = true →
    ∃ (t : Nat) (tag aim : Tag), shard.targetShardIndex = t ∧ t < s.cluster.shards.length ∧ t ≠ i ∧
      s.tags[i]? = some tag ∧ s.tags[t]? = some aim ∧ tag.startedFor = some aim.id ∧
      (∀ k other, s.tags[k]? = some other → other.id = aim.id → k = t) ∧
      SuccessReaches s.cluster i t shard

/-- An accepted removal leaves every target of a running migration where it is. -/
def SafeRemoval (s : Traced) : Op → Prop
  | .removeShard shardIdx => ∀ next, ShardHandler.remove shardIdx s.cluster = .ok next →
    ∀ shard ∈ s.cluster.shards, shard.isMigrating = true → shard.targetShardIndex < shardIdx
  | _ => True

/-- The part of the property that one operation hands on to the next. -/
def Aimed (shards : List Shard) (tags : List Tag) : Prop :=
  ∀ (i : Nat) (shard : Shard), shards[i]? = some shard → shard.isMigrating = true →
    ∃ (t : Nat) (tag aim : Tag), shard.targetShardIndex = t ∧ t ≠ i ∧
      tags[i]? = some tag ∧ tags[t]? = some aim ∧ tag.startedFor = some aim.id

namespace Aimed

theorem of_placements {shards next : List Shard} (same : next.map (·.placement) = shards.map (·.placement))
    (aimed : Aimed shards tags) : Aimed next tags := by
  intro i shard found migrating
  have placed : (shards.map (·.placement))[i]? = some shard.placement := by
    rw [← same, List.getElem?_map, found]
    rfl
  rw [List.getElem?_map, Option.map_eq_some_iff] at placed
  obtain ⟨other, here, equal⟩ := placed
  have target : other.targetShardIndex = shard.targetShardIndex := congrArg (·.targetShardIndex) equal
  have running : other.isMigrating = shard.isMigrating := congrArg (·.isMigrating) equal
  rw [← target]
  exact aimed i other here (running.trans migrating)

/-- An edit of one shard that starts no migration and redirects none. -/
theorem modify {f : Shard → Shard} (aimed : Aimed shards tags)
    (quiet : ∀ shard, (f shard).isMigrating = true →
      shard.isMigrating = true ∧ (f shard).targetShardIndex = shard.targetShardIndex) (n : Nat) :
    Aimed (shards.modify n f) tags := by
  intro i shard found migrating
  rw [List.getElem?_modify] at found
  split at found
  · obtain ⟨before, here, rfl⟩ := Option.map_eq_some_iff.mp found
    rw [(quiet before migrating).2]
    exact aimed i before here (quiet before migrating).1
  · exact aimed i shard (by simpa using found) migrating

theorem clear {cluster : Cluster} (aimed : Aimed cluster.shards tags) (i : Nat) :
    Aimed (cluster.modifyShard i (·.clearMigrateState)).shards tags := by
  refine aimed.modify ?_ i
  intro shard migrating
  cases migrating

theorem move {cluster : Cluster} (aimed : Aimed cluster.shards tags) (slot : SlotRange) (s t : Nat) :
    Aimed (cluster.moveSlot slot s t).shards tags := by
  refine Aimed.modify (Aimed.modify aimed ?_ s) ?_ t
  · intro shard migrating
    cases migrating
  · intro shard migrating
    exact ⟨migrating, rfl⟩

theorem record {cluster : Cluster} {t : Nat} (aimed : Aimed cluster.shards tags) (slot : SlotRange)
    (source : tags[s]? = some tag) (target : tags[t]? = some aim) (distinct : s ≠ t) :
    Aimed (cluster.recordMigration slot s t).shards
      (tags.modify s fun tag => { tag with startedFor := some aim.id }) := by
  intro i shard found migrating
  simp only [Cluster.recordMigration, Cluster.modifyShard, List.getElem?_modify] at found
  split at found
  · rename_i here
    subst here
    obtain ⟨before, _, rfl⟩ := Option.map_eq_some_iff.mp found
    refine ⟨t, { tag with startedFor := some aim.id }, aim, rfl, distinct.symm, ?_, ?_, rfl⟩
    · rw [List.getElem?_modify_eq, source]
      rfl
    · rw [List.getElem?_modify_ne _ _ distinct, target]
  · rename_i elsewhere
    -- An earlier migration keeps its tag, and its target keeps its identity.
    obtain ⟨t', tag', aim', aims, apart, own, targeted, started⟩ :=
      aimed i shard (by simpa using found) migrating
    by_cases hit : s = t'
    · refine ⟨t', tag', { aim' with startedFor := some aim.id }, aims, apart, ?_, ?_, started⟩
      · rw [List.getElem?_modify_ne _ _ elsewhere, own]
      · rw [hit, List.getElem?_modify_eq, targeted]
        rfl
    · refine ⟨t', tag', aim', aims, apart, ?_, ?_, started⟩
      · rw [List.getElem?_modify_ne _ _ elsewhere, own]
      · rw [List.getElem?_modify_ne _ _ hit, targeted]

theorem append (aimed : Aimed shards tags) (idle : shard.isMigrating = false) (tag : Tag) :
    Aimed (shards ++ [shard]) (tags ++ [tag]) := by
  intro i other found migrating
  have within {k : Nat} {x : Tag} (here : tags[k]? = some x) : (tags ++ [tag])[k]? = some x := by
    rw [List.getElem?_append_left (List.getElem?_eq_some_iff.mp here).1, here]
  rw [List.getElem?_append] at found
  split at found
  · obtain ⟨t, own, aim, aims, apart, ownTag, aimTag, started⟩ := aimed i other found migrating
    exact ⟨t, own, aim, aims, apart, within ownTag, within aimTag, started⟩
  · have same := List.mem_singleton.mp (List.mem_of_getElem? found)
    rw [same, idle] at migrating
    cases migrating

theorem getElem?_eraseIdx_shift (l : List α) (n i : Nat) :
    (l.eraseIdx n)[i]? = l[if i < n then i else i + 1]? := by
  rw [List.getElem?_eraseIdx]
  split <;> rfl

/-- Positions below the removed one are unaffected; the shards above it move down
together with their tags. -/
theorem erase {n : Nat} (aimed : Aimed shards tags)
    (safe : ∀ shard ∈ shards, shard.isMigrating = true → shard.targetShardIndex < n) :
    Aimed (shards.eraseIdx n) (tags.eraseIdx n) := by
  intro i shard found migrating
  rw [getElem?_eraseIdx_shift] at found
  obtain ⟨t, tag, aim, aims, apart, own, targeted, started⟩ := aimed _ shard found migrating
  have below := safe shard (List.mem_of_getElem? found) migrating
  rw [aims] at below
  refine ⟨t, tag, aim, aims, ?_, ?_, ?_, started⟩
  · split at apart <;> omega
  · rw [getElem?_eraseIdx_shift, own]
  · rw [getElem?_eraseIdx_shift, if_pos (by omega), targeted]

theorem status {cluster : Cluster} (aimed : Aimed cluster.shards tags) (edit : StatusEdit cluster i next) :
    Aimed next.shards tags := by
  cases edit with
  | cleared => exact aimed.clear i
  | moved => exact aimed.move _ i _

end Aimed

theorem moveSlot_target {cluster : Cluster} (slot : SlotRange) (i : Nat) (bound : t < cluster.shards.length) :
    ∃ target, (cluster.moveSlot slot i t).shards[t]? = some target ∧ slot.points ⊆ covers target.slotRanges := by
  simp only [Cluster.moveSlot, Cluster.modifyShard, List.getElem?_modify_eq]
  rw [List.getElem?_eq_getElem (by simpa using bound)]
  exact ⟨_, rfl, by rw [covers_addSlot]; exact Set.subset_union_right⟩

structure Consistent (s : Traced) : Prop where
  parallel : s.tags.length = s.cluster.shards.length
  distinct : (s.tags.map (·.id)).Nodup
  below : ∀ tag ∈ s.tags, tag.id < s.issued
  aimed : Aimed s.cluster.shards s.tags

namespace Consistent

theorem create {cluster : Cluster} (created : newCluster draw name nodes replicas = .ok cluster) :
    Consistent (.start cluster) where
  parallel := by simp [Traced.start]
  distinct := by
    simp only [Traced.start, List.map_map]
    exact List.nodup_range.map fun _ _ same => same
  below := by simp [Traced.start]
  aimed := by
    obtain ⟨r, n, _, _, _, _, _, shards⟩ := newCluster_ok created
    intro i shard found migrating
    have member := List.mem_of_getElem? found
    simp only [Traced.start, shards] at member
    obtain ⟨k, _, rfl⟩ := List.mem_map.mp member
    cases migrating

theorem unique {aim other : Tag} {t k : Nat} (consistent : Consistent s) (here : s.tags[t]? = some aim)
    (there : s.tags[k]? = some other) (same : other.id = aim.id) : k = t := by
  have bound := (List.getElem?_eq_some_iff.mp there).1
  refine (List.getElem?_inj (by simpa using bound) consistent.distinct).mp ?_
  rw [List.getElem?_map, List.getElem?_map, here, there, Option.map_some, Option.map_some, same]

theorem targets (consistent : Consistent s) : RecordedTargets s := by
  intro i shard found migrating
  obtain ⟨t, tag, aim, aims, apart, own, targeted, started⟩ := consistent.aimed i shard found migrating
  have bound : t < s.cluster.shards.length := by
    rw [← consistent.parallel]
    exact (List.getElem?_eq_some_iff.mp targeted).1
  refine ⟨t, tag, aim, aims, bound, apart, own, targeted, started, ?_, ?_⟩
  · intro k other there same
    exact consistent.unique targeted there same
  · intro σ update store published replies sourceNode info slot _ _ master replied reported recorded success
    rw [Pass.visit_success rfl found migrating master replied reported recorded success aims bound]
    exact moveSlot_target slot i bound

/-- An operation that gives out no identity and keeps the positions. -/
theorem steady (consistent : Consistent s) (same : s.retag op = s.tags)
    (kept : (op.apply s.cluster).shards.length = s.cluster.shards.length ∧
      Aimed (op.apply s.cluster).shards s.tags) : Consistent (s.next op) where
  parallel := by rw [Traced.next, same, consistent.parallel, kept.1]
  distinct := by
    rw [Traced.next, same]
    exact consistent.distinct
  below := by
    rw [Traced.next, same]
    exact fun tag member => (consistent.below tag member).trans (Nat.lt_succ_self _)
  aimed := by
    rw [Traced.next, same]
    exact kept.2

theorem migrateSlot (consistent : Consistent s) (replies : NodeReplies) (slot : SlotRange) (target : Int)
    (slotOnly : Bool) : Consistent (s.next (.migrateSlot replies slot target slotOnly)) := by
  rcases migrated : s.cluster.migrateSlot replies slot target slotOnly with ⟨after, fault⟩
  cases fault with
  | some fault =>
    have same : s.retag (.migrateSlot replies slot target slotOnly) = s.tags := by
      cases slotOnly with
      | true => rfl
      | false => simp only [Traced.retag, migrated]
    have unchanged : (s.cluster.migrateSlot replies slot target slotOnly).1 = s.cluster :=
      (Cluster.migrateSlot_unchanged ..).resolve_right (by simp [migrated])
    refine consistent.steady same ?_
    simp only [Op.apply, unchanged]
    exact ⟨trivial, consistent.aimed⟩
  | none =>
    obtain ⟨source, t, rfl, bound, distinct, found, effect⟩ := Cluster.migrateSlot_ok migrated
    rcases effect with ⟨rfl, rfl⟩ | ⟨rfl, rfl, _⟩
    · refine consistent.steady rfl ?_
      simp only [Op.apply, migrated]
      exact ⟨by simp [Cluster.moveSlot, Cluster.modifyShard], consistent.aimed.move slot source t⟩
    · obtain ⟨shard, position⟩ := (Cluster.findShardIndexBySlot_ok found).1
      have sourceBound := (List.getElem?_eq_some_iff.mp position).1
      rw [← consistent.parallel] at sourceBound bound
      have own := List.getElem?_eq_getElem sourceBound
      have aim := List.getElem?_eq_getElem bound
      have tags : s.retag (.migrateSlot replies slot t false) =
          s.tags.modify source fun tag => { tag with startedFor := some s.tags[t].id } := by
        simp only [Traced.retag, migrated, found, Int.toNat_natCast, aim]
      have ids : (s.retag (.migrateSlot replies slot t false)).map (·.id) = s.tags.map (·.id) := by
        rw [tags]
        refine map_modify_same ?_ s.tags source
        exact fun _ => rfl
      have after : (s.next (.migrateSlot replies slot t false)).cluster =
          s.cluster.recordMigration slot source t := by
        simp only [Traced.next, Op.apply, migrated]
      refine ⟨?_, ?_, ?_, ?_⟩
      · rw [after, Traced.next, tags]
        simpa [Cluster.recordMigration, Cluster.modifyShard] using consistent.parallel
      · rw [Traced.next, ids]
        exact consistent.distinct
      · intro tag member
        have listed : tag.id ∈ s.tags.map (·.id) := ids ▸ List.mem_map_of_mem member
        obtain ⟨before, inside, same⟩ := List.mem_map.mp listed
        rw [← same]
        exact (consistent.below before inside).trans (Nat.lt_succ_self _)
      · rw [after, Traced.next, tags]
        exact consistent.aimed.record slot own aim distinct

theorem createShard (consistent : Consistent s) (draw : Draw) (nodes : List String) (password : String) :
    Consistent (s.next (.createShard draw nodes password)) := by
  cases created : ShardHandler.create draw nodes password s.cluster with
  | error e =>
    refine consistent.steady (by simp only [Traced.retag, created]) ?_
    simp only [Op.apply, created, edited]
    exact ⟨trivial, consistent.aimed⟩
  | ok after =>
    have shards := (ShardHandler.create_ok created).2
    have tags : s.retag (.createShard draw nodes password) = s.tags ++ [⟨s.issued, none⟩] := by
      simp only [Traced.retag, created]
    have next : (s.next (.createShard draw nodes password)).cluster = after := by
      simp only [Traced.next, Op.apply, created, edited]
    refine ⟨?_, ?_, ?_, ?_⟩
    · rw [next, Traced.next, tags, shards]
      simpa using consistent.parallel
    · rw [Traced.next, tags, List.map_append, List.map_singleton]
      refine consistent.distinct.append (by simp) ?_
      simp only [List.disjoint_singleton, List.mem_map, not_exists, not_and]
      exact fun tag member => Nat.ne_of_lt (consistent.below tag member)
    · rw [Traced.next, tags]
      intro tag member
      rcases List.mem_append.mp member with member | member
      · exact (consistent.below tag member).trans (Nat.lt_succ_self _)
      · obtain rfl := List.mem_singleton.mp member
        exact Nat.lt_succ_self _
    · rw [next, Traced.next, tags, shards]
      exact consistent.aimed.append rfl _

theorem removeShard (consistent : Consistent s) (safe : SafeRemoval s (.removeShard shardIdx)) :
    Consistent (s.next (.removeShard shardIdx)) := by
  cases removed : ShardHandler.remove shardIdx s.cluster with
  | error e =>
    refine consistent.steady (by simp only [Traced.retag, removed]) ?_
    simp only [Op.apply, removed, edited]
    exact ⟨trivial, consistent.aimed⟩
  | ok after =>
    obtain ⟨n, shard, rfl, found, _, shards⟩ := ShardHandler.remove_ok removed
    have bound := (List.getElem?_eq_some_iff.mp found).1
    have tags : s.retag (.removeShard n) = s.tags.eraseIdx n := by
      simp only [Traced.retag, removed, Int.toNat_natCast]
    have next : (s.next (.removeShard n)).cluster = after := by
      simp only [Traced.next, Op.apply, removed, edited]
    refine ⟨?_, ?_, ?_, ?_⟩
    · rw [next, Traced.next, tags, shards, List.length_eraseIdx_of_lt bound,
        List.length_eraseIdx_of_lt (consistent.parallel ▸ bound), consistent.parallel]
    · rw [Traced.next, tags, ← List.eraseIdx_map]
      exact consistent.distinct.sublist (List.eraseIdx_sublist _ _)
    · rw [Traced.next, tags]
      exact fun tag member =>
        (consistent.below tag (List.mem_of_mem_eraseIdx member)).trans (Nat.lt_succ_self _)
    · rw [next, Traced.next, tags, shards]
      exact consistent.aimed.erase (safe after removed)

/-- What one operation preserves. -/
theorem next (consistent : Consistent s) (edits : op.Edits) (safe : SafeRemoval s op) :
    Consistent (s.next op) := by
  have placed {cluster : Cluster} (same : cluster.placements = s.cluster.placements) :
      cluster.shards.length = s.cluster.shards.length ∧ Aimed cluster.shards s.tags :=
    ⟨by simpa [Cluster.placements] using congrArg List.length same, consistent.aimed.of_placements same⟩
  cases op with
  | migrateSlot replies slot target slotOnly => exact consistent.migrateSlot replies slot target slotOnly
  | createShard draw nodes password => exact consistent.createShard draw nodes password
  | removeShard shardIdx => exact consistent.removeShard safe
  | migrationStatus replies outcomes workingCopy =>
    let P (shards : List Shard) := shards.length = s.cluster.shards.length ∧ Aimed shards s.tags
    let start : Script := ⟨s.cluster, outcomes⟩
    have edit (cluster : Cluster) (i : Nat) (after : Cluster) (kept : P cluster.shards)
        (edit : StatusEdit cluster i after) : P after.shards := by
      refine ⟨?_, kept.2.status edit⟩
      cases edit <;> simpa [Cluster.moveSlot, Cluster.modifyShard] using kept.1
    have pass : P (tryUpdateMigrationStatus replies Script.update start s.cluster).clonedCluster.shards ∧
        P (tryUpdateMigrationStatus replies Script.update start s.cluster).store.stored.shards :=
      tryUpdateMigrationStatus_invariant (Q := fun script : Script => P script.stored.shards) edit
        Script.update_stored ⟨rfl, consistent.aimed⟩ ⟨rfl, consistent.aimed⟩
    refine consistent.steady rfl ?_
    simp only [Op.apply]
    split
    · exact pass.1
    · exact pass.2
  | addNode draw shardIndex addr role password =>
    exact consistent.steady rfl (placed (edited_of (P := (·.placements = s.cluster.placements)) rfl
      fun after added => Cluster.addNode_placements added))
  | removeNode shardIndex nodeID =>
    exact consistent.steady rfl (placed (Cluster.removeNode_placements s.cluster shardIndex nodeID))
  | promoteNewMaster replies shardIdx masterNodeID preferredNodeID =>
    refine consistent.steady rfl (placed (edited_of (P := (·.placements = s.cluster.placements)) rfl ?_))
    intro after promoted
    obtain ⟨⟨cluster, newMasterID⟩, succeeded, rfl⟩ := map_ok promoted
    exact Cluster.promoteNewMaster_placements succeeded
  | roundTrip => exact edits.elim

/-- A removal at or below a target shifts or drops it, and the index is not adjusted. -/
theorem removal_safe (consistent : Consistent s) (after : RecordedTargets (s.next (.removeShard shardIdx))) :
    SafeRemoval s (.removeShard shardIdx) := by
  intro cluster removed shard member migrating
  obtain ⟨n, gone, rfl, found, idle, shards⟩ := ShardHandler.remove_ok removed
  have tags : (s.next (.removeShard n)).tags = s.tags.eraseIdx n := by
    simp only [Traced.next, Traced.retag, removed, Int.toNat_natCast]
  have next : (s.next (.removeShard n)).cluster = cluster := by
    simp only [Traced.next, Op.apply, removed, edited]
  obtain ⟨i, position⟩ := List.mem_iff_getElem?.mp member
  obtain ⟨t, tag, aim, aims, _, own, targeted, started⟩ := consistent.aimed i shard position migrating
  by_contra shifted
  rw [aims] at shifted
  have apart : i ≠ n := by
    rintro rfl
    obtain rfl := Option.some.inj (position.symm.trans found)
    simp only [Shard.isServicing, Bool.or_eq_false_iff] at idle
    rw [idle.2] at migrating
    cases migrating
  -- The shard itself is still there, at its shifted position, with its tag.
  obtain ⟨j, back⟩ : ∃ j, (if j < n then j else j + 1) = i := by
    by_cases before : i < n
    · exact ⟨i, if_pos before⟩
    · exact ⟨i - 1, by rw [if_neg (by omega)]; omega⟩
  have here : (s.next (.removeShard n)).cluster.shards[j]? = some shard := by
    rw [next, shards, Aimed.getElem?_eraseIdx_shift, back, position]
  obtain ⟨t', tag', aim', aims', _, _, own', targeted', started', _⟩ := after j shard here migrating
  rw [tags, Aimed.getElem?_eraseIdx_shift, back, own] at own'
  obtain rfl := Option.some.inj own'
  obtain rfl : t = t' := Int.ofNat.inj (aims.symm.trans aims')
  rw [tags, Aimed.getElem?_eraseIdx_shift, if_neg (by omega)] at targeted'
  have same : aim'.id = aim.id := Option.some.inj (started'.symm.trans started)
  have := consistent.unique targeted targeted' same
  omega

end Consistent

/-- As long as no accepted removal shifts the target of a running migration, every
recorded migration points at the shard it was started for; and a removal that does
shift one breaks this at once. -/
theorem recorded_targets {initial : Cluster} (created : newCluster draw name nodes replicas = .ok initial)
    (run : Run (Guarded Traced.Step SafeRemoval) (.start initial) ops s) :
    RecordedTargets s ∧ ∀ op, op.Edits → (RecordedTargets (s.next op) ↔ SafeRemoval s op) := by
  have consistent : Consistent s := run.preserves
    (by rintro s op _ consistent ⟨safe, edits, rfl⟩; exact consistent.next edits safe) (.create created)
  refine ⟨consistent.targets, fun op edits => ⟨fun after => ?_, fun safe => (consistent.next edits safe).targets⟩⟩
  cases op with
  | removeShard shardIdx => exact consistent.removal_safe after
  | _ => trivial

/-- Slots 0 to 9 are on their way from shard 0 to the new shard 2. -/
def migrationToNewShard : List Op :=
  [.createShard sampleDraw ["c:1"] "", .migrateSlot (answering "start" ⟨0, 9⟩) ⟨0, 9⟩ 2 false]

theorem recorded_targets_running :
    RecordedTargets (migrationToNewShard.foldl Traced.next (.start twoNodes)) := by
  have created : newCluster sampleDraw "c" ["a:1", "b:1"] 1 = .ok twoNodes := by decide +kernel
  have run : Run (Guarded Traced.Step SafeRemoval) (.start twoNodes) migrationToNewShard
      (migrationToNewShard.foldl Traced.next (.start twoNodes)) :=
    .cons ⟨trivial, trivial, rfl⟩ (.cons ⟨trivial, trivial, rfl⟩ .nil)
  exact (recorded_targets created run).1

/-- Then the target, which owns nothing yet, is removed. -/
def targetRemoved : List Op := migrationToNewShard ++ [.removeShard 2]

theorem recorded_targets_dangling :
    newCluster sampleDraw "c" ["a:1", "b:1"] 1 = .ok twoNodes ∧
      Run Traced.Step (.start twoNodes) targetRemoved (targetRemoved.foldl Traced.next (.start twoNodes)) ∧
      ¬ RecordedTargets (targetRemoved.foldl Traced.next (.start twoNodes)) := by
  refine ⟨by decide +kernel, ?_, ?_⟩
  · exact .cons ⟨trivial, rfl⟩ (.cons ⟨trivial, rfl⟩ (.cons ⟨trivial, rfl⟩ .nil))
  · intro targets
    have source : (targetRemoved.foldl Traced.next (.start twoNodes)).cluster.shards[0]? =
        some ⟨[⟨0, "x", "a:1", roleMaster, "", 0⟩], [⟨0, 8191⟩], 2, some ⟨⟨0, 9⟩, true⟩⟩ := by decide +kernel
    have length : (targetRemoved.foldl Traced.next (.start twoNodes)).cluster.shards.length = 2 := by
      decide +kernel
    obtain ⟨t, _, _, aims, bound, _⟩ := targets 0 _ source (by decide)
    rw [length] at bound
    simp only at aims
    omega

end Kvrocks.Topology
