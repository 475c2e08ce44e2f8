import KvrocksController.Controller.MigrationProofs
import KvrocksController.Store.CodecProofs
import KvrocksController.Store.SlotMoves
import KvrocksController.Topology.Run
import Mathlib.Data.List.InsertIdx

/-! Slot ownership along every history: the range lists of the shards stay a
partition of the slots in normal form, and what a shard is migrating is its own. -/
namespace Kvrocks.Topology
open Kvrocks.Interval Kvrocks.Transition

def slots : Interval := ⟨minSlotID, maxSlotID⟩

structure Owned (shards : List Shard) : Prop where
  partition : Partition slots (shards.map (·.slotRanges))
  migrating : ∀ shard ∈ shards, ∀ m, shard.migratingSlot = some m → m.isMigrating = true →
    m.slotRange.InBounds ∧ m.slotRange.points ⊆ covers shard.slotRanges

namespace Owned

/-- Ownership does not depend on the nodes. -/
theorem of_placements {shards next : List Shard} (same : next.map (·.placement) = shards.map (·.placement))
    (owned : Owned shards) : Owned next where
  partition := by
    have ranges (l : List Shard) : l.map (·.slotRanges) = (l.map (·.placement)).map (·.slotRanges) := by
      rw [List.map_map]
      rfl
    rw [ranges, same, ← ranges]
    exact owned.partition
  migrating := by
    intro shard member m
    have placed : shard.placement ∈ shards.map (·.placement) := same ▸ List.mem_map_of_mem member
    obtain ⟨other, inside, equal⟩ := List.mem_map.mp placed
    have ranges : other.slotRanges = shard.slotRanges := congrArg (·.slotRanges) equal
    have record : other.migratingSlot = shard.migratingSlot := congrArg (·.migratingSlot) equal
    rw [← ranges, ← record]
    exact owned.migrating other inside m

theorem range_inBounds (owned : Owned shards) (member : shard ∈ shards) (range : r ∈ shard.slotRanges) :
    r.InBounds := by
  have listed : shard.slotRanges ∈ shards.map (·.slotRanges) := List.mem_map_of_mem member
  have valid := (owned.partition.normal _ listed).valid r range
  obtain ⟨k, found⟩ := List.mem_iff_getElem?.mp listed
  simp only [Valid] at valid
  have low := owned.partition.inside ⟨_, found, mem_covers.mpr ⟨r, range, Int.le_refl _, valid⟩⟩
  have high := owned.partition.inside ⟨_, found, mem_covers.mpr ⟨r, range, valid, Int.le_refl _⟩⟩
  exact ⟨low.1, valid, high.2⟩

theorem inBounds {cluster : Cluster} (owned : Owned cluster.shards) : cluster.InBounds := by
  intro shard member
  refine ⟨fun r range => owned.range_inBounds member range, ?_⟩
  intro s recorded flag
  exact (owned.migrating shard member s recorded flag).1

/-- An edit of one shard that keeps its ranges and leaves a record it owns, or none. -/
theorem modify_record {f : Shard → Shard} (owned : Owned shards)
    (ranges : ∀ shard, (f shard).slotRanges = shard.slotRanges)
    (record : ∀ shard, shards[i]? = some shard → ∀ m, (f shard).migratingSlot = some m →
      m.isMigrating = true → m.slotRange.InBounds ∧ m.slotRange.points ⊆ covers shard.slotRanges) :
    Owned (shards.modify i f) where
  partition := by
    rw [map_modify_same ranges]
    exact owned.partition
  migrating := by
    intro shard member m recorded flag
    rcases mem_modify member with member | ⟨before, found, rfl⟩
    · exact owned.migrating shard member m recorded flag
    · rw [ranges]
      exact record before found m recorded flag

theorem clear {cluster : Cluster} (owned : Owned cluster.shards) (i : Nat) :
    Owned (cluster.modifyShard i (·.clearMigrateState)).shards :=
  owned.modify_record (fun _ => rfl) (fun _ _ _ impossible => nomatch impossible)

theorem record {cluster : Cluster} {target : Int} (owned : Owned cluster.shards) (bounds : slot.InBounds)
    (inside : ∀ shard, cluster.shards[source]? = some shard → slot.points ⊆ covers shard.slotRanges) :
    Owned (cluster.recordMigration slot source target).shards := by
  refine owned.modify_record (fun _ => rfl) ?_
  intro shard found m recorded _
  obtain rfl := Option.some.inj recorded
  exact ⟨bounds, inside shard found⟩

/-- Moving an owned range keeps the partition; the source forgets its record, so no
shard is left with a record of slots it no longer owns. -/
theorem move {cluster : Cluster} (owned : Owned cluster.shards) (bounds : slot.InBounds)
    (source : cluster.shards[s]? = some shard) (inside : slot.points ⊆ covers shard.slotRanges)
    (target : t < cluster.shards.length) : Owned (cluster.moveSlot slot s t).shards := by
  have valid : slot.Valid := bounds.2.1
  have adds (l : List SlotRange) (normal : Normal l) := addSlot_spec normal.valid valid
  have removes (l : List SlotRange) (normal : Normal l) := removeSlot_spec normal valid
  constructor
  · change Partition slots (cluster.moveSlot slot s t).ranges
    rw [Cluster.ranges_moveSlot]
    refine owned.partition.move removes adds ?_ inside (by simpa [Cluster.ranges] using target)
    unfold Cluster.ranges
    rw [List.getElem?_map, source]
    rfl
  · simp only [Cluster.moveSlot, Cluster.modifyShard]
    intro other member m recorded flag
    rcases mem_modify member with member | ⟨before, found, rfl⟩
    · rcases mem_modify member with member | ⟨before, _, rfl⟩
      · exact owned.migrating other member m recorded flag
      · cases recorded
    · -- The receiving shard only gains slots.
      rcases mem_modify (List.mem_of_getElem? found) with member | ⟨_, _, rfl⟩
      · have kept := owned.migrating before member m recorded flag
        refine ⟨kept.1, kept.2.trans ?_⟩
        rw [(adds _ (owned.partition.normal _ (List.mem_map_of_mem member))).2]
        exact Set.subset_union_left
      · cases recorded

theorem append (owned : Owned shards) (empty : shard.slotRanges = []) (idle : shard.migratingSlot = none) :
    Owned (shards ++ [shard]) where
  partition := by
    rw [List.map_append, List.map_singleton, empty]
    exact owned.partition.append_empty
  migrating := by
    intro other member m recorded flag
    rcases List.mem_append.mp member with member | member
    · exact owned.migrating other member m recorded flag
    · obtain rfl := List.mem_singleton.mp member
      rw [idle] at recorded
      cases recorded

/-- A shard that is not servicing owns nothing, since no slot is negative. -/
theorem erase (owned : Owned shards) (found : shards[i]? = some shard) (idle : shard.isServicing = false) :
    Owned (shards.eraseIdx i) where
  partition := by
    have empty : shard.slotRanges = [] := by
      simp only [Shard.isServicing, Bool.or_eq_false_iff, List.any_eq_false] at idle
      rw [List.eq_nil_iff_forall_not_mem]
      intro r range
      have low := (owned.range_inBounds (List.mem_of_getElem? found) range).1
      have unset := idle.1 r range
      simp only [bne_iff_ne, Bool.or_eq_true, ne_eq, not_or, Decidable.not_not] at unset
      rw [unset.1] at low
      exact absurd low (by decide)
    rw [← List.eraseIdx_map]
    refine owned.partition.erase_empty ?_
    rw [List.getElem?_map, found, Option.map_some, empty]
  migrating := fun other member => owned.migrating other (List.mem_of_mem_eraseIdx member)

theorem stored {cluster : Cluster} (owned : Owned cluster.shards) : Owned cluster.stored.shards where
  partition := by
    have ranges : cluster.stored.shards.map (·.slotRanges) = cluster.shards.map (·.slotRanges) := by
      simp only [Cluster.stored]
      rw [allocate_map (fun _ _ => rfl), List.map_map]
      rfl
    rw [ranges]
    exact owned.partition
  migrating := by
    intro shard member m recorded flag
    obtain ⟨base, copy, written, rfl⟩ := mem_allocate member
    obtain ⟨before, inside, rfl⟩ := List.mem_map.mp written
    exact owned.migrating before inside m (Option.filter_eq_some_iff.mp recorded).1 flag

theorem create (created : newCluster draw name nodes replicas = .ok cluster)
    (few : cluster.shards.length ≤ 16384) : Owned cluster.shards := by
  obtain ⟨r, n, _, positive, _, _, _, shards⟩ := newCluster_ok created
  rw [shards, List.length_map, List.length_range] at few
  rw [shards]
  constructor
  · rw [List.map_map]
    exact calculateSlotRanges_partition positive few
  · intro shard member m recorded _
    obtain ⟨i, _, rfl⟩ := List.mem_map.mp member
    cases recorded

/-- Every slot has an owner, so a source found without a clash owns the whole range. -/
theorem source_owns {cluster : Cluster} (owned : Owned cluster.shards) (bounds : slot.InBounds)
    (found : cluster.findShardIndexBySlot slot = .ok s) (position : cluster.shards[s]? = some shard) :
    slot.points ⊆ covers shard.slotRanges := by
  intro x point
  have inside : x ∈ slots.points := ⟨bounds.1.trans point.1, point.2.trans bounds.2.2⟩
  obtain ⟨k, owns⟩ := owned.partition.total inside
  have assigned := Cluster.slotOf_iff.mpr owns
  obtain rfl := Cluster.source_owns found point assigned
  exact (Cluster.slotOf_covers position).mp assigned

theorem migrateSlot {cluster : Cluster} (owned : Owned cluster.shards) (bounds : slot.InBounds)
    (migrated : cluster.migrateSlot replies slot target slotOnly = (next, none)) : Owned next.shards := by
  obtain ⟨s, t, rfl, bound, _, found, effect⟩ := Cluster.migrateSlot_ok migrated
  obtain ⟨shard, position⟩ := (Cluster.findShardIndexBySlot_ok found).1
  have inside := owned.source_owns bounds found position
  rcases effect with ⟨_, rfl⟩ | ⟨_, rfl, _⟩
  · exact owned.move bounds position inside bound
  · refine owned.record bounds fun other here => ?_
    obtain rfl := Option.some.inj (here.symm.trans position)
    exact inside

theorem status {cluster : Cluster} (owned : Owned cluster.shards) (edit : StatusEdit cluster i next) :
    Owned next.shards := by
  cases edit with
  | cleared => exact owned.clear i
  | @moved shard slot target found migrating recorded _ bound =>
    have flag : slot.isMigrating = true := by
      simp only [Shard.isMigrating, recorded, Bool.and_eq_true] at migrating
      exact migrating.1
    have own := owned.migrating shard (List.mem_of_getElem? found) slot recorded flag
    exact owned.move own.1 found own.2 bound

/-- What one operation preserves, whatever it meets outside. -/
theorem op {cluster : Cluster} (owned : Owned cluster.shards) (op : Op) (requested : op.Requested) :
    Owned (op.apply cluster).shards := by
  cases op with
  | migrateSlot replies slot target slotOnly =>
    exact Cluster.migrateSlot_of (P := (Owned ·.shards)) owned fun next => owned.migrateSlot requested
  | migrationStatus replies outcomes workingCopy =>
    let start : Script := ⟨cluster, outcomes⟩
    have pass : Owned (tryUpdateMigrationStatus replies Script.update start cluster).clonedCluster.shards ∧
        Owned (tryUpdateMigrationStatus replies Script.update start cluster).store.stored.shards :=
      tryUpdateMigrationStatus_invariant (Q := fun script : Script => Owned script.stored.shards)
        (fun _ _ _ owned edit => owned.status edit) Script.update_stored owned owned
    simp only [Op.apply]
    split
    · exact pass.1
    · exact pass.2
  | createShard draw nodes password =>
    refine edited_of (P := (Owned ·.shards)) owned fun next created => ?_
    rw [(ShardHandler.create_ok created).2]
    exact owned.append rfl rfl
  | removeShard shardIdx =>
    refine edited_of (P := (Owned ·.shards)) owned fun next removed => ?_
    obtain ⟨i, shard, _, found, idle, shards⟩ := ShardHandler.remove_ok removed
    rw [shards]
    exact owned.erase found idle
  | addNode draw shardIndex addr role password =>
    exact edited_of (P := (Owned ·.shards)) owned fun next added =>
      owned.of_placements (Cluster.addNode_placements added)
  | removeNode shardIndex nodeID =>
    exact owned.of_placements (Cluster.removeNode_placements cluster shardIndex nodeID)
  | promoteNewMaster replies shardIdx masterNodeID preferredNodeID =>
    refine edited_of (P := (Owned ·.shards)) owned fun next promoted => ?_
    obtain ⟨⟨after, newMasterID⟩, succeeded, rfl⟩ := map_ok promoted
    exact owned.of_placements (Cluster.promoteNewMaster_placements succeeded)
  | roundTrip =>
    refine edited_of (P := (Owned ·.shards)) owned fun next decoded => ?_
    rw [Cluster.unmarshal_marshal owned.inBounds] at decoded
    obtain rfl := Except.ok.inj decoded
    exact owned.stored

end Owned

/-- Every slot lies in exactly one range of exactly one shard, the ranges of a shard
are sorted, disjoint and not adjacent, and a migrating range is owned by its shard. -/
theorem slot_ownership {initial cluster : Cluster} (created : newCluster draw name nodes replicas = .ok initial)
    (few : initial.shards.length ≤ 16384) (run : Run Step initial ops cluster) :
    (∀ slot, minSlotID ≤ slot → slot ≤ maxSlotID →
      ∃! p : Nat × Nat, ∃ shard range, cluster.shards[p.1]? = some shard ∧
        shard.slotRanges[p.2]? = some range ∧ range.start ≤ slot ∧ slot ≤ range.stop) ∧
    (∀ shard ∈ cluster.shards, (∀ range ∈ shard.slotRanges, range.start ≤ range.stop) ∧
      shard.slotRanges.Pairwise fun earlier later => earlier.stop + 1 < later.start) ∧
    ∀ shard ∈ cluster.shards, shard.isMigrating = true →
      ∃ m, shard.migratingSlot = some m ∧ m.slotRange.InBounds ∧
        ∀ slot, m.slotRange.start ≤ slot → slot ≤ m.slotRange.stop →
          ∃ range ∈ shard.slotRanges, range.start ≤ slot ∧ slot ≤ range.stop := by
  have owned : Owned cluster.shards := run.preserves (P := (Owned ·.shards))
    (by rintro s op t owned ⟨requested, rfl⟩; exact owned.op op requested) (.create created few)
  refine ⟨?_, ?_, ?_⟩
  · intro slot lower upper
    obtain ⟨p, ⟨l, range, listed, position, bounds⟩, only⟩ :=
      owned.partition.exactly_one (x := slot) ⟨lower, upper⟩
    rw [List.getElem?_map, Option.map_eq_some_iff] at listed
    obtain ⟨shard, found, rfl⟩ := listed
    refine ⟨p, ⟨shard, range, found, position, bounds⟩, ?_⟩
    rintro q ⟨other, range, found, position, bounds⟩
    exact only q ⟨_, range, by rw [List.getElem?_map, found]; rfl, position, bounds⟩
  · intro shard member
    have normal := owned.partition.normal _ (List.mem_map_of_mem member)
    exact ⟨normal.valid, normal.separated⟩
  · intro shard member migrating
    unfold Shard.isMigrating at migrating
    split at migrating
    · cases migrating
    · rename_i m recorded
      have own := owned.migrating shard member m recorded (Bool.and_eq_true_iff.mp migrating).1
      exact ⟨m, recorded, own.1, fun slot lower upper => mem_covers.mp (own.2 ⟨lower, upper⟩)⟩

/-- A data migration that ends well, a round trip and a slot-only move. -/
theorem slot_ownership_two_nodes :
    let moves : List Op :=
      [.createShard sampleDraw ["c:1", "d:1"] "", .migrateSlot (answering "start" ⟨0, 10⟩) ⟨0, 10⟩ 2 false,
        .migrationStatus (answering "success" ⟨0, 10⟩) [⟨4, none⟩] true, .roundTrip,
        .migrateSlot (answering "none" ⟨0, 0⟩) ⟨9000, 9001⟩ 0 true]
    ∃! p : Nat × Nat, ∃ shard range, (moves.foldl Op.apply twoNodes).shards[p.1]? = some shard ∧
      shard.slotRanges[p.2]? = some range ∧ range.start ≤ 9000 ∧ 9000 ≤ range.stop := by
  intro moves
  have created : newCluster sampleDraw "c" ["a:1", "b:1"] 1 = .ok twoNodes := by decide +kernel
  have run : Run Step twoNodes moves (moves.foldl Op.apply twoNodes) :=
    run_foldl (by simp [moves, Op.Requested, SlotRange.InBounds]; decide)
  exact (slot_ownership created (by decide) run).1 9000 (by decide) (by decide)

end Kvrocks.Topology
