import KvrocksController.Controller.Adopting
import KvrocksController.Store.Creation
import KvrocksController.Topology.Ownership

/-! Ranges in bounds along every edit, whether or not the shards own disjoint slots: what
can be read from the store can be read again after any edit. Only a new cluster with more
shards than slots has a range that ends before it starts. -/
namespace Kvrocks
open Kvrocks.Interval Kvrocks.Topology

/-- A list is in bounds as a set of slots, as long as none of its ranges is empty. -/
theorem inBounds_iff {ranges : List SlotRange} : (∀ range ∈ ranges, range.InBounds) ↔
    (∀ range ∈ ranges, range.Valid) ∧ covers ranges ⊆ slots.points := by
  constructor
  · intro bounds
    refine ⟨fun range member => (bounds range member).2.1, ?_⟩
    rintro x ⟨range, member, lower, upper⟩
    obtain ⟨low, _, high⟩ := bounds range member
    exact ⟨low.trans lower, upper.trans high⟩
  · rintro ⟨valid, inside⟩ range member
    have ordered : range.start ≤ range.stop := valid range member
    have first := inside (mem_covers.mpr ⟨range, member, Int.le_refl _, ordered⟩)
    have last := inside (mem_covers.mpr ⟨range, member, ordered, Int.le_refl _⟩)
    exact ⟨first.1, ordered, last.2⟩

theorem addSlot_inBounds {source : List SlotRange} (bounds : ∀ range ∈ source, range.InBounds)
    (slotBounds : SlotRange.InBounds slot) : ∀ range ∈ addSlotToSlotRanges source slot, range.InBounds := by
  obtain ⟨valid, inside⟩ := inBounds_iff.mp bounds
  obtain ⟨normal, covered⟩ := addSlot_spec valid slotBounds.2.1
  refine inBounds_iff.mpr ⟨normal.valid, ?_⟩
  rw [covered]
  exact Set.union_subset inside fun x point => ⟨slotBounds.1.trans point.1, point.2.trans slotBounds.2.2⟩

theorem removeSlot_inBounds {source : List SlotRange} (bounds : ∀ range ∈ source, range.InBounds) (slot : SlotRange) :
    ∀ range ∈ removeSlotFromSlotRanges source slot, range.InBounds := by
  obtain ⟨valid, inside⟩ := inBounds_iff.mp bounds
  refine inBounds_iff.mpr ⟨?_, ?_⟩
  · intro piece member
    rw [removeSlot_eq_cut, cut, List.mem_flatMap] at member
    obtain ⟨range, listed, piece⟩ := member
    exact (mem_pieces (valid range ((sortByStart_perm source).mem_iff.mp listed)) piece).2.2
  · rw [covers_removeSlot]
    exact Set.sdiff_subset.trans inside

namespace Cluster.InBounds
variable {cluster next : Cluster}

theorem of_shards (bounds : cluster.InBounds) (same : next.shards = cluster.shards) : next.InBounds := by
  intro shard member
  exact bounds shard (same ▸ member)

theorem of_placements (bounds : cluster.InBounds) (same : next.placements = cluster.placements) : next.InBounds := by
  intro shard member
  have placed : shard.placement ∈ cluster.placements := same ▸ List.mem_map_of_mem member
  obtain ⟨other, inside, equal⟩ := List.mem_map.mp placed
  have ranges : other.slotRanges = shard.slotRanges := congrArg (·.slotRanges) equal
  have record : other.migratingSlot = shard.migratingSlot := congrArg (·.migratingSlot) equal
  have kept := bounds other inside
  rwa [Shard.InBounds, ranges, record] at kept

theorem setPassword (bounds : cluster.InBounds) (password : String) : (cluster.setPassword password).InBounds := by
  refine bounds.of_placements ?_
  simp only [Cluster.placements, Cluster.setPassword, List.map_map]
  rfl

/-- An edit of one shard. -/
theorem modify {f : Shard → Shard} (bounds : cluster.InBounds)
    (kept : ∀ shard, shard.InBounds → (f shard).InBounds) : (cluster.modifyShard i f).InBounds := by
  intro shard member
  rcases mem_modify member with member | ⟨before, found, rfl⟩
  · exact bounds shard member
  · exact kept before (bounds before (List.mem_of_getElem? found))

theorem clear (bounds : cluster.InBounds) (i : Nat) : (cluster.modifyShard i (·.clearMigrateState)).InBounds := by
  refine bounds.modify fun shard kept => ⟨kept.1, ?_⟩
  rintro s ⟨⟩

theorem record (bounds : cluster.InBounds) (slotBounds : slot.InBounds) :
    (cluster.recordMigration slot source target).InBounds := by
  refine bounds.modify fun shard kept => ⟨kept.1, fun s recorded _ => ?_⟩
  obtain rfl := Option.some.inj recorded
  exact slotBounds

theorem move (bounds : cluster.InBounds) (slotBounds : slot.InBounds) :
    (cluster.moveSlot slot source target).InBounds := by
  refine modify (modify bounds fun shard kept => ⟨removeSlot_inBounds kept.1 slot, ?_⟩)
    fun shard kept => ⟨addSlot_inBounds kept.1 slotBounds, kept.2⟩
  rintro s ⟨⟩

theorem migrateSlot (bounds : cluster.InBounds) (slotBounds : slot.InBounds)
    (migrated : cluster.migrateSlot replies slot target slotOnly = (next, none)) : next.InBounds := by
  obtain ⟨s, t, _, _, _, _, ⟨_, rfl⟩ | ⟨_, rfl, _⟩⟩ := Cluster.migrateSlot_ok migrated
  · exact bounds.move slotBounds
  · exact bounds.record slotBounds

/-- The slot that moves is the recorded one, which was in bounds while it was migrating. -/
theorem status (bounds : cluster.InBounds) (edit : StatusEdit cluster i next) : next.InBounds := by
  cases edit with
  | cleared => exact bounds.clear i
  | @moved shard slot target found migrating recorded =>
    have flag : slot.isMigrating = true := by
      simp only [Shard.isMigrating, recorded, Bool.and_eq_true] at migrating
      exact migrating.1
    exact bounds.move ((bounds shard (List.mem_of_getElem? found)).2 slot recorded flag)

theorem createShard (bounds : cluster.InBounds)
    (created : ShardHandler.create draw nodes password cluster = .ok next) : next.InBounds := by
  obtain ⟨_, shards⟩ := ShardHandler.create_ok created
  intro shard member
  rw [shards] at member
  rcases List.mem_append.mp member with member | member
  · exact bounds shard member
  · obtain rfl := List.mem_singleton.mp member
    refine ⟨by simp [newShard], ?_⟩
    rintro s ⟨⟩

theorem removeShard (bounds : cluster.InBounds) (removed : ShardHandler.remove shardIdx cluster = .ok next) :
    next.InBounds := by
  obtain ⟨i, _, _, _, _, shards⟩ := ShardHandler.remove_ok removed
  intro shard member
  rw [shards] at member
  exact bounds shard (List.mem_of_mem_eraseIdx member)

theorem parsed (read : parseClusterBy sort text = .ok cluster) (permutes : ∀ shards, (sort shards).Perm shards) :
    cluster.InBounds := by
  intro shard member
  have opened := parseClusterBy_opened read permutes shard member
  refine ⟨opened.ranges, fun s recorded => ?_⟩
  rw [opened.idle] at recorded
  cases recorded

theorem adopted (chosen : Probe.adoptionBy (parseClusterBy sort) cluster answers = .ok (some latest))
    (permutes : ∀ shards, (sort shards).Perm shards) : latest.InBounds := by
  obtain ⟨reported, password, read, _, rfl⟩ := Probe.adoptionBy_ok chosen
  exact (parsed read permutes).of_shards (rfl : { reported with name := cluster.name }.shards = _) |>.setPassword password

theorem created {name : String} (made : newCluster draw name nodes replicas = .ok cluster)
    (few : nodes.length / (max replicas 1).toNat ≤ 16384) : cluster.InBounds := by
  obtain ⟨creatable, rfl⟩ := newCluster_creates.mp made
  obtain ⟨ranges, same, bounds, _⟩ := (newCluster_wellFormed made few).ranges
  intro shard member
  refine ⟨fun range listed => ?_, ?_⟩
  · have there : shard.slotRanges ∈ ranges.map ([·]) := same ▸ List.mem_map_of_mem member
    obtain ⟨only, inside, single⟩ := List.mem_map.mp there
    rw [← single, List.mem_singleton] at listed
    exact listed ▸ bounds only inside
  · obtain ⟨i, _, rfl⟩ := List.mem_map.mp member
    rintro s ⟨⟩

end Cluster.InBounds
end Kvrocks
