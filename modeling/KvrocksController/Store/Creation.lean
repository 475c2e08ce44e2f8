import KvrocksController.Store.Addresses

/-! New clusters. Every list of addresses that divides evenly is accepted, whatever its
length; the slots go round as long as there are at most as many shards as slots. -/
namespace Kvrocks
open Kvrocks.Interval

def Creatable (nodes : List String) (replicas : Int) : Prop :=
  nodes ≠ [] ∧ 0 ≤ replicas ∧ max replicas 1 ∣ (nodes.length : Int)

structure WellFormed (nodes : List String) (replicas : Int) (cluster : Cluster) : Prop where
  version : cluster.version = 1
  count : (cluster.shards.length : Int) = nodes.length / max replicas 1
  addrs : (cluster.shards.flatMap fun shard => shard.nodes.map (·.addr)) = nodes
  masters : ∀ shard ∈ cluster.shards, ∃ master slaves, shard.nodes = master :: slaves ∧
    master.isMaster = true ∧ ∀ node ∈ slaves, node.isMaster = false
  ranges : ∃ ranges : List SlotRange, cluster.shards.map (·.slotRanges) = ranges.map ([·]) ∧
    (∀ range ∈ ranges, range.InBounds) ∧ Tiles minSlotID maxSlotID ranges ∧
    (ranges.Pairwise fun a b => Disjoint a.points b.points) ∧
    ∀ x, x ∈ covers ranges ↔ minSlotID ≤ x ∧ x ≤ maxSlotID

section Shards
variable (draw : Draw) (nodes : List String) (r : Nat)

theorem newClusterShards_ranges : (newClusterShards draw nodes r).map (·.slotRanges) =
    (calculateSlotRanges (nodes.length / r)).map ([·]) := by
  rw [newClusterShards, List.map_map, ← map_calculateSlotRanges]
  rfl

/-- The first node of each shard is the master. -/
theorem newClusterShard_nodes (slotRanges : List SlotRange) (i : Nat) :
    ∃ master slaves, (newClusterShard draw nodes (r + 1) slotRanges i).nodes = master :: slaves ∧
      master.isMaster = true ∧ ∀ node ∈ slaves, node.isMaster = false := by
  simp only [newClusterShard, List.range_succ_eq_map, List.map_cons]
  refine ⟨_, _, rfl, rfl, fun node member => ?_⟩
  simp only [List.map_map, List.mem_map, List.mem_range] at member
  obtain ⟨j, _, rfl⟩ := member
  rfl

end Shards

theorem calculateSlotRanges_tiles (positive : 0 < n) (few : n ≤ 16384) :
    Tiles minSlotID maxSlotID (calculateSlotRanges n) := by
  obtain ⟨bound, first, last, increasing, ranges⟩ := calculateSlotRanges_blocks positive few
  rw [ranges, ← first, ← last]
  exact Tiles.blocks increasing

/-- With more shards than slots the blocks are empty: the first ends before it starts. -/
theorem calculateSlotRanges_many (many : 16384 < n) : (⟨0, -1⟩ : SlotRange) ∈ calculateSlotRanges n := by
  have empty : (maxSlotID + 1) / (n : Int) = 0 := Int.ediv_eq_zero_of_lt (by decide) (by simp only [maxSlotID]; omega)
  refine List.mem_map.mpr ⟨0, List.mem_range.mpr (by omega), ?_⟩
  rw [if_pos (by omega), empty]
  rfl

section Sizes
variable {nodes : List String} {replicas : Int}

theorem size_toNat (replicas : Int) : ((max replicas 1).toNat : Int) = max replicas 1 := by omega

theorem creatable_iff : Creatable nodes replicas ↔
    nodes ≠ [] ∧ 0 ≤ replicas ∧ (max replicas 1).toNat ∣ nodes.length := by
  rw [Creatable, ← size_toNat, Int.natCast_dvd_natCast, Int.toNat_natCast]

theorem newCluster_creates : newCluster draw name nodes replicas = .ok cluster ↔
    Creatable nodes replicas ∧ cluster = ⟨name, 1, newClusterShards draw nodes (max replicas 1).toNat⟩ := by
  rw [newCluster_iff, creatable_iff, and_assoc, and_assoc]

theorem shards_positive (creatable : Creatable nodes replicas) : 0 < nodes.length / (max replicas 1).toNat := by
  obtain ⟨some, _, divides⟩ := creatable_iff.mp creatable
  exact Nat.div_pos (Nat.le_of_dvd (List.length_pos_iff.mpr some) divides) (by omega)

theorem newCluster_wellFormed (created : newCluster draw name nodes replicas = .ok cluster)
    (few : nodes.length / (max replicas 1).toNat ≤ 16384) : WellFormed nodes replicas cluster := by
  obtain ⟨creatable, rfl⟩ := newCluster_creates.mp created
  have tiles := calculateSlotRanges_tiles (shards_positive creatable) few
  refine ⟨rfl, ?_, ?_, ?_, _, newClusterShards_ranges draw nodes _, fun range member => ?_, tiles, tiles.disjoint,
    fun x => tiles.mem_covers⟩
  · rw [newClusterShards, List.length_map, List.length_range, Int.natCast_ediv, size_toNat]
  · have addrs := newCluster_addrs created
    rwa [Cluster.addrs, Cluster.shardAddrs, ← List.flatMap_def] at addrs
  · intro shard member
    obtain ⟨i, _, rfl⟩ := List.mem_map.mp member
    obtain ⟨k, size⟩ : ∃ k, (max replicas 1).toNat = k + 1 := Nat.exists_eq_add_one.mpr (by omega)
    rw [size]
    exact newClusterShard_nodes draw nodes k _ i
  · exact tiles.inside member

theorem newCluster_illFormed (created : newCluster draw name nodes replicas = .ok cluster)
    (many : 16384 < nodes.length / (max replicas 1).toNat) : ¬ WellFormed nodes replicas cluster := by
  intro formed
  obtain ⟨ranges, same, bounds, _⟩ := formed.ranges
  obtain ⟨_, rfl⟩ := newCluster_creates.mp created
  rw [newClusterShards_ranges, List.map_inj_right (by simp)] at same
  have invalid := bounds ⟨0, -1⟩ (same ▸ calculateSlotRanges_many many)
  exact absurd invalid (by decide)

end Sizes

/-- `NewCluster` accepts what divides evenly; what it returns is well formed exactly if
there are not more shards than slots. -/
theorem new_clusters_well_formed (draw : Draw) (name : String) (nodes : List String) (replicas : Int) :
    ((∃ cluster, newCluster draw name nodes replicas = .ok cluster) ↔ Creatable nodes replicas) ∧
    ((∀ cluster, newCluster draw name nodes replicas = .ok cluster → WellFormed nodes replicas cluster) ↔
      (Creatable nodes replicas → nodes.length / max replicas 1 ≤ 16384)) := by
  have accepted : (∃ cluster, newCluster draw name nodes replicas = .ok cluster) ↔ Creatable nodes replicas := by
    simp only [newCluster_creates, exists_and_left, exists_eq, and_true]
  have shards : nodes.length / max replicas 1 ≤ 16384 ↔ nodes.length / (max replicas 1).toNat ≤ 16384 := by
    rw [← size_toNat, Int.toNat_natCast, ← Int.natCast_ediv]
    omega
  refine ⟨accepted, fun formed creatable => ?_, fun few cluster created => ?_⟩
  · rw [shards]
    by_contra many
    obtain ⟨cluster, created⟩ := accepted.mpr creatable
    exact newCluster_illFormed created (not_le.mp many) (formed cluster created)
  · exact newCluster_wellFormed created (shards.mp (few (newCluster_creates.mp created).1))

/-- One address more than there are slots. -/
def manyAddresses : List String := (List.range 16385).map fun i => "10.0.0.1:" ++ toString (i + 1)

/-- One shard more than there are slots: the cluster is made, and its first shard has a
range that ends before it starts. -/
theorem new_cluster_of_16385_shards :
    ∃ cluster, newCluster (fun k => (toString k, 0)) "c" manyAddresses 1 = .ok cluster ∧
      ¬ WellFormed manyAddresses 1 cluster := by
  have length : manyAddresses.length = 16385 := by simp [manyAddresses]
  have creatable : Creatable manyAddresses 1 := by
    refine creatable_iff.mpr ⟨fun empty => ?_, by decide, Nat.one_dvd _⟩
    rw [empty] at length
    cases length
  obtain ⟨cluster, created⟩ : ∃ cluster, newCluster (fun k => (toString k, 0)) "c" manyAddresses 1 = .ok cluster :=
    ⟨_, newCluster_creates.mpr ⟨creatable, rfl⟩⟩
  refine ⟨cluster, created, newCluster_illFormed created ?_⟩
  rw [length]
  decide

end Kvrocks
