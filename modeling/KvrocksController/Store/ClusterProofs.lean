import KvrocksController.Store.Cluster
import KvrocksController.Store.ShardProofs

/-! What each operation of a cluster can do, one lemma an operation. Later proofs
use these and never unfold the operations. -/
namespace Kvrocks

/-- A shard without its nodes: all that slot ownership depends on. -/
def Shard.placement (shard : Shard) : Shard := { shard with nodes := [] }

theorem map_modify {f : α → α} {g : α → β} {h : β → β} (commutes : ∀ a, g (f a) = h (g a))
    (l : List α) (i : Nat) : (l.modify i f).map g = (l.map g).modify i h := by
  apply List.ext_getElem?
  intro k
  simp only [List.getElem?_map, List.getElem?_modify]
  cases l[k]? with
  | none => rfl
  | some a =>
    split
    · exact congrArg some (commutes a)
    · rfl

theorem map_modify_same {f : α → α} {g : α → β} (same : ∀ a, g (f a) = g a) (l : List α) (i : Nat) :
    (l.modify i f).map g = l.map g := by
  rw [map_modify (h := id) same, List.modify_id]

theorem mem_modify {f : α → α} (member : a ∈ List.modify l i f) :
    a ∈ l ∨ ∃ b, l[i]? = some b ∧ a = f b := by
  obtain ⟨k, found⟩ := List.mem_iff_getElem?.mp member
  rw [List.getElem?_modify] at found
  split at found
  · rename_i at_
    subst at_
    obtain ⟨b, here, rfl⟩ := Option.map_eq_some_iff.mp found
    exact .inr ⟨b, here, rfl⟩
  · exact .inl (List.mem_of_getElem? (by simpa using found))

/-- The shards that `NewCluster` takes `nodes` apart into, `r` nodes each. -/
def newClusterShards (draw : Draw) (nodes : List String) (r : Nat) : List Shard :=
  (List.range (nodes.length / r)).map (newClusterShard draw nodes r (calculateSlotRanges (nodes.length / r)))

/-- What `NewCluster` accepts, and what it makes of it. -/
theorem newCluster_iff : newCluster draw name nodes replicas = .ok cluster ↔
    nodes ≠ [] ∧ 0 ≤ replicas ∧ (max replicas 1).toNat ∣ nodes.length ∧
      cluster = ⟨name, 1, newClusterShards draw nodes (max replicas 1).toNat⟩ := by
  unfold newCluster
  by_cases empty : nodes = []
  · simp [empty]
  by_cases negative : replicas < 0
  · simp [empty, negative]
  have size : (if replicas = 0 then 1 else replicas.toNat) = (max replicas 1).toNat := by
    split <;> omega
  rw [if_neg (by simpa using empty), if_neg negative, size]
  by_cases divides : nodes.length % (max replicas 1).toNat = 0
  · have divisor := Nat.dvd_of_mod_eq_zero divides
    simp only [divides, ne_eq, not_true, if_false, Except.ok.injEq, empty, not_false_eq_true, not_lt.mp negative,
      divisor, true_and]
    exact ⟨Eq.symm, Eq.symm⟩
  · have indivisible : ¬ (max replicas 1).toNat ∣ nodes.length := fun divisor =>
      divides (Nat.mod_eq_zero_of_dvd divisor)
    simp [divides, indivisible]

/-- A new cluster: `n` shards of `r` nodes each, both positive. -/
theorem newCluster_ok (created : newCluster draw name nodes replicas = .ok cluster) :
    ∃ r n : Nat, 0 < r ∧ 0 < n ∧ nodes.length = n * r ∧ cluster.name = name ∧ cluster.version = 1 ∧
      cluster.shards = (List.range n).map (newClusterShard draw nodes r (calculateSlotRanges n)) := by
  obtain ⟨some, _, divides, rfl⟩ := newCluster_iff.mp created
  have positive : 0 < (max replicas 1).toNat := by omega
  have length : 0 < nodes.length := List.length_pos_iff.mpr some
  exact ⟨(max replicas 1).toNat, nodes.length / (max replicas 1).toNat, positive,
    Nat.div_pos (Nat.le_of_dvd length divides) positive, (Nat.div_mul_cancel divides).symm, rfl, rfl, rfl⟩

namespace Cluster

theorem ptr_lt_freshPtr {cluster : Cluster} (member : node ∈ cluster.getNodes) : node.ptr < cluster.freshPtr := by
  have bound (ptrs : List Nat) (here : node.ptr ∈ ptrs) : node.ptr ≤ ptrs.foldr max 0 := by
    induction ptrs with
    | nil => cases here
    | cons p ptrs ih =>
      obtain rfl | here := List.mem_cons.mp here
      · exact Nat.le_max_left _ _
      · exact (ih here).trans (Nat.le_max_right _ _)
  exact Nat.lt_succ_of_le (bound _ (List.mem_map_of_mem member))

def placements (cluster : Cluster) : List Shard := cluster.shards.map (·.placement)

theorem position?_eq_some {cluster : Cluster} :
    cluster.position? k = some i ↔ k = i ∧ i < cluster.shards.length := by
  unfold position?
  split
  · simp only [reduceCtorEq, false_iff]
    omega
  · simp only [Option.some.injEq]
    omega

theorem position?_eq_none {cluster : Cluster} :
    cluster.position? k = none ↔ ¬ (0 ≤ k ∧ k < cluster.shards.length) := by
  unfold position?
  split
  · simp only [true_iff]
    omega
  · simp only [reduceCtorEq, false_iff]
    omega

theorem getShard_ok {cluster : Cluster} :
    cluster.getShard k = .ok shard ↔ ∃ i : Nat, k = i ∧ cluster.shards[i]? = some shard := by
  unfold getShard
  cases position : cluster.position? k with
  | none =>
    simp only [reduceCtorEq, false_iff, not_exists, not_and]
    rintro i rfl found
    have bound := (List.getElem?_eq_some_iff.mp found).1
    rw [position?_eq_some.mpr ⟨rfl, bound⟩] at position
    cases position
  | some i =>
    obtain ⟨rfl, bound⟩ := position?_eq_some.mp position
    simp only [List.getElem?_eq_getElem bound, Except.ok.injEq]
    constructor
    · rintro rfl
      exact ⟨i, rfl, List.getElem?_eq_getElem bound⟩
    · rintro ⟨j, same, found⟩
      obtain rfl := Int.ofNat.inj same
      exact (List.getElem?_eq_some_iff.mp found).2

section Scan

/-- The scan keeps the first owner it meets and fails at the second. -/
def tally : Option Nat → List Nat → Except Error (Option Nat)
  | found, [] => .ok found
  | none, i :: rest => tally (some i) rest
  | some _, _ :: _ => .error (.of .slotRangeBelongsToMultipleShards)

/-- The owner of each range that meets `slot`, in the order of the scan from shard `i` on. -/
def meeting (slot : SlotRange) : (i : Nat) → List Shard → List Nat
  | _, [] => []
  | i, shard :: rest =>
    (shard.slotRanges.filter (SlotRange.hasOverlap · slot)).map (fun _ => i) ++ meeting slot (i + 1) rest

theorem tally_append (found : Option Nat) (l m : List Nat) : tally found (l ++ m) = tally found l >>= (tally · m) := by
  induction l generalizing found with
  | nil => rfl
  | cons i l ih =>
    cases found with
    | none => exact ih (some i)
    | some _ => rfl

theorem findInRanges_eq (slot : SlotRange) (i : Nat) (ranges : List SlotRange) (found : Option Nat) :
    findInRanges slot i ranges found =
      tally found ((ranges.filter (SlotRange.hasOverlap · slot)).map fun _ => i) := by
  induction ranges generalizing found with
  | nil => rfl
  | cons range rest ih =>
    unfold findInRanges
    rw [List.filter_cons]
    split
    · cases found with
      | none => exact ih (some i)
      | some _ => rfl
    · exact ih found

theorem findInShards_eq (slot : SlotRange) (i : Nat) (shards : List Shard) (found : Option Nat) :
    findInShards slot i shards found = tally found (meeting slot i shards) := by
  induction shards generalizing i found with
  | nil => rfl
  | cons shard rest ih =>
    unfold findInShards meeting
    rw [tally_append, findInRanges_eq]
    congr 1
    funext found
    exact ih (i + 1) found

/-- The source exists exactly where one range of the whole cluster meets the slots. -/
theorem findShardIndexBySlot_eq (slot : SlotRange) (cluster : Cluster) :
    cluster.findShardIndexBySlot slot =
      match meeting slot 0 cluster.shards with
      | [] => .error (.of .slotNotBelongToAnyShard)
      | [source] => .ok source
      | _ :: _ :: _ => .error (.of .slotRangeBelongsToMultipleShards) := by
  unfold findShardIndexBySlot
  rw [findInShards_eq]
  match meeting slot 0 cluster.shards with
  | [] => rfl
  | [_] => rfl
  | _ :: _ :: _ => rfl

theorem mem_meeting {shards : List Shard} : k ∈ meeting slot i shards ↔
    ∃ j shard, shards[j]? = some shard ∧ k = i + j ∧ ∃ r ∈ shard.slotRanges, SlotRange.hasOverlap r slot = true := by
  induction shards generalizing i with
  | nil => simp [meeting]
  | cons shard rest ih =>
    rw [meeting, List.mem_append, ih, List.mem_map]
    constructor
    · rintro (⟨r, listed, rfl⟩ | ⟨j, other, found, rfl, overlap⟩)
      · exact ⟨0, shard, rfl, rfl, r, List.mem_filter.mp listed⟩
      · exact ⟨j + 1, other, found, by omega, overlap⟩
    · rintro ⟨j, other, found, rfl, r, range, overlap⟩
      cases j with
      | zero =>
        obtain rfl := Option.some.inj found
        exact .inl ⟨r, List.mem_filter.mpr ⟨range, overlap⟩, rfl⟩
      | succ j => exact .inr ⟨j, other, found, by omega, r, range, overlap⟩

theorem findShardIndexBySlot_meeting {cluster : Cluster} :
    cluster.findShardIndexBySlot slot = .ok s ↔ meeting slot 0 cluster.shards = [s] := by
  rw [findShardIndexBySlot_eq]
  split <;> simp_all

theorem findShardIndexBySlot_ok {cluster : Cluster} (found : cluster.findShardIndexBySlot slot = .ok s) :
    (∃ shard, cluster.shards[s]? = some shard) ∧
      ∀ k shard, cluster.shards[k]? = some shard → shard.hasOverlap slot = true → k = s := by
  have alone := findShardIndexBySlot_meeting.mp found
  constructor
  · obtain ⟨j, shard, here, position, _⟩ := mem_meeting.mp (alone ▸ List.mem_singleton_self s)
    rw [Nat.zero_add] at position
    exact ⟨shard, position ▸ here⟩
  · intro k shard here overlap
    have member : k ∈ meeting slot 0 cluster.shards :=
      mem_meeting.mpr ⟨k, shard, here, (Nat.zero_add k).symm, List.any_eq_true.mp overlap⟩
    rw [alone] at member
    exact List.mem_singleton.mp member

end Scan

/-- An accepted request: the slot's only owner is the source, which differs from the
target; then ownership moves, or neither shard was migrating and the source records it. -/
theorem migrateSlot_ok {cluster next : Cluster}
    (migrated : cluster.migrateSlot replies slot targetShardIdx slotOnly = (next, none)) :
    ∃ source target : Nat, targetShardIdx = target ∧ target < cluster.shards.length ∧ source ≠ target ∧
      cluster.findShardIndexBySlot slot = .ok source ∧
      (slotOnly = true ∧ next = cluster.moveSlot slot source target ∨
        slotOnly = false ∧ next = cluster.recordMigration slot source target ∧
          ∃ sourceShard targetShard, cluster.shards[source]? = some sourceShard ∧
            cluster.shards[target]? = some targetShard ∧
            sourceShard.isMigrating = false ∧ targetShard.isMigrating = false) := by
  unfold migrateSlot at migrated
  split at migrated
  · cases migrated
  · rename_i target position
    obtain ⟨rfl, bound⟩ := position?_eq_some.mp position
    split at migrated
    · cases migrated
    · rename_i source found
      split at migrated
      · cases migrated
      · rename_i distinct
        refine ⟨source, target, rfl, bound, distinct, found, ?_⟩
        split at migrated
        · rename_i only
          exact .inl ⟨only, (Prod.mk.inj migrated).1.symm⟩
        · rename_i data
          refine .inr ⟨Bool.eq_false_iff.mpr data, ?_⟩
          split at migrated
          · rename_i sourceShard targetShard sourceFound targetFound
            unfold startMigration at migrated
            split at migrated
            · cases migrated
            · rename_i idle
              simp only [Bool.or_eq_true, not_or, Bool.not_eq_true] at idle
              split at migrated
              · cases migrated
              · split at migrated
                · cases migrated
                · split at migrated
                  · cases migrated
                  · exact ⟨(Prod.mk.inj migrated).1.symm, sourceShard, targetShard, sourceFound,
                      targetFound, idle⟩
          · cases migrated

theorem startMigration_unchanged (replies : NodeReplies) (slot : SlotRange) (source : Nat) (target : Int)
    (sourceShard targetShard : Shard) (cluster : Cluster) :
    (cluster.startMigration replies slot source target sourceShard targetShard).1 = cluster ∨
      (cluster.startMigration replies slot source target sourceShard targetShard).2 = none := by
  unfold startMigration
  split
  · exact .inl rfl
  · split
    · exact .inl rfl
    · split
      · exact .inl rfl
      · split
        · exact .inl rfl
        · exact .inr rfl

/-- Every error is returned in front of the first write. -/
theorem migrateSlot_unchanged (replies : NodeReplies) (slot : SlotRange) (target : Int) (slotOnly : Bool)
    (cluster : Cluster) : (cluster.migrateSlot replies slot target slotOnly).1 = cluster ∨
      (cluster.migrateSlot replies slot target slotOnly).2 = none := by
  unfold migrateSlot
  split
  · exact .inl rfl
  · split
    · exact .inl rfl
    · split
      · exact .inl rfl
      · split
        · exact .inr rfl
        · split
          · exact startMigration_unchanged ..
          · exact .inl rfl

theorem migrateSlot_of {P : Cluster → Prop} {cluster : Cluster} (kept : P cluster)
    (changed : ∀ next, cluster.migrateSlot replies slot target slotOnly = (next, none) → P next) :
    P (cluster.migrateSlot replies slot target slotOnly).1 := by
  rcases migrateSlot_unchanged replies slot target slotOnly cluster with same | accepted
  · rwa [same]
  · exact changed _ (Prod.ext rfl accepted)

theorem toSlotString_ok {cluster : Cluster}
    (masters : ∀ shard ∈ cluster.shards, ∃ node ∈ shard.nodes, node.role = roleMaster) :
    ∃ text, cluster.toSlotString = .ok text := by
  unfold toSlotString
  generalize looped : (cluster.shards.zipIdx.mapM _ : Except Error (List String)) = result
  obtain ⟨lines, rfl⟩ : ∃ lines, result = .ok lines := by
    rw [← looped]
    refine mapM_ok fun p member => ?_
    obtain ⟨node, inside, role⟩ := masters p.1 (List.fst_mem_of_mem_zipIdx member)
    obtain ⟨text, ok⟩ := Shard.toSlotsString_ok inside role
    exact ⟨text, by simp only [ok]⟩
  exact ⟨String.join lines, rfl⟩

section Placements

theorem placements_set {cluster : Cluster} (found : cluster.shards[i]? = some shard)
    (same : Shard.placement next = shard.placement) : (cluster.setShard i next).placements = cluster.placements := by
  apply List.ext_getElem?
  intro k
  simp only [placements, setShard, List.getElem?_map, List.getElem?_set]
  split
  · rename_i at_
    subst at_
    obtain ⟨bound, rfl⟩ := List.getElem?_eq_some_iff.mp found
    simp [bound, same]
  · rfl

theorem addNode_placements {cluster next : Cluster}
    (added : cluster.addNode draw shardIndex addr role password = .ok next) :
    next.placements = cluster.placements := by
  obtain ⟨shard, found, added⟩ := bind_ok added
  obtain ⟨grown, addition, added⟩ := bind_ok added
  obtain rfl := Except.ok.inj added
  obtain ⟨i, rfl, position⟩ := getShard_ok.mp found
  refine placements_set position ?_
  rw [(Shard.addNode_ok addition).1]
  rfl

theorem removeNode_placements (cluster : Cluster) (shardIndex : Int) (nodeID : String) :
    (cluster.removeNode shardIndex nodeID).1.placements = cluster.placements := by
  unfold removeNode
  split
  · rfl
  · rename_i shard found
    obtain ⟨i, rfl, position⟩ := getShard_ok.mp found
    refine placements_set position ?_
    unfold Shard.removeNode
    dsimp only
    split <;> rfl

theorem setRole_placements (cluster : Cluster) (ptr : Nat) (role : String) :
    (cluster.setRole ptr role).placements = cluster.placements := by
  simp only [placements, setRole, List.map_map]
  rfl

theorem promoteNewMaster_placements {cluster next : Cluster}
    (promoted : cluster.promoteNewMaster replies shardIdx masterNodeID preferredNodeID = .ok (next, newMasterID)) :
    next.placements = cluster.placements := by
  obtain ⟨shard, _, promoted⟩ := bind_ok promoted
  obtain ⟨⟨oldMaster, newMaster⟩, _, promoted⟩ := bind_ok promoted
  cases promoted
  rw [setRole_placements, setRole_placements]

end Placements

section Roles

/-- Where all objects are distinct, a write through a pointer is a write at one place. -/
theorem setRole_eq_set {cluster : Cluster} (apart : (cluster.getNodes.map (·.ptr)).Nodup)
    (found : cluster.shards[i]? = some shard) (here : shard.nodes[a]? = some node) :
    cluster.setRole node.ptr role =
      cluster.setShard i { shard with nodes := shard.nodes.set a (node.setRole role) } := by
  simp only [getNodes, List.map_flatMap, List.nodup_flatMap, List.pairwise_iff_getElem] at apart
  obtain ⟨within, across⟩ := apart
  have boundI := (List.getElem?_eq_some_iff.mp found).1
  have right : node.ptr ∈ shard.nodes.map (·.ptr) := List.mem_map_of_mem (List.mem_of_getElem? here)
  simp only [setRole, setShard, Cluster.mk.injEq, true_and]
  apply List.ext_getElem?
  intro k
  rw [List.getElem?_map, List.getElem?_set]
  by_cases same : i = k
  · subst same
    rw [found, if_pos rfl, if_pos boundI, Option.map_some,
      Shard.setRole_eq_set role (within shard (List.mem_of_getElem? found)) here]
  · rw [if_neg same]
    cases shardAt : cluster.shards[k]? with
    | none => rfl
    | some other =>
      -- the object is in no other shard
      rw [Option.map_some, Shard.setRole_absent role]
      intro n member shared
      have left : node.ptr ∈ other.nodes.map (·.ptr) := List.mem_map.mpr ⟨n, member, shared⟩
      obtain ⟨boundK, rfl⟩ := List.getElem?_eq_some_iff.mp shardAt
      obtain ⟨_, rfl⟩ := List.getElem?_eq_some_iff.mp found
      rcases Nat.lt_or_gt_of_ne same with before | after
      · exact across i k boundI boundK before right left
      · exact across k i boundK boundI after left right

theorem setRole_ptrs (cluster : Cluster) (ptr : Nat) (role : String) :
    (cluster.setRole ptr role).getNodes.map (·.ptr) = cluster.getNodes.map (·.ptr) := by
  have kept (node : ClusterNode) : (if node.ptr = ptr then node.setRole role else node).ptr = node.ptr := by
    split <;> rfl
  simp [getNodes, setRole, Shard.setRole, List.map_flatMap, List.flatMap_map, Function.comp_def, kept]

/-- Two nodes of one shard exchange their roles, everything else is as it was. -/
def swapRoles (i : Nat) (shard : Shard) (a : Nat) (master : ClusterNode) (b : Nat) (replica : ClusterNode)
    (cluster : Cluster) : Cluster :=
  cluster.setShard i { shard with
    nodes := (shard.nodes.set a (master.setRole roleSlave)).set b (replica.setRole roleMaster) }

/-- A promotion in a cluster of distinct objects swaps the roles of the old master and
of a candidate of the same shard. -/
theorem promoteNewMaster_swaps {cluster next : Cluster} (apart : (cluster.getNodes.map (·.ptr)).Nodup)
    (promoted : cluster.promoteNewMaster replies shardIdx masterNodeID preferredNodeID = .ok (next, newMasterID)) :
    ∃ (i : Nat) (shard : Shard) (a b : Nat) (master replica : ClusterNode),
      shardIdx = i ∧ cluster.shards[i]? = some shard ∧ a ≠ b ∧ shard.nodes[a]? = some master ∧
      master.isMaster = true ∧ (masterNodeID ≠ "" → master.id = masterNodeID) ∧
      shard.nodes[b]? = some replica ∧ replica.id = newMasterID ∧
      (Shard.candidateSequence replies replica).isSome ∧ next = cluster.swapRoles i shard a master b replica := by
  obtain ⟨shard, designated, promoted⟩ := bind_ok promoted
  obtain ⟨⟨master, replica⟩, chosen, promoted⟩ := bind_ok promoted
  cases promoted
  obtain ⟨i, rfl, found⟩ := getShard_ok.mp designated
  obtain ⟨a, b, distinct, atMaster, isMaster, atReplica, asked, answered⟩ := Shard.promoteNewMaster_chosen chosen
  refine ⟨i, shard, a, b, master, replica, rfl, found, distinct, atMaster, isMaster, asked, atReplica, rfl,
    answered, ?_⟩
  have demoted : cluster.setRole master.ptr roleSlave = _ := setRole_eq_set apart found atMaster
  have apart' := (setRole_ptrs cluster master.ptr roleSlave).symm ▸ apart
  rw [demoted] at apart' ⊢
  have found' : (cluster.setShard i
      { shard with nodes := shard.nodes.set a (master.setRole roleSlave) }).shards[i]? =
        some { shard with nodes := shard.nodes.set a (master.setRole roleSlave) } := by
    simp [setShard, (List.getElem?_eq_some_iff.mp found).1]
  have atReplica' : (shard.nodes.set a (master.setRole roleSlave))[b]? = some replica := by
    rw [List.getElem?_set_ne distinct, atReplica]
  rw [setRole_eq_set apart' found' atReplica']
  simp [swapRoles, setShard]

end Roles
end Cluster
end Kvrocks
