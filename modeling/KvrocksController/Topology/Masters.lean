import KvrocksController.Controller.MigrationProofs
import KvrocksController.Store.CodecProofs
import KvrocksController.Store.ParseProofs
import KvrocksController.Store.ShardProofs
import KvrocksController.Topology.Run
import Mathlib.Data.List.InsertIdx

/-! Roles along every history: each shard has one master and slaves besides. Roles
are set through pointers, so this rests on no node object being in two shards when a
master is replaced. -/
namespace Kvrocks.Topology
open Kvrocks.Transition

/-- The node lists of the shards, all that roles depend on. -/
def nodeLists (cluster : Cluster) : List (List ClusterNode) := cluster.shards.map (·.nodes)

def OneMaster (nodes : List ClusterNode) : Prop :=
  ∃ master ∈ nodes, master.role = roleMaster ∧ ∀ node ∈ nodes, node.ptr ≠ master.ptr → node.role = roleSlave

/-- No node object sits in two shards, or twice in one. -/
def Unshared (cluster : Cluster) : Prop := (cluster.getNodes.map (·.ptr)).Nodup

instance (cluster : Cluster) : Decidable (Unshared cluster) := inferInstanceAs (Decidable (List.Nodup _))

/-- Two node lists have no object in common. -/
def Foreign (a b : List ClusterNode) : Prop := ∀ node ∈ a, ∀ other ∈ b, node.ptr ≠ other.ptr

theorem unshared_iff {cluster : Cluster} : Unshared cluster ↔
    (∀ nodes ∈ nodeLists cluster, (nodes.map (·.ptr)).Nodup) ∧ (nodeLists cluster).Pairwise Foreign := by
  have disjoint : (Function.onFun List.Disjoint fun shard : Shard => shard.nodes.map (·.ptr)) =
      fun a b => Foreign a.nodes b.nodes := by
    funext a b
    simp only [Function.onFun, List.disjoint_left, List.mem_map, Foreign, eq_iff_iff]
    grind
  simp only [Unshared, Cluster.getNodes, nodeLists, List.map_flatMap, List.nodup_flatMap, List.pairwise_map,
    List.forall_mem_map, disjoint]

/-- Every list is of distinct objects with one master; lists have no object in
common where `alone` is known. -/
structure Led (alone : Prop) (lists : List (List ClusterNode)) : Prop where
  apart : ∀ nodes ∈ lists, (nodes.map (·.ptr)).Nodup
  master : ∀ nodes ∈ lists, OneMaster nodes
  unshared : alone → lists.Pairwise Foreign

namespace Led

theorem mono (led : Led sure lists) (weaker : alone → sure) : Led alone lists :=
  ⟨led.apart, led.master, fun known => led.unshared (weaker known)⟩

theorem append (led : Led alone lists) (apart : (nodes.map (·.ptr)).Nodup) (master : OneMaster nodes)
    (fresh : ∀ list ∈ lists, Foreign list nodes) : Led alone (lists ++ [nodes]) where
  apart := List.forall_mem_append.mpr ⟨led.apart, List.forall_mem_singleton.mpr apart⟩
  master := List.forall_mem_append.mpr ⟨led.master, List.forall_mem_singleton.mpr master⟩
  unshared := by
    intro known
    rw [List.pairwise_append]
    refine ⟨led.unshared known, List.pairwise_singleton _ _, ?_⟩
    intro list member other last
    exact List.mem_singleton.mp last ▸ fresh list member

theorem erase (led : Led alone lists) (i : Nat) : Led alone (lists.eraseIdx i) where
  apart := fun nodes member => led.apart nodes (List.mem_of_mem_eraseIdx member)
  master := fun nodes member => led.master nodes (List.mem_of_mem_eraseIdx member)
  unshared := fun known => (led.unshared known).sublist (List.eraseIdx_sublist lists i)

/-- Lists at two positions have no object in common. -/
theorem foreign_at {lists : List (List ClusterNode)} {i j : Nat} (unshared : lists.Pairwise Foreign)
    (left : lists[i]? = some a) (right : lists[j]? = some b) (distinct : i ≠ j) : Foreign a b := by
  obtain ⟨boundLeft, rfl⟩ := List.getElem?_eq_some_iff.mp left
  obtain ⟨boundRight, rfl⟩ := List.getElem?_eq_some_iff.mp right
  rw [List.pairwise_iff_getElem] at unshared
  obtain before | after := Nat.lt_or_gt_of_ne distinct
  · exact unshared i j boundLeft boundRight before
  · intro node member other inside same
    exact unshared j i boundRight boundLeft after other inside node member same.symm

/-- One list is replaced by another of its own objects and objects new to all lists. -/
theorem set (led : Led alone lists) (found : lists[i]? = some nodes) (apart : (next.map (·.ptr)).Nodup)
    (master : OneMaster next)
    (known : ∀ node ∈ next, (∃ own ∈ nodes, own.ptr = node.ptr) ∨
      ∀ list ∈ lists, ∀ other ∈ list, other.ptr ≠ node.ptr) : Led alone (lists.set i next) where
  apart := by
    intro list member
    obtain member | rfl := List.mem_or_eq_of_mem_set member
    · exact led.apart list member
    · exact apart
  master := by
    intro list member
    obtain member | rfl := List.mem_or_eq_of_mem_set member
    · exact led.master list member
    · exact master
  unshared := by
    intro sure
    -- a list that stays shares nothing with the new one
    have stays (k : Nat) (list : List ClusterNode) (here : lists[k]? = some list) (other : k ≠ i) :
        Foreign list next := by
      intro node member new inside
      obtain ⟨own, ours, same⟩ | fresh := known new inside
      · exact same ▸ foreign_at (led.unshared sure) here found other node member own ours
      · exact fresh list (List.mem_of_getElem? here) node member
    have lookup (k : Nat) (bound : k < (lists.set i next).length) (other : k ≠ i) :
        lists[k]? = some (lists.set i next)[k] := by
      rw [← List.getElem?_eq_getElem bound, List.getElem?_set_ne (Ne.symm other)]
    rw [List.pairwise_iff_getElem]
    intro j k boundJ boundK less
    by_cases first : j = i
    · subst first
      have foreign := stays k _ (lookup k boundK (by omega)) (by omega)
      rw [List.getElem_set_self]
      exact fun node member other inside same => foreign other inside node member same.symm
    · by_cases second : k = i
      · subst second
        rw [List.getElem_set_self]
        exact stays j _ (lookup j boundJ first) first
      · exact foreign_at (led.unshared sure) (lookup j boundJ first) (lookup k boundK second) (by omega)

/-- `SetRole` seen on one node. -/
def withRole (ptr : Nat) (role : String) (node : ClusterNode) : ClusterNode :=
  if node.ptr = ptr then node.setRole role else node

@[simp] theorem withRole_ptr : (withRole ptr role node).ptr = node.ptr := by
  unfold withRole
  split <;> rfl

theorem withRole_self (same : node.ptr = ptr) : (withRole ptr role node).role = role := by
  simp [withRole, same, ClusterNode.setRole]

theorem withRole_ne (other : node.ptr ≠ ptr) : withRole ptr role node = node := if_neg other

/-- The old master becomes a slave, then the new one the master. Lists that share no
object with theirs stay as they are. -/
theorem promote (led : Led alone lists) (unshared : lists.Pairwise Foreign) {i : Nat}
    (found : lists[i]? = some nodes) (old : oldMaster ∈ nodes) (master : oldMaster.role = roleMaster)
    (new : newMaster ∈ nodes) :
    Led alone (lists.map (List.map (withRole newMaster.ptr roleMaster ∘ withRole oldMaster.ptr roleSlave))) where
  apart := by
    intro list member
    obtain ⟨before, inside, rfl⟩ := List.mem_map.mp member
    simpa [List.map_map, Function.comp_def] using led.apart before inside
  master := by
    intro list member
    obtain ⟨k, here⟩ := List.mem_iff_getElem?.mp member
    rw [List.getElem?_map, Option.map_eq_some_iff] at here
    obtain ⟨before, here, rfl⟩ := here
    by_cases same : k = i
    · subst same
      obtain rfl := Option.some.inj (here.symm.trans found)
      obtain ⟨m, _, _, others⟩ := led.master before (List.mem_of_getElem? found)
      -- the list's only master is the old one
      have only : oldMaster.ptr = m.ptr := by
        by_contra differs
        exact absurd ((others oldMaster old differs).symm.trans master) (by decide)
      refine ⟨_, List.mem_map_of_mem new, withRole_self withRole_ptr, ?_⟩
      intro node member differs
      obtain ⟨source, inside, rfl⟩ := List.mem_map.mp member
      simp only [Function.comp_apply, withRole_ptr] at differs ⊢
      rw [withRole_ne (by simpa using differs)]
      by_cases demoted : source.ptr = oldMaster.ptr
      · exact withRole_self demoted
      · rw [withRole_ne demoted]
        exact others source inside (only ▸ demoted)
    · have foreign := foreign_at unshared here found same
      have untouched : before.map (withRole newMaster.ptr roleMaster ∘ withRole oldMaster.ptr roleSlave) = before := by
        refine (List.map_congr_left fun node member => ?_).trans (List.map_id before)
        rw [Function.comp_apply, withRole_ne (foreign node member oldMaster old),
          withRole_ne (foreign node member newMaster new), id]
      rw [untouched]
      exact led.master before (List.mem_of_getElem? here)
  unshared := by
    intro known
    rw [List.pairwise_map]
    refine (led.unshared known).imp fun {a b} foreign => ?_
    simpa [Foreign] using foreign

/-- By position: with distinct objects, one master means one position. -/
theorem oneMaster_iff (apart : (nodes.map (·.ptr)).Nodup) :
    OneMaster nodes ↔ ∃ (i : Nat) (master : ClusterNode), nodes[i]? = some master ∧ master.role = roleMaster ∧
      ∀ (j : Nat) node, nodes[j]? = some node → j ≠ i → node.role = roleSlave := by
  constructor
  · rintro ⟨master, member, role, others⟩
    obtain ⟨i, here⟩ := List.mem_iff_getElem?.mp member
    refine ⟨i, master, here, role, ?_⟩
    intro j node there distinct
    refine others node (List.mem_of_getElem? there) fun same => distinct ?_
    have bound : j < (nodes.map (·.ptr)).length := by
      rw [List.length_map]
      exact (List.getElem?_eq_some_iff.mp there).1
    refine (List.getElem?_inj bound apart).mp ?_
    rw [List.getElem?_map, List.getElem?_map, there, here, Option.map_some, Option.map_some, same]
  · rintro ⟨i, master, here, role, others⟩
    refine ⟨master, List.mem_of_getElem? here, role, ?_⟩
    intro node member distinct
    obtain ⟨j, there⟩ := List.mem_iff_getElem?.mp member
    refine others j node there ?_
    rintro rfl
    exact distinct (congrArg _ (Option.some.inj (there.symm.trans here)))

/-- Decoding makes all objects new. -/
theorem unshared_of_allocate {cluster : Cluster} (fresh : cluster.shards = allocate 0 shards) : Unshared cluster := by
  rw [Unshared, Cluster.getNodes, fresh, allocate_ptrs]
  exact List.nodup_range'

theorem roundTrip {cluster next : Cluster} (led : Led alone (nodeLists cluster))
    (read : Cluster.unmarshalJSON cluster.marshalJSON = .ok next) : Led True (nodeLists next) := by
  obtain ⟨shards, fresh, same⟩ := Cluster.unmarshal_marshal_nodes read
  obtain ⟨apart, unshared⟩ := unshared_iff.mp (unshared_of_allocate fresh)
  refine ⟨apart, ?_, fun _ => unshared⟩
  intro nodes member
  rw [oneMaster_iff (apart nodes member)]
  obtain ⟨shard, listed, rfl⟩ := List.mem_map.mp member
  obtain ⟨base, source, decoded, rfl⟩ := mem_allocate (fresh ▸ listed)
  have copied : source.nodes ∈ shards.map (·.nodes) := List.mem_map_of_mem decoded
  rw [same, List.mem_map] at copied
  obtain ⟨original, inside, copied⟩ := copied
  have stood : original.nodes ∈ nodeLists cluster := List.mem_map_of_mem inside
  obtain ⟨i, master, here, role, others⟩ := (oneMaster_iff (led.apart _ stood)).mp (led.master _ stood)
  -- a node keeps its position and its role
  have look (j : Nat) : (source.renumber base).nodes[j]? =
      (original.nodes[j]?).map fun node => { node with ptr := base + j } := by
    simp only [Shard.renumber, ← copied, List.getElem?_mapIdx, List.getElem?_map, Option.map_map]
    rfl
  refine ⟨i, { master with ptr := base + i }, by rw [look, here]; rfl, role, ?_⟩
  intro j node there distinct
  rw [look, Option.map_eq_some_iff] at there
  obtain ⟨before, there, rfl⟩ := there
  exact others j before there distinct

theorem created (made : newCluster draw name nodes replicas = .ok cluster) : Led True (nodeLists cluster) := by
  obtain ⟨r, n, positive, _, _, _, _, shards⟩ := newCluster_ok made
  have ptrs (i : Nat) : (newClusterShard draw nodes r (calculateSlotRanges n) i).nodes.map (·.ptr) =
      (List.range r).map (i * r + ·) := by
    simp [newClusterShard, newClusterNode, ClusterNode.setRole, Draw.fresh]
  have lists : nodeLists cluster =
      (List.range n).map fun i => (newClusterShard draw nodes r (calculateSlotRanges n) i).nodes := by
    rw [nodeLists, shards, List.map_map]
    rfl
  rw [lists]
  refine ⟨?_, ?_, fun _ => ?_⟩
  · intro list member
    obtain ⟨i, _, rfl⟩ := List.mem_map.mp member
    rw [ptrs]
    exact List.nodup_range.map fun a b same => Nat.add_left_cancel same
  · intro list member
    obtain ⟨i, _, rfl⟩ := List.mem_map.mp member
    refine ⟨_, List.mem_map_of_mem (List.mem_range.mpr positive), rfl, ?_⟩
    intro node member differs
    obtain ⟨j, _, rfl⟩ := List.mem_map.mp member
    have later : j ≠ 0 := by
      rintro rfl
      exact differs rfl
    simp [ClusterNode.setRole, later]
  · rw [List.pairwise_map]
    refine List.pairwise_lt_range.imp fun {i k} less => ?_
    intro node member other inside same
    have left := ptrs i ▸ List.mem_map_of_mem (f := ClusterNode.ptr) member
    have right := ptrs k ▸ List.mem_map_of_mem (f := ClusterNode.ptr) inside
    obtain ⟨a, below, first⟩ := List.mem_map.mp left
    obtain ⟨b, _, second⟩ := List.mem_map.mp right
    have block : (i + 1) * r ≤ k * r := Nat.mul_le_mul_right r less
    have inBlock := List.mem_range.mp below
    rw [Nat.succ_mul] at block
    omega

/-- Two shards of a scanned text share an object only if their masters have one id. -/
theorem foreign_attached (scanned : Scanned k st) (left : a ∈ st.shards) (right : b ∈ st.shards)
    (foreign : Foreign a.nodes b.nodes)
    (differ : (attachSlaves st.slaveNodes a).getMasterNode.map (·.id) ≠
      (attachSlaves st.slaveNodes b).getMasterNode.map (·.id)) :
    Foreign (attachSlaves st.slaveNodes a).nodes (attachSlaves st.slaveNodes b).nodes := by
  obtain ⟨first, firstNodes, firstRole, firstApart, firstList⟩ := scanned.attached left
  obtain ⟨second, secondNodes, secondRole, secondApart, secondList⟩ := scanned.attached right
  simp only [Shard.getMasterNode, firstList, secondList, List.find?_cons, ClusterNode.isMaster, firstRole, secondRole,
    BEq.rfl, Option.map_some, ne_eq, Option.some.injEq] at differ
  intro node member other inside
  rw [firstList, List.mem_cons] at member
  rw [secondList, List.mem_cons] at inside
  obtain rfl | member := member
  · obtain rfl | inside := inside
    · exact foreign node (by simp [firstNodes]) other (by simp [secondNodes])
    · obtain ⟨slave, waiting, rfl⟩ := List.mem_map.mp inside
      exact firstApart slave (List.mem_of_mem_filter waiting)
  · obtain ⟨slave, waiting, rfl⟩ := List.mem_map.mp member
    obtain rfl | inside := inside
    · exact (secondApart slave (List.mem_of_mem_filter waiting)).symm
    · -- one replica under two master ids
      obtain ⟨twin, also, rfl⟩ := List.mem_map.mp inside
      intro same
      rw [List.mem_filter] at waiting also
      obtain rfl := List.inj_on_of_nodup_map scanned.objects_apart.2.1 waiting.1 also.1 same
      exact differ ((of_decide_eq_true waiting.2).symm.trans (of_decide_eq_true also.2))

theorem parsed (read : parseClusterBy sort text = .ok cluster) (permutes : ∀ shards, (sort shards).Perm shards) :
    Led (cluster.shards.map fun shard => shard.getMasterNode.map (·.id)).Nodup (nodeLists cluster) := by
  obtain ⟨k, st, scanned, _, _, shards⟩ := parseClusterBy_scanned read
  obtain ⟨mastersApart, slavesApart, _⟩ := scanned.objects_apart
  have sorted : (sort st.shards).Perm st.shards := permutes _
  rw [nodeLists, shards]
  refine ⟨?_, ?_, ?_⟩
  · intro list member
    simp only [List.map_map, List.mem_map, Function.comp_apply] at member
    obtain ⟨shard, inside, rfl⟩ := member
    obtain ⟨master, _, _, apart, nodes⟩ := scanned.attached (sorted.mem_iff.mp inside)
    rw [nodes, List.map_cons, List.map_map, List.nodup_cons]
    refine ⟨fun clash => ?_, slavesApart.sublist (List.filter_sublist.map _)⟩
    obtain ⟨slave, waiting, same⟩ := List.mem_map.mp clash
    exact apart slave (List.mem_of_mem_filter waiting) same.symm
  · intro list member
    simp only [List.map_map, List.mem_map, Function.comp_apply] at member
    obtain ⟨shard, inside, rfl⟩ := member
    obtain ⟨master, _, role, _, nodes⟩ := scanned.attached (sorted.mem_iff.mp inside)
    rw [nodes]
    refine ⟨master, by simp, role, ?_⟩
    intro node member differs
    obtain rfl | member := List.mem_cons.mp member
    · exact absurd rfl differs
    · obtain ⟨slave, waiting, rfl⟩ := List.mem_map.mp member
      exact scanned.slaves slave (List.mem_of_mem_filter waiting)
  · intro ids
    rw [List.map_map, List.Nodup, List.pairwise_map] at ids
    have foreign : (sort st.shards).Pairwise fun a b => Foreign a.nodes b.nodes := by
      have objects : Unshared ⟨"", 0, sort st.shards⟩ := by
        rw [Unshared, Cluster.getNodes, ((sorted.flatMap_right _).map _).nodup_iff]
        exact mastersApart
      exact List.pairwise_map.mp (unshared_iff.mp objects).2
    rw [List.map_map, List.pairwise_map]
    refine (ids.and foreign).imp_of_mem ?_
    rintro a b left right ⟨differ, foreign⟩
    exact foreign_attached scanned (sorted.mem_iff.mp left) (sorted.mem_iff.mp right) foreign differ

theorem nodeLists_modify {cluster : Cluster} {f : Shard → Shard} (same : ∀ shard, (f shard).nodes = shard.nodes) :
    nodeLists (cluster.modifyShard i f) = nodeLists cluster := map_modify_same same _ _

theorem nodeLists_move {cluster : Cluster} : nodeLists (cluster.moveSlot slot source target) = nodeLists cluster := by
  refine (nodeLists_modify ?_).trans (nodeLists_modify ?_)
  · exact fun _ => rfl
  · exact fun _ => rfl

theorem nodeLists_migrateSlot {cluster : Cluster}
    (migrated : cluster.migrateSlot replies slot target slotOnly = (next, none)) : nodeLists next = nodeLists cluster := by
  obtain ⟨s, t, rfl, _, _, _, ⟨_, rfl⟩ | ⟨_, rfl, _⟩⟩ := Cluster.migrateSlot_ok migrated
  · exact nodeLists_move
  · exact nodeLists_modify fun _ => rfl

theorem nodeLists_status {cluster : Cluster} (edit : StatusEdit cluster i next) :
    nodeLists next = nodeLists cluster := by
  cases edit with
  | cleared => exact nodeLists_modify fun _ => rfl
  | moved => exact nodeLists_move

theorem nodeLists_at {cluster : Cluster} {i : Nat} (position : cluster.shards[i]? = some shard) :
    (nodeLists cluster)[i]? = some shard.nodes := by
  rw [nodeLists, List.getElem?_map, position]
  rfl

theorem nodeLists_set {cluster : Cluster} :
    nodeLists (cluster.setShard i shard) = (nodeLists cluster).set i shard.nodes :=
  List.map_set

theorem mem_getNodes {cluster : Cluster} (listed : list ∈ nodeLists cluster) (member : node ∈ list) :
    node ∈ cluster.getNodes := by
  obtain ⟨shard, inside, rfl⟩ := List.mem_map.mp listed
  exact List.mem_flatMap.mpr ⟨shard, inside, member⟩

theorem addNode {cluster : Cluster} (led : Led alone (nodeLists cluster))
    (added : cluster.addNode draw shardIndex addr role password = .ok next) : Led alone (nodeLists next) := by
  obtain ⟨shard, found, added⟩ := bind_ok added
  obtain ⟨grown, addition, added⟩ := bind_ok added
  obtain rfl := Except.ok.inj added
  obtain ⟨i, rfl, position⟩ := Cluster.getShard_ok.mp found
  have listed := nodeLists_at position
  have inside := List.mem_of_getElem? listed
  obtain ⟨master, member, isMaster, others⟩ := led.master _ inside
  have fresh (list : List ClusterNode) (here : list ∈ nodeLists cluster) (node : ClusterNode) (old : node ∈ list) :
      node.ptr ≠ cluster.freshPtr := Nat.ne_of_lt (Cluster.ptr_lt_freshPtr (mem_getNodes here old))
  obtain ⟨rfl, ⟨_, empty⟩ | rfl⟩ := Shard.addNode_ok addition
  · exact absurd (empty ▸ member) List.not_mem_nil
  rw [nodeLists_set]
  refine led.set listed ?_ ?_ ?_
  · rw [List.map_append, List.nodup_append]
    refine ⟨led.apart _ inside, List.nodup_singleton _, ?_⟩
    intro p before q after
    obtain ⟨node, old, rfl⟩ := List.mem_map.mp before
    obtain rfl := List.mem_singleton.mp after
    exact fresh _ inside node old
  · refine ⟨master, List.mem_append_left _ member, isMaster, ?_⟩
    intro node member differs
    obtain member | member := List.mem_append.mp member
    · exact others node member differs
    · rw [List.mem_singleton.mp member]
      rfl
  · intro node member
    obtain member | member := List.mem_append.mp member
    · exact .inl ⟨node, member, rfl⟩
    · refine .inr fun list here other old => ?_
      rw [List.mem_singleton.mp member]
      exact fresh list here other old

theorem removeNode {cluster : Cluster} (led : Led alone (nodeLists cluster))
    (ids : ∀ shard ∈ cluster.shards, (shard.nodes.map (·.id)).Nodup) (shardIndex : Int) (nodeID : String) :
    Led alone (nodeLists (cluster.removeNode shardIndex nodeID).1) := by
  unfold Cluster.removeNode
  split
  · exact led
  · rename_i shard found
    obtain ⟨i, rfl, position⟩ := Cluster.getShard_ok.mp found
    have listed := nodeLists_at position
    have inside := List.mem_of_getElem? listed
    obtain ⟨kept, masterKept⟩ := shard.removeNode_nodes (ids shard (List.mem_of_getElem? position)) nodeID
    obtain ⟨master, member, isMaster, others⟩ := led.master _ inside
    dsimp only
    rw [nodeLists_set]
    refine led.set listed ((led.apart _ inside).sublist (kept.map _)) ?_ ?_
    · refine ⟨master, masterKept master member (by simp [ClusterNode.isMaster, isMaster]), isMaster, ?_⟩
      exact fun node stays => others node (kept.subset stays)
    · exact fun node stays => .inl ⟨node, kept.subset stays, rfl⟩

theorem createShard {cluster : Cluster} (led : Led alone (nodeLists cluster))
    (created : ShardHandler.create draw nodes password cluster = .ok next) : Led alone (nodeLists next) := by
  obtain ⟨some, shards⟩ := ShardHandler.create_ok created
  have look (node : ClusterNode) (member : node ∈ ShardHandler.newNodes draw cluster.freshPtr nodes password) :
      ∃ i, node.ptr = cluster.freshPtr + i ∧ node.role = if i = 0 then roleMaster else roleSlave := by
    obtain ⟨i, _, rfl⟩ := List.mem_mapIdx.mp member
    exact ⟨i, rfl, rfl⟩
  have lists : nodeLists next =
      nodeLists cluster ++ [ShardHandler.newNodes draw cluster.freshPtr nodes password] := by
    rw [nodeLists, shards, List.map_append]
    rfl
  rw [lists]
  refine led.append ?_ ?_ ?_
  · have ptrs : (ShardHandler.newNodes draw cluster.freshPtr nodes password).map (·.ptr) =
        List.range' cluster.freshPtr nodes.length := by
      apply List.ext_getElem
      · simp [ShardHandler.newNodes]
      · intro i _ _
        simp [ShardHandler.newNodes, newClusterNode, ClusterNode.setRole, Draw.fresh]
    rw [ptrs]
    exact List.nodup_range'
  · obtain ⟨addr, rest, rfl⟩ := List.exists_cons_of_ne_nil some
    refine ⟨_, by rw [ShardHandler.newNodes, List.mapIdx_cons]; exact List.mem_cons_self, rfl, ?_⟩
    intro node member differs
    obtain ⟨i, ptr, role⟩ := look node member
    have later : i ≠ 0 := by
      rintro rfl
      exact differs ptr
    rw [role, if_neg later]
  · intro list here other old node member
    obtain ⟨i, ptr, _⟩ := look node member
    have below := Cluster.ptr_lt_freshPtr (mem_getNodes here old)
    omega

theorem promoteNewMaster {cluster : Cluster} (led : Led alone (nodeLists cluster))
    (unshared : (nodeLists cluster).Pairwise Foreign)
    (promoted : cluster.promoteNewMaster replies shardIdx masterNodeID preferredNodeID = .ok (next, newMasterID)) :
    Led alone (nodeLists next) := by
  obtain ⟨shard, found, promoted⟩ := bind_ok promoted
  obtain ⟨⟨oldMaster, newMaster⟩, chosen, promoted⟩ := bind_ok promoted
  cases promoted
  obtain ⟨i, rfl, position⟩ := Cluster.getShard_ok.mp found
  obtain ⟨_, _, _, old, master, new⟩ := Shard.promoteNewMaster_ok chosen
  have listed := nodeLists_at position
  have swapped : nodeLists ((cluster.setRole oldMaster.ptr roleSlave).setRole newMaster.ptr roleMaster) =
      (nodeLists cluster).map
        (List.map (withRole newMaster.ptr roleMaster ∘ withRole oldMaster.ptr roleSlave)) := by
    simp only [nodeLists, Cluster.setRole, List.map_map]
    refine List.map_congr_left fun shard _ => ?_
    simp only [Function.comp_apply, Shard.setRole, List.map_map]
    rfl
  rw [swapped]
  exact led.promote unshared listed (List.mem_of_getElem? old) (by simpa [ClusterNode.isMaster] using master)
    (List.mem_of_getElem? new)

/-- What one operation preserves: shared objects only matter to a promotion. -/
theorem op {cluster : Cluster} (led : Led alone (nodeLists cluster))
    (ids : ∀ shard ∈ cluster.shards, (shard.nodes.map (·.id)).Nodup) (op : Op)
    (unshared : op.promotes = true → Unshared cluster) : Led alone (nodeLists (op.apply cluster)) := by
  cases op with
  | migrateSlot replies slot target slotOnly =>
    exact Cluster.migrateSlot_of (P := (Led alone <| nodeLists ·)) led fun next migrated =>
      nodeLists_migrateSlot migrated ▸ led
  | migrationStatus replies outcomes workingCopy =>
    let start : Script := ⟨cluster, outcomes⟩
    have pass : nodeLists (tryUpdateMigrationStatus replies Script.update start cluster).clonedCluster =
          nodeLists cluster ∧
        nodeLists (tryUpdateMigrationStatus replies Script.update start cluster).store.stored = nodeLists cluster :=
      tryUpdateMigrationStatus_invariant (P := fun shards => shards.map (·.nodes) = nodeLists cluster)
        (Q := fun script : Script => script.stored.shards.map (·.nodes) = nodeLists cluster)
        (fun _ _ _ same edit => (nodeLists_status edit).trans same)
        (Script.update_stored (P := fun shards => shards.map (·.nodes) = nodeLists cluster)) rfl rfl
    simp only [Op.apply]
    split
    · exact pass.1 ▸ led
    · exact pass.2 ▸ led
  | createShard draw nodes password =>
    exact edited_of (P := (Led alone <| nodeLists ·)) led fun next => led.createShard
  | removeShard shardIdx =>
    refine edited_of (P := (Led alone <| nodeLists ·)) led fun next removed => ?_
    obtain ⟨i, _, _, _, _, shards⟩ := ShardHandler.remove_ok removed
    rw [nodeLists, shards, ← List.eraseIdx_map]
    exact led.erase i
  | addNode draw shardIndex addr role password =>
    exact edited_of (P := (Led alone <| nodeLists ·)) led fun next => led.addNode
  | removeNode shardIndex nodeID => exact led.removeNode ids shardIndex nodeID
  | promoteNewMaster replies shardIdx masterNodeID preferredNodeID =>
    refine edited_of (P := (Led alone <| nodeLists ·)) led fun next promoted => ?_
    obtain ⟨⟨after, newMasterID⟩, succeeded, rfl⟩ := map_ok promoted
    exact led.promoteNewMaster (unshared_iff.mp (unshared rfl)).2 succeeded
  | roundTrip =>
    refine edited_of (P := (Led alone <| nodeLists ·)) led fun next decoded => ?_
    exact (led.roundTrip decoded).mono fun _ => trivial

end Led

/-- Where a history starts, and whether its first cluster may share node objects
between shards: only the text of a node that names a master id twice does that. -/
inductive Origin : (shared : Bool) → Cluster → Prop where
  | created (made : newCluster draw name nodes replicas = .ok cluster) : Origin false cluster
  | parsed (read : parseClusterBy sort text = .ok cluster) (permutes : ∀ shards, (sort shards).Perm shards)
      (once : (cluster.shards.map fun shard => shard.getMasterNode.map (·.id)).Nodup) : Origin false cluster
  | repeated (read : parseClusterBy sort text = .ok cluster) (permutes : ∀ shards, (sort shards).Perm shards) :
      Origin true cluster

def DistinctIDs (cluster : Cluster) : Prop := ∀ shard ∈ cluster.shards, (shard.nodes.map (·.id)).Nodup

instance (cluster : Cluster) : Decidable (DistinctIDs cluster) :=
  inferInstanceAs (Decidable (∀ shard ∈ cluster.shards, List.Nodup _))

/-- Node ids are distinct inside a shard. After a text that names a master id twice,
no promotion comes before a round trip has separated the shards. -/
def Legal (shared : Bool) (cluster : Cluster) (op : Op) : Prop :=
  DistinctIDs cluster ∧ (shared = true → op.promotes = true → Unshared cluster)

/-- Each shard has one master and slaves besides, so no lookup of a master fails; a
round trip leaves no node object in two shards. -/
theorem one_master_per_shard {initial cluster : Cluster} (origin : Origin shared initial)
    (run : Run (Guarded Applied (Legal shared)) initial ops cluster) :
    (∀ shard ∈ cluster.shards, ∃ (i : Nat) (master : ClusterNode), shard.nodes[i]? = some master ∧
      master.role = roleMaster ∧ ∀ (j : Nat) node, shard.nodes[j]? = some node → j ≠ i → node.role = roleSlave) ∧
    (∃ text, cluster.toSlotString = .ok text) ∧
    (∀ shard ∈ cluster.shards, ∃ node, shard.getMasterNode = some node) ∧
    ∀ reread, Cluster.unmarshalJSON cluster.marshalJSON = .ok reread → Unshared reread := by
  have led : Led (shared = false) (nodeLists cluster) := by
    refine run.preserves (P := (Led (shared = false) <| nodeLists ·)) ?_ ?_
    · rintro s op t led ⟨⟨ids, exclusive⟩, rfl⟩
      refine led.op ids op fun promotes => ?_
      cases shared with
      | false => exact unshared_iff.mpr ⟨led.apart, led.unshared rfl⟩
      | true => exact exclusive rfl promotes
    · cases origin with
      | created made => exact (Led.created made).mono fun _ => trivial
      | parsed read permutes once => exact (Led.parsed read permutes).mono fun _ => once
      | repeated read permutes => exact (Led.parsed read permutes).mono fun impossible => nomatch impossible
  have masters (shard : Shard) (member : shard ∈ cluster.shards) :
      ∃ node ∈ shard.nodes, node.role = roleMaster := by
    obtain ⟨master, inside, role, _⟩ := led.master _ (List.mem_map_of_mem member)
    exact ⟨master, inside, role⟩
  refine ⟨?_, ?_, ?_, ?_⟩
  · intro shard member
    have listed : shard.nodes ∈ nodeLists cluster := List.mem_map_of_mem member
    exact (Led.oneMaster_iff (led.apart _ listed)).mp (led.master _ listed)
  · exact Cluster.toSlotString_ok masters
  · intro shard member
    obtain ⟨node, inside, role⟩ := masters shard member
    exact Shard.getMasterNode_isSome inside role
  · intro reread decoded
    obtain ⟨shards, fresh, _⟩ := Cluster.unmarshal_marshal_nodes decoded
    exact Led.unshared_of_allocate fresh

/-- Two masters with one id and a replica that names it. -/
def twinMasters : String :=
  "m 1.1.1.1:1 master - 0 0 1 connected 0-100\nm 1.1.1.1:2 master - 0 0 1 connected 101-200\n" ++
    "s 1.1.1.1:3 slave m 0 0 1 connected"

/-- What the text is read as: the replica is one object in both shards. -/
def twins : Cluster where
  name := ""
  version := 1
  shards := [
    ⟨[⟨0, "m", "1.1.1.1:1", roleMaster, "", 0⟩, ⟨2, "s", "1.1.1.1:3", roleSlave, "", 0⟩], [⟨0, 100⟩], -1, none⟩,
    ⟨[⟨1, "m", "1.1.1.1:2", roleMaster, "", 0⟩, ⟨2, "s", "1.1.1.1:3", roleSlave, "", 0⟩], [⟨101, 200⟩], -1, none⟩]

theorem twins_parsed : parseCluster twinMasters = .ok twins := by decide +kernel

def promotion : Op := .promoteNewMaster (answering "none" ⟨0, 0⟩) 0 "" ""

/-- Once stored and read back, the two shards have their own replicas. -/
theorem one_master_separated :
    ∃ text, (promotion.apply (Op.roundTrip.apply twins)).toSlotString = .ok text := by
  have stored : DistinctIDs twins := by decide +kernel
  have separate : DistinctIDs (Op.roundTrip.apply twins) ∧ Unshared (Op.roundTrip.apply twins) := by decide +kernel
  have run : Run (Guarded Applied (Legal true)) twins [.roundTrip, promotion]
      (promotion.apply (Op.roundTrip.apply twins)) :=
    .cons ⟨⟨stored, fun _ impossible => nomatch impossible⟩, rfl⟩
      (.cons ⟨⟨separate.1, fun _ _ => separate.2⟩, rfl⟩ .nil)
  exact (one_master_per_shard (.repeated twins_parsed sortShards_perm) run).2.1

/-- Promoting the shared replica in the first shard gives the second two masters. -/
theorem one_master_shared :
    parseCluster twinMasters = .ok twins ∧ DistinctIDs twins ∧ Applied twins promotion (promotion.apply twins) ∧
      (promotion.apply twins).shards.map (·.nodes.map (·.role)) =
        [[roleSlave, roleMaster], [roleMaster, roleMaster]] :=
  ⟨twins_parsed, by decide +kernel, rfl, by decide +kernel⟩

end Kvrocks.Topology
