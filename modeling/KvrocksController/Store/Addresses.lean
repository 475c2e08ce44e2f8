import KvrocksController.Server.ShardHandler
import KvrocksController.Store.ClusterStoreProofs
import Mathlib.Data.List.Perm.Subperm

/-! The addresses of a cluster's nodes, shard by shard: what each operation brings in
and drops, what the record of a cluster keeps of them, and what `CheckNewNodes` compares
new ones with. -/
namespace Kvrocks

def Shard.addrs (shard : Shard) : List String := shard.nodes.map (·.addr)

namespace Cluster

def shardAddrs (cluster : Cluster) : List (List String) := cluster.shards.map (·.addrs)

def addrs (cluster : Cluster) : List String := cluster.shardAddrs.flatten

theorem map_addr_getNodes (cluster : Cluster) : cluster.getNodes.map (·.addr) = cluster.addrs := by
  rw [getNodes, List.map_flatMap, List.flatMap_def]
  rfl

end Cluster

section Lists

theorem flatten_set {lists : List (List α)} (found : lists[i]? = some old) :
    ∃ before after, lists.flatten = before ++ old ++ after ∧ ∀ new, (lists.set i new).flatten = before ++ new ++ after := by
  obtain ⟨bound, rfl⟩ := List.getElem?_eq_some_iff.mp found
  refine ⟨(lists.take i).flatten, (lists.drop (i + 1)).flatten, ?_, fun new => ?_⟩
  · rw [List.append_assoc, ← List.flatten_cons, ← List.flatten_append, List.getElem_cons_drop, List.take_append_drop]
  · rw [List.set_eq_take_append_cons_drop, if_pos bound, List.flatten_append, List.flatten_cons, List.append_assoc]

theorem sublist_flatten {lists more : List (List α)} (sub : lists.Sublist more) :
    lists.flatten.Sublist more.flatten := by
  induction sub with
  | slnil => exact List.Sublist.refl _
  | cons l _ ih => exact ih.trans (List.sublist_append_right l _)
  | cons_cons l _ ih => exact ih.append_left l

/-- What `f` distinguishes, `g` may not: lists alike under `f` are alike under `g`. -/
theorem map_coarser {f : α → β} {g : α → γ} (coarser : ∀ a b, f a = f b → g a = g b) {l m : List α}
    (same : l.map f = m.map f) : l.map g = m.map g := by
  induction l generalizing m with
  | nil =>
    cases m with
    | nil => rfl
    | cons b m => cases same
  | cons a l ih =>
    cases m with
    | nil => cases same
    | cons b m =>
      obtain ⟨head, tail⟩ := List.cons.inj same
      rw [List.map_cons, List.map_cons, coarser a b head, ih tail]

theorem flatten_blocks (f : Nat → α) (n r : Nat) :
    ((List.range n).map fun i => (List.range r).map fun j => f (i * r + j)).flatten = (List.range (n * r)).map f := by
  induction n with
  | zero => simp
  | succ n ih =>
    rw [List.range_succ, List.map_append, List.flatten_append, ih, Nat.succ_mul, List.range_add, List.map_append,
      List.map_map]
    simp [Function.comp_def]

end Lists

section Operations
variable {cluster next : Cluster}

theorem newCluster_addrs (made : newCluster draw name nodes replicas = .ok cluster) : cluster.addrs = nodes := by
  obtain ⟨r, n, _, _, size, _, _, shards⟩ := newCluster_ok made
  have each (i : Nat) : (newClusterShard draw nodes r (calculateSlotRanges n) i).addrs =
      (List.range r).map fun j => nodes.getD (i * r + j) "" := by
    simp only [Shard.addrs, newClusterShard, List.map_map]
    rfl
  simp only [Cluster.addrs, Cluster.shardAddrs, shards, List.map_map, Function.comp_def, each]
  rw [flatten_blocks (nodes.getD · ""), ← size]
  apply List.ext_getElem
  · simp
  · intro i _ bound
    simp [bound]

@[simp] theorem Cluster.setPassword_addrs (password : String) (cluster : Cluster) :
    (cluster.setPassword password).addrs = cluster.addrs := by
  simp only [addrs, shardAddrs, setPassword, List.map_map]
  congr 2
  funext shard
  simp only [Function.comp_apply, Shard.addrs, List.map_map]
  rfl

theorem ShardHandler.create_addrs (created : ShardHandler.create draw nodes password cluster = .ok next) :
    next.addrs = cluster.addrs ++ nodes ∧ next.name = cluster.name := by
  have added : Shard.addrs { newShard with nodes := newNodes draw cluster.freshPtr nodes password } = nodes := by
    apply List.ext_getElem
    · simp [Shard.addrs, newNodes]
    · intro i _ _
      simp [Shard.addrs, newNodes, newClusterNode, ClusterNode.setRole]
  constructor
  · simp [Cluster.addrs, Cluster.shardAddrs, (create_ok created).2, added]
  · unfold create at created
    split at created
    · cases created
    · cases created
      rfl

theorem ShardHandler.remove_addrs (removed : ShardHandler.remove shardIdx cluster = .ok next) :
    next.addrs.Sublist cluster.addrs ∧ next.name = cluster.name := by
  obtain ⟨shard, _, removed⟩ := bind_ok removed
  split at removed
  · cases removed
  · cases removed
    exact ⟨sublist_flatten ((List.eraseIdx_sublist _ _).map _), rfl⟩

theorem Cluster.setShard_shardAddrs : (Cluster.setShard i shard cluster).shardAddrs = cluster.shardAddrs.set i shard.addrs := by
  simp only [shardAddrs, setShard, List.map_set]

/-- The new address is not one of its shard. -/
theorem Cluster.addNode_addrs (added : cluster.addNode draw shardIndex addr role password = .ok next) :
    next.addrs.Perm (addr :: cluster.addrs) ∧ next.name = cluster.name ∧
      ∃ (i : Nat) (own : List String), shardIndex = i ∧ cluster.shardAddrs[i]? = some own ∧ addr ∉ own := by
  obtain ⟨shard, found, added⟩ := bind_ok added
  obtain ⟨grown, addition, added⟩ := bind_ok added
  obtain rfl := Except.ok.inj added
  obtain ⟨i, rfl, position⟩ := getShard_ok.mp found
  have here : cluster.shardAddrs[i]? = some shard.addrs := by simp [shardAddrs, position]
  obtain ⟨before, after, whole, updated⟩ := flatten_set here
  have more : grown.addrs = shard.addrs ++ [addr] := by
    rw [(Shard.addNode_ok addition).1]
    simp [Shard.addrs, newClusterNode, ClusterNode.setRole]
  refine ⟨?_, rfl, i, shard.addrs, rfl, here, ?_⟩
  · rw [addrs, setShard_shardAddrs, Int.toNat_natCast, updated, addrs, whole, more]
    simp only [List.append_assoc, List.cons_append, List.nil_append]
    rw [← List.append_assoc, ← List.append_assoc]
    exact List.perm_middle
  · exact Shard.addNode_new addition

/-- The slice only loses elements, whichever rounds find the id. -/
theorem Shard.removeNodeLoop_visible (ended : removeNodeLoop nodeID remaining i st = (left, fault))
    (fits : st.length ≤ st.backing.length) :
    (left.backing.take left.length).Sublist (st.backing.take st.length) := by
  induction remaining generalizing i st with
  | zero =>
    cases ended
    exact List.Sublist.refl _
  | succ remaining ih =>
    rw [removeNodeLoop] at ended
    split at ended
    · cases ended
      exact List.Sublist.refl _
    · split at ended
      · exact ih ended fits
      · split at ended
        · cases ended
          exact List.Sublist.refl _
        · split at ended
          · cases ended
            exact List.Sublist.refl _
          · rename_i inside
            have shifted := ih ended (by simp only [shiftDown, List.length_append, List.length_take, List.length_drop]; omega)
            refine shifted.trans ?_
            have visible : (shiftDown i st).backing.take (shiftDown i st).length =
                st.backing.take i ++ (st.backing.take st.length).drop (i + 1) := by
              refine List.take_left' ?_
              simp only [shiftDown, List.length_append, List.length_take, List.length_drop]
              omega
            have split := List.take_append_drop i (st.backing.take st.length)
            rw [List.take_take, Nat.min_eq_left (by omega)] at split
            have fewer : (st.backing.take i ++ (st.backing.take st.length).drop (i + 1)).Sublist _ :=
              (List.drop_sublist_drop_left _ (Nat.le_succ i)).append_left _
            rw [split] at fewer
            rwa [visible]

theorem Shard.removeNode_sublist (shard : Shard) (nodeID : String) :
    (shard.removeNode nodeID).1.addrs.Sublist shard.addrs := by
  have ended : removeNodeLoop nodeID shard.nodes.length 0 ⟨shard.nodes, shard.nodes.length, false⟩ = (_, _) :=
    Prod.mk.eta.symm
  have visible := removeNodeLoop_visible ended (Nat.le_refl _)
  rw [List.take_length] at visible
  unfold removeNode
  dsimp only
  split
  · exact visible.map _
  · exact visible.map _

theorem Cluster.removeNode_addrs (removed : cluster.removeNode shardIndex nodeID = (next, fault)) :
    next.addrs.Sublist cluster.addrs ∧ next.name = cluster.name := by
  unfold removeNode at removed
  split at removed
  · cases removed
    exact ⟨List.Sublist.refl _, rfl⟩
  · rename_i shard found
    obtain ⟨i, rfl, position⟩ := getShard_ok.mp found
    obtain ⟨rfl, _⟩ := Prod.mk.inj removed
    have here : cluster.shardAddrs[i]? = some shard.addrs := by simp [shardAddrs, position]
    obtain ⟨before, after, whole, updated⟩ := flatten_set here
    refine ⟨?_, rfl⟩
    rw [addrs, setShard_shardAddrs, Int.toNat_natCast, updated, addrs, whole]
    exact ((shard.removeNode_sublist nodeID).append_left before).append_right after

theorem Cluster.setRole_addrs (ptr : Nat) (role : String) (cluster : Cluster) :
    (cluster.setRole ptr role).addrs = cluster.addrs := by
  simp only [addrs, shardAddrs, setRole, List.map_map]
  congr 2
  funext shard
  simp only [Function.comp_apply, Shard.addrs, Shard.setRole, List.map_map]
  congr 1
  funext node
  simp only [Function.comp_apply]
  split <;> rfl

theorem Cluster.promoteNewMaster_addrs
    (promoted : cluster.promoteNewMaster replies shardIdx masterNodeID preferredNodeID = .ok (next, newMasterID)) :
    next.addrs = cluster.addrs ∧ next.name = cluster.name := by
  obtain ⟨shard, _, promoted⟩ := bind_ok promoted
  obtain ⟨⟨oldMaster, newMaster⟩, _, promoted⟩ := bind_ok promoted
  cases promoted
  exact ⟨by rw [setRole_addrs, setRole_addrs], rfl⟩

theorem Cluster.modifyShard_addrs {f : Shard → Shard} (same : ∀ shard, (f shard).addrs = shard.addrs) :
    (cluster.modifyShard i f).addrs = cluster.addrs := by
  rw [addrs, shardAddrs, modifyShard, map_modify_same same]
  rfl

theorem Cluster.migrateSlot_addrs (migrated : cluster.migrateSlot replies slot target slotOnly = (next, none)) :
    next.addrs = cluster.addrs ∧ next.name = cluster.name := by
  obtain ⟨source, target, _, _, _, _, ⟨_, rfl⟩ | ⟨_, rfl, _⟩⟩ := migrateSlot_ok migrated
  · refine ⟨?_, rfl⟩
    unfold moveSlot
    refine (modifyShard_addrs ?_).trans (modifyShard_addrs ?_)
    · exact fun _ => rfl
    · exact fun _ => rfl
  · exact ⟨modifyShard_addrs fun _ => rfl, rfl⟩

end Operations

section Records
variable {cluster other : Cluster}

/-- The record of a cluster fixes its name and the addresses of each shard. -/
theorem Cluster.marshal_inj (same : cluster.marshalJSON = other.marshalJSON) :
    cluster.shardAddrs = other.shardAddrs ∧ cluster.name = other.name := by
  simp only [marshalJSON, members, Json.obj.injEq, List.cons.injEq, Prod.mk.injEq, Json.str.injEq, Json.arr.injEq,
    true_and, and_true] at same
  refine ⟨map_coarser (fun a b same => ?_) same.2.2, same.2.1⟩
  simp only [Shard.marshalJSON, Shard.members, Json.obj.injEq, List.cons.injEq, Prod.mk.injEq, Json.arr.injEq,
    true_and] at same
  refine map_coarser (fun m n same => ?_) same.1
  simp only [ClusterNode.marshalJSON, Json.obj.injEq, List.cons.injEq, Prod.mk.injEq, Json.str.injEq, true_and] at same
  exact same.1

theorem Cluster.unmarshal_shardAddrs (read : Cluster.unmarshalJSON cluster.marshalJSON = .ok other) :
    other.shardAddrs = cluster.shardAddrs := by
  obtain ⟨shards, allocated, nodes⟩ := unmarshal_marshal_nodes read
  have blind (base : Nat) (shard : Shard) : (shard.renumber base).addrs = shard.addrs := by
    apply List.ext_getElem
    · simp [Shard.addrs, Shard.renumber]
    · intro i _ _
      simp [Shard.addrs, Shard.renumber]
  rw [shardAddrs, allocated, allocate_map blind]
  have each := congrArg (List.map (List.map (·.addr))) nodes
  simp only [List.map_map] at each
  rw [shardAddrs]
  refine each.trans (List.map_congr_left fun shard _ => ?_)
  simp [Shard.addrs, Function.comp_def]

end Records

namespace ClusterStore

/-- Every cluster that the listings show was read, and has none of the new addresses. -/
theorem checkNewNodes_ok {e : Engine σ} (checked : checkNewNodes e nodes s = .ok ()) :
    ∃ namespaces, listNamespace e s = .ok namespaces ∧ ∀ ns ∈ namespaces,
      ∃ clusters, listCluster e ns s = .ok clusters ∧ ∀ cluster ∈ clusters,
        ∃ c, getCluster e ns cluster s = .ok c ∧ ∀ addr ∈ nodes, addr ∉ c.addrs := by
  obtain ⟨namespaces, listed, checked⟩ := bind_ok checked
  obtain ⟨existing, looped, checked⟩ := bind_ok checked
  dsimp only at checked
  split at checked
  · cases checked
  · rename_i none
    have empty : existing.flatten.flatten = [] := List.eq_nil_of_length_eq_zero (by omega)
    refine ⟨namespaces, listed, fun ns inside => ?_⟩
    obtain ⟨found, here, visited⟩ := mapM_each looped inside
    obtain ⟨clusters, shown, visited⟩ := bind_ok visited
    refine ⟨clusters, shown, fun cluster member => ?_⟩
    obtain ⟨clashes, among, visited⟩ := mapM_each visited member
    obtain ⟨c, read, visited⟩ := bind_ok visited
    refine ⟨c, read, fun addr fresh used => ?_⟩
    obtain rfl := Except.ok.inj visited
    have clash : addr ∈ existing.flatten.flatten := by
      refine List.mem_flatten.mpr ⟨_, List.mem_flatten.mpr ⟨_, here, among⟩, ?_⟩
      rw [List.mem_filter, c.map_addr_getNodes]
      exact ⟨used, by simpa using fresh⟩
    rw [empty] at clash
    cases clash

/-- Where every listed cluster can be read, a clash is reported exactly if there is one. -/
theorem checkNewNodes_clash {e : Engine σ} {clustersOf : String → List String}
    (listed : listNamespace e s = .ok namespaces)
    (shown : ∀ ns ∈ namespaces, listCluster e ns s = .ok (clustersOf ns))
    (read : ∀ ns ∈ namespaces, ∀ cluster ∈ clustersOf ns, ∃ c, getCluster e ns cluster s = .ok c) :
    (∃ err, checkNewNodes e nodes s = .error err ∧ err.is = some .alreadyExists) ↔
      ∃ ns ∈ namespaces, ∃ cluster ∈ clustersOf ns, ∃ c, getCluster e ns cluster s = .ok c ∧
        ∃ addr ∈ nodes, addr ∈ c.addrs := by
  have visits (ns : String) (member : ns ∈ namespaces) : ∃ found, (do
      let clusters ← listCluster e ns s
      clusters.mapM fun cluster => do
        let c ← getCluster e ns cluster s
        .ok ((c.getNodes.map (·.addr)).filter fun addr => nodes.contains addr)) = Except.ok found := by
    obtain ⟨found, looped⟩ := mapM_ok (f := fun cluster => do
        let c ← getCluster e ns cluster s
        .ok ((c.getNodes.map (·.addr)).filter fun addr => nodes.contains addr)) fun cluster inside => by
      obtain ⟨c, here⟩ := read ns member cluster inside
      exact ⟨_, by rw [here]; rfl⟩
    exact ⟨found, by rw [shown ns member]; exact looped⟩
  obtain ⟨existing, looped⟩ := mapM_ok visits
  have outcome : checkNewNodes e nodes s = if existing.flatten.flatten.length > 0 then
      .error (.wrap "node: " (.of .alreadyExists) (": [" ++ " ".intercalate existing.flatten.flatten ++ "]"))
      else .ok () := by
    simp only [checkNewNodes, listed, bind, Except.bind] at looped ⊢
    rw [looped]
  constructor
  · rintro ⟨err, failed, _⟩
    rw [outcome] at failed
    split at failed
    · rename_i some
      obtain ⟨addr, clash⟩ := List.exists_mem_of_length_pos some
      obtain ⟨clashes, among, clash⟩ := List.mem_flatten.mp clash
      obtain ⟨found, here, among⟩ := List.mem_flatten.mp among
      obtain ⟨ns, member, visited⟩ := mapM_mem looped here
      rw [shown ns member] at visited
      obtain ⟨cluster, inside, visited⟩ := mapM_mem visited among
      obtain ⟨c, here, visited⟩ := bind_ok visited
      obtain rfl := Except.ok.inj visited
      rw [List.mem_filter, c.map_addr_getNodes] at clash
      exact ⟨ns, member, cluster, inside, c, here, addr, by simpa using clash.2, clash.1⟩
    · cases failed
  · rintro ⟨ns, member, cluster, inside, c, here, addr, fresh, used⟩
    rw [outcome]
    split
    · exact ⟨_, rfl, rfl⟩
    · rename_i none
      rw [if_neg none] at outcome
      obtain ⟨_, listed', each⟩ := checkNewNodes_ok outcome
      obtain rfl := Except.ok.inj (listed.symm.trans listed')
      obtain ⟨_, shown', each⟩ := each ns member
      obtain rfl := Except.ok.inj ((shown ns member).symm.trans shown')
      obtain ⟨c', here', unused⟩ := each cluster inside
      obtain rfl := Except.ok.inj (here.symm.trans here')
      exact absurd used (unused addr fresh)

end ClusterStore
end Kvrocks
