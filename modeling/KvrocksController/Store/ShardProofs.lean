import KvrocksController.Store.Shard
import Mathlib.Data.List.Nodup

/-! What the node operations of a shard do: the in-place removal drops exactly the
named node, a promotion picks two different positions. -/
namespace Kvrocks.Shard

/-- Rounds over nodes with another id do nothing. -/
theorem removeNodeLoop_skip {others : List ClusterNode} (apart : ∀ node ∈ others, node.id ≠ nodeID)
    (ahead : st.backing.drop i = others ++ rest) :
    removeNodeLoop nodeID (others.length + remaining) i st =
      removeNodeLoop nodeID remaining (i + others.length) st := by
  induction others generalizing i with
  | nil => simp
  | cons node others ih =>
    have here : st.backing[i]? = some node := by
      rw [← Nat.add_zero i, ← List.getElem?_drop, ahead]
      rfl
    have next : st.backing.drop (i + 1) = others ++ rest := by
      rw [← List.drop_drop, ahead]
      rfl
    have other := apart node (by simp)
    rw [List.length_cons, Nat.add_right_comm, removeNodeLoop, here]
    simp only [ne_eq, other, not_false_eq_true, if_true]
    rw [ih (fun node member => apart node (by simp [member])) next]
    congr 1
    omega

/-- No round finds the id: the slice is as it was. -/
theorem removeNode_absent {shard : Shard} (apart : ∀ node ∈ shard.nodes, node.id ≠ nodeID) :
    shard.removeNode nodeID = (shard, some (.returned (.of .notFound))) := by
  have skip : removeNodeLoop nodeID (shard.nodes.length + 0) 0 ⟨shard.nodes, shard.nodes.length, false⟩ = _ :=
    removeNodeLoop_skip apart (List.append_nil _).symm
  simp only [Nat.add_zero, removeNodeLoop] at skip
  simp [removeNode, skip]

/-- The array after the removed node is closed over: its last element stands twice. -/
theorem shiftDown_backing (before after : List ClusterNode) (node : ClusterNode) (found : Bool) :
    (shiftDown before.length ⟨before ++ node :: after, (before ++ node :: after).length, found⟩).backing =
      before ++ after ++ (node :: after).drop after.length := by
  have last : (before ++ node :: after).length - 1 = before.length + after.length := by simp
  simp only [shiftDown, List.take_length, last, List.take_left, ← List.drop_drop, List.drop_left,
    List.drop_succ_cons, List.drop_zero]

/-- Once the node is taken out no later round finds its id. -/
theorem removeNodeLoop_rest (apart : ∀ n ∈ after, n.id ≠ nodeID)
    (backing : st.backing = before ++ after ++ (node :: after).drop after.length) :
    removeNodeLoop nodeID after.length (before.length + 1) st = (st, none) := by
  cases after with
  | nil => rfl
  | cons next after =>
    have ahead : st.backing.drop (before.length + 1) = (after ++ (next :: after).drop after.length) ++ [] := by
      simp [backing, ← List.drop_drop]
    have others : ∀ n ∈ after ++ (next :: after).drop after.length, n.id ≠ nodeID := by
      intro n member
      obtain member | member := List.mem_append.mp member
      · exact apart n (List.mem_cons_of_mem _ member)
      · exact apart n (List.mem_of_mem_drop member)
    have rounds : (next :: after).length = (after ++ (next :: after).drop after.length).length + 0 := by simp
    rw [rounds, removeNodeLoop_skip others ahead, removeNodeLoop]

/-- The node with the id decides: a master stays with an error, another node is
taken out. -/
theorem removeNode_present {shard : Shard} (split : shard.nodes = before ++ node :: after)
    (ids : (shard.nodes.map (·.id)).Nodup) :
    shard.removeNode node.id =
      if node.isMaster then
        (shard, some (.returned (.wrap "cannot remove master node: " (.of .invalidArgument) "")))
      else ({ shard with nodes := before ++ after }, none) := by
  have apart : (∀ n ∈ before, n.id ≠ node.id) ∧ ∀ n ∈ after, n.id ≠ node.id := by
    rw [split, List.map_append, List.map_cons, List.nodup_append, List.nodup_cons] at ids
    obtain ⟨_, ⟨fresh, _⟩, disjoint⟩ := ids
    constructor
    · exact fun n member => disjoint n.id (List.mem_map_of_mem member) node.id (by simp)
    · exact fun n member same => fresh (same ▸ List.mem_map_of_mem member)
  have rounds : removeNodeLoop node.id (before.length + (after.length + 1)) 0
      ⟨shard.nodes, shard.nodes.length, false⟩ = _ := removeNodeLoop_skip apart.1 split
  have here : shard.nodes[before.length]? = some node := by simp [split]
  have length : shard.nodes.length = before.length + (after.length + 1) := by simp [split]
  rw [← length, Nat.zero_add, removeNodeLoop] at rounds
  simp only [here, ne_eq, not_true_eq_false, if_false] at rounds
  by_cases master : node.isMaster = true
  · simp only [master, if_true] at rounds ⊢
    simp [removeNode, rounds]
  · have fits : ¬ before.length + 1 > shard.nodes.length := by omega
    have backing := shiftDown_backing before after node false
    rw [← split] at backing
    have size : (shiftDown before.length ⟨shard.nodes, shard.nodes.length, false⟩).length =
        (before ++ after).length := by
      simp only [shiftDown, List.length_append]
      omega
    simp only [master, Bool.false_eq_true, if_false, fits, removeNodeLoop_rest apart.2 backing] at rounds ⊢
    have found : (shiftDown before.length ⟨shard.nodes, shard.nodes.length, false⟩).isFound = true := rfl
    simp only [removeNode, rounds, backing, size, found, List.take_left, if_true]

/-- With distinct ids the one node that bears the id decides, if there is one. -/
theorem removeNode_cases (shard : Shard) (ids : (shard.nodes.map (·.id)).Nodup) (nodeID : String) :
    (∀ node ∈ shard.nodes, node.id ≠ nodeID) ∧ shard.removeNode nodeID = (shard, some (.returned (.of .notFound))) ∨
    ∃ before node after, shard.nodes = before ++ node :: after ∧ node.id = nodeID ∧
      shard.removeNode nodeID =
        if node.isMaster then
          (shard, some (.returned (.wrap "cannot remove master node: " (.of .invalidArgument) "")))
        else ({ shard with nodes := before ++ after }, none) := by
  by_cases named : ∃ node ∈ shard.nodes, node.id = nodeID
  · obtain ⟨node, member, rfl⟩ := named
    obtain ⟨before, after, split⟩ := List.append_of_mem member
    exact .inr ⟨before, node, after, split, rfl, removeNode_present split ids⟩
  · have apart : ∀ node ∈ shard.nodes, node.id ≠ nodeID := fun node member same => named ⟨node, member, same⟩
    exact .inl ⟨apart, removeNode_absent apart⟩

/-- With distinct ids, removal takes at most one node out, and never the master. -/
theorem removeNode_nodes (shard : Shard) (ids : (shard.nodes.map (·.id)).Nodup) (nodeID : String) :
    (shard.removeNode nodeID).1.nodes.Sublist shard.nodes ∧
      ∀ node ∈ shard.nodes, node.isMaster = true → node ∈ (shard.removeNode nodeID).1.nodes := by
  rcases shard.removeNode_cases ids nodeID with ⟨_, called⟩ | ⟨before, node, after, split, _, called⟩
  · rw [called]
    exact ⟨List.Sublist.refl _, fun _ member _ => member⟩
  · rw [called]
    by_cases master : node.isMaster = true
    · rw [if_pos master]
      exact ⟨List.Sublist.refl _, fun _ member _ => member⟩
    · rw [if_neg master]
      simp only [split]
      refine ⟨List.Sublist.append_left (List.sublist_cons_self node after) before, ?_⟩
      intro other member isMaster
      simp only [List.mem_append, List.mem_cons] at member ⊢
      obtain early | rfl | late := member
      · exact .inl early
      · exact absurd isMaster master
      · exact .inr late

/-- The loop goes on over the array that it has just closed over: no later round finds
the id or slices beyond the new length, at whichever position the node was. -/
theorem removal_while_ranging {shard : Shard} (ids : (shard.nodes.map (·.id)).Nodup) (nodeID : String) :
    (shard.removeNode nodeID).2 ≠ some .panicked ∧
    (∀ before node after, shard.nodes = before ++ node :: after → node.id = nodeID → node.isMaster = false →
      shard.removeNode nodeID = ({ shard with nodes := before ++ after }, none)) ∧
    ((∀ node ∈ shard.nodes, node.id = nodeID → node.isMaster = true) →
      ∃ e, shard.removeNode nodeID = (shard, some (.returned e))) := by
  refine ⟨?_, ?_, ?_⟩
  · rcases shard.removeNode_cases ids nodeID with ⟨_, called⟩ | ⟨before, node, after, _, _, called⟩
    · rw [called]
      nofun
    · rw [called]
      split
      · nofun
      · nofun
  · rintro before node after split rfl notMaster
    rw [removeNode_present split ids, notMaster]
    rfl
  · intro masters
    rcases shard.removeNode_cases ids nodeID with ⟨_, called⟩ | ⟨before, node, after, split, named, called⟩
    · exact ⟨_, called⟩
    · have member : node ∈ shard.nodes := by simp [split]
      rw [called, if_pos (masters node member named)]
      exact ⟨_, rfl⟩

/-- The node in the middle goes, and the last one is read a second time. -/
theorem removal_while_ranging_middle :
    let node (id role : String) : ClusterNode := ⟨0, id, id, role, "", 0⟩
    let shard (nodes : List ClusterNode) : Shard := ⟨nodes, [], -1, none⟩
    (shard [node "m" roleMaster, node "r" roleSlave, node "s" roleSlave]).removeNode "r" =
      (shard [node "m" roleMaster, node "s" roleSlave], none) := by
  intro node shard
  have ids : ((shard [node "m" roleMaster, node "r" roleSlave, node "s" roleSlave]).nodes.map (·.id)).Nodup := by
    decide
  exact (removal_while_ranging ids "r").2.1 [node "m" roleMaster] (node "r" roleSlave) [node "s" roleSlave] rfl rfl
    (by decide)

/-- A node is appended; only an empty shard takes a master. -/
theorem addNode_ok {shard next : Shard} (added : shard.addNode fresh addr role password = .ok next) :
    next = { shard with nodes := shard.nodes ++ [(newClusterNode fresh addr password).setRole role] } ∧
      (role = roleMaster ∧ shard.nodes = [] ∨ role = roleSlave) := by
  unfold addNode at added
  split at added
  · cases added
  · rename_i valid
    split at added
    · cases added
    · split at added
      · cases added
      · rename_i vacant
        refine ⟨(Except.ok.inj added).symm, ?_⟩
        by_cases master : role = roleMaster
        · exact .inl ⟨master, List.eq_nil_of_length_eq_zero (by simpa [master] using vacant)⟩
        · exact .inr (by simpa [master] using valid)

theorem addNode_new {shard next : Shard} (added : shard.addNode fresh addr role password = .ok next) :
    addr ∉ shard.nodes.map (·.addr) := by
  unfold addNode at added
  split at added
  · cases added
  · split at added
    · cases added
    · rename_i absent
      simpa using absent

/-- What holds of the running choice and of every candidate away from the master
holds of the position the scan settles on. -/
theorem newMasterLoop_chosen {nodes : List ClusterNode} {P : Nat → Prop}
    (before : ∀ j, newMaster = some j → P j)
    (candidates : ∀ k node, nodes[k]? = some node → i + k ≠ masterNodeIndex →
      (candidateSequence replies node).isSome → P (i + k))
    (chosen : newMasterLoop replies masterNodeIndex preferredNodeID i nodes newMaster newestOffset = some j) :
    P j := by
  induction nodes generalizing i newMaster newestOffset with
  | nil => exact before j chosen
  | cons node rest ih =>
    have later : ∀ k node, rest[k]? = some node → i + 1 + k ≠ masterNodeIndex →
        (candidateSequence replies node).isSome → P (i + 1 + k) := by
      intro k node here
      rw [Nat.add_right_comm]
      exact candidates (k + 1) node here
    rw [newMasterLoop] at chosen
    split at chosen
    · exact ih before later chosen
    · rename_i other
      split at chosen
      · exact ih before later chosen
      · rename_i sequence answered
        have here : P i := candidates 0 node rfl other (by rw [answered]; rfl)
        split at chosen
        · exact Option.some.inj chosen ▸ here
        · split at chosen
          · exact ih (fun j same => Option.some.inj same ▸ here) later chosen
          · exact ih before later chosen

/-- A promotion that goes through: the first master has the id asked for, and the node
at another position answered as a candidate. -/
theorem promoteNewMaster_chosen {shard : Shard}
    (promoted : shard.promoteNewMaster replies masterNodeID preferredNodeID = .ok (oldMaster, newMaster)) :
    ∃ i j : Nat, i ≠ j ∧ shard.nodes[i]? = some oldMaster ∧ oldMaster.isMaster = true ∧
      shard.nodes[j]? = some newMaster ∧ (masterNodeID ≠ "" → oldMaster.id = masterNodeID) ∧
      (candidateSequence replies newMaster).isSome := by
  unfold promoteNewMaster at promoted
  split at promoted
  · cases promoted
  split at promoted
  · cases promoted
  · rename_i i first
    split at promoted
    · cases promoted
    · rename_i old atOld
      split at promoted
      · cases promoted
      rename_i checked
      split at promoted
      · cases promoted
      · rename_i j chosen
        split at promoted
        · cases promoted
        · rename_i new atNew
          cases promoted
          obtain ⟨bound, master, _⟩ := List.findIdx?_eq_some_iff_getElem.mp first
          obtain ⟨_, same⟩ := List.getElem?_eq_some_iff.mp atOld
          obtain ⟨apart, answered⟩ : j ≠ i ∧ ∃ node, shard.nodes[j]? = some node ∧
              (candidateSequence replies node).isSome := by
            refine newMasterLoop_chosen (P := fun j => j ≠ i ∧ ∃ node, shard.nodes[j]? = some node ∧
              (candidateSequence replies node).isSome) (by simp) ?_ chosen
            intro k node here other answers
            rw [Nat.zero_add] at other ⊢
            exact ⟨other, node, here, answers⟩
          obtain ⟨node, here, answers⟩ := answered
          obtain rfl := Option.some.inj (here.symm.trans atNew)
          refine ⟨i, j, apart.symm, atOld, same ▸ master, atNew, fun asked => ?_, answers⟩
          by_contra differs
          exact checked ⟨asked, differs⟩

theorem promoteNewMaster_ok {shard : Shard}
    (promoted : shard.promoteNewMaster replies masterNodeID preferredNodeID = .ok (oldMaster, newMaster)) :
    ∃ i j : Nat, i ≠ j ∧ shard.nodes[i]? = some oldMaster ∧ oldMaster.isMaster = true ∧
      shard.nodes[j]? = some newMaster := by
  obtain ⟨i, j, apart, atOld, master, atNew, _⟩ := promoteNewMaster_chosen promoted
  exact ⟨i, j, apart, atOld, master, atNew⟩

theorem getMasterNode_isSome {shard : Shard} (member : node ∈ shard.nodes) (master : node.role = roleMaster) :
    ∃ found, shard.getMasterNode = some found := by
  apply Option.isSome_iff_exists.mp
  rw [getMasterNode, List.find?_isSome]
  exact ⟨node, member, by simp [ClusterNode.isMaster, master]⟩

theorem toSlotsString_ok {shard : Shard} (member : node ∈ shard.nodes) (master : node.role = roleMaster) :
    ∃ text, shard.toSlotsString = .ok text := by
  have found : (shard.nodes.findIdx? (·.isMaster)).isSome := by
    rw [List.findIdx?_isSome, List.any_eq_true]
    exact ⟨node, member, by simp [ClusterNode.isMaster, master]⟩
  obtain ⟨i, found⟩ := Option.isSome_iff_exists.mp found
  simp [toSlotsString, found]

/-- Where the objects of a shard are distinct, a write through a pointer is a write at one
place. -/
theorem setRole_eq_set {shard : Shard} (role : String) (ptrs : (shard.nodes.map (·.ptr)).Nodup)
    (here : shard.nodes[a]? = some node) :
    shard.setRole node.ptr role = { shard with nodes := shard.nodes.set a (node.setRole role) } := by
  simp only [setRole, Shard.mk.injEq, and_true]
  apply List.ext_getElem?
  intro j
  rw [List.getElem?_map, List.getElem?_set]
  split
  · rename_i at_
    subst at_
    rw [here, if_pos (List.getElem?_eq_some_iff.mp here).1]
    simp
  · rename_i elsewhere
    cases there : shard.nodes[j]? with
    | none => rfl
    | some other =>
      have bound : j < (shard.nodes.map (·.ptr)).length := by
        rw [List.length_map]
        exact (List.getElem?_eq_some_iff.mp there).1
      have apart : other.ptr ≠ node.ptr := fun same => elsewhere ((List.getElem?_inj bound ptrs).mp (by
        rw [List.getElem?_map, List.getElem?_map, there, here, Option.map_some, Option.map_some, same])).symm
      rw [Option.map_some, if_neg apart]

theorem setRole_absent {shard : Shard} (role : String) (absent : ∀ node ∈ shard.nodes, node.ptr ≠ ptr) :
    shard.setRole ptr role = shard := by
  have kept : shard.nodes.map (fun node => if node.ptr = ptr then node.setRole role else node) = shard.nodes := by
    refine (List.map_congr_left fun node member => ?_).trans (List.map_id _)
    rw [if_neg (absent node member), id]
  rw [setRole, kept]

end Kvrocks.Shard
