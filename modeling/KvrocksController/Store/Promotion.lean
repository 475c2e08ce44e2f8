import KvrocksController.Lib.Scan
import KvrocksController.Store.ShardProofs

/-! Which node a promotion chooses. One scan over the nodes skips those that cannot be
promoted, keeps the last node of the highest sequence, and ends early at the preferred
node; so the order of the nodes matters only among equal sequences. -/
namespace Kvrocks.Shard
open Kvrocks.Scan

/-- A node that the scan does not skip. -/
structure Candidate where
  position : Nat
  node : ClusterNode
  sequence : Nat

/-- The caller asked for this node; an empty id asks for none. -/
def Candidate.Preferred (preferredNodeID : String) (c : Candidate) : Prop :=
  preferredNodeID ≠ "" ∧ c.node.id = preferredNodeID

instance (preferredNodeID : String) (c : Candidate) : Decidable (c.Preferred preferredNodeID) :=
  inferInstanceAs (Decidable (_ ∧ _))

section Scan
variable (replies : NodeReplies) (masterNodeIndex : Nat) (preferredNodeID : String)

def candidates : (i : Nat) → List ClusterNode → List Candidate
  | _, [] => []
  | i, node :: rest =>
    if i = masterNodeIndex then candidates (i + 1) rest
    else
      match candidateSequence replies node with
      | none => candidates (i + 1) rest
      | some sequence => ⟨i, node, sequence⟩ :: candidates (i + 1) rest

variable {replies masterNodeIndex preferredNodeID}

theorem mem_candidates {nodes : List ClusterNode} : c ∈ candidates replies masterNodeIndex i nodes ↔
    ∃ k, c.position = i + k ∧ nodes[k]? = some c.node ∧ c.position ≠ masterNodeIndex ∧
      candidateSequence replies c.node = some c.sequence := by
  induction nodes generalizing i with
  | nil => simp [candidates]
  | cons node rest ih =>
    -- a position of the tail, counted from the head
    have shift : (∃ k, c.position = i + k ∧ (node :: rest)[k]? = some c.node ∧ c.position ≠ masterNodeIndex ∧
          candidateSequence replies c.node = some c.sequence) ↔
        (c.position = i ∧ node = c.node ∧ i ≠ masterNodeIndex ∧
          candidateSequence replies node = some c.sequence) ∨ c ∈ candidates replies masterNodeIndex (i + 1) rest := by
      rw [ih]
      constructor
      · rintro ⟨k, position, here, elsewhere, answered⟩
        cases k with
        | zero =>
          obtain rfl := Option.some.inj here
          exact .inl ⟨position, rfl, fun atMaster => elsewhere (position.trans atMaster), answered⟩
        | succ k => exact .inr ⟨k, by omega, here, elsewhere, answered⟩
      · rintro (⟨position, rfl, elsewhere, answered⟩ | ⟨k, position, here, elsewhere, answered⟩)
        · exact ⟨0, position, rfl, position ▸ elsewhere, answered⟩
        · exact ⟨k + 1, by omega, here, elsewhere, answered⟩
    rw [shift, candidates]
    split
    · rename_i atMaster
      simp [atMaster]
    · rename_i elsewhere
      split
      · rename_i skipped
        simp [skipped]
      · rename_i sequence answered
        rw [List.mem_cons]
        refine or_congr_left ?_
        obtain ⟨position, own, number⟩ := c
        simp only [Candidate.mk.injEq, answered, Option.some.injEq]
        grind

variable (replies masterNodeIndex preferredNodeID)

theorem candidates_ordered (i : Nat) (nodes : List ClusterNode) :
    (candidates replies masterNodeIndex i nodes).Pairwise (·.position < ·.position) := by
  induction nodes generalizing i with
  | nil => exact .nil
  | cons node rest ih =>
    rw [candidates]
    split
    · exact ih (i + 1)
    · split
      · exact ih (i + 1)
      · refine List.pairwise_cons.mpr ⟨fun c member => ?_, ih (i + 1)⟩
        obtain ⟨k, position, _⟩ := mem_candidates.mp member
        simp only [position]
        omega

/-- The scan with `best` as its choice so far. -/
theorem newMasterLoop_eq (i : Nat) (nodes : List ClusterNode) (best : Option Candidate) :
    newMasterLoop replies masterNodeIndex preferredNodeID i nodes (best.map (·.position))
        ((best.map (·.sequence)).getD 0) =
      (((candidates replies masterNodeIndex i nodes).find? (·.Preferred preferredNodeID)).or
        (lastMax (·.sequence) (best.toList ++ candidates replies masterNodeIndex i nodes))).map (·.position) := by
  induction nodes generalizing i best with
  | nil => cases best <;> rfl
  | cons node rest ih =>
    rw [newMasterLoop, candidates]
    by_cases atMaster : i = masterNodeIndex
    · simp only [if_pos atMaster]
      exact ih (i + 1) best
    cases answered : candidateSequence replies node with
    | none =>
      simp only [if_neg atMaster]
      exact ih (i + 1) best
    | some sequence =>
      let next : Candidate := ⟨i, node, sequence⟩
      simp only [if_neg atMaster]
      by_cases preferred : next.Preferred preferredNodeID
      · have asked : preferredNodeID ≠ "" ∧ node.id = preferredNodeID := preferred
        rw [if_pos asked, List.find?_cons_of_pos (by simpa using preferred)]
        rfl
      · have other : ¬ (preferredNodeID ≠ "" ∧ node.id = preferredNodeID) := preferred
        rw [if_neg other, List.find?_cons_of_neg (by simpa using preferred)]
        cases best with
        | none =>
          have first : sequence ≥ ((none : Option Candidate).map (·.sequence)).getD 0 := Nat.zero_le sequence
          rw [if_pos first]
          exact ih (i + 1) (some next)
        | some best =>
          have step := lastMax_cons_cons (·.sequence) best next (candidates replies masterNodeIndex (i + 1) rest)
          simp only [Option.toList_some, List.singleton_append, Option.map_some, Option.getD_some]
          rw [step]
          by_cases better : best.sequence ≤ sequence
          · rw [if_pos better, if_pos (show best.sequence ≤ next.sequence from better)]
            exact ih (i + 1) (some next)
          · rw [if_neg better, if_neg (show ¬ best.sequence ≤ next.sequence from better)]
            exact ih (i + 1) (some best)

end Scan

/-- `promoteNewMaster` as a call on the shard: what it leaves behind and what it returns. -/
def promote (replies : NodeReplies) (masterNodeID preferredNodeID : String) (shard : Shard) :
    Shard × Except Error String :=
  match shard.promoteNewMaster replies masterNodeID preferredNodeID with
  | .error e => (shard, .error e)
  | .ok (oldMaster, newMaster) =>
    ((shard.setRole oldMaster.ptr roleSlave).setRole newMaster.ptr roleMaster, .ok newMaster.id)

section Spec
variable (replies : NodeReplies) (preferredNodeID : String) (shard : Shard)

/-- The node at `i` is the only master. -/
def MasterAt (i : Nat) (master : ClusterNode) : Prop :=
  shard.nodes[i]? = some master ∧ master.isMaster = true ∧
    ∀ k node, shard.nodes[k]? = some node → node.isMaster = true → k = i

/-- A node other than the master that answers both questions, as a slave with a
non-zero sequence. -/
structure Eligible (c : Candidate) : Prop where
  here : shard.nodes[c.position]? = some c.node
  notMaster : c.node.isMaster = false
  reachable : ∃ clusterInfo, replies.getClusterInfo c.node = .ok clusterInfo
  reported : replies.getClusterNodeInfo c.node = .ok ⟨c.sequence, roleSlave⟩
  nonzero : c.sequence ≠ 0

/-- The preferred node if it is eligible, else the last of those with the highest
sequence. -/
def Chosen (c : Candidate) : Prop :=
  Eligible replies shard c ∧ (c.Preferred preferredNodeID ∨
    (∀ d, Eligible replies shard d → ¬ d.Preferred preferredNodeID) ∧
      ∀ d, Eligible replies shard d →
        d.sequence ≤ c.sequence ∧ (c.position < d.position → d.sequence < c.sequence))

end Spec

section Outcome
variable {replies : NodeReplies} {shard : Shard} {old : ClusterNode}

theorem candidateSequence_eq_some {node : ClusterNode} {sequence : Nat} :
    candidateSequence replies node = some sequence ↔
      (∃ clusterInfo, replies.getClusterInfo node = .ok clusterInfo) ∧
        replies.getClusterNodeInfo node = .ok ⟨sequence, roleSlave⟩ ∧ sequence ≠ 0 := by
  unfold candidateSequence
  cases replies.getClusterInfo node with
  | error e => simp
  | ok clusterInfo =>
    cases replies.getClusterNodeInfo node with
    | error e => simp
    | ok info =>
      obtain ⟨number, role⟩ := info
      simp only [Except.ok.injEq, exists_eq', true_and, ClusterNodeInfo.mk.injEq]
      grind

theorem eligible_iff (led : shard.MasterAt i old) :
    c ∈ candidates replies i 0 shard.nodes ↔ Eligible replies shard c := by
  obtain ⟨atOld, isMaster, single⟩ := led
  rw [mem_candidates]
  constructor
  · rintro ⟨k, position, here, elsewhere, answered⟩
    rw [Nat.zero_add] at position
    obtain ⟨reachable, reported, nonzero⟩ := candidateSequence_eq_some.mp answered
    refine ⟨position ▸ here, ?_, reachable, reported, nonzero⟩
    rw [← Bool.not_eq_true]
    exact fun master => elsewhere (position.trans (single k c.node here master))
  · intro eligible
    refine ⟨c.position, (Nat.zero_add _).symm, eligible.here, fun same => ?_,
      candidateSequence_eq_some.mpr ⟨eligible.reachable, eligible.reported, eligible.nonzero⟩⟩
    have there := eligible.here
    rw [same, atOld] at there
    obtain rfl := Option.some.inj there
    exact absurd isMaster (by simp [eligible.notMaster])

theorem getNewMasterNodeIndex_cases (replies : NodeReplies) (led : shard.MasterAt i old) (preferredNodeID : String) :
    shard.getNewMasterNodeIndex replies i preferredNodeID = none ∧ (∀ c, ¬ Eligible replies shard c) ∨
      ∃ c, shard.getNewMasterNodeIndex replies i preferredNodeID = some c.position ∧
        Chosen replies preferredNodeID shard c := by
  have scanned : shard.getNewMasterNodeIndex replies i preferredNodeID =
      (((candidates replies i 0 shard.nodes).find? (·.Preferred preferredNodeID)).or
        (lastMax (·.sequence) (candidates replies i 0 shard.nodes))).map (·.position) :=
    newMasterLoop_eq replies i preferredNodeID 0 shard.nodes none
  cases preferred : (candidates replies i 0 shard.nodes).find? (·.Preferred preferredNodeID) with
  | some c =>
    rw [preferred] at scanned
    have eligible := (eligible_iff led).mp (List.mem_of_find?_eq_some preferred)
    exact .inr ⟨c, scanned, eligible, .inl (by simpa using List.find?_some preferred)⟩
  | none =>
    rw [preferred, Option.none_or] at scanned
    cases best : lastMax (·.sequence) (candidates replies i 0 shard.nodes) with
    | none =>
      rw [best] at scanned
      refine .inl ⟨scanned, fun c eligible => ?_⟩
      rw [← eligible_iff led, lastMax_eq_none.mp best] at eligible
      cases eligible
    | some c =>
      rw [best] at scanned
      obtain ⟨before, after, split, notBetter, worse⟩ := lastMax_split best
      have ordered := candidates_ordered replies i 0 shard.nodes
      rw [split, List.pairwise_append] at ordered
      have chosen : c ∈ candidates replies i 0 shard.nodes := by simp [split]
      refine .inr ⟨c, scanned, (eligible_iff led).mp chosen, .inr ⟨fun d eligible => ?_, fun d eligible => ?_⟩⟩
      · simpa using List.find?_eq_none.mp preferred d ((eligible_iff led).mpr eligible)
      · rw [← eligible_iff led, split, List.mem_append, List.mem_cons] at eligible
        rcases eligible with early | rfl | late
        · have earlier := ordered.2.2 d early c (by simp)
          exact ⟨notBetter d early, fun later => absurd later (by omega)⟩
        · exact ⟨Nat.le_refl _, fun later => absurd later (Nat.lt_irrefl _)⟩
        · exact ⟨Nat.le_of_lt (worse d late), fun _ => worse d late⟩

/-- With one master the checks come down to three. -/
theorem promoteNewMaster_led (replies : NodeReplies) (led : shard.MasterAt i old)
    (masterNodeID preferredNodeID : String) :
    shard.promoteNewMaster replies masterNodeID preferredNodeID =
      if shard.nodes.length ≤ 1 then .error (.of .shardNoReplica)
      else if masterNodeID ≠ "" ∧ old.id ≠ masterNodeID then .error (.of .nodeIsNotMaster)
      else
        match (shard.getNewMasterNodeIndex replies i preferredNodeID).bind (shard.nodes[·]?) with
        | none => .error (.of .shardNoMatchNewMaster)
        | some newMaster => .ok (old, newMaster) := by
  obtain ⟨atOld, isMaster, single⟩ := led
  have first : shard.nodes.findIdx? (·.isMaster) = some i := by
    obtain ⟨bound, same⟩ := List.getElem?_eq_some_iff.mp atOld
    refine List.findIdx?_eq_some_iff_getElem.mpr ⟨bound, same ▸ isMaster, fun j before master => ?_⟩
    have position := single j _ (List.getElem?_eq_getElem (by omega)) master
    omega
  simp only [promoteNewMaster, first, atOld]
  cases shard.getNewMasterNodeIndex replies i preferredNodeID with
  | none => rfl
  | some j =>
    cases found : shard.nodes[j]? with
    | none => simp only [Option.bind_some, found]
    | some newMaster => simp only [Option.bind_some, found]

/-- With distinct ids no object sits twice in the shard, so a write through a pointer is a
write at one place. -/
theorem ptrs_nodup (ids : (shard.nodes.map (·.id)).Nodup)
    (objects : ∀ a ∈ shard.nodes, ∀ b ∈ shard.nodes, a.ptr = b.ptr → a = b) : (shard.nodes.map (·.ptr)).Nodup := by
  refine List.Nodup.map_on (fun a here b there same => objects a here b there same) ?_
  exact List.Nodup.of_map _ ids

/-- The old master and the node `c` in each other's role. -/
def swapped (shard : Shard) (i : Nat) (old : ClusterNode) (c : Candidate) : Shard :=
  { shard with nodes := (shard.nodes.set i (old.setRole roleSlave)).set c.position (c.node.setRole roleMaster) }

theorem Eligible.apart (eligible : Eligible replies shard c) (led : shard.MasterAt i old) : i ≠ c.position := by
  rintro rfl
  obtain rfl := Option.some.inj (led.1.symm.trans eligible.here)
  exact absurd led.2.1 (by simp [eligible.notMaster])

theorem swapped_led (led : shard.MasterAt i old) (eligible : Eligible replies shard c) :
    (swapped shard i old c).MasterAt c.position (c.node.setRole roleMaster) := by
  have bound := (List.getElem?_eq_some_iff.mp eligible.here).1
  refine ⟨by simp [swapped, bound], rfl, fun k node here master => ?_⟩
  by_contra elsewhere
  simp only [swapped] at here
  rw [List.getElem?_set_ne (Ne.symm elsewhere)] at here
  by_cases atOld : k = i
  · subst atOld
    rw [List.getElem?_set_self (List.getElem?_eq_some_iff.mp led.1).1] at here
    obtain rfl := Option.some.inj here
    have slave : (old.setRole roleSlave).isMaster = false := rfl
    rw [slave] at master
    cases master
  · rw [List.getElem?_set_ne (Ne.symm atOld)] at here
    exact atOld (led.2.2 k node here master)

theorem promote_chosen (led : shard.MasterAt i old) (ptrs : (shard.nodes.map (·.ptr)).Nodup)
    (large : ¬ shard.nodes.length ≤ 1) (asked : ¬ (masterNodeID ≠ "" ∧ old.id ≠ masterNodeID))
    (index : shard.getNewMasterNodeIndex replies i preferredNodeID = some c.position)
    (eligible : Eligible replies shard c) :
    shard.promote replies masterNodeID preferredNodeID = (swapped shard i old c, .ok c.node.id) := by
  have demoted := setRole_eq_set roleSlave ptrs led.1
  have apart : ((shard.setRole old.ptr roleSlave).nodes.map (·.ptr)).Nodup := by
    have same : (shard.setRole old.ptr roleSlave).nodes.map (·.ptr) = shard.nodes.map (·.ptr) := by
      rw [setRole, List.map_map]
      refine List.map_congr_left fun node _ => ?_
      simp only [Function.comp_apply]
      split <;> rfl
    rw [same]
    exact ptrs
  have there : (shard.setRole old.ptr roleSlave).nodes[c.position]? = some c.node := by
    rw [demoted, List.getElem?_set_ne (eligible.apart led), eligible.here]
  rw [promote, promoteNewMaster_led replies led, if_neg large, if_neg asked, index, Option.bind_some, eligible.here]
  dsimp only
  rw [setRole_eq_set roleMaster apart there, demoted]
  rfl

end Outcome

/-- A promotion of a shard with one master: when it goes through, which node it makes
the master, and that nothing changes otherwise. -/
theorem promotion_exact {shard : Shard} {old : ClusterNode} (led : shard.MasterAt i old)
    (ids : (shard.nodes.map (·.id)).Nodup)
    (objects : ∀ a ∈ shard.nodes, ∀ b ∈ shard.nodes, a.ptr = b.ptr → a = b)
    (replies : NodeReplies) (masterNodeID preferredNodeID : String) :
    let outcome := shard.promote replies masterNodeID preferredNodeID
    ((∃ id, outcome.2 = .ok id) ↔ 2 ≤ shard.nodes.length ∧ (masterNodeID = "" ∨ masterNodeID = old.id) ∧
      ∃ c, Eligible replies shard c) ∧
    (∀ id, outcome.2 = .ok id → ∃ c, Chosen replies preferredNodeID shard c ∧ id = c.node.id ∧
      outcome.1 = swapped shard i old c ∧ outcome.1.MasterAt c.position (c.node.setRole roleMaster)) ∧
    ∀ e, outcome.2 = .error e → outcome.1 = shard := by
  intro outcome
  have checks := promoteNewMaster_led replies led masterNodeID preferredNodeID
  by_cases small : shard.nodes.length ≤ 1
  · have refused : outcome = (shard, .error (.of .shardNoReplica)) := by
      simp only [outcome, promote, checks, if_pos small]
    rw [refused]
    exact ⟨iff_of_false (by simp) fun large => absurd large.1 (by omega), by simp, fun _ _ => rfl⟩
  by_cases other : masterNodeID ≠ "" ∧ old.id ≠ masterNodeID
  · have refused : outcome = (shard, .error (.of .nodeIsNotMaster)) := by
      simp only [outcome, promote, checks, if_neg small, if_pos other]
    rw [refused]
    refine ⟨iff_of_false (by simp) ?_, by simp, fun _ _ => rfl⟩
    rintro ⟨_, empty | own, _⟩
    · exact other.1 empty
    · exact other.2 own.symm
  rcases getNewMasterNodeIndex_cases replies led preferredNodeID with ⟨index, nobody⟩ | ⟨c, index, chosen⟩
  · have refused : outcome = (shard, .error (.of .shardNoMatchNewMaster)) := by
      simp only [outcome, promote, checks, if_neg small, if_neg other, index, Option.bind_none]
    rw [refused]
    refine ⟨iff_of_false (by simp) ?_, by simp, fun _ _ => rfl⟩
    rintro ⟨_, _, c, eligible⟩
    exact nobody c eligible
  · have promoted : outcome = (swapped shard i old c, .ok c.node.id) :=
      promote_chosen led (ptrs_nodup ids objects) small other index chosen.1
    rw [promoted]
    refine ⟨iff_of_true ⟨_, rfl⟩ ⟨by omega, by grind, c, chosen.1⟩, fun id same => ?_, by simp⟩
    exact ⟨c, chosen, (Except.ok.inj same).symm, rfl, swapped_led led chosen.1⟩

section Samples

/-- A master and two replicas with different ids. -/
def trio : Shard where
  nodes := [⟨0, "x", "a:1", roleMaster, "", 0⟩, ⟨1, "y", "b:1", roleSlave, "", 0⟩, ⟨2, "z", "c:1", roleSlave, "", 0⟩]
  slotRanges := [⟨0, 5⟩]
  targetShardIndex := -1
  migratingSlot := none

/-- Every node answers as a slave with one and the same sequence. -/
def tied : NodeReplies where
  getClusterInfo _ := .ok ⟨1, none, ""⟩
  getClusterNodeInfo _ := .ok ⟨7, roleSlave⟩
  migrateSlot _ _ _ := .ok ()

theorem trio_led : trio.MasterAt 0 ⟨0, "x", "a:1", roleMaster, "", 0⟩ := by
  refine ⟨rfl, rfl, fun k node here master => ?_⟩
  match k with
  | 0 => rfl
  | 1 | 2 =>
    cases here
    cases master
  | k + 3 => cases here

end Samples

/-- Among equal sequences the last replica becomes the master. -/
theorem promotion_exact_tied : (trio.promote tied "x" "").2 = .ok "z" ∧
    ∃ c, Chosen tied "" trio c ∧ "z" = c.node.id ∧
      (trio.promote tied "x" "").1 = swapped trio 0 ⟨0, "x", "a:1", roleMaster, "", 0⟩ c ∧
      (trio.promote tied "x" "").1.MasterAt c.position (c.node.setRole roleMaster) := by
  have chosen : (trio.promote tied "x" "").2 = .ok "z" := by decide
  exact ⟨chosen, (promotion_exact trio_led (by decide) (by decide) tied "x" "").2.1 "z" chosen⟩

end Kvrocks.Shard
