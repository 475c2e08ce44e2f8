import KvrocksController.Store.SlotMoves
import KvrocksController.Topology.Ownership

/-! `MigrateSlot` on one cluster. Where every slot has an owner, a slot-only request
moves exactly the slots asked for or is refused for the reason its error names. Where
some slots are unassigned, a request can hand out slots its source never had. -/
namespace Kvrocks.Topology
open Kvrocks.Interval Kvrocks.Cluster

section Requests
variable (cluster : Cluster) (slot : SlotRange)

def OwnsAll (k : Nat) : Prop := ∀ x, slot.start ≤ x → x ≤ slot.stop → cluster.SlotOf k x

def Meets (k : Nat) : Prop := ∃ x, slot.start ≤ x ∧ x ≤ slot.stop ∧ cluster.SlotOf k x

/-- The slots go from `s` to `t`; the record of `s` and the two range lists are all
that changes. -/
structure MovedExactly (s t : Nat) (after : Cluster) : Prop where
  name : after.name = cluster.name
  version : after.version = cluster.version
  count : after.shards.length = cluster.shards.length
  owner : ∀ k x, after.SlotOf k x ↔ if slot.start ≤ x ∧ x ≤ slot.stop then k = t else cluster.SlotOf k x
  canonical : ∀ shard ∈ after.shards, (∀ range ∈ shard.slotRanges, range.start ≤ range.stop) ∧
    shard.slotRanges.Pairwise fun earlier later => earlier.stop + 1 < later.start
  cleared : ∀ shard, after.shards[s]? = some shard → shard.migratingSlot = none ∧ shard.targetShardIndex = -1
  nodes : ∀ k shard, cluster.shards[k]? = some shard → ∃ later, after.shards[k]? = some later ∧
    later.nodes = shard.nodes ∧
    (k ≠ s → later.migratingSlot = shard.migratingSlot ∧ later.targetShardIndex = shard.targetShardIndex) ∧
    (k ≠ s → k ≠ t → later.slotRanges = shard.slotRanges)

end Requests

section Total
variable {cluster : Cluster} {slot : SlotRange}

theorem OwnsAll.meets (whole : OwnsAll cluster slot k) (bounds : slot.InBounds) : Meets cluster slot k :=
  ⟨slot.start, Int.le_refl _, bounds.2.1, whole _ (Int.le_refl _) bounds.2.1⟩

theorem ownsAll_or (partition : Partition slots cluster.ranges) (bounds : slot.InBounds) :
    (∃ s, OwnsAll cluster slot s) ∨ ∃ j k, j ≠ k ∧ Meets cluster slot j ∧ Meets cluster slot k := by
  have owner (x : Int) (lower : slot.start ≤ x) (upper : x ≤ slot.stop) : ∃ k, cluster.SlotOf k x := by
    obtain ⟨k, owns⟩ := partition.total (x := x) ⟨bounds.1.trans lower, upper.trans bounds.2.2⟩
    exact ⟨k, slotOf_iff.mpr owns⟩
  obtain ⟨j, first⟩ := owner slot.start (Int.le_refl _) bounds.2.1
  by_cases whole : OwnsAll cluster slot j
  · exact .inl ⟨j, whole⟩
  · simp only [OwnsAll, not_forall] at whole
    obtain ⟨y, lower, upper, foreign⟩ := whole
    obtain ⟨k, second⟩ := owner y lower upper
    refine .inr ⟨j, k, ?_, ⟨slot.start, Int.le_refl _, bounds.2.1, first⟩, y, lower, upper, second⟩
    rintro rfl
    exact foreign second

/-- With every slot assigned once, the scan finds the only owner of the range, or the
range has two owners. -/
theorem source_cases (partition : Partition slots cluster.ranges) (bounds : slot.InBounds) :
    (∃ s, cluster.findShardIndexBySlot slot = .ok s ∧ OwnsAll cluster slot s ∧ ∀ k, Meets cluster slot k → k = s) ∨
      cluster.findShardIndexBySlot slot = .error (.of .slotRangeBelongsToMultipleShards) ∧
        (∃ j k, j ≠ k ∧ Meets cluster slot j ∧ Meets cluster slot k) ∧ ∀ k, ¬ OwnsAll cluster slot k := by
  have met {k : Nat} (meets : Meets cluster slot k) : k ∈ meeting slot 0 cluster.shards := by
    obtain ⟨x, lower, upper, owned⟩ := meets
    exact owned.met ⟨lower, upper⟩
  have one {s k : Nat} (whole : OwnsAll cluster slot s) (meets : Meets cluster slot k) : k = s := by
    obtain ⟨x, lower, upper, owned⟩ := meets
    exact partition.disjoint (slotOf_iff.mp owned) (slotOf_iff.mp (whole x lower upper))
  rcases ownsAll_or partition bounds with ⟨s, whole⟩ | ⟨j, k, apart, atJ, atK⟩
  · have found := findShardIndexBySlot_owner (fun shard member => partition.normal _ (List.mem_map_of_mem member))
      bounds.2.1 (fun x inside => whole x inside.1 inside.2)
      fun k x inside owned => one whole ⟨x, inside.1, inside.2, owned⟩
    exact .inl ⟨s, found, whole, fun k => one whole⟩
  · refine .inr ⟨?_, ⟨j, k, apart, atJ, atK⟩, fun s whole => apart ((one whole atJ).trans (one whole atK).symm)⟩
    have atJ := met atJ
    have atK := met atK
    rw [findShardIndexBySlot_eq]
    split
    · rename_i none
      rw [none] at atJ
      cases atJ
    · rename_i s alone
      rw [alone, List.mem_singleton] at atJ atK
      exact absurd (atJ.trans atK.symm) apart
    · rfl

theorem moveSlot_exact (partition : Partition slots cluster.ranges) (bounds : slot.InBounds)
    (only : ∀ k, Meets cluster slot k → k = s) (inRange : t < cluster.shards.length) :
    MovedExactly cluster slot s t (cluster.moveSlot slot s t) := by
  have normal : ∀ shard ∈ cluster.shards, Normal shard.slotRanges := fun shard member =>
    partition.normal _ (List.mem_map_of_mem member)
  obtain ⟨canonical, owner⟩ := moveSlot_owner normal bounds.2.1
    (fun k x inside owned => only k ⟨x, inside.1, inside.2, owned⟩) inRange
  refine ⟨rfl, rfl, by simp [moveSlot, modifyShard], owner, fun shard member => ?_, fun shard found => ?_,
    fun k shard found => ?_⟩
  · exact ⟨(canonical shard member).valid, (canonical shard member).separated⟩
  · rw [getElem?_moveSlot, Option.map_eq_some_iff] at found
    obtain ⟨before, _, rfl⟩ := found
    rw [if_pos rfl]
    exact ⟨rfl, rfl⟩
  · refine ⟨_, by rw [getElem?_moveSlot, found]; rfl, ?_, fun elsewhere => ?_, fun notSource notTarget => ?_⟩
    · split <;> rfl
    · simp only [if_neg elsewhere]
      exact ⟨trivial, trivial⟩
    · simp only [Partition.moved, if_neg notSource, if_neg notTarget]

end Total

/-- A slot-only request over a partition of the slots: accepted exactly when another
shard owns the whole range, refused with the error that says why, and nothing but the
requested slots and the source's record changes. -/
theorem slotOnly_moves_exactly {cluster : Cluster} {slot : SlotRange} (partition : Partition slots cluster.ranges)
    (bounds : slot.InBounds) (replies : NodeReplies) (target : Int) :
    let result := cluster.migrateSlot replies slot target true
    let valid := 0 ≤ target ∧ target < cluster.shards.length
    (result.2 = none ↔ valid ∧ ∃ s : Nat, (s : Int) ≠ target ∧ OwnsAll cluster slot s) ∧
    (result.2 = some (.returned (.of .indexOutOfRange)) ↔ ¬ valid) ∧
    (valid → (result.2 = some (.returned (.of .slotRangeBelongsToMultipleShards)) ↔
      ∃ j k, j ≠ k ∧ Meets cluster slot j ∧ Meets cluster slot k)) ∧
    (valid → (result.2 = some (.returned (.of .shardIsSame)) ↔ OwnsAll cluster slot target.toNat)) ∧
    (result.2 = none → ∃ s t : Nat, target = t ∧ s ≠ t ∧ OwnsAll cluster slot s ∧
      MovedExactly cluster slot s t result.1) ∧
    (result.2 ≠ none → result.1 = cluster) := by
  intro result valid
  have unchanged : result.2 ≠ none → result.1 = cluster :=
    (migrateSlot_unchanged replies slot target true cluster).resolve_right
  cases position : cluster.position? target with
  | none =>
    have refused : result.2 = some (.returned (.of .indexOutOfRange)) := by
      simp only [result, migrateSlot, position]
    have outside : ¬ valid := position?_eq_none.mp position
    exact ⟨by simp [refused, outside], by simp [refused, outside], fun inside => absurd inside outside,
      fun inside => absurd inside outside, by simp [refused], unchanged⟩
  | some t =>
    obtain ⟨rfl, inRange⟩ := position?_eq_some.mp position
    have inside : valid := ⟨Int.natCast_nonneg t, Int.ofNat_lt.mpr inRange⟩
    rcases source_cases partition bounds with ⟨s, found, whole, only⟩ | ⟨clash, two, nobody⟩
    · have atStart (k : Nat) (all : OwnsAll cluster slot k) : k = s := only k (all.meets bounds)
      have notTwo : ¬ ∃ j k, j ≠ k ∧ Meets cluster slot j ∧ Meets cluster slot k := by
        rintro ⟨j, k, apart, atJ, atK⟩
        exact apart ((only j atJ).trans (only k atK).symm)
      by_cases same : s = t
      · subst same
        have refused : result.2 = some (.returned (.of .shardIsSame)) := by
          simp only [result, migrateSlot, position, found, if_true]
        refine ⟨iff_of_false (by simp [refused]) ?_, iff_of_false (by simp [refused, Error.of]) (· inside),
          fun _ => iff_of_false (by simp [refused, Error.of]) notTwo,
          fun _ => iff_of_true refused whole, by simp [refused], unchanged⟩
        rintro ⟨_, k, apart, all⟩
        exact apart (congrArg Int.ofNat (atStart k all))
      · have moved : result = (cluster.moveSlot slot s t, none) := by
          simp only [result, migrateSlot, position, found, if_neg same, if_true]
        have accepted : result.2 = none := by rw [moved]
        refine ⟨iff_of_true accepted ⟨inside, s, fun equal => same (Int.ofNat.inj equal), whole⟩,
          iff_of_false (by simp [accepted]) (· inside), fun _ => iff_of_false (by simp [accepted]) notTwo,
          fun _ => iff_of_false (by simp [accepted]) fun all => same (atStart t all).symm, fun _ => ?_, unchanged⟩
        rw [moved]
        exact ⟨s, t, rfl, same, whole, moveSlot_exact partition bounds only inRange⟩
    · have refused : result.2 = some (.returned (.of .slotRangeBelongsToMultipleShards)) := by
        simp only [result, migrateSlot, position, clash]
      refine ⟨iff_of_false (by simp [refused]) ?_, iff_of_false (by simp [refused, Error.of]) (· inside),
        fun _ => iff_of_true refused two, fun _ => iff_of_false (by simp [refused, Error.of]) (nobody _),
        by simp [refused], unchanged⟩
      rintro ⟨_, k, _, all⟩
      exact nobody k all

/-- A range inside the first of two shards goes to the second. -/
theorem slotOnly_moves_first_hundred :
    ∃ next, twoNodes.migrateSlot (answering "none" ⟨0, 0⟩) ⟨0, 99⟩ 1 true = (next, none) ∧
      MovedExactly twoNodes ⟨0, 99⟩ 0 1 next := by
  have created : newCluster sampleDraw "c" ["a:1", "b:1"] 1 = .ok twoNodes := by decide +kernel
  have partition : Partition slots twoNodes.ranges := (Owned.create created (by decide)).partition
  have bounds : SlotRange.InBounds ⟨0, 99⟩ := by decide
  obtain ⟨accepted, _, _, _, moved, _⟩ := slotOnly_moves_exactly partition bounds (answering "none" ⟨0, 0⟩) 1
  have whole : OwnsAll twoNodes ⟨0, 99⟩ 0 := fun x lower upper =>
    ⟨_, rfl, ⟨0, 8191⟩, by simp, lower, upper.trans (by decide)⟩
  have done := accepted.mpr ⟨by decide, 0, by decide, whole⟩
  obtain ⟨s, t, target, _, owner, exact⟩ := moved done
  obtain rfl : t = 1 := (Int.ofNat.inj target).symm
  have source : s = 0 := by
    refine partition.disjoint (slotOf_iff.mp (owner 0 ?_ ?_)) (slotOf_iff.mp (whole 0 ?_ ?_)) <;> decide
  subst source
  exact ⟨_, Prod.ext rfl done, exact⟩

/-- An accepted request takes its slots from a shard that owns them all, and in
slot-only mode assigns no slot anew and loses none, exactly if every requested slot was
assigned. -/
theorem accepted_source_owns {cluster next : Cluster} {slot : SlotRange}
    (accepted : cluster.migrateSlot replies slot target slotOnly = (next, none)) :
    ((∃ s, cluster.findShardIndexBySlot slot = .ok s ∧ OwnsAll cluster slot s) ∧
      (slotOnly = true → ∀ x, (∃ k, next.SlotOf k x) ↔ ∃ k, cluster.SlotOf k x)) ↔
    ∀ x, slot.start ≤ x → x ≤ slot.stop → ∃ k, cluster.SlotOf k x := by
  obtain ⟨s, t, rfl, inRange, _, found, effect⟩ := migrateSlot_ok accepted
  constructor
  · rintro ⟨⟨owner, _, whole⟩, _⟩ x lower upper
    exact ⟨owner, whole x lower upper⟩
  · intro assigned
    refine ⟨⟨s, found, fun x lower upper => ?_⟩, fun only x => ?_⟩
    · obtain ⟨k, owned⟩ := assigned x lower upper
      exact source_owns found ⟨lower, upper⟩ owned ▸ owned
    · rcases effect with ⟨_, rfl⟩ | ⟨data, _⟩
      · rw [moveSlot_assigned inRange]
        exact or_iff_right_of_imp fun inside => assigned x inside.1 inside.2
      · rw [data] at only
        cases only

/-- Over a full assignment the request of the first hundred slots is a proper one. -/
theorem accepted_source_owns_two_nodes :
    (∃ s, twoNodes.findShardIndexBySlot ⟨0, 99⟩ = .ok s ∧ OwnsAll twoNodes ⟨0, 99⟩ s) ∧
      (true = true → ∀ x, (∃ k, (twoNodes.moveSlot ⟨0, 99⟩ 0 1).SlotOf k x) ↔ ∃ k, twoNodes.SlotOf k x) := by
  have accepted : twoNodes.migrateSlot (answering "none" ⟨0, 0⟩) ⟨0, 99⟩ 1 true =
      (twoNodes.moveSlot ⟨0, 99⟩ 0 1, none) := rfl
  refine (accepted_source_owns accepted).mpr fun x lower upper => ?_
  exact ⟨0, _, rfl, ⟨0, 8191⟩, by simp, lower, upper.trans (by decide)⟩

section Samples

/-- An imported topology that leaves the slots 6 to 19 and 31 on unassigned. -/
def gapped : Cluster where
  name := "c"
  version := 1
  shards := [⟨[⟨0, "x", "a:1", roleMaster, "", 0⟩], [⟨0, 5⟩], -1, none⟩,
    ⟨[⟨1, "y", "b:1", roleMaster, "", 0⟩], [⟨20, 30⟩], -1, none⟩]

theorem gapped_slots : gapped.SlotOf k x ↔ k = 0 ∧ 0 ≤ x ∧ x ≤ 5 ∨ k = 1 ∧ 20 ≤ x ∧ x ≤ 30 := by
  match k with
  | 0 => simp [SlotOf, gapped]
  | 1 => simp [SlotOf, gapped]
  | k + 2 => simp [SlotOf, gapped]

end Samples

/-- One owned slot in the range is enough: the unassigned rest of it goes to the target,
or is recorded as migrating from a shard that does not have it. The same slots alone
are refused. -/
theorem unassigned_slots_handed_out :
    (∀ j k x, gapped.SlotOf j x → gapped.SlotOf k x → j = k) ∧
      (∃ next, gapped.migrateSlot (answering "none" ⟨0, 0⟩) ⟨5, 10⟩ 1 true = (next, none) ∧
        (¬ ∃ k, gapped.SlotOf k 7) ∧ next.SlotOf 1 7) ∧
      (∃ next shard, gapped.migrateSlot (answering "none" ⟨0, 0⟩) ⟨5, 10⟩ 1 false = (next, none) ∧
        next.shards[0]? = some shard ∧ shard.migratingSlot = some (fromSlotRange ⟨5, 10⟩) ∧ ¬ next.SlotOf 0 7) ∧
      gapped.migrateSlot (answering "none" ⟨0, 0⟩) ⟨6, 10⟩ 1 true =
        (gapped, some (.returned (.of .slotNotBelongToAnyShard))) := by
  refine ⟨fun j k x first second => ?_, ⟨_, rfl, ?_, ?_⟩, ⟨_, _, rfl, rfl, rfl, ?_⟩, rfl⟩
  · rw [gapped_slots] at first second
    omega
  · rintro ⟨k, owned⟩
    rw [gapped_slots] at owned
    omega
  · exact ⟨_, rfl, ⟨5, 10⟩, by decide, by decide, by decide⟩
  · rintro ⟨shard, found, range, member, lower, upper⟩
    obtain rfl := Option.some.inj found
    obtain rfl := List.mem_singleton.mp member
    exact absurd upper (by decide)

end Kvrocks.Topology
