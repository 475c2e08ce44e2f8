import KvrocksController.Store.SlotMoves

/-! The range list of a shard is a normal form of its slots: whatever additions and
removals led to it, the slots alone determine the list. -/
namespace Kvrocks
open Kvrocks.Interval

inductive SlotOp where
  | add (slot : SlotRange)
  | remove (slot : SlotRange)
deriving Repr

namespace SlotOp

def slot : SlotOp → SlotRange
  | .add slot | .remove slot => slot

def apply (source : List SlotRange) : SlotOp → List SlotRange
  | .add slot => addSlotToSlotRanges source slot
  | .remove slot => removeSlotFromSlotRanges source slot

theorem apply_normal (normal : Normal source) {op : SlotOp} (valid : op.slot.Valid) :
    Normal (apply source op) := by
  cases op with
  | add slot => exact (addSlot_spec normal.valid valid).1
  | remove slot => exact (removeSlot_spec normal valid).1

theorem foldl_apply_normal {ops : List SlotOp} (normal : Normal source) (valid : ∀ op ∈ ops, op.slot.Valid) :
    Normal (ops.foldl apply source) := by
  induction ops generalizing source with
  | nil => exact normal
  | cons op ops ih =>
    apply ih
    · exact apply_normal normal (valid op List.mem_cons_self)
    · intro later member
      exact valid later (List.mem_cons_of_mem _ member)

end SlotOp

/-- The list is what operations with valid ranges make of the empty one. -/
def Built (source : List SlotRange) : Prop :=
  ∃ ops : List SlotOp, (∀ op ∈ ops, op.slot.Valid) ∧ source = ops.foldl SlotOp.apply []

theorem Built.normal (built : Built source) : Normal source := by
  obtain ⟨ops, valid, rfl⟩ := built
  exact SlotOp.foldl_apply_normal .nil valid

theorem addSlot_comm (normal : Normal source) (first : a.Valid) (second : b.Valid) :
    addSlotToSlotRanges (addSlotToSlotRanges source a) b = addSlotToSlotRanges (addSlotToSlotRanges source b) a := by
  have left := addSlot_spec (addSlot_spec normal.valid first).1.valid second
  have right := addSlot_spec (addSlot_spec normal.valid second).1.valid first
  apply left.1.unique right.1
  simp only [covers_addSlot]
  exact Set.union_right_comm _ _ _

theorem addSlot_idem (normal : Normal source) (valid : a.Valid) :
    addSlotToSlotRanges (addSlotToSlotRanges source a) a = addSlotToSlotRanges source a := by
  have once := addSlot_spec normal.valid valid
  have twice := addSlot_spec once.1.valid valid
  apply twice.1.unique once.1
  simp only [covers_addSlot]
  rw [Set.union_assoc, Set.union_self]

/-- Slots that were there and were not elsewhere: nothing less makes a move there and
back invisible in the two lists. -/
theorem moved_back_iff (source : Normal l) (target : Normal m) (valid : slot.Valid) :
    addSlotToSlotRanges (removeSlotFromSlotRanges l slot) slot = l ∧
      removeSlotFromSlotRanges (addSlotToSlotRanges m slot) slot = m ↔
    slot.points ⊆ covers l ∧ Disjoint (covers m) slot.points := by
  have added := (addSlot_spec (removeSlot_spec source valid).1.valid valid).1
  have removed := (removeSlot_spec (addSlot_spec target.valid valid).1 valid).1
  constructor
  · rintro ⟨left, right⟩
    have left := congrArg covers left
    have right := congrArg covers right
    rw [covers_addSlot, covers_removeSlot, Set.sdiff_union_self] at left
    rw [covers_removeSlot, covers_addSlot, Set.union_sdiff_right] at right
    exact ⟨Set.union_eq_left.mp left, Set.disjoint_left.mpr fun x inside => (right ▸ inside).2⟩
  · rintro ⟨owned, foreign⟩
    constructor
    · apply added.unique source
      rw [covers_addSlot, covers_removeSlot, Set.sdiff_union_of_subset owned]
    · apply removed.unique target
      rw [covers_removeSlot, covers_addSlot, Set.union_sdiff_right, foreign.sdiff_eq_left]

namespace Cluster

/-- Owners determine the lists of all shards. -/
theorem ranges_unique {c d : Cluster} (first : ∀ shard ∈ c.shards, Normal shard.slotRanges)
    (second : ∀ shard ∈ d.shards, Normal shard.slotRanges) (count : c.shards.length = d.shards.length)
    (same : ∀ k x, c.SlotOf k x ↔ d.SlotOf k x) : c.ranges = d.ranges := by
  unfold ranges
  apply List.ext_getElem
  · simpa using count
  · intro k left right
    rw [List.length_map] at left right
    have here : c.shards[k]? = some c.shards[k] := List.getElem?_eq_getElem left
    have there : d.shards[k]? = some d.shards[k] := List.getElem?_eq_getElem right
    rw [List.getElem_map, List.getElem_map]
    apply (first _ (List.getElem_mem left)).unique (second _ (List.getElem_mem right))
    ext x
    rw [← slotOf_covers here, ← slotOf_covers there]
    exact same k x

/-- A slot-only migration of assigned slots can be taken back, and nothing of it is left
in any list. -/
theorem migrateSlot_back {cluster moved : Cluster} (normal : ∀ shard ∈ cluster.shards, Normal shard.slotRanges)
    (valid : slot.Valid) (assigned : ∀ x ∈ slot.points, ∃ k, cluster.SlotOf k x)
    (found : cluster.findShardIndexBySlot slot = .ok source)
    (migrated : cluster.migrateSlot replies slot target true = (moved, none)) :
    ∃ back, moved.migrateSlot replies slot source true = (back, none) ∧ back.ranges = cluster.ranges := by
  have only : ∀ k x, x ∈ slot.points → cluster.SlotOf k x → k = source := fun k x => source_owns found
  have whole : ∀ x ∈ slot.points, cluster.SlotOf source x := by
    intro x inside
    obtain ⟨k, owned⟩ := assigned x inside
    exact only k x inside owned ▸ owned
  obtain ⟨s, t, rfl, bound, apart, sameSource, ⟨_, rfl⟩ | ⟨data, _⟩⟩ := migrateSlot_ok migrated
  · obtain rfl : s = source := Except.ok.inj (sameSource.symm.trans found)
    have length : (cluster.moveSlot slot s t).shards.length = cluster.shards.length := by simp [moveSlot, modifyShard]
    obtain ⟨shard, here, _⟩ := whole slot.start ⟨Int.le_refl _, valid⟩
    have inside : s < (cluster.moveSlot slot s t).shards.length := by
      rw [length]
      exact (List.getElem?_eq_some_iff.mp here).1
    obtain ⟨movedNormal, owner⟩ := moveSlot_owner normal valid only bound
    have onlyTarget : ∀ k x, x ∈ slot.points → (cluster.moveSlot slot s t).SlotOf k x → k = t := by
      intro k x member owned
      exact (if_pos member).mp ((owner k x).mp owned)
    have foundTarget : (cluster.moveSlot slot s t).findShardIndexBySlot slot = .ok t := by
      refine findShardIndexBySlot_owner movedNormal valid (fun x member => ?_) onlyTarget
      exact (owner t x).mpr ((if_pos member).mpr rfl)
    refine ⟨(cluster.moveSlot slot s t).moveSlot slot t s, ?_, ?_⟩
    · unfold migrateSlot
      rw [position?_eq_some.mpr ⟨rfl, inside⟩]
      simp only [foundTarget, if_neg apart.symm, if_true]
    · obtain ⟨backNormal, backOwner⟩ := moveSlot_owner movedNormal valid onlyTarget inside
      refine ranges_unique backNormal normal (by simp [moveSlot, modifyShard]) fun k x => ?_
      rw [backOwner, owner]
      by_cases member : x ∈ slot.points
      · simp only [if_pos member]
        exact ⟨fun same => same ▸ whole x member, only k x member⟩
      · simp only [if_neg member]
  · cases data

end Cluster

/-- Equal slots, equal lists; so additions commute and repeat without effect, and a
migration there and back restores both lists. -/
theorem slot_lists_are_normal_forms :
    (∀ l m, Built l → Built m → covers l = covers m → l = m) ∧
    (∀ l a b, Built l → a.Valid → b.Valid →
      addSlotToSlotRanges (addSlotToSlotRanges l a) b = addSlotToSlotRanges (addSlotToSlotRanges l b) a ∧
      addSlotToSlotRanges (addSlotToSlotRanges l a) a = addSlotToSlotRanges l a) ∧
    (∀ l m slot, Built l → Built m → slot.Valid →
      (addSlotToSlotRanges (removeSlotFromSlotRanges l slot) slot = l ∧
        removeSlotFromSlotRanges (addSlotToSlotRanges m slot) slot = m ↔
      slot.points ⊆ covers l ∧ Disjoint (covers m) slot.points)) ∧
    ∀ (replies : NodeReplies) (cluster moved : Cluster) (slot : SlotRange) (source : Nat) (target : Int),
      (∀ shard ∈ cluster.shards, Built shard.slotRanges) → slot.Valid →
      (∀ x ∈ slot.points, ∃ k, cluster.SlotOf k x) → cluster.findShardIndexBySlot slot = .ok source →
      cluster.migrateSlot replies slot target true = (moved, none) →
      ∃ back, moved.migrateSlot replies slot source true = (back, none) ∧ back.ranges = cluster.ranges := by
  refine ⟨fun l m first second => first.normal.unique second.normal, ?_, ?_, ?_⟩
  · intro l a b built first second
    exact ⟨addSlot_comm built.normal first second, addSlot_idem built.normal first⟩
  · intro l m slot source target valid
    exact moved_back_iff source.normal target.normal valid
  · intro replies cluster moved slot source target built valid assigned found migrated
    exact Cluster.migrateSlot_back (fun shard member => (built shard member).normal) valid assigned found migrated

/-- Two shards, the first of them with a gap that the second does not fill. -/
def cutShards : Cluster where
  name := "c"
  version := 1
  shards := [{ newShard with slotRanges := [⟨0, 2⟩, ⟨5, 9⟩] }, { newShard with slotRanges := [⟨10, 19⟩] }]

theorem slot_lists_are_normal_forms_split :
    [⟨0, 2⟩, ⟨5, 9⟩] = [SlotOp.add ⟨5, 9⟩, .add ⟨0, 2⟩].foldl SlotOp.apply [] ∧
      ∃ back, (cutShards.moveSlot ⟨6, 9⟩ 0 1).migrateSlot ⟨fun _ => .error (.new ""), fun _ => .error (.new ""),
        fun _ _ _ => .ok ()⟩ ⟨6, 9⟩ 0 true = (back, none) ∧ back.ranges = cutShards.ranges := by
  have cut : Built [⟨0, 2⟩, ⟨5, 9⟩] := ⟨[.add ⟨0, 9⟩, .remove ⟨3, 4⟩], by decide, by decide +kernel⟩
  constructor
  · refine slot_lists_are_normal_forms.1 _ _ cut ⟨_, by decide, rfl⟩ ?_
    ext x
    simp only [List.foldl_cons, List.foldl_nil, SlotOp.apply, covers_addSlot, covers_nil, Set.mem_union,
      Set.mem_empty_iff_false, mem_points, mem_covers_cons, false_or, or_false]
    omega
  · refine slot_lists_are_normal_forms.2.2.2 _ cutShards _ ⟨6, 9⟩ 0 1 ?_ (by decide) ?_ (by decide +kernel) rfl
    · intro shard member
      simp only [cutShards, List.mem_cons, List.not_mem_nil, or_false] at member
      rcases member with rfl | rfl
      · exact cut
      · exact ⟨[.add ⟨10, 19⟩], by decide, by decide +kernel⟩
    · intro x inside
      have low : (5 : Int) ≤ x := Int.le_trans (by decide) inside.1
      exact ⟨0, _, rfl, ⟨5, 9⟩, by decide, low, inside.2⟩

end Kvrocks
