import KvrocksController.Store.ClusterProofs
import KvrocksController.Store.SlotProofs

/-! Who owns which slot, and what a move of slots does to it. The source of a request
is found by overlapping ranges; that it owns the slots asked for depends on whether
all of them are assigned. -/
namespace Kvrocks.Cluster
open Kvrocks.Interval

/-- The slot `x` lies in a range of the shard at `k`. -/
def SlotOf (cluster : Cluster) (k : Nat) (x : Int) : Prop :=
  ∃ shard, cluster.shards[k]? = some shard ∧ ∃ range ∈ shard.slotRanges, range.start ≤ x ∧ x ≤ range.stop

def ranges (cluster : Cluster) : List (List SlotRange) := cluster.shards.map (·.slotRanges)

theorem slotOf_iff {cluster : Cluster} : cluster.SlotOf k x ↔ Owns cluster.ranges k x := by
  simp only [SlotOf, Owns, ranges, List.getElem?_map, Option.map_eq_some_iff, mem_covers]
  constructor
  · rintro ⟨shard, found, covered⟩
    exact ⟨_, ⟨shard, found, rfl⟩, covered⟩
  · rintro ⟨_, ⟨shard, found, rfl⟩, covered⟩
    exact ⟨shard, found, covered⟩

theorem slotOf_covers {cluster : Cluster} (found : cluster.shards[k]? = some shard) :
    cluster.SlotOf k x ↔ x ∈ covers shard.slotRanges := by
  simp only [SlotOf, found, Option.some.injEq, exists_eq_left', mem_covers]

/-- The owner of a requested slot is among the shards the scan meets. -/
theorem SlotOf.met {slot : SlotRange} {cluster : Cluster} (owned : cluster.SlotOf k x) (inside : x ∈ slot.points) :
    k ∈ meeting slot 0 cluster.shards := by
  obtain ⟨shard, found, range, member, lower, upper⟩ := owned
  refine mem_meeting.mpr ⟨k, shard, found, (Nat.zero_add k).symm, range, member, hasOverlap_iff.mpr ?_⟩
  exact ⟨inside.1.trans upper, lower.trans inside.2⟩

/-- A source found without a clash owns every requested slot that anyone owns. -/
theorem source_owns {cluster : Cluster} (found : cluster.findShardIndexBySlot slot = .ok s)
    (inside : x ∈ slot.points) (owned : cluster.SlotOf k x) : k = s := by
  have member := owned.met inside
  rw [findShardIndexBySlot_meeting.mp found] at member
  exact List.mem_singleton.mp member

section Scan
variable {slot : SlotRange}

/-- One range of one shard is all that the scan meets. -/
theorem meeting_single {shards : List Shard} (found : shards[s]? = some shard)
    (here : (shard.slotRanges.filter (SlotRange.hasOverlap · slot)).length = 1)
    (elsewhere : ∀ j other, shards[j]? = some other → j ≠ s →
      other.slotRanges.filter (SlotRange.hasOverlap · slot) = []) :
    meeting slot i shards = [i + s] := by
  induction shards generalizing i s with
  | nil => cases found
  | cons first rest ih =>
    rw [meeting]
    cases s with
    | zero =>
      obtain rfl := Option.some.inj found
      have nothing : meeting slot (i + 1) rest = [] := by
        rw [List.eq_nil_iff_forall_not_mem]
        intro k member
        obtain ⟨j, other, position, _, range, listed, overlap⟩ := mem_meeting.mp member
        have none := elsewhere (j + 1) other position (by omega)
        exact List.filter_eq_nil_iff.mp none range listed overlap
      obtain ⟨range, single⟩ := List.length_eq_one_iff.mp here
      rw [single, nothing]
      rfl
    | succ s =>
      have tail := ih (i := i + 1) found fun j other position apart => elsewhere (j + 1) other position (by omega)
      rw [elsewhere 0 first rfl (by omega), tail, List.map_nil, List.nil_append]
      congr 1
      omega

/-- In a normal list that covers the slots, one range meets them. -/
theorem filter_single (normal : Normal l) (valid : slot.Valid) (covered : slot.points ⊆ covers l) :
    (l.filter (SlotRange.hasOverlap · slot)).length = 1 := by
  obtain ⟨i, member, low, high⟩ := normal.contains_single valid covered
  simp only [Valid] at valid
  have only : l.filter (SlotRange.hasOverlap · slot) = l.filter (· == i) := by
    apply List.filter_congr
    intro j other
    rw [Bool.eq_iff_iff, hasOverlap_iff, beq_iff_eq]
    constructor
    · rintro ⟨below, above⟩
      rcases normal.apart other member with same | gap | gap
      · exact same
      · simp only [Before] at gap
        omega
      · simp only [Before] at gap
        omega
    · rintro rfl
      omega
  have once : l.Nodup := normal.sorted.imp fun order same => by
    rw [same] at order
    omega
  rw [only, List.filter_beq, List.length_replicate, List.count_eq_one_of_mem once member]

/-- Where the lists are normal, the scan finds the shard that owns all of the slots. -/
theorem findShardIndexBySlot_owner {cluster : Cluster} (normal : ∀ shard ∈ cluster.shards, Normal shard.slotRanges)
    (valid : slot.Valid) (whole : ∀ x ∈ slot.points, cluster.SlotOf s x)
    (only : ∀ k x, x ∈ slot.points → cluster.SlotOf k x → k = s) : cluster.findShardIndexBySlot slot = .ok s := by
  have ordered : slot.start ≤ slot.stop := valid
  obtain ⟨shard, found, _⟩ := whole slot.start ⟨Int.le_refl _, ordered⟩
  have covered : slot.points ⊆ covers shard.slotRanges := fun x inside => (slotOf_covers found).mp (whole x inside)
  have single := filter_single (normal shard (List.mem_of_getElem? found)) valid covered
  rw [findShardIndexBySlot_meeting, meeting_single found single ?_, Nat.zero_add]
  intro j other here elsewhere
  rw [List.filter_eq_nil_iff]
  intro range member overlap
  -- a range that meets the slots and covers nothing of them cannot be valid
  have proper := (normal other (List.mem_of_getElem? here)).valid range member
  obtain ⟨above, below⟩ := hasOverlap_iff.mp overlap
  simp only [Valid] at proper
  refine elsewhere (only j (max slot.start range.start) ⟨?_, ?_⟩ ⟨other, here, range, member, ?_, ?_⟩) <;> omega

end Scan

section Move
variable (slot : SlotRange) (s t : Nat) (cluster : Cluster)

/-- Everything a move leaves at one position: the nodes stay, the source forgets its
record, the ranges lose the slots or gain them. -/
theorem getElem?_moveSlot (k : Nat) : (cluster.moveSlot slot s t).shards[k]? =
    cluster.shards[k]?.map fun shard =>
      { (if k = s then shard.clearMigrateState else shard) with
        slotRanges := Partition.moved (removeSlotFromSlotRanges · slot) (addSlotToSlotRanges · slot) s t k
          shard.slotRanges } := by
  simp only [moveSlot, modifyShard, List.getElem?_modify, eq_comm (a := s), eq_comm (a := t)]
  unfold Partition.moved
  cases cluster.shards[k]? with
  | none => rfl
  | some shard =>
    by_cases atSource : k = s
    · by_cases atTarget : k = t
      · simp only [if_pos atSource, if_pos atTarget, Option.map_some, Option.map_eq_map]
      · simp only [if_pos atSource, if_neg atTarget, Option.map_some, Option.map_eq_map]
    · by_cases atTarget : k = t
      · simp only [if_neg atSource, if_pos atTarget, Option.map_some, Option.map_eq_map]
      · simp only [if_neg atSource, if_neg atTarget, Option.map_some, Option.map_eq_map]

theorem ranges_moveSlot : (cluster.moveSlot slot s t).ranges =
    (cluster.ranges.modify s (removeSlotFromSlotRanges · slot)).modify t (addSlotToSlotRanges · slot) := by
  simp only [ranges, moveSlot, modifyShard]
  rw [map_modify (h := (addSlotToSlotRanges · slot)) (fun _ => rfl),
    map_modify (h := (removeSlotFromSlotRanges · slot)) (fun _ => rfl)]

theorem ranges_clear (i : Nat) : (cluster.modifyShard i (·.clearMigrateState)).ranges = cluster.ranges :=
  map_modify_same (f := Shard.clearMigrateState) (g := (·.slotRanges)) (fun _ => rfl) cluster.shards i

variable {slot s t cluster}

/-- Exactly the moved slots change owner, and the lists stay normal, when no other
shard has any of them. -/
theorem moveSlot_owner (normal : ∀ shard ∈ cluster.shards, Normal shard.slotRanges) (valid : slot.Valid)
    (only : ∀ k x, x ∈ slot.points → cluster.SlotOf k x → k = s) (bound : t < cluster.shards.length) :
    (∀ shard ∈ (cluster.moveSlot slot s t).shards, Normal shard.slotRanges) ∧
      ∀ k x, (cluster.moveSlot slot s t).SlotOf k x ↔ if x ∈ slot.points then k = t else cluster.SlotOf k x := by
  have moved := Partition.owns_move (f := cluster.ranges) (s := s) (t := t) (r := slot)
    (fun l normal => removeSlot_spec normal valid) (fun l normal => addSlot_spec normal.valid valid)
    (by simpa [ranges] using normal) (fun k x inside owns => only k x inside (slotOf_iff.mpr owns))
    (by simpa [ranges] using bound)
  rw [← ranges_moveSlot] at moved
  refine ⟨fun shard member => moved.1 _ (List.mem_map_of_mem member), fun k x => ?_⟩
  rw [slotOf_iff, slotOf_iff]
  exact moved.2 k x

/-- Without any assumption on the lists: the slots are with the target afterwards, and
every other slot is assigned as before. -/
theorem moveSlot_assigned (bound : t < cluster.shards.length) :
    (∃ k, (cluster.moveSlot slot s t).SlotOf k x) ↔ x ∈ slot.points ∨ ∃ k, cluster.SlotOf k x := by
  have kept {k : Nat} {shard : Shard} (found : cluster.shards[k]? = some shard) (outside : x ∉ slot.points) :
      (cluster.moveSlot slot s t).SlotOf k x ↔ x ∈ covers shard.slotRanges := by
    rw [slotOf_covers (by rw [getElem?_moveSlot, found]; rfl)]
    simp only [Partition.moved]
    split <;> split <;> simp only [covers_addSlot, covers_removeSlot, Set.mem_union, Set.mem_sdiff, outside,
      not_false_eq_true, and_true, or_false]
  by_cases inside : x ∈ slot.points
  · refine iff_of_true ⟨t, ?_⟩ (.inl inside)
    rw [slotOf_covers (by rw [getElem?_moveSlot, List.getElem?_eq_getElem bound]; rfl)]
    simp only [Partition.moved, if_pos, covers_addSlot]
    exact .inr inside
  · simp only [inside, false_or]
    refine exists_congr fun k => ?_
    cases found : cluster.shards[k]? with
    | none => simp [SlotOf, getElem?_moveSlot, found]
    | some shard => rw [kept found inside, slotOf_covers found]

end Move
end Kvrocks.Cluster
