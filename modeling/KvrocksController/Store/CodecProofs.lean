import KvrocksController.Store.Codec
import KvrocksController.Store.SlotProofs

/-! Records read back: a cluster whose ranges are in bounds comes back as `stored`
describes, and whatever comes back has its ranges in bounds. -/
namespace Kvrocks

theorem ClusterNode.unmarshal_marshal (n : ClusterNode) :
    ClusterNode.unmarshalJSON n.marshalJSON = .ok { n with ptr := 0 } := rfl

theorem SlotRange.unmarshal_marshal (bounds : SlotRange.InBounds r) :
    SlotRange.unmarshalJSON (SlotRange.marshalJSON r) = .ok r := parseSlotRange_string bounds

theorem MigratingSlot.unmarshal_marshal {slot : Option MigratingSlot}
    (bounds : ∀ s, slot = some s → s.isMigrating = true → s.slotRange.InBounds) :
    MigratingSlot.unmarshalJSON (MigratingSlot.marshalJSON slot) = .ok (slot.filter (·.isMigrating)) := by
  cases slot with
  | none => rfl
  | some s =>
    obtain ⟨range, migrating⟩ := s
    cases migrating with
    | false => rfl
    | true =>
      have inside := parseSlotRange_string (bounds _ rfl rfl)
      simp only [MigratingSlot.marshalJSON, MigratingSlot.unmarshalJSON, SlotRange.unmarshalJSON,
        Json.string, Bool.not_true, Bool.false_eq_true, if_false, bind, Except.bind] at inside ⊢
      rw [inside]
      rfl

/-- The members of a shard's record, with any value for the migrating slot. -/
def Shard.membersWith (slot : Json) (shard : Shard) : List (String × Json) :=
  [("nodes", .arr (shard.nodes.map (·.marshalJSON))),
    ("slot_ranges", .arr (shard.slotRanges.map SlotRange.marshalJSON)),
    ("target_shard_index", .num shard.targetShardIndex), ("migrating_slot", slot)]

theorem Shard.members_eq (shard : Shard) :
    shard.members = shard.membersWith (MigratingSlot.marshalJSON shard.migratingSlot) := rfl

section Members
variable (slot : Json) (shard : Shard)

theorem Shard.member_nodes : Json.member "nodes" (shard.membersWith slot) .null =
    .arr (shard.nodes.map (·.marshalJSON)) := rfl
theorem Shard.member_slotRanges : Json.member "slot_ranges" (shard.membersWith slot) .null =
    .arr (shard.slotRanges.map SlotRange.marshalJSON) := rfl
theorem Shard.member_target : Json.member "target_shard_index" (shard.membersWith slot) .null =
    .num shard.targetShardIndex := rfl
theorem Shard.member_migratingSlot : Json.member "migrating_slot" (shard.membersWith slot) .null = slot := rfl

end Members

/-- A record reads back with whatever its migrating slot decodes to. -/
theorem Shard.unmarshal_membersWith {shard : Shard} (bounds : ∀ r ∈ shard.slotRanges, SlotRange.InBounds r)
    (slot : MigratingSlot.unmarshalJSON j = .ok decoded) :
    Shard.unmarshalJSON (.obj (shard.membersWith j)) = .ok { shard.stored with migratingSlot := decoded } := by
  have ranges : Json.list jsonMismatch SlotRange.unmarshalJSON
      (.arr (shard.slotRanges.map SlotRange.marshalJSON)) = .ok (shard.slotRanges.map id) :=
    Json.list_arr fun r here => SlotRange.unmarshal_marshal (bounds r here)
  have nodes : Json.list jsonMismatch ClusterNode.unmarshalJSON
      (.arr (shard.nodes.map (·.marshalJSON))) = .ok (shard.nodes.map fun n => { n with ptr := 0 }) :=
    Json.list_arr fun n _ => n.unmarshal_marshal
  rw [List.map_id] at ranges
  simp only [Shard.unmarshalJSON, Json.fields, bind, Except.bind, Shard.member_nodes,
    Shard.member_slotRanges, Shard.member_target, Shard.member_migratingSlot, ranges, slot, nodes, Json.int]
  rfl

theorem Shard.unmarshal_marshal (bounds : Shard.InBounds shard) :
    Shard.unmarshalJSON shard.marshalJSON = .ok shard.stored := by
  rw [Shard.marshalJSON, Shard.members_eq]
  exact Shard.unmarshal_membersWith bounds.1 (MigratingSlot.unmarshal_marshal bounds.2)

theorem Cluster.member_version (cluster : Cluster) : Json.member "version" cluster.members .null =
    .num cluster.version := rfl
theorem Cluster.member_name (cluster : Cluster) : Json.member "name" cluster.members .null =
    .str cluster.name := rfl
theorem Cluster.member_shards (cluster : Cluster) : Json.member "shards" cluster.members .null =
    .arr (cluster.shards.map (·.marshalJSON)) := rfl

theorem Cluster.unmarshal_marshal (bounds : Cluster.InBounds cluster) :
    Cluster.unmarshalJSON cluster.marshalJSON = .ok cluster.stored := by
  have shards : Json.list jsonMismatch Shard.unmarshalJSON
      (.arr (cluster.shards.map (·.marshalJSON))) = .ok (cluster.shards.map (·.stored)) :=
    Json.list_arr fun s here => Shard.unmarshal_marshal (bounds s here)
  simp only [Cluster.unmarshalJSON, Cluster.marshalJSON, Json.fields, bind, Except.bind,
    Cluster.member_version, Cluster.member_name, Cluster.member_shards, shards, Json.int, Json.string]
  rfl

/-- The name and the version come back whatever the ranges are. -/
theorem Cluster.unmarshal_marshal_header (read : Cluster.unmarshalJSON (Cluster.marshalJSON cluster) = .ok c) :
    c.name = cluster.name ∧ c.version = cluster.version := by
  obtain ⟨field, members, read⟩ := bind_ok read
  obtain rfl := Except.ok.inj members
  obtain ⟨version, sameVersion, read⟩ := bind_ok read
  obtain ⟨name, sameName, read⟩ := bind_ok read
  obtain ⟨shards, _, read⟩ := bind_ok read
  simp only [Cluster.member_version, Json.int, Except.ok.injEq] at sameVersion
  simp only [Cluster.member_name, Json.string, Except.ok.injEq] at sameName
  cases read
  exact ⟨sameName.symm, sameVersion.symm⟩

/-- So do the nodes, as new objects. -/
theorem Shard.unmarshal_marshal_nodes (read : Shard.unmarshalJSON (Shard.marshalJSON shard) = .ok s) :
    s.nodes = shard.nodes.map fun node => { node with ptr := 0 } := by
  obtain ⟨field, members, read⟩ := bind_ok read
  obtain rfl := Except.ok.inj members
  obtain ⟨slotRanges, _, read⟩ := bind_ok read
  obtain ⟨targetShardIndex, _, read⟩ := bind_ok read
  obtain ⟨migratingSlot, _, read⟩ := bind_ok read
  obtain ⟨nodes, decoded, read⟩ := bind_ok read
  cases read
  simp only [Shard.members_eq, Shard.member_nodes] at decoded
  rw [Json.list_arr fun n _ => n.unmarshal_marshal] at decoded
  exact (Except.ok.inj decoded).symm

theorem Cluster.unmarshal_marshal_nodes (read : Cluster.unmarshalJSON (Cluster.marshalJSON cluster) = .ok c) :
    ∃ shards : List Shard, c.shards = allocate 0 shards ∧
      shards.map (·.nodes) = cluster.shards.map fun shard => shard.nodes.map fun node => { node with ptr := 0 } := by
  obtain ⟨field, members, read⟩ := bind_ok read
  obtain rfl := Except.ok.inj members
  obtain ⟨version, _, read⟩ := bind_ok read
  obtain ⟨name, _, read⟩ := bind_ok read
  obtain ⟨shards, decoded, read⟩ := bind_ok read
  cases read
  simp only [Cluster.member_shards] at decoded
  exact ⟨shards, rfl, Json.list_arr_map decoded fun shard s read => Shard.unmarshal_marshal_nodes read⟩

section Allocation

@[simp] theorem Shard.renumber_slotRanges : (Shard.renumber base shard).slotRanges = shard.slotRanges := rfl
@[simp] theorem Shard.renumber_targetShardIndex :
    (Shard.renumber base shard).targetShardIndex = shard.targetShardIndex := rfl
@[simp] theorem Shard.renumber_migratingSlot :
    (Shard.renumber base shard).migratingSlot = shard.migratingSlot := rfl

/-- Anything that does not look at identities is the same after allocation. -/
theorem allocate_map {f : Shard → α} (blind : ∀ base shard, f (Shard.renumber base shard) = f shard)
    (base : Nat) (shards : List Shard) : (allocate base shards).map f = shards.map f := by
  induction shards generalizing base with
  | nil => rfl
  | cons shard rest ih => rw [allocate, List.map_cons, List.map_cons, blind, ih]

theorem mem_allocate (here : shard ∈ allocate base shards) :
    ∃ b, ∃ s ∈ shards, shard = Shard.renumber b s := by
  induction shards generalizing base with
  | nil => simp [allocate] at here
  | cons s rest ih =>
    rcases List.mem_cons.mp here with rfl | here
    · exact ⟨base, s, by simp, rfl⟩
    · obtain ⟨b, t, inside, same⟩ := ih here
      exact ⟨b, t, by simp [inside], same⟩

theorem Shard.renumber_ptrs (base : Nat) (shard : Shard) :
    (shard.renumber base).nodes.map (·.ptr) = List.range' base shard.nodes.length := by
  apply List.ext_getElem
  · simp [Shard.renumber]
  · intro i _ _
    simp [Shard.renumber]

/-- Fresh objects are pairwise distinct, across shards as well. -/
theorem allocate_ptrs (base : Nat) (shards : List Shard) :
    ((allocate base shards).flatMap (·.nodes)).map (·.ptr) =
      List.range' base (shards.flatMap (·.nodes)).length := by
  induction shards generalizing base with
  | nil => rfl
  | cons shard rest ih =>
    rw [allocate, List.flatMap_cons, List.map_append, Shard.renumber_ptrs, ih, List.flatMap_cons,
      List.length_append]
    exact List.range'_append_1

/-- Whatever is decoded has a new object for each of its nodes. -/
theorem Cluster.unmarshal_ptrs (read : Cluster.unmarshalJSON j = .ok cluster) :
    (cluster.getNodes.map (·.ptr)).Nodup := by
  obtain ⟨field, _, read⟩ := bind_ok read
  obtain ⟨version, _, read⟩ := bind_ok read
  obtain ⟨name, _, read⟩ := bind_ok read
  obtain ⟨shards, _, read⟩ := bind_ok read
  cases read
  rw [Cluster.getNodes, allocate_ptrs]
  exact List.nodup_range'

end Allocation

theorem MigratingSlot.unmarshal_inBounds (read : MigratingSlot.unmarshalJSON j = .ok (some s))
    (migrating : s.isMigrating = true) : s.slotRange.InBounds := by
  cases j with
  | null | bool b | arr items | obj members => cases read
  | num n =>
    simp only [MigratingSlot.unmarshalJSON] at read
    split at read
    · obtain rfl := Option.some.inj (Except.ok.inj read)
      cases migrating
    · split at read
      · cases read
      · rename_i bounds
        obtain rfl := Option.some.inj (Except.ok.inj read)
        simp only [not_or, not_lt, gt_iff_lt] at bounds
        exact ⟨bounds.1, le_refl _, bounds.2⟩
  | str text =>
    obtain ⟨r, parsed, same⟩ := bind_ok read
    obtain rfl := Option.some.inj (Except.ok.inj same)
    exact parseSlotRange_inBounds parsed

theorem Shard.unmarshal_inBounds (read : Shard.unmarshalJSON j = .ok shard) : shard.InBounds := by
  obtain ⟨field, _, read⟩ := bind_ok read
  obtain ⟨slotRanges, ranges, read⟩ := bind_ok read
  obtain ⟨targetShardIndex, _, read⟩ := bind_ok read
  obtain ⟨migratingSlot, slot, read⟩ := bind_ok read
  obtain ⟨nodes, _, read⟩ := bind_ok read
  cases read
  refine ⟨fun r here => ?_, fun s same migrating => ?_⟩
  · obtain ⟨i, item⟩ := Json.list_mem ranges here
    obtain ⟨text, _, parsed⟩ := bind_ok item
    exact parseSlotRange_inBounds parsed
  · subst same
    exact MigratingSlot.unmarshal_inBounds slot migrating

theorem Cluster.unmarshal_inBounds (read : Cluster.unmarshalJSON j = .ok cluster) : cluster.InBounds := by
  obtain ⟨field, _, read⟩ := bind_ok read
  obtain ⟨version, _, read⟩ := bind_ok read
  obtain ⟨name, _, read⟩ := bind_ok read
  obtain ⟨shards, decoded, read⟩ := bind_ok read
  cases read
  intro shard here
  obtain ⟨b, s, inside, rfl⟩ := mem_allocate here
  obtain ⟨i, item⟩ := Json.list_mem decoded inside
  have bounds := Shard.unmarshal_inBounds item
  exact ⟨bounds.1, bounds.2⟩

section ReadBack

/-- What a record keeps of a node: all but the identity of the object. -/
def ClusterNode.fields (node : ClusterNode) : String × String × String × String × Int :=
  (node.id, node.addr, node.role, node.password, node.createdAt)

theorem Shard.renumber_fields (base : Nat) (shard : Shard) :
    (shard.renumber base).nodes.map (·.fields) = shard.nodes.map (·.fields) := by
  apply List.ext_getElem?
  intro i
  simp only [Shard.renumber, List.getElem?_map, List.getElem?_mapIdx, Option.map_map]
  rfl

/-- The old form of a migrating slot, an integer. -/
theorem MigratingSlot.unmarshal_legacy {n : Int} (lower : 0 ≤ n) (upper : n ≤ 16383) :
    MigratingSlot.unmarshalJSON (.num n) = .ok (some (fromSlotRange ⟨n, n⟩)) := by
  have running : n ≠ notMigratingInt := by
    simp only [notMigratingInt]
    omega
  have inside : ¬ (n < minSlotID ∨ n > maxSlotID) := by
    simp only [minSlotID, maxSlotID]
    omega
  rw [MigratingSlot.unmarshalJSON, if_neg running, if_neg inside]
  rfl

end ReadBack

/-- A cluster comes back from its record with the same name, version, shards and nodes,
a non-migrating slot as nil; integers for a migrating slot still decode. -/
theorem cluster_reads_back {cluster : Cluster} (bounds : cluster.InBounds) :
    (∃ read, Cluster.unmarshalJSON cluster.marshalJSON = .ok read ∧
      read.name = cluster.name ∧ read.version = cluster.version ∧
      (read.shards.map fun shard => shard.nodes.map (·.fields)) =
        (cluster.shards.map fun shard => shard.nodes.map (·.fields)) ∧
      read.shards.map (·.slotRanges) = cluster.shards.map (·.slotRanges) ∧
      read.shards.map (·.targetShardIndex) = cluster.shards.map (·.targetShardIndex) ∧
      read.shards.map (·.migratingSlot) =
        cluster.shards.map fun shard => shard.migratingSlot.filter (·.isMigrating)) ∧
    ∀ shard ∈ cluster.shards,
      Shard.unmarshalJSON (.obj (shard.membersWith (.num (-1)))) =
        .ok { shard.stored with migratingSlot := some ⟨⟨0, 0⟩, false⟩ } ∧
      ∀ n : Int, 0 ≤ n → n ≤ 16383 → Shard.unmarshalJSON (.obj (shard.membersWith (.num n))) =
        .ok { shard.stored with migratingSlot := some ⟨⟨n, n⟩, true⟩ } := by
  constructor
  · refine ⟨_, Cluster.unmarshal_marshal bounds, rfl, rfl, ?_, ?_, ?_, ?_⟩
    · rw [Cluster.stored, allocate_map Shard.renumber_fields, List.map_map]
      refine List.map_congr_left fun shard _ => ?_
      simp only [Function.comp_apply, Shard.stored, List.map_map]
      rfl
    all_goals
      rw [Cluster.stored, allocate_map fun _ _ => rfl, List.map_map]
      rfl
  · intro shard member
    have ranges := (bounds shard member).1
    refine ⟨Shard.unmarshal_membersWith ranges rfl, fun n lower upper => ?_⟩
    exact Shard.unmarshal_membersWith ranges (MigratingSlot.unmarshal_legacy lower upper)

def twoShards : Cluster where
  name := "c"
  version := 7
  shards := [⟨[⟨3, "n", "a:1", roleMaster, "p", 5⟩], [⟨0, 9⟩, ⟨20, 20⟩], 1, some ⟨⟨5, 9⟩, true⟩⟩,
    ⟨[], [], -1, some ⟨⟨0, 0⟩, false⟩⟩]

theorem twoShards_read_back :
    twoShards.InBounds ∧ ∃ read, Cluster.unmarshalJSON twoShards.marshalJSON = .ok read ∧
      read.shards.map (·.migratingSlot) = [some ⟨⟨5, 9⟩, true⟩, none] := by
  have bounds : twoShards.InBounds := by
    intro shard member
    simp only [twoShards, List.mem_cons, List.not_mem_nil, or_false] at member
    rcases member with rfl | rfl
    · refine ⟨by decide, ?_⟩
      rintro _ ⟨⟩ _
      decide
    · refine ⟨by decide, ?_⟩
      rintro _ ⟨⟩ ⟨⟩
  obtain ⟨⟨read, decoded, _, _, _, _, _, slots⟩, _⟩ := cluster_reads_back bounds
  exact ⟨bounds, read, decoded, slots⟩

section Text

/-- A line shows nothing of a node's identity. -/
theorem Shard.toSlotsString_unnumbered (shard : Shard) :
    toSlotsString { shard with nodes := shard.nodes.map fun node => { node with ptr := 0 } } = shard.toSlotsString := by
  have lines (line : Nat → ClusterNode → String) (blind : ∀ i node, line i { node with ptr := 0 } = line i node) :
      (shard.nodes.map fun node => { node with ptr := 0 }).mapIdx line = shard.nodes.mapIdx line := by
    apply List.ext_getElem?
    intro i
    simp only [List.getElem?_mapIdx, List.getElem?_map, Option.map_map, Function.comp_def, blind]
  simp only [toSlotsString, List.findIdx?_map, List.getElem?_map, Option.map_map, Function.comp_def, ClusterNode.isMaster]
  cases shard.nodes.findIdx? fun node => node.role == roleMaster with
  | none => rfl
  | some index => exact congrArg (fun lines => Except.ok (String.join lines)) (lines _ fun _ _ => rfl)

theorem Shard.toSlotsString_renumber (base : Nat) (shard : Shard) :
    (Shard.renumber base shard).toSlotsString = shard.toSlotsString := by
  have nodes : (shard.renumber base).nodes.map (fun node => { node with ptr := 0 }) =
      shard.nodes.map fun node => { node with ptr := 0 } := by
    apply List.ext_getElem?
    intro i
    simp only [Shard.renumber, List.getElem?_map, List.getElem?_mapIdx, Option.map_map]
    rfl
  rw [← toSlotsString_unnumbered (shard.renumber base), nodes]
  exact toSlotsString_unnumbered shard

theorem Shard.toSlotsString_stored (shard : Shard) : shard.stored.toSlotsString = shard.toSlotsString :=
  shard.toSlotsString_unnumbered

/-- What a shard adds to the text of its cluster. -/
def slotLine : Except Error String × Nat → Except Error String
  | (.ok text, _) => .ok text
  | (.error e, i) => .error (.wrap ("found err at shard[" ++ toString i ++ "]: ") e "")

theorem Cluster.toSlotString_lines (cluster : Cluster) : cluster.toSlotString = (do
    let lines ← (cluster.shards.map (·.toSlotsString)).zipIdx.mapM slotLine
    .ok (String.join lines)) := by
  unfold toSlotString
  rw [List.zipIdx_map, List.mapM_map]
  congr 2
  funext line
  obtain ⟨shard, i⟩ := line
  cases answered : shard.toSlotsString with
  | ok text => simp [slotLine, answered]
  | error e => simp [slotLine, answered]

theorem Cluster.toSlotString_congr {cluster other : Cluster}
    (same : cluster.shards.map (·.toSlotsString) = other.shards.map (·.toSlotsString)) :
    cluster.toSlotString = other.toSlotString := by
  rw [toSlotString_lines, toSlotString_lines, same]

/-- A record is pushed with the text of the cluster that was written. -/
theorem Cluster.toSlotString_stored (cluster : Cluster) : cluster.stored.toSlotString = cluster.toSlotString := by
  apply toSlotString_congr
  rw [stored, allocate_map Shard.toSlotsString_renumber, List.map_map]
  exact List.map_congr_left fun shard _ => shard.toSlotsString_stored

end Text
end Kvrocks
