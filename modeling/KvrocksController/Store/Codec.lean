import KvrocksController.Lib.Json
import KvrocksController.Store.Cluster

/-! The stored form of a cluster: the `MarshalJSON` and `UnmarshalJSON` methods of
package `store`, and what a cluster becomes by being written and read back. -/
namespace Kvrocks

def jsonMismatch : Error := .new "json: cannot unmarshal value into Go struct field"

namespace ClusterNode

/-- A map is encoded with its keys in order. -/
def marshalJSON (n : ClusterNode) : Json :=
  .obj [("addr", .str n.addr), ("created_at", .num n.createdAt), ("id", .str n.id),
    ("password", .str n.password), ("role", .str n.role)]

/-- The object is new, so its identity is settled by the caller. -/
def unmarshalJSON (j : Json) : Except Error ClusterNode := do
  let field ← j.fields jsonMismatch
  let id ← (field "id").string jsonMismatch
  let addr ← (field "addr").string jsonMismatch
  let role ← (field "role").string jsonMismatch
  let password ← (field "password").string jsonMismatch
  let createdAt ← (field "created_at").int jsonMismatch
  .ok { ptr := 0, id, addr, role, password, createdAt }

end ClusterNode

namespace SlotRange

def marshalJSON (slotRange : SlotRange) : Json := .str slotRange.string

def unmarshalJSON (j : Json) : Except Error SlotRange := do
  let slotsString ← j.string jsonMismatch
  parseSlotRange slotsString

end SlotRange

def notMigratingInt : Int := -1

namespace MigratingSlot

def marshalJSON : Option MigratingSlot → Json
  | none => .null
  | some s => if !s.isMigrating then .null else .str s.slotRange.string

/-- A pointer field: `null` is nil. Integers are the format of old records. -/
def unmarshalJSON : Json → Except Error (Option MigratingSlot)
  | .null => .ok none
  | .str s => do
    let slotRange ← SlotRange.unmarshalJSON (.str s)
    .ok (some ⟨slotRange, true⟩)
  | .num n =>
    if n = notMigratingInt then .ok (some ⟨⟨0, 0⟩, false⟩)
    else if n < minSlotID ∨ n > maxSlotID then .error (.of .slotOutOfRange)
    else .ok (some ⟨⟨n, n⟩, true⟩)
  | _ => .error (.new "invalid slot range type")

end MigratingSlot

namespace Shard

def members (shard : Shard) : List (String × Json) :=
  [("nodes", .arr (shard.nodes.map (·.marshalJSON))),
    ("slot_ranges", .arr (shard.slotRanges.map SlotRange.marshalJSON)),
    ("target_shard_index", .num shard.targetShardIndex),
    ("migrating_slot", MigratingSlot.marshalJSON shard.migratingSlot)]

def marshalJSON (shard : Shard) : Json := .obj shard.members

def unmarshalJSON (j : Json) : Except Error Shard := do
  let field ← j.fields jsonMismatch
  let slotRanges ← (field "slot_ranges").list jsonMismatch SlotRange.unmarshalJSON
  let targetShardIndex ← (field "target_shard_index").int jsonMismatch
  let migratingSlot ← MigratingSlot.unmarshalJSON (field "migrating_slot")
  let nodes ← (field "nodes").list jsonMismatch ClusterNode.unmarshalJSON
  .ok { nodes, slotRanges, targetShardIndex, migratingSlot }

/-- What survives of a shard in its record: a non-migrating slot becomes nil. -/
def stored (shard : Shard) : Shard :=
  { shard with
    nodes := shard.nodes.map fun node => { node with ptr := 0 }
    migratingSlot := shard.migratingSlot.filter (·.isMigrating) }

/-- Every range the record holds can be read back. -/
def InBounds (shard : Shard) : Prop :=
  (∀ slotRange ∈ shard.slotRanges, slotRange.InBounds) ∧
    ∀ s, shard.migratingSlot = some s → s.isMigrating = true → s.slotRange.InBounds

end Shard

def Shard.renumber (base : Nat) (shard : Shard) : Shard :=
  { shard with nodes := shard.nodes.mapIdx fun i node => { node with ptr := base + i } }

/-- Decoding makes every node a new object: identities count up from `base`. -/
def allocate : (base : Nat) → List Shard → List Shard
  | _, [] => []
  | base, shard :: rest => shard.renumber base :: allocate (base + shard.nodes.length) rest

namespace Cluster

def members (cluster : Cluster) : List (String × Json) :=
  [("version", .num cluster.version), ("name", .str cluster.name),
    ("shards", .arr (cluster.shards.map (·.marshalJSON)))]

def marshalJSON (cluster : Cluster) : Json := .obj cluster.members

def unmarshalJSON (j : Json) : Except Error Cluster := do
  let field ← j.fields jsonMismatch
  let version ← (field "version").int jsonMismatch
  let name ← (field "name").string jsonMismatch
  let shards ← (field "shards").list jsonMismatch Shard.unmarshalJSON
  .ok { name, version, shards := allocate 0 shards }

def InBounds (cluster : Cluster) : Prop := ∀ shard ∈ cluster.shards, shard.InBounds

def stored (cluster : Cluster) : Cluster :=
  { cluster with shards := allocate 0 (cluster.shards.map (·.stored)) }

end Cluster
end Kvrocks
