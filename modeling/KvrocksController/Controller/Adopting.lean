import KvrocksController.Controller.Probe
import KvrocksController.Store.ClusterStoreProofs
import KvrocksController.Store.CodecProofs
import KvrocksController.Store.ParseProofs

/-! What an adoption keeps of the cluster it replaces. A node's text carries neither
passwords nor migrations: the adopted cluster has the first node's password on every
node, and no shard of it is migrating. -/
namespace Kvrocks.Probe
open Kvrocks.Interval ClusterStore

section Spec
variable (before after : Cluster)

/-- A node that is in both clusters has its password in both. -/
def KeepsPasswords : Prop :=
  ∀ old ∈ before.getNodes, ∀ new ∈ after.getNodes, new.id = old.id → new.password = old.password

def SameMaster (old new : Shard) : Prop :=
  ∃ id, old.getMasterNode.map (·.id) = some id ∧ new.getMasterNode.map (·.id) = some id

/-- One master, and the same slots. -/
def SameShard (old new : Shard) : Prop := SameMaster old new ∧ covers old.slotRanges = covers new.slotRanges

/-- The two indexes designate shards with one master. -/
def SameTarget (old new : Int) : Prop :=
  ∃ shard shard', before.getShard old = .ok shard ∧ after.getShard new = .ok shard' ∧ SameMaster shard shard'

/-- A shard that is in both clusters has its migration in both. -/
def KeepsMigrations : Prop :=
  ∀ old ∈ before.shards, ∀ new ∈ after.shards, SameShard old new → ∀ slot, old.migratingSlot = some slot →
    new.migratingSlot = some slot ∧ SameTarget before after old.targetShardIndex new.targetShardIndex

end Spec

theorem adoptionBy_ok (chosen : adoptionBy parse probed answers = .ok (some adopted)) :
    ∃ reported password, parse (latest probed.version answers).clusterNodesStr = .ok reported ∧
      firstPassword probed = .ok password ∧
      adopted = Cluster.setPassword password { reported with name := probed.name } := by
  simp only [adoptionBy] at chosen
  split at chosen
  · split at chosen
    · cases chosen
    · rename_i reported accepted
      obtain ⟨password, first, chosen⟩ := bind_ok chosen
      cases chosen
      exact ⟨reported, password, accepted, first, rfl⟩
  · cases chosen

section ReadBack
variable {reported : Cluster}

/-- What is compared of a shard that is read back with a shard of the text. -/
def view (shard : Shard) : List (String × String × String × String × Int) × List SlotRange × Option MigratingSlot :=
  (shard.nodes.map (·.fields), shard.slotRanges, shard.migratingSlot)

def adoptedView (password : String) (shard : Shard) :
    List (String × String × String × String × Int) × List SlotRange × Option MigratingSlot :=
  (shard.nodes.map fun node => (node.setPassword password).fields, shard.slotRanges, none)

theorem view_renumber (base : Nat) (shard : Shard) : view (shard.renumber base) = view shard := by
  rw [view, Shard.renumber_fields]
  rfl

theorem stored_views (opened : ∀ shard ∈ reported.shards, Opened shard) (password name : String) :
    (Cluster.setPassword password { reported with name }).stored.shards.map view =
      reported.shards.map (adoptedView password) := by
  rw [Cluster.stored, allocate_map view_renumber, Cluster.setPassword, List.map_map, List.map_map]
  refine List.map_congr_left fun shard member => ?_
  simp only [Function.comp_apply, view, adoptedView, Shard.stored, List.map_map, (opened shard member).idle]
  rfl

/-- The id of the master can be read off the fields. -/
theorem master_fields (shard : Shard) : shard.getMasterNode.map (·.id) =
    ((shard.nodes.map (·.fields)).find? fun fields => fields.2.2.1 == roleMaster).map (·.1) := by
  rw [List.find?_map, Option.map_map]
  rfl

variable {password : String} {shard new old : Shard} (same : view new = adoptedView password shard)
include same

theorem view_nodes : new.nodes.map (·.fields) = shard.nodes.map fun node => (node.setPassword password).fields :=
  congrArg Prod.fst same

theorem sameShard_iff : SameShard old new ↔ SameShard old shard := by
  have master : new.getMasterNode.map (·.id) = shard.getMasterNode.map (·.id) := by
    rw [master_fields, view_nodes same, Shard.getMasterNode, List.find?_map, Option.map_map]
    rfl
  have ranges : new.slotRanges = shard.slotRanges := congrArg (·.2.1) same
  simp only [SameShard, SameMaster, master, ranges]

theorem read_node (member : node ∈ new.nodes) : node.password = password ∧ ∃ named ∈ shard.nodes, named.id = node.id := by
  have listed : node.fields ∈ shard.nodes.map fun node => (node.setPassword password).fields :=
    view_nodes same ▸ List.mem_map_of_mem member
  obtain ⟨named, inside, fields⟩ := List.mem_map.mp listed
  exact ⟨(congrArg (·.2.2.2.1) fields).symm, named, inside, congrArg (·.1) fields⟩

theorem named_node (member : named ∈ shard.nodes) :
    ∃ node ∈ new.nodes, node.id = named.id ∧ node.password = password := by
  have listed : (named.setPassword password).fields ∈ new.nodes.map (·.fields) :=
    view_nodes same ▸ List.mem_map_of_mem member
  obtain ⟨node, inside, fields⟩ := List.mem_map.mp listed
  exact ⟨node, inside, congrArg (·.1) fields, congrArg (·.2.2.2.1) fields⟩

end ReadBack

section Keeping
variable {before after reported : Cluster} {password : String}
  (views : after.shards.map view = reported.shards.map (adoptedView password))
include views

/-- A shard that is read back is a shard of the text. -/
theorem read_shard (member : new ∈ after.shards) : ∃ shard ∈ reported.shards, view new = adoptedView password shard := by
  obtain ⟨shard, inside, same⟩ := List.mem_map.mp (views ▸ List.mem_map_of_mem (f := view) member)
  exact ⟨shard, inside, same.symm⟩

theorem named_shard (member : shard ∈ reported.shards) : ∃ new ∈ after.shards, view new = adoptedView password shard :=
  List.mem_map.mp (views ▸ List.mem_map_of_mem member)

theorem keepsPasswords_iff : KeepsPasswords before after ↔
    ∀ old ∈ before.getNodes, ∀ named ∈ reported.getNodes, named.id = old.id → old.password = password := by
  constructor
  · intro passwords old member named listed sameId
    obtain ⟨shard, inside, listed⟩ := List.mem_flatMap.mp listed
    obtain ⟨new, there, same⟩ := named_shard views inside
    obtain ⟨node, among, id, word⟩ := named_node same listed
    have kept := passwords old member node (List.mem_flatMap.mpr ⟨new, there, among⟩) (id.trans sameId)
    exact kept.symm.trans word
  · intro passwords old member node listed sameId
    obtain ⟨new, there, among⟩ := List.mem_flatMap.mp listed
    obtain ⟨shard, inside, same⟩ := read_shard views there
    obtain ⟨word, named, listed, id⟩ := read_node same among
    have kept := passwords old member named (List.mem_flatMap.mpr ⟨shard, inside, listed⟩) (id.trans sameId)
    exact word.trans kept.symm

theorem keepsMigrations_iff : KeepsMigrations before after ↔
    ∀ old ∈ before.shards, ∀ shard ∈ reported.shards, SameShard old shard → old.migratingSlot = none := by
  constructor
  · intro migrations old member shard inside sameShard
    obtain ⟨new, there, same⟩ := named_shard views inside
    cases record : old.migratingSlot with
    | none => rfl
    | some slot =>
      have kept := (migrations old member new there ((sameShard_iff same).mpr sameShard) slot record).1
      rw [show new.migratingSlot = none from congrArg (·.2.2) same] at kept
      cases kept
  · intro migrations old member new there sameShard slot record
    obtain ⟨shard, inside, same⟩ := read_shard views there
    rw [migrations old member shard inside ((sameShard_iff same).mp sameShard)] at record
    cases record

end Keeping

/-- Once it is stored, an adoption keeps the passwords and the migrations exactly if the
nodes that the text names have the first node's password, and no shard that the text
has as it was is migrating. -/
theorem adoption_keeps {kv kv' : KV} {before probed reported : Cluster}
    (read : getCluster (flat .none) ns probed.name kv = .ok before)
    (accepted : parseCluster (latest probed.version answers).clusterNodesStr = .ok reported)
    (first : firstPassword probed = .ok password) (chosen : adoption probed answers = .ok (some adopted))
    (stored : setCluster (flat faults) ns adopted kv = (kv', none)) :
    ∃ after, getCluster (flat .none) ns probed.name kv' = .ok after ∧ before.version ≤ after.version ∧
      (KeepsPasswords before after ∧ KeepsMigrations before after ↔
        (∀ old ∈ before.getNodes, ∀ named ∈ reported.getNodes, named.id = old.id → old.password = password) ∧
          ∀ old ∈ before.shards, ∀ shard ∈ reported.shards, SameShard old shard → old.migratingSlot = none) := by
  obtain ⟨reported', password', accepted', first', rfl⟩ := adoptionBy_ok chosen
  obtain rfl := Except.ok.inj (accepted.symm.trans accepted')
  obtain rfl := Except.ok.inj (first.symm.trans first')
  have opened := parseClusterBy_opened accepted sortShards_perm
  have views := stored_views opened password probed.name
  set adopted := Cluster.setPassword password { reported with name := probed.name } with isAdopted
  have bounds : adopted.InBounds := by
    intro shard member
    obtain ⟨original, inside, rfl⟩ := List.mem_map.mp member
    refine ⟨(opened original inside).ranges, fun slot migrating => ?_⟩
    simp [(opened original inside).idle] at migrating
  obtain ⟨reads, notAbove⟩ := flat_setCluster_stored bounds read stored
  exact ⟨adopted.stored, reads, notAbove, and_congr (keepsPasswords_iff views) (keepsMigrations_iff views)⟩

section Samples

/-- Two shards; the replica's password and the first shard's migration are given. -/
def pair (word : String) (targetShardIndex : Int) (migratingSlot : Option MigratingSlot) : Cluster where
  name := "c"
  version := 1
  shards := [⟨[⟨0, "x", "a:1", roleMaster, "p", 0⟩, ⟨1, "y", "b:1", roleSlave, word, 0⟩], [⟨0, 5⟩], targetShardIndex,
      migratingSlot⟩,
    ⟨[⟨2, "z", "c:1", roleMaster, "p", 0⟩], [⟨6, 9⟩], -1, none⟩]

def pairAnswers : List Answer :=
  [⟨2, .ok "x a:1 master - 0 0 2 connected 0-5\ny b:1 slave x 0 0 2 connected\nz c:1 master - 0 0 2 connected 6-9"⟩]

def pairStore (cluster : Cluster) : KV :=
  (∅ : KV).insert (buildClusterKey "ns" "c") (.json cluster.marshalJSON)

/-- The cluster of the text. -/
def pairReported : Cluster where
  name := ""
  version := 2
  shards := [⟨[⟨0, "x", "a:1", roleMaster, "", 0⟩, ⟨1, "y", "b:1", roleSlave, "", 0⟩], [⟨0, 5⟩], -1, none⟩,
    ⟨[⟨2, "z", "c:1", roleMaster, "", 0⟩], [⟨6, 9⟩], -1, none⟩]

def pairAdopted : Cluster := Cluster.setPassword "p" { pairReported with name := "c" }

theorem pair_accepted : parseCluster (latest 1 pairAnswers).clusterNodesStr = .ok pairReported := by
  decide +kernel

theorem pair_adopts (word : String) (targetShardIndex : Int) (migratingSlot : Option MigratingSlot) :
    adoption (pair word targetShardIndex migratingSlot) pairAnswers = .ok (some pairAdopted) := by
  have newer : (latest 1 pairAnswers).nodeVersion > 1 ∧ (latest 1 pairAnswers).clusterNodesStr ≠ "" := by
    decide +kernel
  have version : (pair word targetShardIndex migratingSlot).version = 1 := rfl
  simp only [adoption, adoptionBy, version, if_pos newer, pair_accepted]
  rfl

end Samples

/-- One password, no migration: nothing is lost. -/
theorem adoption_keeps_pair :
    ∃ after, getCluster (flat .none) "ns" "c"
        (setCluster (flat .none) "ns" pairAdopted (pairStore (pair "p" (-1) none))).1 = .ok after ∧
      KeepsPasswords (pair "p" (-1) none) after ∧ KeepsMigrations (pair "p" (-1) none) after := by
  have read : getCluster (flat .none) "ns" (pair "p" (-1) none).name (pairStore (pair "p" (-1) none)) =
      .ok (pair "p" (-1) none) := by decide +kernel
  have done : (setCluster (flat .none) "ns" pairAdopted (pairStore (pair "p" (-1) none))).2 = none := by decide +kernel
  obtain ⟨after, reads, _, kept⟩ := adoption_keeps read pair_accepted rfl (pair_adopts _ _ _) (Prod.ext rfl done)
  refine ⟨after, reads, kept.mpr ⟨by decide +kernel, ?_⟩⟩
  intro old member _ _ _
  simp only [pair, List.mem_cons, List.not_mem_nil, or_false] at member
  rcases member with rfl | rfl <;> rfl

/-- A replica that was added with a password of its own gets the first node's, and a
running migration is forgotten. -/
theorem adoption_forgets :
    let before := pair "q" 1 (some ⟨⟨0, 0⟩, true⟩)
    adoption before pairAnswers = .ok (some pairAdopted) ∧
      (setCluster (flat .none) "ns" pairAdopted (pairStore before)).2 = none ∧
      ∃ after, getCluster (flat .none) "ns" "c" (setCluster (flat .none) "ns" pairAdopted (pairStore before)).1 =
          .ok after ∧ ¬ KeepsPasswords before after ∧ ¬ KeepsMigrations before after := by
  refine ⟨pair_adopts _ _ _, by decide +kernel, pairAdopted, by decide +kernel, ?_, ?_⟩
  · intro kept
    have lost := kept ⟨1, "y", "b:1", roleSlave, "q", 0⟩ (by decide) ⟨1, "y", "b:1", roleSlave, "p", 0⟩ (by decide) rfl
    exact absurd lost (by decide)
  · intro kept
    have lost := kept _ (List.mem_cons_self) _ (List.mem_cons_self) ⟨⟨"x", rfl, rfl⟩, rfl⟩ _ rfl
    cases lost.1

end Kvrocks.Probe
