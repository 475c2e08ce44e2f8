import KvrocksController.Server.Addresses
import KvrocksController.Topology.Bounds
import KvrocksController.Topology.Masters

/-! What every record keeps, whoever writes it. Handlers and checkers hold cluster objects:
they read or build one, edit it and hand it to the store, and between any two of these
anything can happen. An object may be stale, but whatever each edit keeps of the object it
starts from holds of every record. -/
namespace Kvrocks.Server.Records
open Kvrocks.Transition Kvrocks.Topology Kvrocks.Interval ClusterStore

/-- A goroutine of a handler or a checker, with its cluster object. -/
structure Work where
  ns : String
  cluster : Cluster

structure State where
  kv : KV
  work : Nat → Option Work

def State.assign (s : State) (g : Nat) (work : Option Work) : State :=
  { s with work := fun other => if other = g then work else s.work other }

def State.initial : State := ⟨∅, fun _ => none⟩

inductive Label where
  | read (g : Nat) (ns name : String) (faults : Faults)
  | clone (g other : Nat)
  | make (g : Nat) (ns : String) (nodes : List String) (replicas : Int)
  | load (g : Nat) (ns : String) (reported : Cluster)
  | edit (g : Nat)
  | adopt (g : Nat) (latest : Cluster)
  | create (g : Nat) (faults : Faults)
  | update (g : Nat) (faults : Faults)
  | replace (g : Nat) (faults : Faults)
  | remove (ns name : String) (faults : Faults)
  | createNamespace (ns : String) (faults : Faults)
  | removeNamespace (ns : String) (faults : Faults)

/-- The edits of an object: those of the handlers, a failover, one round of a status pass. -/
inductive Derived (cluster : Cluster) : Cluster → Prop where
  | requested {env : Env KV} (edit : Edit env request cluster endpoint next) : Derived cluster next
  | failedOver (promoted : cluster.promoteNewMaster replies shardIndex masterNodeID preferredNodeID =
        .ok (next, newMasterNodeID)) : Derived cluster next
  | concluded (edit : StatusEdit cluster i next) : Derived cluster next

/-- Any goroutine may hand its object to any of the calls that store one. -/
inductive Step : State → Label → State → Prop where
  | read (read : getCluster (etcd faults) ns name s.kv = .ok cluster) :
      Step s (.read g ns name faults) (s.assign g (some ⟨ns, cluster⟩))
  | cloned (holds : s.work g = some work) : Step s (.clone g other) (s.assign other (some work))
  | made (made : newCluster draw name nodes replicas = .ok cluster) :
      Step s (.make g ns nodes replicas) (s.assign g (some ⟨ns, cluster.setPassword password⟩))
  | loaded (parsed : parseClusterBy sort text = .ok reported) (permutes : ∀ shards, (sort shards).Perm shards) :
      Step s (.load g ns reported) (s.assign g (some ⟨ns, { reported.setPassword password with name }⟩))
  | edited (holds : s.work g = some work) (derived : Derived work.cluster next) :
      Step s (.edit g) (s.assign g (some { work with cluster := next }))
  | adopted (holds : s.work g = some work)
      (chosen : Probe.adoptionBy (parseClusterBy sort) work.cluster answers = .ok (some latest))
      (permutes : ∀ shards, (sort shards).Perm shards) :
      Step s (.adopt g latest) (s.assign g (some { work with cluster := latest }))
  | created (holds : s.work g = some work) :
      Step s (.create g faults) { s with kv := (createCluster (etcd faults) work.ns work.cluster s.kv).1 }
  | updated (holds : s.work g = some work)
      (result : updateCluster (etcd faults) work.ns s.kv work.cluster = ⟨kv, version, err⟩) :
      Step s (.update g faults) { s.assign g (some { work with cluster := { work.cluster with version } }) with kv }
  | replaced (holds : s.work g = some work) :
      Step s (.replace g faults) { s with kv := (setCluster (etcd faults) work.ns work.cluster s.kv).1 }
  | removed : Step s (.remove ns name faults) { s with kv := (removeCluster (etcd faults) ns name s.kv).1 }
  | createdNamespace :
      Step s (.createNamespace ns faults) { s with kv := (createNamespace (etcd faults) ns s.kv).1 }
  | removedNamespace :
      Step s (.removeNamespace ns faults) { s with kv := (removeNamespace (etcd faults) ns s.kv).1 }

section Lifting

/-- What building, editing and reading back keep of a cluster, as far as the run meets the
guard. -/
structure Kept (P : Cluster → Prop) (guard : State → Label → Prop) : Prop where
  reread : P cluster → Cluster.unmarshalJSON cluster.marshalJSON = .ok c → P c
  renumbered : P cluster → P { cluster with version }
  made : guard s (.make g ns nodes replicas) → newCluster draw name nodes replicas = .ok cluster →
    P (cluster.setPassword password)
  loaded : guard s (.load g ns reported) → parseClusterBy sort text = .ok reported →
    (∀ shards, (sort shards).Perm shards) → P { reported.setPassword password with name }
  edited : guard s (.edit g) → s.work g = some work → P work.cluster → Derived work.cluster next → P next
  adopted : guard s (.adopt g latest) → Probe.adoptionBy (parseClusterBy sort) cluster answers = .ok (some latest) →
    (∀ shards, (sort shards).Perm shards) → P latest

/-- Every record is that of a cluster with the property, and so is every object in use. -/
structure Holds (P : Cluster → Prop) (s : State) : Prop where
  records : Entries.All (fun _ value => ∀ j, value = .json j → ∃ cluster, j = Cluster.marshalJSON cluster ∧ P cluster) s.kv
  work : ∀ g work, s.work g = some work → P work.cluster

namespace Holds
variable {P : Cluster → Prop} {s : State} {guard : State → Label → Prop}

theorem initial : Holds P .initial where
  records := .empty
  work := by
    rintro g work ⟨⟩

theorem assign (holds : Holds P s) (own : P object) : Holds P (s.assign g (some ⟨ns, object⟩)) where
  records := holds.records
  work := by
    refine assigned (P := fun work : Work => P work.cluster) holds.work ?_
    rintro _ ⟨⟩
    exact own

theorem text (holds : Holds P s) : Holds P { s with kv := s.kv.insert key (.text content) } where
  records := holds.records.insert (by rintro j ⟨⟩)
  work := holds.work

theorem erase (holds : Holds P s) : Holds P { s with kv := s.kv.erase key } where
  records := holds.records.erase
  work := holds.work

theorem put (holds : Holds P s) (own : P object) : Holds P { s with kv := s.kv.insert key (.json object.marshalJSON) } where
  records := holds.records.insert fun _ same => ⟨object, (Value.json.inj same).symm, own⟩
  work := holds.work

theorem read (kept : Kept P guard) (holds : Holds P s) (read : getCluster (etcd faults) ns name s.kv = .ok cluster) :
    P cluster := by
  obtain ⟨value, stored, decoded⟩ := flat_read_ok.mp (flat_read_sound read)
  cases value with
  | text content => cases decoded
  | json j =>
    obtain ⟨record, rfl, property⟩ := holds.records _ _ stored j rfl
    exact kept.reread property decoded

section Calls

theorem created (holds : Holds P s) (own : P object) :
    Holds P { s with kv := (createCluster (etcd faults) ns object s.kv).1 } := by
  rw [etcd_createCluster]
  rcases flat_createCluster_cases faults ns s.kv object with ⟨_, refused⟩ | ⟨_, _, written⟩
  · rw [refused]
    exact holds
  · rw [written]
    exact holds.put own

theorem updated (holds : Holds P s) (own : ∀ version, P { object with version })
    (result : updateCluster (etcd faults) ns s.kv object = ⟨kv, version, err⟩) : Holds P { s with kv } := by
  rw [etcd_updateCluster] at result
  rcases flat_updateCluster_cases faults ns s.kv object with ⟨_, _, refused⟩ | ⟨_, _, _, _, written⟩
  · rw [refused] at result
    cases result
    exact holds
  · rw [written] at result
    cases result
    exact holds.put (own _)

theorem replaced (holds : Holds P s) (own : P object) :
    Holds P { s with kv := (setCluster (etcd faults) ns object s.kv).1 } := by
  rw [etcd_setCluster]
  rcases flat_setCluster_cases faults ns s.kv object with ⟨_, refused⟩ | ⟨_, _, _, _, written⟩
  · rw [refused]
    exact holds
  · rw [written]
    exact holds.put own

theorem removed (holds : Holds P s) : Holds P { s with kv := (removeCluster (etcd faults) ns name s.kv).1 } := by
  rw [etcd_removeCluster]
  rcases flat_removeCluster_cases faults ns name s.kv with ⟨_, refused⟩ | ⟨_, _, erased⟩
  · rw [refused]
    exact holds
  · rw [erased]
    exact holds.erase

theorem createdNamespace (holds : Holds P s) :
    Holds P { s with kv := (createNamespace (etcd faults) ns s.kv).1 } := by
  rcases etcd_createNamespace_cases faults ns s.kv with same | written
  · rw [same]
    exact holds
  · rw [written]
    exact holds.text

theorem removedNamespace (holds : Holds P s) :
    Holds P { s with kv := (removeNamespace (etcd faults) ns s.kv).1 } := by
  rcases etcd_removeNamespace_cases faults ns s.kv with same | ⟨_, erased⟩
  · rw [same]
    exact holds
  · rw [erased]
    exact holds.erase

end Calls

theorem step (kept : Kept P guard) (holds : Holds P s) (step : Guarded Step guard s l t) : Holds P t := by
  obtain ⟨guarded, step⟩ := step
  cases step with
  | read found => exact holds.assign (holds.read kept found)
  | cloned held => exact holds.assign (holds.work _ _ held)
  | made made => exact holds.assign (kept.made guarded made)
  | loaded parsed permutes => exact holds.assign (kept.loaded guarded parsed permutes)
  | edited held derived => exact holds.assign (kept.edited guarded held (holds.work _ _ held) derived)
  | adopted held chosen permutes => exact holds.assign (kept.adopted guarded chosen permutes)
  | created held => exact holds.created (holds.work _ _ held)
  | updated held result =>
    have own := holds.work _ _ held
    exact (holds.updated (fun _ => kept.renumbered own) result).assign (kept.renumbered own)
  | replaced held => exact holds.replaced (holds.work _ _ held)
  | removed => exact holds.removed
  | createdNamespace => exact holds.createdNamespace
  | removedNamespace => exact holds.removedNamespace

/-- What every edit keeps holds of every record, however the goroutines interleave. -/
theorem run (kept : Kept P guard) (run : Run (Guarded Step guard) .initial ls s) : Holds P s :=
  run.preserves (fun _ _ _ holds step => holds.step kept step) initial

end Holds
end Lifting

section Bounds

/-- No more shards than slots are asked for. -/
def Moderate (_ : State) : Label → Prop
  | .make _ _ nodes replicas => nodes.length / (max replicas 1).toNat ≤ 16384
  | _ => True

/-- The slot of a request was parsed, or left out. -/
theorem decoded_inBounds (bound : Context.decodeBody ClusterHandler.MigrateSlotRequest.decode body = .ok req) :
    req.slot.InBounds := by
  cases body with
  | none => cases bound
  | some j =>
    obtain ⟨field, _, bound⟩ := bind_ok bound
    obtain ⟨target, _, bound⟩ := bind_ok bound
    dsimp only at bound
    split at bound
    · obtain ⟨slot, given, bound⟩ := bind_ok bound
      obtain ⟨slotOnly, _, bound⟩ := bind_ok bound
      obtain ⟨text, _, parsed⟩ := bind_ok given
      cases bound
      exact parseSlotRange_inBounds parsed
    · obtain ⟨slot, zero, bound⟩ := bind_ok bound
      obtain ⟨slotOnly, _, bound⟩ := bind_ok bound
      cases zero
      cases bound
      exact (by decide : SlotRange.InBounds ⟨0, 0⟩)

theorem edit_inBounds {env : Env KV} (bounds : cluster.InBounds) (edit : Edit env request cluster endpoint next) :
    next.InBounds := by
  cases edit with
  | migrateSlot bound migrated => exact bounds.migrateSlot (decoded_inBounds bound) migrated
  | createShard _ created => exact bounds.createShard created
  | removeShard removed => exact bounds.removeShard removed
  | failover promoted => exact bounds.of_placements (Cluster.promoteNewMaster_placements promoted)
  | createNode _ added => exact bounds.of_placements (Cluster.addNode_placements added)
  | removeNode removed =>
    have same := Cluster.removeNode_placements cluster (ShardHandler.shardIndex request) request.idParam
    rw [removed] at same
    exact bounds.of_placements same

theorem inBounds_kept : Kept Cluster.InBounds Moderate where
  reread := fun _ decoded => Cluster.unmarshal_inBounds decoded
  renumbered := fun bounds => bounds
  made := fun few made => (Cluster.InBounds.created made few).setPassword _
  loaded := fun _ parsed permutes => (Cluster.InBounds.parsed parsed permutes).setPassword _
  edited := by
    intro s g work next _ _ bounds derived
    cases derived with
    | requested edit => exact edit_inBounds bounds edit
    | failedOver promoted => exact bounds.of_placements (Cluster.promoteNewMaster_placements promoted)
    | concluded edit => exact bounds.status edit
  adopted := fun _ chosen permutes => Cluster.InBounds.adopted chosen permutes

/-- Every record can be read, and encodes to itself again. -/
def Readable (kv : KV) : Prop :=
  ∀ (key : String) j, kv[key]? = some (.json j) → ∃ cluster, Cluster.unmarshalJSON j = .ok cluster ∧ cluster.marshalJSON = j

theorem marshal_stored (cluster : Cluster) : cluster.stored.marshalJSON = cluster.marshalJSON := by
  have slot (slot : Option MigratingSlot) :
      MigratingSlot.marshalJSON (slot.filter (·.isMigrating)) = MigratingSlot.marshalJSON slot := by
    rcases slot with _ | ⟨range, _ | _⟩ <;> rfl
  have shard (shard : Shard) : shard.stored.marshalJSON = shard.marshalJSON := by
    simp only [Shard.marshalJSON, Shard.members, Shard.stored, slot, List.map_map]
    rfl
  have blind (base : Nat) (shard : Shard) : (shard.renumber base).marshalJSON = shard.marshalJSON := by
    have nodes : (shard.renumber base).nodes.map (·.marshalJSON) = shard.nodes.map (·.marshalJSON) := by
      apply List.ext_getElem?
      intro i
      simp only [Shard.renumber, List.getElem?_map, List.getElem?_mapIdx, Option.map_map]
      rfl
    simp only [Shard.marshalJSON, Shard.members, nodes]
    rfl
  have shards : cluster.stored.shards.map (·.marshalJSON) = cluster.shards.map (·.marshalJSON) := by
    rw [Cluster.stored, allocate_map blind, List.map_map]
    exact List.map_congr_left fun _ _ => shard _
  simp only [Cluster.marshalJSON, Cluster.members, shards]
  rfl

theorem Holds.readable {s : State} (holds : Holds Cluster.InBounds s) : Readable s.kv := by
  intro key j stored
  obtain ⟨cluster, rfl, bounds⟩ := holds.records key _ stored j rfl
  exact ⟨cluster.stored, Cluster.unmarshal_marshal bounds, marshal_stored cluster⟩

/-- A request asks for no more shards than slots. -/
def Bounded (_ : KV) (call : Addresses.Call) : Prop :=
  call.route.endpoint = .createCluster →
    ∀ req, Context.decodeBody ClusterHandler.CreateClusterRequest.decode call.request.body = .ok req →
      req.nodes.length / (max req.replicas 1).toNat ≤ 16384

@[simp] theorem assign_self (s : State) (g : Nat) (work : Option Work) : (s.assign g work).work g = work := by
  simp [State.assign]

/-- A request that nothing interrupts is a run of the goroutine that serves it. -/
theorem effect_run {env : Env KV} {s : State} (engine : env.engine = etcd reads) (mutator : env.mutator = etcd writes)
    (few : endpoint = .createCluster →
      ∀ req, Context.decodeBody ClusterHandler.CreateClusterRequest.decode request.body = .ok req →
        req.nodes.length / (max req.replicas 1).toNat ≤ 16384)
    (effect : Effect env request s.kv endpoint kv) :
    ∃ ls t, Run (Guarded Step Moderate) s ls t ∧ t.kv = kv := by
  cases effect with
  | none => exact ⟨_, _, .nil, rfl⟩
  | createdNamespace bound =>
    rw [mutator]
    exact ⟨[.createNamespace _ _], _, .cons ⟨trivial, .createdNamespace⟩ .nil, rfl⟩
  | removedNamespace =>
    rw [mutator]
    exact ⟨[.removeNamespace _ _], _, .cons ⟨trivial, .removedNamespace⟩ .nil, rfl⟩
  | createdCluster there bound fresh made =>
    rw [mutator]
    exact ⟨[.make 0 _ _ _, .create 0 _], _,
      .cons ⟨few rfl _ bound, .made made⟩ (.cons ⟨trivial, .created (assign_self ..)⟩ .nil), rfl⟩
  | importedCluster there bound named reported parsed fresh =>
    rw [mutator]
    exact ⟨[.load 0 _ _, .create 0 _], _,
      .cons ⟨trivial, .loaded parsed sortShards_perm⟩ (.cons ⟨trivial, .created (assign_self ..)⟩ .nil), rfl⟩
  | removedCluster =>
    rw [mutator]
    exact ⟨[.remove _ _ _], _, .cons ⟨trivial, .removed⟩ .nil, rfl⟩
  | edited read edit =>
    rw [engine] at read
    rw [mutator]
    exact ⟨[.read 0 _ _ _, .edit 0, .update 0 _], _,
      .cons ⟨trivial, .read read⟩ (.cons ⟨trivial, .edited (assign_self ..) (.requested edit)⟩
        (.cons ⟨trivial, .updated (assign_self ..) rfl⟩ .nil)), rfl⟩

theorem calls_run {s : State} (calls : Run (Guarded Addresses.Step Bounded) s.kv cs kv) :
    ∃ ls t, Run (Guarded Step Moderate) s ls t ∧ t.kv = kv := by
  generalize start : s.kv = before at calls
  induction calls generalizing s with
  | nil => exact ⟨_, _, .nil, start⟩
  | cons head rest ih =>
    subst start
    obtain ⟨bounded, step⟩ := head
    cases step with
    | served engine mutator registered =>
      obtain ⟨ls, m, first, there⟩ := effect_run engine mutator bounded (serve_effect _ _ s.kv registered)
      obtain ⟨ms, t, second, done⟩ := ih there
      exact ⟨ls ++ ms, t, first.append second, done⟩

/-- As long as nobody asks for more shards than slots, every record in the store can be
read: after any interleaving of handlers and checkers, and after any requests served one by
one from there. -/
theorem records_readable (run : Run (Guarded Step Moderate) .initial ls s)
    (calls : Run (Guarded Addresses.Step Bounded) s.kv cs kv) : Readable s.kv ∧ Readable kv := by
  obtain ⟨ms, t, onward, rfl⟩ := calls_run calls
  exact ⟨(Holds.run inBounds_kept run).readable, (Holds.run inBounds_kept (run.append onward)).readable⟩

/-- A cluster made by one goroutine, and a request for another one. -/
theorem records_readable_requested : ∃ s kv,
    Run (Guarded Step Moderate) .initial
      [.createNamespace "ns" .none, .make 0 "ns" ["a:1", "b:1"] 1, .create 0 .none] s ∧
    Run (Guarded Addresses.Step Bounded) s.kv [Addresses.createCluster "d" ["e:1"]] kv ∧ Readable s.kv ∧ Readable kv ∧
    Addresses.addrsOf "c" kv = .ok ["a:1", "b:1"] ∧ Addresses.addrsOf "d" kv = .ok ["e:1"] := by
  have made : newCluster sampleDraw "c" ["a:1", "b:1"] 1 = .ok twoNodes := by decide +kernel
  have few : ["a:1", "b:1"].length / (max (1 : Int) 1).toNat ≤ 16384 := by decide
  have first (s : State) : Step s (.make 0 "ns" ["a:1", "b:1"] 1) (s.assign 0 (some ⟨"ns", twoNodes.setPassword ""⟩)) :=
    .made made
  have bounded (kv : KV) : Bounded kv (Addresses.createCluster "d" ["e:1"]) := by
    intro _ req bound
    obtain rfl := Except.ok.inj ((Addresses.createCluster_decodes "d" ["e:1"]).symm.trans bound)
    decide
  have runs : ∃ s kv, Run (Guarded Step Moderate) .initial
        [.createNamespace "ns" .none, .make 0 "ns" ["a:1", "b:1"] 1, .create 0 .none] s ∧
      Run (Guarded Addresses.Step Bounded) s.kv [Addresses.createCluster "d" ["e:1"]] kv ∧
      Addresses.addrsOf "c" kv = .ok ["a:1", "b:1"] ∧ Addresses.addrsOf "d" kv = .ok ["e:1"] :=
    ⟨_, _, .cons ⟨trivial, .createdNamespace⟩ (.cons ⟨few, first _⟩ (.cons ⟨trivial, .created (assign_self ..)⟩ .nil)),
      .cons ⟨bounded _, .served rfl rfl (by decide)⟩ .nil, by decide +kernel, by decide +kernel⟩
  obtain ⟨s, kv, run, calls, first, second⟩ := runs
  obtain ⟨before, after⟩ := records_readable run calls
  exact ⟨s, kv, run, calls, before, after, first, second⟩

end Bounds

section Slots

/-- Besides, what the nodes report gives every slot to one shard. -/
def Whole (_ : State) : Label → Prop
  | .make _ _ nodes replicas => nodes.length / (max replicas 1).toNat ≤ 16384
  | .load _ _ reported => Owned reported.shards
  | .adopt _ latest => Owned latest.shards
  | _ => True

theorem edit_owned {env : Env KV} (owned : Owned cluster.shards) (edit : Edit env request cluster endpoint next) :
    Owned next.shards := by
  cases edit with
  | migrateSlot bound migrated => exact owned.migrateSlot (decoded_inBounds bound) migrated
  | createShard _ created =>
    rw [(ShardHandler.create_ok created).2]
    exact owned.append rfl rfl
  | removeShard removed =>
    obtain ⟨i, shard, _, found, idle, shards⟩ := ShardHandler.remove_ok removed
    rw [shards]
    exact owned.erase found idle
  | failover promoted => exact owned.of_placements (Cluster.promoteNewMaster_placements promoted)
  | createNode _ added => exact owned.of_placements (Cluster.addNode_placements added)
  | removeNode removed =>
    have same := Cluster.removeNode_placements cluster (ShardHandler.shardIndex request) request.idParam
    rw [removed] at same
    exact owned.of_placements same

theorem owned_setPassword (owned : Owned shards) (cluster : Cluster) (same : cluster.shards = shards) (password : String) :
    Owned (cluster.setPassword password).shards := by
  subst same
  refine owned.of_placements ?_
  simp only [Cluster.setPassword, List.map_map]
  rfl

theorem owned_kept : Kept (Owned ·.shards) Whole where
  reread := by
    intro cluster c owned decoded
    rw [Cluster.unmarshal_marshal owned.inBounds] at decoded
    obtain rfl := Except.ok.inj decoded
    exact owned.stored
  renumbered := fun owned => owned
  made := by
    intro s g ns nodes replicas draw name cluster password few made
    refine owned_setPassword (.create made ?_) cluster rfl password
    obtain ⟨_, rfl⟩ := newCluster_creates.mp made
    rwa [newClusterShards, List.length_map, List.length_range]
  loaded := fun whole _ _ => owned_setPassword whole _ rfl _
  edited := by
    intro s g work next _ _ owned derived
    cases derived with
    | requested edit => exact edit_owned owned edit
    | failedOver promoted => exact owned.of_placements (Cluster.promoteNewMaster_placements promoted)
    | concluded edit => exact owned.status edit
  adopted := fun whole _ _ => whole

/-- Every record gives each slot to exactly one shard, in sorted and separated ranges, and
a migrating range to the shard that owns it, however stale the objects are that the
goroutines work on; none of these objects is worse. -/
theorem stored_slots_partition (run : Run (Guarded Step Whole) .initial ls s) :
    Readable s.kv ∧ (∀ faults ns name cluster, getCluster (etcd faults) ns name s.kv = .ok cluster → Owned cluster.shards) ∧
      ∀ g work, s.work g = some work → Owned work.cluster.shards := by
  have holds := Holds.run owned_kept run
  have bounds : Holds Cluster.InBounds s := by
    refine ⟨fun key value stored j encoded => ?_, fun g work held => (holds.work g work held).inBounds⟩
    obtain ⟨cluster, same, owned⟩ := holds.records key value stored j encoded
    exact ⟨cluster, same, owned.inBounds⟩
  exact ⟨bounds.readable, fun faults ns name cluster read => holds.read owned_kept read, holds.work⟩

section Samples

/-- Slot 0 to the second shard, without its data. -/
def moveFirst : Request := { namespaceRequest with body := some (.obj [("target", .num 1), ("slot_only", .bool true)]) }

end Samples

/-- One goroutine makes a cluster, another one reads it and moves a slot. -/
theorem stored_slots_partition_moved : ∃ s cluster,
    Run (Guarded Step Whole) .initial
      [.make 0 "ns" ["a:1", "b:1"] 1, .create 0 .none, .read 1 "ns" "c" .none, .edit 1, .update 1 .none] s ∧
    getCluster (etcd .none) "ns" "c" s.kv = .ok cluster ∧ Owned cluster.shards ∧
    cluster.shards.map (·.slotRanges) = [[⟨1, 8191⟩], [⟨0, 0⟩, ⟨8192, 16383⟩]] := by
  have made : newCluster sampleDraw "c" ["a:1", "b:1"] 1 = .ok twoNodes := by decide +kernel
  have few : ["a:1", "b:1"].length / (max (1 : Int) 1).toNat ≤ 16384 := by decide
  have first (s : State) : Step s (.make 0 "ns" ["a:1", "b:1"] 1) (s.assign 0 (some ⟨"ns", twoNodes.setPassword ""⟩)) :=
    .made made
  have found : getCluster (etcd .none) "ns" "c" (createCluster (etcd .none) "ns" (twoNodes.setPassword "") ∅).1 =
      .ok twoNodes.stored := by decide +kernel
  have bound : Context.decodeBody ClusterHandler.MigrateSlotRequest.decode moveFirst.body = .ok ⟨1, ⟨0, 0⟩, true⟩ := rfl
  have migrated : twoNodes.stored.migrateSlot Addresses.server.replies ⟨0, 0⟩ 1 true =
      (twoNodes.stored.moveSlot ⟨0, 0⟩ 0 1, none) := by decide +kernel
  have runs : ∃ s cluster, Run (Guarded Step Whole) .initial
        [.make 0 "ns" ["a:1", "b:1"] 1, .create 0 .none, .read 1 "ns" "c" .none, .edit 1, .update 1 .none] s ∧
      getCluster (etcd .none) "ns" "c" s.kv = .ok cluster ∧
      cluster.shards.map (·.slotRanges) = [[⟨1, 8191⟩], [⟨0, 0⟩, ⟨8192, 16383⟩]] :=
    ⟨_, { twoNodes.stored.moveSlot ⟨0, 0⟩ 0 1 with version := 2 },
      .cons ⟨few, first _⟩ (.cons ⟨trivial, .created (assign_self ..)⟩ (.cons ⟨trivial, .read found⟩
        (.cons ⟨trivial, .edited (assign_self ..) (.requested (.migrateSlot bound migrated))⟩
          (.cons ⟨trivial, .updated (assign_self ..) rfl⟩ .nil)))), by decide +kernel, by decide +kernel⟩
  obtain ⟨s, cluster, run, read, moved⟩ := runs
  exact ⟨s, cluster, run, read, (stored_slots_partition run).2.1 _ _ _ _ read, moved⟩

end Slots

section Masters

/-- The text of a node names no master twice, and the nodes of a shard that is edited have
distinct IDs. -/
def Identified (s : State) : Label → Prop
  | .load _ _ reported => (reported.shards.map fun shard => shard.getMasterNode.map (·.id)).Nodup
  | .adopt _ latest => (latest.shards.map fun shard => shard.getMasterNode.map (·.id)).Nodup
  | .edit g => ∀ work, s.work g = some work → DistinctIDs work.cluster
  | _ => True

theorem led_map {alone : Prop} {f : ClusterNode → ClusterNode} (led : Led alone lists) (ptr : ∀ node, (f node).ptr = node.ptr)
    (role : ∀ node, (f node).role = node.role) : Led alone (lists.map (List.map f)) where
  apart := by
    intro nodes member
    obtain ⟨before, listed, rfl⟩ := List.mem_map.mp member
    have same : (ClusterNode.ptr ∘ f) = ClusterNode.ptr := funext ptr
    rw [List.map_map, same]
    exact led.apart before listed
  master := by
    intro nodes member
    obtain ⟨before, listed, rfl⟩ := List.mem_map.mp member
    obtain ⟨master, inside, leads, others⟩ := led.master before listed
    refine ⟨f master, List.mem_map_of_mem inside, (role master).trans leads, ?_⟩
    intro renamed here distinct
    obtain ⟨node, stood, rfl⟩ := List.mem_map.mp here
    rw [ptr, ptr] at distinct
    exact (role node).trans (others node stood distinct)
  unshared := by
    intro known
    rw [List.pairwise_map]
    refine (led.unshared known).imp fun foreign first here second there => ?_
    obtain ⟨node, stood, rfl⟩ := List.mem_map.mp here
    obtain ⟨other, also, rfl⟩ := List.mem_map.mp there
    rw [ptr, ptr]
    exact foreign node stood other also

theorem led_setPassword {alone : Prop} {cluster : Cluster} (led : Led alone (nodeLists cluster)) (password : String) :
    Led alone (nodeLists (cluster.setPassword password)) := by
  have lists : nodeLists (cluster.setPassword password) = (nodeLists cluster).map (List.map (·.setPassword password)) := by
    simp only [nodeLists, Cluster.setPassword, List.map_map]
    rfl
  rw [lists]
  exact led_map led (fun _ => rfl) fun _ => rfl

theorem masters_setPassword (password : String) (cluster : Cluster) :
    ((cluster.setPassword password).shards.map fun shard => shard.getMasterNode.map (·.id)) =
      cluster.shards.map fun shard => shard.getMasterNode.map (·.id) := by
  simp only [Cluster.setPassword, List.map_map]
  refine List.map_congr_left fun shard _ => ?_
  simp only [Function.comp_apply, Shard.getMasterNode, List.find?_map, Option.map_map]
  rfl

theorem edit_led {env : Env KV} (ids : DistinctIDs cluster) (led : Led True (nodeLists cluster))
    (edit : Edit env request cluster endpoint next) : Led True (nodeLists next) := by
  cases edit with
  | migrateSlot _ migrated => exact Led.nodeLists_migrateSlot migrated ▸ led
  | createShard _ created => exact led.createShard created
  | removeShard removed =>
    obtain ⟨i, _, _, _, _, shards⟩ := ShardHandler.remove_ok removed
    rw [nodeLists, shards, ← List.eraseIdx_map]
    exact led.erase i
  | failover promoted => exact led.promoteNewMaster (led.unshared trivial) promoted
  | createNode _ added => exact led.addNode added
  | removeNode removed =>
    have kept := led.removeNode ids (ShardHandler.shardIndex request) request.idParam
    rwa [removed] at kept

theorem led_kept : Kept (fun cluster => Led True (nodeLists cluster)) Identified where
  reread := fun led decoded => led.roundTrip decoded
  renumbered := fun led => led
  made := fun _ made => led_setPassword (Led.created made) _
  loaded := by
    intro s g ns reported sort text password name once parsed permutes
    exact led_setPassword ((Led.parsed parsed permutes).mono fun _ => once) password
  edited := by
    intro s g work next distinct held led derived
    cases derived with
    | requested edit => exact edit_led (distinct work held) led edit
    | failedOver promoted => exact led.promoteNewMaster (led.unshared trivial) promoted
    | concluded edit => exact Led.nodeLists_status edit ▸ led
  adopted := by
    intro s g latest sort cluster answers once chosen permutes
    obtain ⟨reported, password, parsed, _, rfl⟩ := Probe.adoptionBy_ok chosen
    have named : (reported.shards.map fun shard => shard.getMasterNode.map (·.id)).Nodup :=
      masters_setPassword password { reported with name := cluster.name } ▸ once
    have led : Led True (nodeLists { reported with name := cluster.name }) :=
      (Led.parsed parsed permutes).mono fun _ => named
    exact led_setPassword led password

/-- Every cluster that is read from the store has one master in each shard and slaves
besides, so its topology can be rendered and no lookup of a master fails. -/
theorem stored_shards_led (run : Run (Guarded Step Identified) .initial ls s)
    (read : getCluster (etcd faults) ns name s.kv = .ok cluster) :
    (∀ shard ∈ cluster.shards, ∃ (i : Nat) (master : ClusterNode), shard.nodes[i]? = some master ∧
      master.role = roleMaster ∧ ∀ (j : Nat) node, shard.nodes[j]? = some node → j ≠ i → node.role = roleSlave) ∧
    (∃ text, cluster.toSlotString = .ok text) ∧
    ∀ shard ∈ cluster.shards, ∃ node, shard.getMasterNode = some node := by
  have led := (Holds.run led_kept run).read led_kept read
  have masters (shard : Shard) (member : shard ∈ cluster.shards) : ∃ node ∈ shard.nodes, node.role = roleMaster := by
    obtain ⟨master, inside, role, _⟩ := led.master _ (List.mem_map_of_mem member)
    exact ⟨master, inside, role⟩
  refine ⟨fun shard member => ?_, Cluster.toSlotString_ok masters, fun shard member => ?_⟩
  · have listed : shard.nodes ∈ nodeLists cluster := List.mem_map_of_mem member
    exact (Led.oneMaster_iff (led.apart _ listed)).mp (led.master _ listed)
  · obtain ⟨node, inside, role⟩ := masters shard member
    exact Shard.getMasterNode_isSome inside role

section Samples

/-- A master and its replica. -/
def replicated : Cluster where
  name := "c"
  version := 1
  shards := [⟨[⟨0, "x", "a:1", roleMaster, "", 0⟩, ⟨1, "y", "b:1", roleSlave, "", 0⟩], [⟨0, 16383⟩], -1, none⟩]

def replaced : Cluster where
  name := "c"
  version := 1
  shards := [⟨[⟨0, "x", "a:1", roleSlave, "", 0⟩, ⟨1, "y", "b:1", roleMaster, "", 0⟩], [⟨0, 16383⟩], -1, none⟩]

end Samples

/-- A checker fails the master over. -/
theorem stored_shards_led_failover : ∃ s cluster,
    Run (Guarded Step Identified) .initial
      [.make 0 "ns" ["a:1", "b:1"] 2, .create 0 .none, .read 1 "ns" "c" .none, .edit 1, .update 1 .none] s ∧
    getCluster (etcd .none) "ns" "c" s.kv = .ok cluster ∧
    cluster.shards.map (fun shard => shard.nodes.map (·.role)) = [[roleSlave, roleMaster]] ∧
    ∃ text, cluster.toSlotString = .ok text := by
  have made : newCluster sampleDraw "c" ["a:1", "b:1"] 2 = .ok replicated := by decide +kernel
  have first (s : State) : Step s (.make 0 "ns" ["a:1", "b:1"] 2) (s.assign 0 (some ⟨"ns", replicated.setPassword ""⟩)) :=
    .made made
  have found : getCluster (etcd .none) "ns" "c" (createCluster (etcd .none) "ns" (replicated.setPassword "") ∅).1 =
      .ok replicated := by decide +kernel
  have promoted : replicated.promoteNewMaster (answering "none" ⟨0, 0⟩) 0 "x" "" = .ok (replaced, "y") := by
    decide +kernel
  have distinct (s : State) (holds : s.work 1 = some ⟨"ns", replicated⟩) : Identified s (.edit 1) := by
    intro work held
    obtain rfl := Option.some.inj (holds.symm.trans held)
    decide
  have runs : ∃ s cluster, Run (Guarded Step Identified) .initial
        [.make 0 "ns" ["a:1", "b:1"] 2, .create 0 .none, .read 1 "ns" "c" .none, .edit 1, .update 1 .none] s ∧
      getCluster (etcd .none) "ns" "c" s.kv = .ok cluster ∧
      cluster.shards.map (fun shard => shard.nodes.map (·.role)) = [[roleSlave, roleMaster]] :=
    ⟨_, { replaced with version := 2 },
      .cons ⟨trivial, first _⟩ (.cons ⟨trivial, .created (assign_self ..)⟩ (.cons ⟨trivial, .read found⟩
        (.cons ⟨distinct _ (assign_self ..), .edited (assign_self ..) (.failedOver promoted)⟩
          (.cons ⟨trivial, .updated (assign_self ..) rfl⟩ .nil)))), by decide +kernel, by decide +kernel⟩
  obtain ⟨s, cluster, run, read, roles⟩ := runs
  exact ⟨s, cluster, run, read, roles, (stored_shards_led run read).2.1⟩

end Masters
end Kvrocks.Server.Records
