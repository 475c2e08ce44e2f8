import KvrocksController.Lib.Transition
import KvrocksController.Store.ClusterProofs
import KvrocksController.Store.ClusterStoreProofs
import KvrocksController.Topology.Run

/-! The `MigrateSlot` handler in data mode: it reads the cluster, has the source
master start the migration, and only then writes. Other writers run in between, and a
migration that was started is to be on record whatever they do. -/
namespace Kvrocks.MigrationRecord
open Kvrocks.Transition ClusterStore

/-- A migration the source master has accepted, and the cluster that records it. -/
structure Started where
  object : Cluster
  source : Nat
  slot : SlotRange

inductive Phase where
  | read (cluster : Cluster)
  | started (work : Started)

/-- `unrecorded` is a ghost: some handler ended with its migration running and the
store not knowing of it. -/
structure State where
  kv : KV
  handlers : Nat → Option Phase
  unrecorded : Prop

inductive Label where
  | read (handler : Nat) (faults : Faults)
  | migrate (handler : Nat) (replies : NodeReplies) (slot : SlotRange) (target : Int)
  /-- The source master takes the command, and the handler gets an error for its reply. -/
  | lost (handler : Nat) (replies : NodeReplies) (slot : SlotRange) (target : Int)
  | finish (handler : Nat) (faults : Faults)
  /-- An update of this cluster by anyone else. -/
  | update (object : Cluster) (faults : Faults)
  | elsewhere (kv : KV)

def State.assign (s : State) (handler : Nat) (phase : Option Phase) : State :=
  { s with handlers := fun other => if other = handler then phase else s.handlers other }

section System
variable (ns name : String)

/-- The store has the range as the migrating slot of its source shard. -/
def Recorded (kv : KV) (source : Nat) (slot : SlotRange) : Prop :=
  ∃ cluster shard, getCluster (flat .none) ns name kv = .ok cluster ∧
    cluster.shards[source]? = some shard ∧
    shard.migratingSlot = some ⟨slot, true⟩ ∧ shard.isMigrating = true

inductive Step : State → Label → State → Prop where
  | read (found : getCluster (flat faults) ns name s.kv = .ok cluster) :
      Step s (.read handler faults) (s.assign handler (some (.read cluster)))
  | notRead (failed : getCluster (flat faults) ns name s.kv = .error e) :
      Step s (.read handler faults) (s.assign handler none)
  | accepted (reading : s.handlers handler = some (.read cluster)) (bounds : slot.InBounds)
      (owner : cluster.findShardIndexBySlot slot = .ok source)
      (migrated : cluster.migrateSlot replies slot target false = (object, none)) :
      Step s (.migrate handler replies slot target) (s.assign handler (some (.started ⟨object, source, slot⟩)))
  | rejected (reading : s.handlers handler = some (.read cluster))
      (failed : (cluster.migrateSlot replies slot target false).2 = some fault) :
      Step s (.migrate handler replies slot target) (s.assign handler none)
  /- The node carries the command out, so with its reply the call would have gone on; the
  handler returns the error in front of the write. -/
  | lost (reading : s.handlers handler = some (.read cluster)) (bounds : slot.InBounds)
      (owner : cluster.findShardIndexBySlot slot = .ok source)
      (taken : cluster.migrateSlot { replies with migrateSlot := fun _ _ _ => .ok () } slot target false = (object, none))
      (failed : (cluster.migrateSlot replies slot target false).2 = some fault) :
      Step s (.lost handler replies slot target)
        (State.assign { s with unrecorded := s.unrecorded ∨ ¬ Recorded ns name s.kv source slot } handler none)
  | finished (running : s.handlers handler = some (.started work))
      (result : updateCluster (flat faults) ns s.kv work.object = ⟨kv, version, err⟩) :
      Step s (.finish handler faults)
        (State.assign { s with kv, unrecorded := s.unrecorded ∨ ¬ Recorded ns name kv work.source work.slot } handler none)
  | updated (named : object.name = name)
      (result : updateCluster (flat faults) ns s.kv object = ⟨kv, version, err⟩) :
      Step s (.update object faults) { s with kv }
  | elsewhere (same : kv[buildClusterKey ns name]? = s.kv[buildClusterKey ns name]?) :
      Step s (.elsewhere kv) { s with kv }

structure Start (s : State) : Prop where
  record : ∃ c : Cluster, s.kv[buildClusterKey ns name]? = some (.json c.marshalJSON) ∧ c.name = name
  handlers : ∀ handler, s.handlers handler = none
  unrecorded : ¬ s.unrecorded

/-- When a handler gets to its update, the range is on record already, or the record
can be read, is no newer than what the handler read, and the engine takes the write. The
reply of a node that takes the command is lost only where the range is on record. -/
def Commits (s : State) : Label → Prop
  | .lost handler _ slot _ => ∀ cluster source, s.handlers handler = some (.read cluster) →
      cluster.findShardIndexBySlot slot = .ok source → Recorded ns name s.kv source slot
  | .finish handler faults => ∀ work, s.handlers handler = some (.started work) →
      Recorded ns name s.kv work.source work.slot ∨
        (∃ old, getCluster (flat faults) ns name s.kv = .ok old ∧ old.version ≤ work.object.version) ∧
          ∀ e, faults.write ≠ .refused e
  | _ => True

/-- What a handler holds came from the store and can go back there. -/
def Sound : Phase → Prop
  | .read cluster => cluster.name = name ∧ cluster.InBounds
  | .started work => work.object.name = name ∧ work.object.InBounds ∧
      ∃ shard, work.object.shards[work.source]? = some shard ∧
        shard.migratingSlot = some ⟨work.slot, true⟩ ∧ shard.isMigrating = true

structure Holds (s : State) : Prop where
  record : ∃ c : Cluster, s.kv[buildClusterKey ns name]? = some (.json c.marshalJSON) ∧ c.name = name
  handlers : ∀ handler phase, s.handlers handler = some phase → Sound name phase
  recorded : ¬ s.unrecorded

end System

theorem read_sound {kv : KV} {c cluster : Cluster} (stored : kv[buildClusterKey ns name]? = some (.json c.marshalJSON))
    (named : c.name = name) (found : getCluster (flat faults) ns name kv = .ok cluster) :
    Sound name (.read cluster) := by
  refine ⟨(flat_read_version stored found).2.trans named, ?_⟩
  obtain ⟨value, present, decoded⟩ := getClusterWithoutLock_ok.mp found
  have same := (flat_get_ok.mp present).2
  rw [stored] at same
  obtain rfl := Option.some.inj same
  exact Cluster.unmarshal_inBounds decoded

theorem accepted_sound {cluster object : Cluster} (sound : Sound name (.read cluster)) (bounds : slot.InBounds)
    (owner : cluster.findShardIndexBySlot slot = .ok source)
    (migrated : cluster.migrateSlot replies slot target false = (object, none)) :
    Sound name (.started ⟨object, source, slot⟩) := by
  obtain ⟨source', t, rfl, _, _, owner', effect⟩ := Cluster.migrateSlot_ok migrated
  obtain rfl := Except.ok.inj (owner.symm.trans owner')
  rcases effect with ⟨impossible, _⟩ | ⟨_, rfl, before, _, here, _⟩
  · cases impossible
  · refine ⟨sound.1, ?_, { before with migratingSlot := some (fromSlotRange slot), targetShardIndex := t }, ?_, rfl, ?_⟩
    · intro shard member
      rcases mem_modify member with member | ⟨old, here, rfl⟩
      · exact sound.2 shard member
      · refine ⟨(sound.2 old (List.mem_of_getElem? here)).1, ?_⟩
        rintro s same _
        obtain rfl := Option.some.inj same
        exact bounds
    · simp only [Cluster.recordMigration, Cluster.modifyShard, List.getElem?_modify_eq, here]
      rfl
    · simp [Shard.isMigrating, fromSlotRange]

/-- A record that was written reads back with its migrating slots. -/
theorem written_recorded {kv : KV} (sound : Sound name (.started work)) (version : Int) :
    Recorded ns name
      (kv.insert (buildClusterKey ns name) (.json { work.object with version }.marshalJSON)) work.source work.slot := by
  obtain ⟨named, bounds, shard, here, recorded, migrating⟩ := sound
  have decoded : decode (.json { work.object with version }.marshalJSON) =
      .ok (Cluster.stored { work.object with version }) := Cluster.unmarshal_marshal bounds
  let record (shard : Shard) := (shard.migratingSlot, shard.targetShardIndex)
  have kept : (Cluster.stored { work.object with version }).shards.map record =
      (work.object.shards.map (·.stored)).map record := allocate_map (fun _ _ => rfl) 0 _
  have position : ((Cluster.stored { work.object with version }).shards.map record)[work.source]? =
      some (record shard.stored) := by
    rw [kept, List.getElem?_map, List.getElem?_map, here]
    rfl
  rw [List.getElem?_map, Option.map_eq_some_iff] at position
  obtain ⟨copy, found, same⟩ := position
  simp only [record, Shard.stored, recorded, Prod.mk.injEq] at same
  refine ⟨_, copy, getClusterWithoutLock_ok.mpr ⟨_, flat_get_ok.mpr ⟨rfl, ?_⟩, decoded⟩, found, ?_, ?_⟩
  · simp
  · rw [same.1]
    rfl
  · have aimed : shard.targetShardIndex ≠ -1 := by simpa [Shard.isMigrating, recorded] using migrating
    simp [Shard.isMigrating, same.1, same.2, Option.filter, aimed]

namespace Holds
variable {ns name : String} {s : State}

theorem assign (holds : Holds ns name s) (own : ∀ phase, after = some phase → Sound name phase) :
    Holds ns name (s.assign handler after) where
  record := holds.record
  recorded := holds.recorded
  handlers := assigned holds.handlers own

/-- Any update leaves a record of this cluster behind. -/
theorem update_record (holds : Holds ns name s) (named : object.name = name)
    (result : updateCluster (flat faults) ns s.kv object = ⟨kv, version, err⟩) :
    ∃ c : Cluster, kv[buildClusterKey ns name]? = some (.json c.marshalJSON) ∧ c.name = name := by
  subst named
  rcases flat_updateCluster_cases faults ns s.kv object with ⟨_, _, refused⟩ | ⟨old, _, _, _, written⟩
  · rw [result] at refused
    cases refused
    exact holds.record
  · rw [result] at written
    cases written
    exact ⟨_, Std.ExtTreeMap.getElem?_insert_self, rfl⟩

/-- The handler's own update puts its migration on record exactly under the condition. -/
theorem finish_recorded (holds : Holds ns name s) (running : s.handlers handler = some (.started work))
    (result : updateCluster (flat faults) ns s.kv work.object = ⟨kv, version, err⟩) :
    Recorded ns name kv work.source work.slot ↔
      Recorded ns name s.kv work.source work.slot ∨
        (∃ old, getCluster (flat faults) ns name s.kv = .ok old ∧ old.version ≤ work.object.version) ∧
          ∀ e, faults.write ≠ .refused e := by
  have sound := holds.handlers handler _ running
  obtain rfl := sound.1
  rcases updateCluster_outcome (flat faults) ns s.kv work.object with
    ⟨e, failed, same⟩ | ⟨old, read, ⟨newer, same⟩ | ⟨notAbove, written⟩⟩
  · rw [result] at same
    cases same
    refine ⟨.inl, ?_⟩
    rintro (known | ⟨⟨old, read, _⟩, _⟩)
    · exact known
    · cases failed.symm.trans read
  · rw [result] at same
    cases same
    refine ⟨.inl, ?_⟩
    rintro (known | ⟨⟨old', read', notAbove⟩, _⟩)
    · exact known
    · obtain rfl := Except.ok.inj (read.symm.trans read')
      omega
  · rw [result] at written
    cases written
    rcases flat_put_cases faults ns { work.object with version := nextVersion work.object.version } s.kv
      with ⟨e, refused, put⟩ | ⟨taken, e, put⟩
    · rw [put]
      refine ⟨.inl, ?_⟩
      rintro (known | ⟨_, taken⟩)
      · exact known
      · exact absurd refused (taken e)
    · rw [put]
      exact ⟨fun _ => .inr ⟨⟨old, read, notAbove⟩, taken⟩, fun _ => written_recorded sound _⟩

theorem still (holds : Holds ns name s) (known : Recorded ns name kv source slot) :
    ¬ (s.unrecorded ∨ ¬ Recorded ns name kv source slot) := by
  rintro (earlier | now)
  · exact holds.recorded earlier
  · exact now known

theorem step (holds : Holds ns name s) (commits : Commits ns name s l) (step : Step ns name s l t) :
    Holds ns name t := by
  cases step with
  | read found =>
    obtain ⟨c, stored, named⟩ := holds.record
    exact holds.assign (by rintro phase ⟨⟩; exact read_sound stored named found)
  | notRead => exact holds.assign nofun
  | accepted reading bounds owner migrated =>
    have sound := holds.handlers _ _ reading
    exact holds.assign (by rintro phase ⟨⟩; exact accepted_sound sound bounds owner migrated)
  | rejected => exact holds.assign nofun
  | lost reading _ owner =>
    exact assign ⟨holds.record, holds.handlers, holds.still (commits _ _ reading owner)⟩ nofun
  | finished running result =>
    have sound := holds.handlers _ _ running
    have known := (holds.finish_recorded running result).mpr (commits _ running)
    exact assign ⟨holds.update_record sound.1 result, holds.handlers, holds.still known⟩ nofun
  | updated named result => exact ⟨holds.update_record named result, holds.handlers, holds.recorded⟩
  | elsewhere same =>
    obtain ⟨c, stored, named⟩ := holds.record
    exact ⟨⟨c, same.trans stored, named⟩, holds.handlers, holds.recorded⟩

end Holds

/-- While every handler that started a migration hears of it and meets the condition at its
update, all started migrations are on record; a step that does not meet it leaves one behind. -/
theorem started_migration_recorded {s₀ s : State} (start : Start ns name s₀)
    (run : Run (Guarded (Step ns name) (Commits ns name)) s₀ ls s) :
    ¬ s.unrecorded ∧ ∀ l t, Step ns name s l t → (¬ t.unrecorded ↔ Commits ns name s l) := by
  have holds : Holds ns name s := by
    refine run.preserves (P := Holds ns name) ?_ ⟨start.record, ?_, start.unrecorded⟩
    · rintro s l t holds ⟨commits, step⟩
      exact holds.step commits step
    · intro handler phase found
      rw [start.handlers handler] at found
      cases found
  refine ⟨holds.recorded, fun l t step => ⟨fun after => ?_, fun commits => (holds.step commits step).recorded⟩⟩
  cases step with
  | lost reading _ owner =>
    intro cluster source found owns
    cases reading.symm.trans found
    cases owner.symm.trans owns
    by_contra unknown
    exact after (.inr unknown)
  | finished running result =>
    intro work found
    cases running.symm.trans found
    refine (holds.finish_recorded running result).mp ?_
    by_contra unknown
    exact after (.inr unknown)
  | _ => trivial

section Samples
open Kvrocks.Topology

def stored (cluster : Cluster) (kv : KV) : KV := kv.insert (buildClusterKey "ns" "c") (.json cluster.marshalJSON)

def initial : State := ⟨stored twoNodes ∅, fun _ => none, False⟩

def migrating : Started where
  object := twoNodes.recordMigration ⟨0, 9⟩ 0 1
  source := 0
  slot := ⟨0, 9⟩

def commandSent : State :=
  (initial.assign 0 (some (.read twoNodes))).assign 0 (some (.started migrating))

theorem initial_start : Start "ns" "c" initial :=
  ⟨⟨twoNodes, Std.ExtTreeMap.getElem?_insert_self, rfl⟩, fun _ => rfl, nofun⟩

theorem initial_read : getClusterWithoutLock (flat .none) "ns" "c" (stored twoNodes ∅) = .ok twoNodes := by
  decide +kernel

theorem zeroToNine : SlotRange.InBounds ⟨0, 9⟩ := by
  simp only [SlotRange.InBounds]
  decide

theorem sample_owner : twoNodes.findShardIndexBySlot ⟨0, 9⟩ = .ok 0 := by decide +kernel

theorem command_accepted :
    Run (Guarded (Step "ns" "c") (Commits "ns" "c")) initial
      [.read 0 .none, .migrate 0 (answering "start" ⟨0, 9⟩) ⟨0, 9⟩ 1] commandSent := by
  have read : Step "ns" "c" initial (.read 0 .none) (initial.assign 0 (some (.read twoNodes))) :=
    .read initial_read
  have reading : (initial.assign 0 (some (.read twoNodes))).handlers 0 = some (.read twoNodes) := rfl
  have migrated : twoNodes.migrateSlot (answering "start" ⟨0, 9⟩) ⟨0, 9⟩ 1 false = (migrating.object, none) := by
    decide +kernel
  have accepted : Step "ns" "c" (initial.assign 0 (some (.read twoNodes)))
      (.migrate 0 (answering "start" ⟨0, 9⟩) ⟨0, 9⟩ 1) commandSent :=
    Step.accepted reading zeroToNine sample_owner migrated
  exact .cons ⟨trivial, read⟩ (.cons ⟨trivial, accepted⟩ .nil)

def timeout : Error := .new "i/o timeout"

/-- No reply to the migrate command arrives. -/
def silent : NodeReplies := { answering "start" ⟨0, 9⟩ with migrateSlot := fun _ _ _ => .error timeout }

/-- Another writer commits, whatever it changes. -/
def overtakenKV : KV := stored { twoNodes with version := 2 } (stored twoNodes ∅)

def overtaken : State := { commandSent with kv := overtakenKV }

def abandoned : State :=
  State.assign { overtaken with
    unrecorded := overtaken.unrecorded ∨ ¬ Recorded "ns" "c" overtakenKV migrating.source migrating.slot } 0 none

end Samples

theorem started_migration_recorded_alone :
    ∃ t, Step "ns" "c" commandSent (.finish 0 .none) t ∧ ¬ t.unrecorded := by
  have running : commandSent.handlers 0 = some (.started migrating) := rfl
  have finish : Step "ns" "c" commandSent (.finish 0 .none) _ := Step.finished running rfl
  have commits : Commits "ns" "c" commandSent (.finish 0 .none) := by
    intro work found
    cases running.symm.trans found
    exact .inr ⟨⟨Topology.twoNodes, initial_read, by decide⟩, nofun⟩
  exact ⟨_, finish, ((started_migration_recorded initial_start command_accepted).2 _ _ finish).mpr commits⟩

/-- The handler read version 1, the node accepted the command, another writer committed
version 2: the handler's update is refused and nothing records the migration. Nor does
anything where the node's reply is lost. -/
theorem started_migration_abandoned :
    Start "ns" "c" initial ∧
      Run (Step "ns" "c") initial
        [.read 0 .none, .migrate 0 (Topology.answering "start" ⟨0, 9⟩) ⟨0, 9⟩ 1,
          .update Topology.twoNodes .none, .finish 0 .none] abandoned ∧
      abandoned.unrecorded ∧
      ∃ t, Run (Step "ns" "c") initial [.read 0 .none, .lost 0 silent ⟨0, 9⟩ 1] t ∧ t.unrecorded := by
  have read : getClusterWithoutLock (flat .none) "ns" "c" overtakenKV =
      .ok { Topology.twoNodes with version := 2 } := by
    decide +kernel
  have update : updateCluster (flat .none) "ns" commandSent.kv Topology.twoNodes = ⟨overtakenKV, 2, none⟩ := by
    simp only [updateCluster, show getClusterWithoutLock (flat .none) "ns" Topology.twoNodes.name commandSent.kv =
      .ok Topology.twoNodes from initial_read]
    rfl
  have refused : updateCluster (flat .none) "ns" overtakenKV migrating.object =
      ⟨overtakenKV, 1, some updatedByOthers⟩ := by
    simp only [updateCluster, show getClusterWithoutLock (flat .none) "ns" migrating.object.name overtakenKV =
      .ok { Topology.twoNodes with version := 2 } from read]
    rfl
  have running : overtaken.handlers 0 = some (.started migrating) := rfl
  have finish : Step "ns" "c" overtaken (.finish 0 .none) abandoned := Step.finished running refused
  have updated : Step "ns" "c" commandSent (.update Topology.twoNodes .none) overtaken := Step.updated rfl update
  have unrecorded (version : Int) (kv : KV)
      (read : getClusterWithoutLock (flat .none) "ns" "c" kv = .ok { Topology.twoNodes with version }) :
      ¬ Recorded "ns" "c" kv 0 ⟨0, 9⟩ := by
    rintro ⟨cluster, shard, found, here, recorded, _⟩
    cases read.symm.trans found
    cases here
    cases recorded
  have reading : (initial.assign 0 (some (.read Topology.twoNodes))).handlers 0 = some (.read Topology.twoNodes) := rfl
  have taken : Topology.twoNodes.migrateSlot { silent with migrateSlot := fun _ _ _ => .ok () } ⟨0, 9⟩ 1 false =
      (migrating.object, none) := by
    decide +kernel
  have failed : (Topology.twoNodes.migrateSlot silent ⟨0, 9⟩ 1 false).2 = some (.returned timeout) := by decide +kernel
  have lost : Step "ns" "c" (initial.assign 0 (some (.read Topology.twoNodes))) (.lost 0 silent ⟨0, 9⟩ 1) _ :=
    .lost reading zeroToNine sample_owner taken failed
  exact ⟨initial_start, command_accepted.unguarded.append (.cons updated (.cons finish .nil)),
    .inr (unrecorded 2 _ read), _, .cons (.read initial_read) (.cons lost .nil), .inr (unrecorded 1 _ initial_read)⟩

end Kvrocks.MigrationRecord
