import KvrocksController.Controller.Probe
import KvrocksController.Lib.Transition
import KvrocksController.Store.ClusterStoreProofs

/-! Probe rounds that adopt a node's topology, interleaved with updates by anyone.
A version is to determine the record stored under it, and an adoption is not to
replace an update that was committed after the round read the store. -/
namespace Kvrocks.Adoption
open Kvrocks.Transition Kvrocks.Strconv ClusterStore

/-- The cluster a round works on; `readAt` counts the updates committed before. -/
structure Round where
  cluster : Cluster
  readAt : Nat

/-- `updates`, `history` and `lostUpdate` are ghosts: the updates committed so far,
every record ever stored with its version, and whether an adoption has replaced an
update its round had not seen. -/
structure State where
  kv : KV
  rounds : Nat → Option Round
  updates : Nat
  history : List (Int × Json)
  lostUpdate : Prop

inductive Label where
  | update (object : Cluster) (faults : Faults)
  | probe (prober : Nat) (faults : Faults)
  | adopt (prober : Nat) (answers : List Probe.Answer) (faults : Faults)
  | elsewhere (kv : KV)

def State.assign (s : State) (prober : Nat) (work : Option Round) : State :=
  { s with rounds := fun other => if other = prober then work else s.rounds other }

section System
variable (ns name : String)

inductive Step : State → Label → State → Prop where
  | updated (named : object.name = name) (int64 : -(maxInt64 + 1) ≤ object.version)
      (result : updateCluster (flat faults) ns s.kv object = ⟨kv, version, err⟩) (changed : kv ≠ s.kv) :
      Step s (.update object faults)
        { s with
          kv, updates := s.updates + 1
          history := (version, { object with version }.marshalJSON) :: s.history }
  | notUpdated (named : object.name = name)
      (result : updateCluster (flat faults) ns s.kv object = ⟨s.kv, version, err⟩) :
      Step s (.update object faults) s
  | probed (read : getCluster (flat faults) ns name s.kv = .ok cluster) :
      Step s (.probe prober faults) (s.assign prober (some ⟨cluster, s.updates⟩))
  | notProbed (failed : getCluster (flat faults) ns name s.kv = .error e) : Step s (.probe prober faults) s
  | adopted (running : s.rounds prober = some work) (chosen : Probe.adoption work.cluster answers = .ok (some latest))
      (result : setCluster (flat faults) ns latest s.kv = (kv, err)) (changed : kv ≠ s.kv) :
      Step s (.adopt prober answers faults)
        (State.assign
          { s with
            kv
            history := (latest.version, latest.marshalJSON) :: s.history
            lostUpdate := s.lostUpdate ∨ work.readAt < s.updates }
          prober none)
  | notAdopted (running : s.rounds prober = some work)
      (chosen : Probe.adoption work.cluster answers = .ok (some latest))
      (result : setCluster (flat faults) ns latest s.kv = (s.kv, err)) :
      Step s (.adopt prober answers faults) (s.assign prober none)
  | nothingNewer (running : s.rounds prober = some work)
      (chosen : ∀ latest, Probe.adoption work.cluster answers ≠ .ok (some latest)) :
      Step s (.adopt prober answers faults) (s.assign prober none)
  | elsewhere (same : kv[buildClusterKey ns name]? = s.kv[buildClusterKey ns name]?) :
      Step s (.elsewhere kv) { s with kv }

structure Start (s : State) : Prop where
  record : ∃ c : Cluster, s.kv[buildClusterKey ns name]? = some (.json c.marshalJSON) ∧ c.name = name ∧
    -(maxInt64 + 1) ≤ c.version ∧ s.history = [(c.version, c.marshalJSON)]
  rounds : ∀ prober, s.rounds prober = none
  lostUpdate : ¬ s.lostUpdate

/-- No two records under one version, and no update lost to an adoption. -/
def VersionDetermines (s : State) : Prop :=
  (∀ r ∈ s.history, ∀ r' ∈ s.history, r.1 = r'.1 → r.2 = r'.2) ∧ ¬ s.lostUpdate

/-- An adoption is harmless if the call fails or the text is older than the record, if
it would store the very record that is there, or if no update was committed since the
round read the store and the text is newer than the record. An update may not
exhaust the version. -/
def Harmless (s : State) : Label → Prop
  | .update object _ => object.version < maxInt64
  | .adopt prober answers faults =>
    ∀ work latest old, s.rounds prober = some work →
      Probe.adoption work.cluster answers = .ok (some latest) →
      getCluster (flat .none) ns name s.kv = .ok old →
      (∃ e, faults.read (.get (buildClusterKey ns name)) = some e ∨ faults.write = .refused e) ∨
        latest.version < old.version ∨
        s.kv[buildClusterKey ns name]? = some (.json latest.marshalJSON) ∨
        (work.readAt = s.updates ∧ old.version < latest.version)
  | _ => True

/-- The stored record has the highest version there ever was. -/
structure Holds (s : State) (record : Cluster) : Prop where
  stored : s.kv[buildClusterKey ns name]? = some (.json record.marshalJSON)
  named : record.name = name
  listed : (record.version, record.marshalJSON) ∈ s.history
  bounded : ∀ r ∈ s.history, r.1 ≤ record.version
  rounds : ∀ prober work, s.rounds prober = some work → work.readAt ≤ s.updates ∧ work.cluster.name = name
  determines : VersionDetermines s

end System

namespace Holds
variable {ns name : String} {s : State} {record : Cluster}

theorem assign (holds : Holds ns name s record)
    (own : ∀ work, after = some work → work.readAt ≤ s.updates ∧ work.cluster.name = name) :
    Holds ns name (s.assign prober after) record where
  stored := holds.stored
  named := holds.named
  listed := holds.listed
  bounded := holds.bounded
  determines := holds.determines
  rounds := assigned holds.rounds own

/-- Storing a record with a version above the stored one. -/
theorem push {lostUpdate : Prop} (holds : Holds ns name s record) (named : next.name = name)
    (newer : record.version < next.version) (later : s.updates ≤ updates) (kept : ¬ lostUpdate) :
    Holds ns name
      { s with
        kv := s.kv.insert (buildClusterKey ns name) (.json next.marshalJSON)
        updates, lostUpdate
        history := (next.version, next.marshalJSON) :: s.history } next where
  stored := by simp
  named := named
  listed := by simp
  bounded := by
    intro r member
    rcases List.mem_cons.mp member with rfl | member
    · exact Int.le_refl _
    · have := holds.bounded r member
      omega
  rounds := fun prober work found =>
    ⟨(holds.rounds prober work found).1.trans later, (holds.rounds prober work found).2⟩
  determines := by
    refine ⟨?_, kept⟩
    intro r member r' member' same
    have above {x : Int × Json} (old : x ∈ s.history) : x.1 ≠ next.version := by
      have := holds.bounded x old
      omega
    rcases List.mem_cons.mp member with rfl | member
    · rcases List.mem_cons.mp member' with rfl | member'
      · rfl
      · exact absurd same.symm (above member')
    · rcases List.mem_cons.mp member' with rfl | member'
      · exact absurd same (above member)
      · exact holds.determines.1 r member r' member' same

/-- An adoption reads what any reader would, unless its own read fails. -/
theorem readable (read : getClusterWithoutLock (flat faults) ns name kv = .ok old) :
    faults.read (.get (buildClusterKey ns name)) = none ∧ getCluster (flat .none) ns name kv = .ok old := by
  obtain ⟨value, found, decoded⟩ := getClusterWithoutLock_ok.mp read
  obtain ⟨answered, present⟩ := flat_get_ok.mp found
  exact ⟨answered, getClusterWithoutLock_ok.mpr ⟨value, flat_get_ok.mpr ⟨rfl, present⟩, decoded⟩⟩

theorem insert_same {kv : KV} (present : kv[key]? = some value) : kv.insert key value = kv := by
  apply Std.ExtTreeMap.ext_getElem?
  intro other
  rw [Std.ExtTreeMap.getElem?_insert]
  split
  · rename_i same
    rw [← Std.LawfulEqCmp.eq_of_compare same, present]
  · rfl

theorem update (holds : Holds ns name s record) (named : object.name = name)
    (int64 : -(maxInt64 + 1) ≤ object.version) (small : object.version < maxInt64)
    (result : updateCluster (flat faults) ns s.kv object = ⟨kv, version, err⟩) (changed : kv ≠ s.kv) :
    Holds ns name
      { s with
        kv, updates := s.updates + 1
        history := (version, { object with version }.marshalJSON) :: s.history } { object with version } := by
  subst named
  rcases flat_updateCluster_cases faults ns s.kv object with ⟨_, _, refused⟩ | ⟨old, _, read, notAbove, written⟩
  · rw [result] at refused
    cases refused
    exact absurd rfl changed
  · rw [(flat_read_version holds.stored read).1] at notAbove
    rw [result] at written
    cases written
    have next := nextVersion_eq int64 small
    exact holds.push rfl (by simp only [next]; omega) (Nat.le_succ _) holds.determines.2

/-- What one step preserves, if it is harmless. -/
theorem step (holds : Holds ns name s record) (harmless : Harmless ns name s l) (step : Step ns name s l t) :
    ∃ record, Holds ns name t record := by
  cases step with
  | updated named int64 result changed => exact ⟨_, holds.update named int64 harmless result changed⟩
  | notUpdated => exact ⟨record, holds⟩
  | probed read =>
    have name := (flat_read_version holds.stored read).2.trans holds.named
    exact ⟨record, holds.assign (by rintro work ⟨⟩; exact ⟨Nat.le_refl _, name⟩)⟩
  | notProbed => exact ⟨record, holds⟩
  | adopted running chosen result changed =>
    have named := (Probe.adoptionBy_name chosen).trans (holds.rounds _ _ running).2
    rcases setCluster_cases (flat _) ns s.kv _ with ⟨_, _, refused⟩ | ⟨old, read, ⟨_, refused⟩ | ⟨notAbove, put⟩⟩
    · rw [result] at refused
      exact absurd (congrArg Prod.fst refused) changed
    · rw [result] at refused
      exact absurd (congrArg Prod.fst refused) changed
    · rw [named] at read
      obtain ⟨answered, readable⟩ := readable read
      have version := (flat_read_version holds.stored read).1
      rw [result] at put
      rcases flat_put_cases _ ns _ s.kv with ⟨_, _, refused⟩ | ⟨taken, _, written⟩
      · exact absurd (congrArg Prod.fst (put.trans refused)) changed
      · have stored := congrArg Prod.fst (put.trans written)
        simp only [named] at stored
        subst stored
        rcases harmless _ _ old running chosen readable with ⟨e, failed | refused⟩ | older | same | ⟨unseen, newer⟩
        · rw [answered] at failed
          cases failed
        · exact absurd refused (taken e)
        · omega
        · exact absurd (insert_same same) changed
        · refine ⟨_, assign (holds.push named (by omega) (Nat.le_refl _) ?_) nofun⟩
          rintro (lost | behind)
          · exact holds.determines.2 lost
          · omega
  | notAdopted => exact ⟨record, holds.assign nofun⟩
  | nothingNewer => exact ⟨record, holds.assign nofun⟩
  | elsewhere same =>
    exact ⟨record, same.trans holds.stored, holds.named, holds.listed, holds.bounded, holds.rounds,
      holds.determines⟩

/-- An adoption that is not harmless gives one version to two records or drops an
update. -/
theorem adopt_harmless (holds : Holds ns name s record) (step : Step ns name s (.adopt prober answers faults) t)
    (after : VersionDetermines t) : Harmless ns name s (.adopt prober answers faults) := by
  intro work latest old running chosen readable
  have version := (flat_read_version holds.stored readable).1
  have named := (Probe.adoptionBy_name chosen).trans (holds.rounds prober work running).2
  have call (answered : faults.read (.get (buildClusterKey ns name)) = none) :
      getClusterWithoutLock (flat faults) ns latest.name s.kv = .ok old := by
    obtain ⟨value, found, decoded⟩ := getClusterWithoutLock_ok.mp readable
    rw [named]
    exact getClusterWithoutLock_ok.mpr ⟨value, flat_get_ok.mpr ⟨answered, (flat_get_ok.mp found).2⟩, decoded⟩
  cases reading : faults.read (.get (buildClusterKey ns name)) with
  | some e => exact .inl ⟨e, .inl rfl⟩
  | none =>
    have read := call reading
    rcases setCluster_cases (flat faults) ns s.kv latest with ⟨_, failed, _⟩ | ⟨old', read', effect⟩
    · rw [read] at failed
      cases failed
    · obtain rfl := Except.ok.inj (read.symm.trans read')
      rcases effect with ⟨older, _⟩ | ⟨notAbove, put⟩
      · exact .inr (.inl older)
      · rcases flat_put_cases faults ns latest s.kv with ⟨e, refused, _⟩ | ⟨_, err, written⟩
        · exact .inl ⟨e, .inr refused⟩
        · refine .inr (.inr ?_)
          cases step with
          | adopted running' chosen' result changed =>
            obtain rfl := Option.some.inj (running.symm.trans running')
            obtain rfl := Option.some.inj (Except.ok.inj (chosen.symm.trans chosen'))
            have seen := (holds.rounds prober work running).1
            have unseen : ¬ work.readAt < s.updates := fun behind => after.2 (.inr behind)
            by_cases newer : old.version < latest.version
            · exact .inr ⟨by omega, newer⟩
            · -- Two records under one version: they must be the same record.
              have same : latest.marshalJSON = record.marshalJSON :=
                after.1 (latest.version, latest.marshalJSON) (by simp [State.assign])
                  (record.version, record.marshalJSON) (by simp [State.assign, holds.listed])
                  (by simp only; omega)
              exact .inl (holds.stored.trans (by rw [← same]))
          | notAdopted running' chosen' result =>
            obtain rfl := Option.some.inj (running.symm.trans running')
            obtain rfl := Option.some.inj (Except.ok.inj (chosen.symm.trans chosen'))
            have kept : s.kv = s.kv.insert (buildClusterKey ns latest.name) (.json latest.marshalJSON) :=
              congrArg Prod.fst (result.symm.trans (put.trans written))
            refine .inl ?_
            rw [kept, named]
            exact Std.ExtTreeMap.getElem?_insert_self
          | nothingNewer running' none =>
            obtain rfl := Option.some.inj (running.symm.trans running')
            exact absurd chosen (none latest)

end Holds

/-- While all steps are harmless, a version determines the record stored under it and
no adoption replaces an update its round has not seen; and an adoption keeps this only
if it is harmless. -/
theorem version_determines_topology {s₀ s : State} (start : Start ns name s₀)
    (run : Run (Guarded (Step ns name) (Harmless ns name)) s₀ ls s) :
    VersionDetermines s ∧ ∀ prober answers faults t, Step ns name s (.adopt prober answers faults) t →
      (VersionDetermines t ↔ Harmless ns name s (.adopt prober answers faults)) := by
  have reached : ∃ record, Holds ns name s record := by
    refine run.preserves (P := fun s => ∃ record, Holds ns name s record) ?_ ?_
    · rintro s l t ⟨record, holds⟩ ⟨harmless, step⟩
      exact holds.step harmless step
    · obtain ⟨record, stored, named, _, history⟩ := start.record
      refine ⟨record, stored, named, by simp [history], by simp [history], ?_, ?_, start.lostUpdate⟩
      · intro prober work found
        rw [start.rounds prober] at found
        cases found
      · simp [history]
  obtain ⟨record, holds⟩ := reached
  refine ⟨holds.determines, fun prober answers faults t step => ⟨holds.adopt_harmless step, fun harmless => ?_⟩⟩
  obtain ⟨_, after⟩ := holds.step harmless step
  exact after.determines

section Samples

def oneShard : Cluster := ⟨"c", 1, [⟨[⟨0, "n", "a:1", roleMaster, "", 0⟩], [⟨0, 16383⟩], -1, none⟩]⟩

/-- A handler adds an empty shard. -/
def grown (version : Int) : Cluster :=
  { oneShard with version, shards := oneShard.shards ++ [⟨[⟨1, "m", "b:1", roleMaster, "", 0⟩], [], -1, none⟩] }

/-- The only node says it is at version 2 already, without the new shard. -/
def ahead : List Probe.Answer := [⟨2, .ok "n a:1 master - 0 0 2 connected 0-16383"⟩]

def adoptedShard : Cluster := { oneShard with version := 2 }

def stored (cluster : Cluster) (kv : KV) : KV := kv.insert (buildClusterKey "ns" "c") (.json cluster.marshalJSON)

def initial : State := ⟨stored oneShard ∅, fun _ => none, 0, [(1, oneShard.marshalJSON)], False⟩

def probedOnce : State := initial.assign 0 (some ⟨oneShard, 0⟩)

theorem initial_start : Start "ns" "c" initial :=
  ⟨⟨oneShard, Std.ExtTreeMap.getElem?_insert_self, rfl, by decide, rfl⟩, fun _ => rfl, nofun⟩

theorem initial_read : getClusterWithoutLock (flat .none) "ns" "c" (stored oneShard ∅) = .ok oneShard := by
  decide +kernel

theorem initial_probe : Step "ns" "c" initial (.probe 0 .none) probedOnce := .probed initial_read

theorem adoption_ahead : Probe.adoption oneShard ahead = .ok (some adoptedShard) := by decide +kernel

theorem stored_ne (distinct : a.marshalJSON ≠ b.marshalJSON) : stored a kv ≠ stored b kv' := by
  intro same
  have found := congrArg (fun kv : KV => kv[buildClusterKey "ns" "c"]?) same
  simp only [stored, Std.ExtTreeMap.getElem?_insert_self, Option.some.injEq, Value.json.injEq] at found
  exact distinct found

/-- The adoption alone. -/
def adoptedOnce : State :=
  State.assign
    { probedOnce with
      kv := stored adoptedShard probedOnce.kv
      history := (adoptedShard.version, adoptedShard.marshalJSON) :: probedOnce.history
      lostUpdate := probedOnce.lostUpdate ∨ 0 < probedOnce.updates }
    0 none

/-- The update alone. -/
def grownOnce : State :=
  { probedOnce with
    kv := stored (grown 2) probedOnce.kv
    updates := probedOnce.updates + 1
    history := (2, (grown 2).marshalJSON) :: probedOnce.history }

/-- The adoption after the update. -/
def overwritten : State :=
  State.assign
    { grownOnce with
      kv := stored adoptedShard grownOnce.kv
      history := (adoptedShard.version, adoptedShard.marshalJSON) :: grownOnce.history
      lostUpdate := grownOnce.lostUpdate ∨ 0 < grownOnce.updates }
    0 none

end Samples

theorem version_determines_quiet_round : VersionDetermines adoptedOnce := by
  have read : getClusterWithoutLock (flat .none) "ns" adoptedShard.name probedOnce.kv = .ok oneShard := initial_read
  have set : setCluster (flat .none) "ns" adoptedShard probedOnce.kv =
      (stored adoptedShard probedOnce.kv, none) := by
    simp only [setCluster, read]
    rfl
  have differs : adoptedShard.marshalJSON ≠ oneShard.marshalJSON := by
    simp [Cluster.marshalJSON, Cluster.members, adoptedShard, oneShard]
  have changed : stored adoptedShard probedOnce.kv ≠ probedOnce.kv := stored_ne differs
  have running : probedOnce.rounds 0 = some ⟨oneShard, 0⟩ := rfl
  have adopt : Step "ns" "c" probedOnce (.adopt 0 ahead .none) adoptedOnce :=
    Step.adopted running adoption_ahead set changed
  have harmless : Harmless "ns" "c" probedOnce (.adopt 0 ahead .none) := by
    intro work latest old running chosen readable
    obtain rfl := Option.some.inj running
    rw [adoption_ahead] at chosen
    obtain rfl := Option.some.inj (Except.ok.inj chosen)
    obtain rfl := Except.ok.inj (read.symm.trans readable)
    exact .inr (.inr (.inr ⟨rfl, by decide⟩))
  have run : Run (Guarded (Step "ns" "c") (Harmless "ns" "c")) initial [.probe 0 .none, .adopt 0 ahead .none]
      adoptedOnce := .cons ⟨trivial, initial_probe⟩ (.cons ⟨harmless, adopt⟩ .nil)
  exact (version_determines_topology initial_start run).1

/-- The round reads version 1, the handler commits version 2, and the adoption stores
another topology under version 2. -/
theorem version_determines_overwritten :
    Start "ns" "c" initial ∧
      Run (Step "ns" "c") initial [.probe 0 .none, .update (grown 1) .none, .adopt 0 ahead .none] overwritten ∧
      ¬ VersionDetermines overwritten := by
  have read : getClusterWithoutLock (flat .none) "ns" (grown 1).name probedOnce.kv = .ok oneShard := initial_read
  have update : updateCluster (flat .none) "ns" probedOnce.kv (grown 1) =
      ⟨stored (grown 2) probedOnce.kv, 2, none⟩ := by
    simp only [updateCluster, read]
    rfl
  have reread : getClusterWithoutLock (flat .none) "ns" adoptedShard.name grownOnce.kv = .ok (grown 2) := by
    decide +kernel
  have set : setCluster (flat .none) "ns" adoptedShard grownOnce.kv =
      (stored adoptedShard grownOnce.kv, none) := by
    simp only [setCluster, reread]
    rfl
  have differs : (grown 2).marshalJSON ≠ oneShard.marshalJSON := by
    simp [Cluster.marshalJSON, Cluster.members, grown, oneShard]
  have clash : adoptedShard.marshalJSON ≠ (grown 2).marshalJSON := by
    simp [Cluster.marshalJSON, Cluster.members, adoptedShard, grown, oneShard]
  have changed : stored (grown 2) probedOnce.kv ≠ probedOnce.kv := stored_ne differs
  have replaced : stored adoptedShard grownOnce.kv ≠ grownOnce.kv := stored_ne clash
  have committed : Step "ns" "c" probedOnce (.update (grown 1) .none) grownOnce :=
    Step.updated rfl (by decide) update changed
  have running : grownOnce.rounds 0 = some ⟨oneShard, 0⟩ := rfl
  have adopt : Step "ns" "c" grownOnce (.adopt 0 ahead .none) overwritten :=
    Step.adopted running adoption_ahead set replaced
  refine ⟨initial_start, .cons initial_probe (.cons committed (.cons adopt .nil)), fun determines => ?_⟩
  exact determines.2 (.inr (by decide))

end Kvrocks.Adoption
