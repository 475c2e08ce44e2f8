import KvrocksController.Lib.Transition
import KvrocksController.Store.ClusterStoreProofs

/-! One cluster name over several lives: records are created, removed and created
again while clients keep what they read from an earlier record. Versions restart at
every creation, so the version check alone does not tell the lives apart. -/
namespace Kvrocks.Recreation
open Kvrocks.Transition Kvrocks.Strconv ClusterStore

/-- What a client holds. `born` is a ghost: how many records of the name had been
removed when the object was read. -/
structure Session where
  object : Cluster
  born : Nat

structure State where
  kv : KV
  sessions : Nat → Option Session
  removals : Nat

inductive Label where
  | get (client : Nat) (faults : Faults)
  | modify (client : Nat) (shards : List Shard)
  /-- A probe round goes on with what a node reports in place of the cluster it read. -/
  | adopt (client : Nat) (version : Int) (shards : List Shard)
  | update (client : Nat) (faults : Faults)
  | set (client : Nat) (faults : Faults)
  /-- The client is done with what it holds. -/
  | drop (client : Nat)
  | remove (faults : Faults)
  | create (object : Cluster) (faults : Faults)
  /-- Anything that leaves this cluster's record alone. -/
  | elsewhere (kv : KV)

def State.assign (s : State) (client : Nat) (session : Option Session) : State :=
  { s with sessions := fun other => if other = client then session else s.sessions other }

section System
variable (ns name : String)

inductive Step : State → Label → State → Prop where
  | got (read : getCluster (flat faults) ns name s.kv = .ok object) :
      Step s (.get client faults) (s.assign client (some ⟨object, s.removals⟩))
  | missed (failed : getCluster (flat faults) ns name s.kv = .error e) : Step s (.get client faults) s
  | modified (holds : s.sessions client = some session) :
      Step s (.modify client shards) (s.assign client (some { session with object := { session.object with shards } }))
  | adopted (holds : s.sessions client = some session) (int64 : InInt64 version) :
      Step s (.adopt client version shards)
        (s.assign client (some { session with object := { session.object with version, shards } }))
  | updated (holds : s.sessions client = some session)
      (result : updateCluster (flat faults) ns s.kv session.object = ⟨kv, version, err⟩) :
      Step s (.update client faults)
        (State.assign { s with kv } client (some { session with object := { session.object with version } }))
  | stored (holds : s.sessions client = some session)
      (result : setCluster (flat faults) ns session.object s.kv = (kv, err)) :
      Step s (.set client faults) { s with kv }
  | dropped : Step s (.drop client) (s.assign client none)
  | removed (result : removeCluster (flat faults) ns name s.kv = (kv, err))
      (counted : kv = s.kv ∧ removals = s.removals ∨ kv ≠ s.kv ∧ removals = s.removals + 1) :
      Step s (.remove faults) { s with kv, removals }
  | created (named : object.name = name) (int64 : InInt64 object.version)
      (result : createCluster (flat faults) ns object s.kv = (kv, err)) :
      Step s (.create object faults) { s with kv }
  | elsewhere (same : kv[buildClusterKey ns name]? = s.kv[buildClusterKey ns name]?) :
      Step s (.elsewhere kv) { s with kv }

/-- Nobody holds anything; the record, if there is one, is of this name. -/
structure Start (s : State) : Prop where
  record : ∀ stored, getCluster (flat .none) ns name s.kv = .ok stored → stored.name = name ∧ InInt64 stored.version
  sessions : ∀ client, s.sessions client = none

/-- A record is created with a version above every version that clients still hold from
before a removal, and nobody raises one of these to the stored version. A creation that is
refused writes nothing. -/
def Fenced (s : State) : Label → Prop
  | .create object faults => (createCluster (flat faults) ns object s.kv).1 = s.kv ∨
      ∀ client session, s.sessions client = some session → session.born < s.removals →
        session.object.version < object.version
  | .adopt client version _ => ∀ session stored, s.sessions client = some session → session.born < s.removals →
      getCluster (flat .none) ns name s.kv = .ok stored → version < stored.version
  | .update client _ => ∀ session, s.sessions client = some session → session.object.version < maxInt64
  | _ => True

/-- An object from before the last removal is behind the record there is now. -/
structure Behind (kv : KV) (removals : Nat) (session : Session) : Prop where
  named : session.object.name = name
  int64 : InInt64 session.object.version
  born : session.born ≤ removals
  stale : ∀ stored, getCluster (flat .none) ns name kv = .ok stored → session.born < removals →
    session.object.version < stored.version

structure Holds (s : State) : Prop where
  record : ∀ stored, getCluster (flat .none) ns name s.kv = .ok stored → stored.name = name ∧ InInt64 stored.version
  sessions : ∀ client session, s.sessions client = some session → Behind ns name s.kv s.removals session

end System

variable {ns name : String} {s t : State} {session : Session}

/-- The record, once written, reads back with the name and version of what was written. -/
theorem read_written {kv : KV} {object : Cluster}
    (read : getCluster (flat .none) ns name (kv.insert (buildClusterKey ns name) (.json object.marshalJSON)) = .ok stored) :
    stored.version = object.version ∧ stored.name = object.name :=
  flat_read_version Std.ExtTreeMap.getElem?_insert_self read

namespace Holds
variable {object old : Cluster}

theorem assign (holds : Holds ns name s)
    (own : ∀ session, after = some session → Behind ns name s.kv s.removals session) :
    Holds ns name (s.assign client after) where
  record := holds.record
  sessions := assigned holds.sessions own

/-- Writing a record that is ahead of everything read before the last removal. -/
theorem write (holds : Holds ns name s) (named : object.name = name) (int64 : InInt64 object.version)
    (ahead : ∀ client session, s.sessions client = some session → session.born < s.removals →
      session.object.version < object.version) :
    Holds ns name { s with kv := s.kv.insert (buildClusterKey ns name) (.json object.marshalJSON) } where
  record := by
    intro stored read
    obtain ⟨version, sameName⟩ := read_written read
    exact ⟨sameName.trans named, version ▸ int64⟩
  sessions := by
    intro client session found
    refine { holds.sessions client session found with stale := fun stored read stale => ?_ }
    rw [(read_written read).1]
    exact ahead client session found stale

/-- An object that is not behind the stored one is ahead of all that were read earlier. -/
theorem ahead (holds : Holds ns name s) (read : getCluster (flat .none) ns name s.kv = .ok old)
    (notBehind : old.version ≤ version) (found : s.sessions client = some session)
    (stale : session.born < s.removals) : session.object.version < version := by
  have behind := (holds.sessions client session found).stale old read stale
  omega

theorem update (holds : Holds ns name s) (found : s.sessions client = some session)
    (small : session.object.version < maxInt64)
    (result : updateCluster (flat faults) ns s.kv session.object = ⟨kv, version, err⟩) :
    Holds ns name
      (State.assign { s with kv } client (some { session with object := { session.object with version } })) := by
  obtain ⟨named, int64, born, behind⟩ := holds.sessions client session found
  subst named
  have next := nextVersion_eq int64.1 small
  have inside : InInt64 (nextVersion session.object.version) := by
    have lower := int64.1
    constructor <;> omega
  rcases updateCluster_cases (flat faults) ns s.kv session.object with ⟨_, refused⟩ | ⟨old, read, notAbove, written⟩
  · rw [result] at refused
    cases refused
    exact holds.assign (by rintro _ ⟨⟩; exact ⟨rfl, int64, born, behind⟩)
  · -- the check was passed, so the object was read after the last removal
    have fresh : ¬ session.born < s.removals := by
      intro stale
      have := behind old (flat_read_sound read) stale
      omega
    have own (kv : KV) : Behind ns session.object.name kv s.removals
        { session with object := { session.object with version := nextVersion session.object.version } } :=
      ⟨rfl, inside, born, fun _ _ stale => absurd stale fresh⟩
    rw [result] at written
    rcases flat_put_cases faults ns { session.object with version := nextVersion session.object.version } s.kv
      with ⟨err, _, refused⟩ | ⟨_, err, put⟩
    · rw [refused] at written
      cases written
      exact holds.assign (by rintro _ ⟨⟩; exact own _)
    · rw [put] at written
      cases written
      refine Holds.assign (Holds.write holds rfl inside ?_) (by rintro _ ⟨⟩; exact own _)
      intro client other found stale
      exact holds.ahead (flat_read_sound read) (by simp only; omega) found stale

theorem set (holds : Holds ns name s) (found : s.sessions client = some session)
    (result : setCluster (flat faults) ns session.object s.kv = (kv, err)) : Holds ns name { s with kv } := by
  obtain ⟨named, int64, _, _⟩ := holds.sessions client session found
  subst named
  rcases flat_setCluster_cases faults ns s.kv session.object with ⟨_, refused⟩ | ⟨old, _, read, notAbove, written⟩
  · rw [result] at refused
    cases refused
    exact holds
  · rw [result] at written
    cases written
    exact holds.write rfl int64 fun client other found stale => holds.ahead read notAbove found stale

/-- With the record gone nothing can be read. -/
theorem remove (holds : Holds ns name s) (result : removeCluster (flat faults) ns name s.kv = (kv, err))
    (counted : kv = s.kv ∧ removals = s.removals ∨ kv ≠ s.kv ∧ removals = s.removals + 1) :
    Holds ns name { s with kv, removals } := by
  rcases counted with ⟨rfl, rfl⟩ | ⟨changed, rfl⟩
  · exact holds
  · rcases flat_removeCluster_cases faults ns name s.kv with ⟨_, refused⟩ | ⟨_, _, erased⟩
    · rw [result] at refused
      cases refused
      exact absurd rfl changed
    · rw [result] at erased
      cases erased
      have gone (stored : Cluster) :
          getCluster (flat .none) ns name (s.kv.erase (buildClusterKey ns name)) ≠ .ok stored := by
        intro read
        obtain ⟨_, found, _⟩ := flat_read_ok.mp read
        simp at found
      refine ⟨fun stored read => absurd read (gone stored), fun client session found => ?_⟩
      obtain ⟨named, int64, born, _⟩ := holds.sessions client session found
      exact ⟨named, int64, Nat.le_succ_of_le born, fun stored read => absurd read (gone stored)⟩

theorem step (holds : Holds ns name s) (step : Guarded (Step ns name) (Fenced ns name) s l t) : Holds ns name t := by
  obtain ⟨fenced, step⟩ := step
  cases step with
  | got read =>
    refine holds.assign ?_
    rintro _ ⟨⟩
    obtain ⟨named, int64⟩ := holds.record _ (flat_read_sound read)
    exact ⟨named, int64, le_refl _, fun _ _ stale => absurd stale (lt_irrefl _)⟩
  | missed => exact holds
  | modified found =>
    obtain ⟨named, int64, born, stale⟩ := holds.sessions _ _ found
    refine holds.assign ?_
    rintro _ ⟨⟩
    exact ⟨named, int64, born, stale⟩
  | adopted found int64 =>
    obtain ⟨named, _, born, _⟩ := holds.sessions _ _ found
    refine holds.assign ?_
    rintro _ ⟨⟩
    exact ⟨named, int64, born, fun stored read stale => fenced _ stored found stale read⟩
  | updated found result => exact holds.update found (fenced _ found) result
  | stored found result => exact holds.set found result
  | dropped =>
    refine holds.assign ?_
    rintro _ ⟨⟩
  | removed result counted => exact holds.remove result counted
  | created named int64 result =>
    subst named
    rcases fenced with same | fenced
    · rw [result] at same
      cases same
      exact holds
    · rcases flat_createCluster_cases _ ns s.kv _ with ⟨_, refused⟩ | ⟨_, _, written⟩
      · rw [result] at refused
        cases refused
        exact holds
      · rw [result] at written
        cases written
        exact holds.write rfl int64 fenced
  | elsewhere same =>
    refine ⟨fun stored read => holds.record stored (flat_read_congr same ▸ read), fun client session found => ?_⟩
    exact { holds.sessions client session found with
      stale := fun stored read => (holds.sessions client session found).stale stored (flat_read_congr same ▸ read) }

end Holds

/-- Where creations are fenced, an object read before a removal is refused by both
writes, whatever has been created since. -/
theorem stale_writers_refused {s₀ : State} (start : Start ns name s₀)
    (run : Run (Guarded (Step ns name) (Fenced ns name)) s₀ ls s) (holds : s.sessions client = some session)
    (stale : session.born < s.removals) (faults : Faults) :
    (updateCluster (flat faults) ns s.kv session.object).err ≠ none ∧
      (updateCluster (flat faults) ns s.kv session.object).store = s.kv ∧
      (setCluster (flat faults) ns session.object s.kv).2 ≠ none ∧
      (setCluster (flat faults) ns session.object s.kv).1 = s.kv := by
  have inv : Holds ns name s := by
    refine run.preserves (fun _ _ _ holds step => holds.step step) ⟨start.record, ?_⟩
    intro client session found
    rw [start.sessions client] at found
    cases found
  obtain ⟨rfl, _, _, behind⟩ := inv.sessions client session holds
  have refusedUpdate : ∃ version err, updateCluster (flat faults) ns s.kv session.object = ⟨s.kv, version, some err⟩ := by
    rcases flat_updateCluster_cases faults ns s.kv session.object with refused | ⟨old, _, read, notAbove, _⟩
    · exact refused
    · have := behind old read stale
      omega
  have refusedSet : ∃ err, setCluster (flat faults) ns session.object s.kv = (s.kv, some err) := by
    rcases flat_setCluster_cases faults ns s.kv session.object with refused | ⟨old, _, read, notAbove, _⟩
    · exact refused
    · have := behind old read stale
      omega
  obtain ⟨_, _, update⟩ := refusedUpdate
  obtain ⟨_, set⟩ := refusedSet
  rw [update, set]
  exact ⟨nofun, rfl, nofun, rfl⟩

section Samples

def sample (version : Int) (addr : String) : Cluster :=
  ⟨"c", version, [⟨[⟨0, "n", addr, roleMaster, "", 0⟩], [⟨0, 16383⟩], -1, none⟩]⟩

def stored (cluster : Cluster) : KV := (∅ : KV).insert (buildClusterKey "ns" "c") (.json cluster.marshalJSON)

def initial : State := ⟨stored (sample 1 "a:1"), fun _ => none, 0⟩

/-- Client 0 has read the record. -/
def held : State := initial.assign 0 (some ⟨sample 1 "a:1", 0⟩)

/-- Client 1 has read it too, went on with version 5 of the nodes and is done. -/
def visited : State :=
  ((held.assign 1 (some ⟨sample 1 "a:1", 0⟩)).assign 1 (some ⟨⟨"c", 5, []⟩, 0⟩)).assign 1 none

def twoReaders : List Label :=
  [.get 0 .none, .get 1 .none, .adopt 1 5 [], .drop 1, .create (sample 1 "b:1") .none, .remove .none,
    .create (sample 2 "b:1") .none]

def removed (sessions : Nat → Option Session) : State where
  kv := (stored (sample 1 "a:1")).erase (buildClusterKey "ns" "c")
  sessions
  removals := 1

/-- Removed and created again with `version`. -/
def recreated (sessions : Nat → Option Session) (version : Int) : State where
  kv := (removed sessions).kv.insert (buildClusterKey "ns" "c") (.json (sample version "b:1").marshalJSON)
  sessions
  removals := 1

theorem sample_read : getCluster (flat .none) "ns" "c" (stored (sample 1 "a:1")) = .ok (sample 1 "a:1") := by
  decide +kernel

theorem sample_start : Start "ns" "c" initial where
  record := by
    intro found read
    obtain rfl := Except.ok.inj (sample_read.symm.trans read)
    exact ⟨rfl, by constructor <;> decide⟩
  sessions := fun _ => rfl

theorem sample_removed (sessions : Nat → Option Session) :
    Step "ns" "c" ⟨stored (sample 1 "a:1"), sessions, 0⟩ (.remove .none) (removed sessions) := by
  have result : removeCluster (flat .none) "ns" "c" (stored (sample 1 "a:1")) = ((removed sessions).kv, none) := by
    have present : found (existsCluster (flat .none) "ns" "c" (stored (sample 1 "a:1"))) = true := by decide +kernel
    simp only [removeCluster, present]
    rfl
  have changed : (removed sessions).kv ≠ stored (sample 1 "a:1") := by
    intro same
    have gone : (removed sessions).kv[buildClusterKey "ns" "c"]? = none := Std.ExtTreeMap.getElem?_erase_self
    rw [same, stored, Std.ExtTreeMap.getElem?_insert_self] at gone
    cases gone
  exact .removed result (.inr ⟨changed, rfl⟩)

theorem sample_created (sessions : Nat → Option Session) (int64 : InInt64 version) :
    Step "ns" "c" (removed sessions) (.create (sample version "b:1") .none) (recreated sessions version) := by
  have absent : found (existsCluster (flat .none) "ns" "c" (removed fun _ => none).kv) = false := by decide +kernel
  have result : createCluster (flat .none) "ns" (sample version "b:1") (removed sessions).kv =
      ((recreated sessions version).kv, none) := by
    simp only [createCluster, show (sample version "b:1").name = "c" from rfl,
      show (removed sessions).kv = (removed fun _ => none).kv from rfl, absent]
    rfl
  exact .created rfl int64 result

end Samples

/-- Created again above the one version that is still held, and below one that was: the
old object is refused. A creation before the removal is refused as well. -/
theorem stale_writer_fenced :
    Run (Guarded (Step "ns" "c") (Fenced "ns" "c")) initial twoReaders (recreated visited.sessions 2) ∧
      (updateCluster (flat .none) "ns" (recreated visited.sessions 2).kv (sample 1 "a:1")).err ≠ none := by
  have fresh : Fenced "ns" "c" (held.assign 1 (some ⟨sample 1 "a:1", 0⟩)) (.adopt 1 5 []) := by
    rintro session _ ⟨⟩ stale
    exact absurd stale (Nat.lt_irrefl 0)
  have existing : ∃ err, createCluster (flat .none) "ns" (sample 1 "b:1") visited.kv = (visited.kv, err) := by
    have present : found (existsCluster (flat .none) "ns" "c" visited.kv) = true := by decide +kernel
    simp [createCluster, show (sample 1 "b:1").name = "c" from rfl, present]
  obtain ⟨_, existing⟩ := existing
  have fenced : Fenced "ns" "c" (removed visited.sessions) (.create (sample 2 "b:1") .none) := by
    refine .inr fun client session found _ => ?_
    by_cases done : client = 1
    · subst done
      cases found
    · have found : held.sessions client = some session := by simpa [removed, visited, State.assign, done] using found
      by_cases first : client = 0
      · subst first
        cases found
        decide
      · simp [held, initial, State.assign, first] at found
  have run : Run (Guarded (Step "ns" "c") (Fenced "ns" "c")) initial twoReaders (recreated visited.sessions 2) :=
    .cons ⟨trivial, .got sample_read⟩ <| .cons ⟨trivial, .got sample_read⟩ <|
    .cons ⟨fresh, .adopted rfl (by constructor <;> decide)⟩ <| .cons ⟨trivial, .dropped⟩ <|
    .cons ⟨.inl (congrArg Prod.fst existing), .created rfl (by constructor <;> decide) existing⟩ <|
    .cons ⟨trivial, sample_removed visited.sessions⟩ <|
    .cons ⟨fenced, sample_created visited.sessions (by constructor <;> decide)⟩ .nil
  have kept : (recreated visited.sessions 2).sessions 0 = some ⟨sample 1 "a:1", 0⟩ := rfl
  exact ⟨run, (stale_writers_refused sample_start run kept (by decide) .none).1⟩

/-- A new cluster starts at version 1 again, and what was read before the removal
replaces it. -/
theorem stale_writer_overwrites :
    ∃ s session kv, Start "ns" "c" initial ∧
      Run (Step "ns" "c") initial [.get 0 .none, .remove .none, .create (sample 1 "b:1") .none] s ∧
      s.sessions 0 = some session ∧ session.born < s.removals ∧
      getCluster (flat .none) "ns" "c" s.kv = .ok (sample 1 "b:1") ∧
      updateCluster (flat .none) "ns" s.kv session.object = ⟨kv, 2, none⟩ ∧
      getCluster (flat .none) "ns" "c" kv = .ok (sample 2 "a:1") ∧
      (setCluster (flat .none) "ns" session.object s.kv).2 = none := by
  have run : Run (Step "ns" "c") initial _ (recreated held.sessions 1) :=
    .cons (.got sample_read) <| .cons (sample_removed held.sessions) <|
    .cons (sample_created held.sessions (by constructor <;> decide)) .nil
  have read : getClusterWithoutLock (flat .none) "ns" "c" (recreated held.sessions 1).kv = .ok (sample 1 "b:1") := by
    decide +kernel
  refine ⟨recreated held.sessions 1, ⟨sample 1 "a:1", 0⟩, (recreated held.sessions 1).kv.insert
    (buildClusterKey "ns" "c") (.json (sample 2 "a:1").marshalJSON), sample_start, run, rfl, by decide, read, ?_,
    by decide +kernel, ?_⟩
  · simp only [updateCluster, show (sample 1 "a:1").name = "c" from rfl, read]
    rfl
  · simp only [setCluster, show (sample 1 "a:1").name = "c" from rfl, read]
    rfl

end Kvrocks.Recreation
