import KvrocksController.Lib.Transition
import KvrocksController.Raft.Engine
import KvrocksController.Raft.NodeProofs
import KvrocksController.Store.ClusterStoreProofs

/-! The optimistic update over raft. A write is acknowledged when raft has taken the
event; it is ordered into the common log later, and each node applies that log at its
own pace. The version check reads what the serving node has applied so far. -/
namespace Kvrocks.RaftStore
open Kvrocks.Transition Kvrocks.Strconv ClusterStore Kvrocks.Raft

/-- A successful `UpdateCluster`: the record its object was computed from and the
version it stored. -/
structure Update where
  base : Value
  version : Int

/-- An event on its way through raft. `update` is a ghost. -/
structure Proposal where
  event : Event Value
  update : Option Update

def Proposal.payload (p : Proposal) : Payload Value := .normal (.event p.event)

structure Session where
  node : Nat
  object : Cluster
  base : Value

structure State where
  log : List Proposal
  pending : List Proposal
  applied : Nat → Nat
  sessions : Nat → Option Session

inductive Label where
  | get (client node : Nat)
  | modify (client : Nat) (shards : List Shard)
  | update (client : Nat) (outcome : WriteOutcome)
  | elsewhere (event : Event Value)
  | order (k : Nat)
  | apply (node : Nat)

namespace State

def assign (s : State) (client : Nat) (session : Option Session) : State :=
  { s with sessions := fun other => if other = client then session else s.sessions other }

/-- The map of the first `i` entries of the log. -/
def mapAt (s : State) (i : Nat) : KVs Value := fold ((s.log.take i).map (·.payload))

def latest (s : State) : KVs Value := fold (s.log.map (·.payload))

def view (s : State) (node : Nat) : Replica := ⟨s.mapAt (s.applied node), []⟩

end State

/-- The events of one call, marked as an update if the call succeeded. -/
def marked (base : Value) (version : Int) (err : Option Error) (proposed : List (Event Value)) : List Proposal :=
  proposed.map fun event => ⟨event, match err with
    | none => some ⟨base, version⟩
    | some _ => none⟩

section System
variable (ns name : String)

inductive Step : State → Label → State → Prop where
  | got (read : getCluster (engine .done) ns name (s.view node) = .ok object)
      (record : (s.view node).kvs[buildClusterKey ns name]? = some base) :
      Step s (.get client node) (s.assign client (some ⟨node, object, base⟩))
  | missed (failed : getCluster (engine .done) ns name (s.view node) = .error e) : Step s (.get client node) s
  | modified (holds : s.sessions client = some session) :
      Step s (.modify client shards)
        (s.assign client (some { session with object := { session.object with shards } }))
  | updated (holds : s.sessions client = some session)
      (result : updateCluster (engine outcome) ns (s.view session.node) session.object = ⟨after, version, err⟩) :
      Step s (.update client outcome)
        (State.assign { s with pending := s.pending ++ marked session.base version err after.proposed } client none)
  | elsewhere (other : event.key ≠ buildClusterKey ns name) :
      Step s (.elsewhere event) { s with pending := s.pending ++ [⟨event, none⟩] }
  | ordered (found : s.pending[k]? = some p) :
      Step s (.order k) { s with log := s.log ++ [p], pending := s.pending.eraseIdx k }
  | applied (behind : s.applied node < s.log.length) :
      Step s (.apply node)
        { s with applied := fun other => if other = node then s.applied node + 1 else s.applied other }

/-- The cluster has been created, every node has applied that, and no call is under way. -/
structure Start (s : State) : Prop where
  record : ∃ c : Cluster, s.latest[buildClusterKey ns name]? = some (.json c.marshalJSON) ∧ c.name = name ∧
    -(maxInt64 + 1) ≤ c.version
  untagged : ∀ p ∈ s.log, p.update = none
  pending : s.pending = []
  applied : ∀ node, s.applied node = s.log.length
  sessions : ∀ client, s.sessions client = none

/-- Every successful update was computed from the record right before it in the log,
and no two carry the same version. -/
def Serial (s : State) : Prop :=
  (∀ (i : Nat) p u, s.log[i]? = some p → p.update = some u →
    (s.mapAt i)[buildClusterKey ns name]? = some u.base) ∧
    ((s.log ++ s.pending).filterMap (·.update)).Pairwise fun a b => a.version ≠ b.version

/-- An update is called only when no write of the record is on its way and the serving
node has applied those in the log. -/
def Settled (s : State) : Label → Prop
  | .update client _ => ∀ session, s.sessions client = some session →
      (∀ p ∈ s.pending, p.event.key ≠ buildClusterKey ns name) ∧
        (s.view session.node).kvs[buildClusterKey ns name]? = s.latest[buildClusterKey ns name]? ∧
        session.object.version < maxInt64
  | _ => True

/-- A record that is the current one, or behind it. -/
def Trails (current : Cluster) (value : Value) (version : Int) : Prop :=
  -(maxInt64 + 1) ≤ version ∧
    (value = .json current.marshalJSON ∧ version = current.version ∨ version < current.version)

/-- A write of the record that is next after the current one. -/
def Succeeds (current : Cluster) (p : Proposal) : Prop :=
  ∃ next : Cluster, p.event = ⟨opSet, buildClusterKey ns name, .json next.marshalJSON⟩ ∧ next.name = name ∧
    next.version = current.version + 1 ∧
    ∀ u, p.update = some u → u.base = .json current.marshalJSON ∧ u.version = next.version

/-- `current` is the last record in the log, `first` where the run began. -/
structure Holds (first : Nat) (s : State) (current : Cluster) : Prop where
  stored : s.latest[buildClusterKey ns name]? = some (.json current.marshalJSON)
  named : current.name = name
  lower : -(maxInt64 + 1) ≤ current.version
  contents : ∀ i, first ≤ i → ∃ c : Cluster, (s.mapAt i)[buildClusterKey ns name]? = some (.json c.marshalJSON) ∧
    c.name = name ∧ Trails current (.json c.marshalJSON) c.version
  applied : ∀ node, first ≤ s.applied node
  began : first ≤ s.log.length
  sessions : ∀ client session, s.sessions client = some session →
    session.object.name = name ∧ Trails current session.base session.object.version
  waiting : ∀ p ∈ s.pending, p.event.key = buildClusterKey ns name ∧ Succeeds ns name current p ∨
    p.event.key ≠ buildClusterKey ns name ∧ p.update = none
  single : s.pending.Pairwise fun p q => p.event.key = buildClusterKey ns name → q.event.key ≠ buildClusterKey ns name
  based : ∀ (i : Nat) p u, s.log[i]? = some p → p.update = some u →
    (s.mapAt i)[buildClusterKey ns name]? = some u.base
  versions : (s.log.filterMap (·.update)).Pairwise fun a b => a.version ≠ b.version
  bounded : ∀ p ∈ s.log, ∀ u, p.update = some u → u.version ≤ current.version

end System

section Lookup
variable {s : State} {p : Proposal}

theorem latest_eq (s : State) : s.latest = s.mapAt s.log.length := by
  rw [State.mapAt, List.take_length]
  rfl

theorem mapAt_ge (past : s.log.length ≤ i) : s.mapAt i = s.latest := by
  rw [State.mapAt, List.take_of_length_le past]
  rfl

/-- An earlier map does not change as the log grows. -/
theorem mapAt_append (inside : i ≤ s.log.length) :
    State.mapAt { s with log := s.log ++ [p], pending } i = s.mapAt i := by
  rw [State.mapAt, State.mapAt, List.take_append_of_le_length inside]

theorem latest_append :
    State.latest { s with log := s.log ++ [p], pending } = Write.replay (writes [p.payload]) s.latest := by
  simp only [State.latest, List.map_append, List.map_singleton]
  exact fold_append _ _

theorem latest_append_other (other : p.event.key ≠ key) :
    (State.latest { s with log := s.log ++ [p], pending })[key]? = s.latest[key]? := by
  rw [latest_append, Write.getElem?_replay]
  have unwritten : Write.last? key (writes [p.payload]) = none := by
    simp only [writes, List.filterMap_cons, List.filterMap_nil, Proposal.payload, Payload.write?]
    split_ifs <;> simp [Write.last?, Write.at?, other]
  rw [unwritten]
  rfl

theorem latest_append_set (event : p.event = ⟨opSet, key, value⟩) :
    (State.latest { s with log := s.log ++ [p], pending })[key]? = some value := by
  rw [latest_append, Write.getElem?_replay]
  simp [writes, Proposal.payload, Payload.write?, event, Write.last?, Write.at?]

end Lookup

theorem Trails.mono (trails : Trails current value version) (ahead : next = current ∨ current.version < next.version) :
    Trails next value version := by
  obtain rfl | ahead := ahead
  · exact trails
  · refine ⟨trails.1, .inr ?_⟩
    obtain ⟨_, same⟩ | behind := trails.2 <;> omega

namespace Holds
variable {ns name : String} {first : Nat} {s : State} {current : Cluster}

theorem assign (holds : Holds ns name first s current)
    (own : ∀ session, after = some session →
      session.object.name = name ∧ Trails current session.base session.object.version) :
    Holds ns name first (s.assign client after) current :=
  { holds with sessions := assigned holds.sessions own }

/-- What a node shows of the record, and what a read makes of it. -/
theorem read (holds : Holds ns name first s current) (node : Nat) (outcome : WriteOutcome)
    (read : getClusterWithoutLock (engine outcome) ns name (s.view node) = .ok object)
    (record : (s.view node).kvs[buildClusterKey ns name]? = some base) :
    object.name = name ∧ Trails current base object.version := by
  obtain ⟨c, shown, named, trails⟩ := holds.contents _ (holds.applied node)
  obtain ⟨value, found, decoded⟩ := getClusterWithoutLock_ok.mp read
  have same := (engine_get_ok.mp found).symm.trans shown
  obtain rfl := Option.some.inj same
  obtain rfl := Option.some.inj (record.symm.trans shown)
  obtain ⟨header, version⟩ := decode_marshal_header decoded
  exact ⟨header.trans named, version ▸ trails⟩

theorem push (holds : Holds ns name first s current)
    (fits : p.event.key = buildClusterKey ns name ∧ Succeeds ns name current p ∧
        (∀ q ∈ s.pending, q.event.key ≠ buildClusterKey ns name) ∨
      p.event.key ≠ buildClusterKey ns name ∧ p.update = none) :
    Holds ns name first { s with pending := s.pending ++ [p] } current :=
  { holds with
    waiting := by
      intro q member
      obtain member | member := List.mem_append.mp member
      · exact holds.waiting q member
      · obtain rfl := List.mem_singleton.mp member
        exact fits.imp (fun own => ⟨own.1, own.2.1⟩) id
    single := by
      rw [List.pairwise_append]
      refine ⟨holds.single, List.pairwise_singleton _ _, fun q member r last key => ?_⟩
      obtain rfl := List.mem_singleton.mp last
      obtain ⟨_, _, quiet⟩ | ⟨other, _⟩ := fits
      · exact absurd key (quiet q member)
      · exact other }

/-- A call that settled events precede works on the current record, so what it
proposes is the next one. -/
theorem update (holds : Holds ns name first s current) (found : s.sessions client = some session)
    (settled : Settled ns name s (.update client outcome))
    (result : updateCluster (engine outcome) ns (s.view session.node) session.object = ⟨after, version, err⟩) :
    Holds ns name first { s with pending := s.pending ++ marked session.base version err after.proposed } current := by
  obtain ⟨quiet, caughtUp, small⟩ := settled session found
  obtain ⟨named, lower, trails⟩ := holds.sessions client session found
  obtain ⟨e, refused⟩ | ⟨old, read, notAbove, written⟩ :=
    updateCluster_cases (engine outcome) ns (s.view session.node) session.object
  · rw [result] at refused
    cases refused
    simpa [marked, State.view] using holds
  · obtain ⟨value, shown, decoded⟩ := getClusterWithoutLock_ok.mp read
    rw [engine_get_ok, named, caughtUp, holds.stored] at shown
    obtain rfl := Option.some.inj shown
    have current_ : session.base = .json current.marshalJSON ∧ session.object.version = current.version := by
      obtain current_ | behind := trails
      · exact current_
      · have header := (decode_marshal_header decoded).2
        omega
    obtain ⟨base, same⟩ := current_
    have next := nextVersion_eq lower small
    have succeeds (update : Option Update)
        (tagged : ∀ u, update = some u → u.base = session.base ∧ u.version = nextVersion session.object.version) :
        Succeeds ns name current ⟨⟨opSet, buildClusterKey ns session.object.name,
          .json { session.object with version := nextVersion session.object.version }.marshalJSON⟩, update⟩ :=
      ⟨{ session.object with version := nextVersion session.object.version }, by rw [named], named,
        by rw [← same]; exact next, fun u some => by rw [← base]; exact tagged u some⟩
    rw [result] at written
    cases outcome with
    | done =>
      cases written
      exact holds.push (.inl ⟨by rw [named], succeeds _ (by rintro u ⟨⟩; exact ⟨rfl, rfl⟩), quiet⟩)
    | refused e =>
      cases written
      simpa [marked, putCluster, engine, propose, WriteOutcome.finish, State.view] using holds
    | unacknowledged e =>
      cases written
      exact holds.push (.inl ⟨by rw [named], succeeds _ (by rintro u ⟨⟩), quiet⟩)

/-- The log grows by `p`, after which `next` is the record. -/
theorem grow (holds : Holds ns name first s current) (ahead : next = current ∨ current.version < next.version)
    (stored : (State.latest { s with log := s.log ++ [p], pending })[buildClusterKey ns name]? =
      some (.json next.marshalJSON)) (named : next.name = name)
    (tagged : ∀ u, p.update = some u → u.base = .json current.marshalJSON ∧ current.version < u.version ∧
      u.version ≤ next.version)
    (waiting : ∀ q ∈ pending, q.event.key = buildClusterKey ns name ∧ Succeeds ns name next q ∨
      q.event.key ≠ buildClusterKey ns name ∧ q.update = none)
    (single : pending.Pairwise fun p q =>
      p.event.key = buildClusterKey ns name → q.event.key ≠ buildClusterKey ns name) :
    Holds ns name first { s with log := s.log ++ [p], pending } next where
  stored := stored
  named := named
  lower := by
    have lower := holds.lower
    obtain rfl | ahead := ahead <;> omega
  contents := by
    intro i later
    by_cases inside : i ≤ s.log.length
    · rw [mapAt_append inside]
      obtain ⟨c, shown, named, trails⟩ := holds.contents i later
      exact ⟨c, shown, named, trails.mono ahead⟩
    · have past : (s.log ++ [p]).length ≤ i := by
        rw [List.length_append, List.length_singleton]
        omega
      have lower := holds.lower
      rw [mapAt_ge past]
      exact ⟨next, stored, named, by obtain rfl | ahead := ahead <;> omega, .inl ⟨rfl, rfl⟩⟩
  applied := holds.applied
  began := by
    have began := holds.began
    rw [List.length_append]
    omega
  sessions := fun client session found =>
    ⟨(holds.sessions client session found).1, (holds.sessions client session found).2.mono ahead⟩
  waiting := waiting
  single := single
  based := by
    intro i q u found update
    by_cases inside : i < s.log.length
    · rw [List.getElem?_append_left inside] at found
      rw [mapAt_append (Nat.le_of_lt inside)]
      exact holds.based i q u found update
    · rw [List.getElem?_append_right (Nat.not_lt.mp inside), List.getElem?_singleton] at found
      split at found
      · rename_i last
        obtain rfl := Option.some.inj found
        obtain rfl : i = s.log.length := by omega
        rw [mapAt_append (Nat.le_refl _), ← latest_eq, holds.stored, (tagged u update).1]
      · cases found
  versions := by
    rw [List.filterMap_append, List.pairwise_append]
    refine ⟨holds.versions, ?_, ?_⟩
    · cases update : p.update <;> simp [update]
    · intro a before b after
      obtain ⟨q, member, update⟩ := List.mem_filterMap.mp before
      obtain ⟨r, last, own⟩ := List.mem_filterMap.mp after
      obtain rfl := List.mem_singleton.mp last
      have old := holds.bounded q member a update
      have new := (tagged b own).2.1
      omega
  bounded := by
    intro q member u update
    obtain member | member := List.mem_append.mp member
    · have old := holds.bounded q member u update
      obtain rfl | ahead := ahead <;> omega
    · obtain rfl := List.mem_singleton.mp member
      exact (tagged u update).2.2

theorem order (holds : Holds ns name first s current) {k : Nat} (found : s.pending[k]? = some p) :
    ∃ next, Holds ns name first { s with log := s.log ++ [p], pending := s.pending.eraseIdx k } next := by
  have single := holds.single.sublist (List.eraseIdx_sublist s.pending k)
  obtain ⟨own, next, event, named, version, tagged⟩ | ⟨other, untagged⟩ :=
    holds.waiting p (List.mem_of_getElem? found)
  · refine ⟨next, holds.grow (.inr (by omega)) (latest_append_set event) named ?_ ?_ single⟩
    · intro u update
      obtain ⟨base, same⟩ := tagged u update
      exact ⟨base, by omega, by omega⟩
    · -- it was the only write of the record under way
      intro q member
      obtain ⟨j, distinct, there⟩ := List.mem_eraseIdx_iff_getElem?.mp member
      have others : q.event.key ≠ buildClusterKey ns name := by
        obtain ⟨boundJ, rfl⟩ := List.getElem?_eq_some_iff.mp there
        obtain ⟨boundK, rfl⟩ := List.getElem?_eq_some_iff.mp found
        have pairs := List.pairwise_iff_getElem.mp holds.single
        obtain before | after := Nat.lt_or_gt_of_ne distinct
        · exact fun key => pairs j k boundJ boundK before key own
        · exact pairs k j boundK boundJ after own
      obtain ⟨key, _⟩ | rest := holds.waiting q (List.mem_of_getElem? there)
      · exact absurd key others
      · exact .inr rest
  · refine ⟨current, holds.grow (.inl rfl) ?_ holds.named ?_ ?_ single⟩
    · rw [latest_append_other other]
      exact holds.stored
    · intro u update
      rw [untagged] at update
      cases update
    · exact fun q member => holds.waiting q (List.mem_of_mem_eraseIdx member)

theorem step (holds : Holds ns name first s current) (settled : Settled ns name s l) (step : Step ns name s l t) :
    ∃ next, Holds ns name first t next := by
  cases step with
  | got read record =>
    refine ⟨current, holds.assign ?_⟩
    rintro session ⟨⟩
    exact holds.read _ _ read record
  | missed => exact ⟨current, holds⟩
  | modified found =>
    have tracked := holds.sessions _ _ found
    refine ⟨current, holds.assign ?_⟩
    rintro session ⟨⟩
    exact tracked
  | updated found result => exact ⟨current, (holds.update found settled result).assign nofun⟩
  | elsewhere other => exact ⟨current, holds.push (.inr ⟨other, rfl⟩)⟩
  | ordered found => exact holds.order found
  | applied behind =>
    refine ⟨current, { holds with applied := fun other => ?_ }⟩
    dsimp only
    split
    · exact Nat.le_succ_of_le (holds.applied _)
    · exact holds.applied other

theorem serial (holds : Holds ns name first s current) : Serial ns name s := by
  have tagged (p : Proposal) (member : p ∈ s.pending) (u : Update) (update : p.update = some u) :
      p.event.key = buildClusterKey ns name ∧ u.version = current.version + 1 := by
    obtain ⟨own, next, _, _, version, tag⟩ | ⟨_, untagged⟩ := holds.waiting p member
    · exact ⟨own, (tag u update).2.trans version⟩
    · rw [untagged] at update
      cases update
  refine ⟨holds.based, ?_⟩
  rw [List.filterMap_append, List.pairwise_append]
  refine ⟨holds.versions, ?_, ?_⟩
  · rw [List.pairwise_filterMap]
    refine holds.single.imp_of_mem fun {p q} left right apart a first b second => ?_
    exact absurd (tagged q right b second).1 (apart (tagged p left a first).1)
  · intro a before b after
    obtain ⟨p, member, update⟩ := List.mem_filterMap.mp before
    obtain ⟨q, waits, own⟩ := List.mem_filterMap.mp after
    have old := holds.bounded p member a update
    have new := (tagged q waits b own).2
    omega

end Holds

/-- Where every update is called on settled state, all successful updates form one
chain in the log. -/
theorem raft_updates_serialise {s₀ s : State} (start : Start ns name s₀)
    (run : Run (Guarded (Step ns name) (Settled ns name)) s₀ ls s) : Serial ns name s := by
  have reached : ∃ current, Holds ns name s₀.log.length s current := by
    refine run.preserves (P := fun s => ∃ current, Holds ns name s₀.log.length s current) ?_ ?_
    · rintro s l t ⟨current, holds⟩ ⟨settled, step⟩
      exact holds.step settled step
    · obtain ⟨record, stored, named, lower⟩ := start.record
      have untagged : s₀.log.filterMap (·.update) = [] := by
        simpa [List.filterMap_eq_nil_iff] using start.untagged
      refine ⟨record, stored, named, lower, ?_, ?_, Nat.le_refl _, ?_, ?_, ?_, ?_, ?_, ?_⟩
      · intro i past
        rw [mapAt_ge past]
        exact ⟨record, stored, named, lower, .inl ⟨rfl, rfl⟩⟩
      · intro node
        rw [start.applied]
      · intro client session found
        rw [start.sessions] at found
        cases found
      · simp [start.pending]
      · simp [start.pending]
      · intro i p u found update
        rw [start.untagged p (List.mem_of_getElem? found)] at update
        cases update
      · simp [untagged]
      · intro p member u update
        rw [start.untagged p member] at update
        cases update
  obtain ⟨current, holds⟩ := reached
  exact holds.serial

section Samples

def record (version : Int) : Cluster := ⟨"c", version, []⟩

def write (version : Int) (update : Option Update) : Proposal :=
  ⟨⟨opSet, buildClusterKey "ns" "c", .json (record version).marshalJSON⟩, update⟩

/-- The update that replaces one version by the next. -/
def replacement (version : Int) : Proposal :=
  write (version + 1) (some ⟨.json (record version).marshalJSON, version + 1⟩)

def holding (node : Nat) (version : Int) : Session := ⟨node, record version, .json (record version).marshalJSON⟩

def initial : State := ⟨[write 1 none], [], fun _ => 1, fun _ => none⟩

theorem initial_start : Start "ns" "c" initial where
  record := ⟨record 1, Std.ExtTreeMap.getElem?_insert_self, rfl, by decide⟩
  untagged := by
    intro p member
    rw [List.mem_singleton.mp member]
    rfl
  pending := rfl
  applied := fun _ => rfl
  sessions := fun _ => rfl

theorem initial_read : getClusterWithoutLock (engine .done) "ns" (record 1).name (initial.view 0) = .ok (record 1) := by
  decide +kernel

theorem initial_update : updateCluster (engine .done) "ns" (initial.view 0) (record 1) =
    ⟨{ initial.view 0 with proposed := [(replacement 1).event] }, 2, none⟩ := by
  simp only [updateCluster, initial_read]
  rfl

end Samples

/-- One client after the other: the second starts when the node has applied the first
update. -/
theorem raft_updates_in_turn : ∃ ls s, Run (Guarded (Step "ns" "c") (Settled "ns" "c")) initial ls s ∧
    s.pending = [replacement 2] ∧ Serial "ns" "c" s := by
  let one := initial.assign 0 (some (holding 0 1))
  let proposed := State.assign { one with pending := [replacement 1] } 0 none
  let ordered : State := { proposed with log := [write 1 none, replacement 1], pending := [] }
  let applied : State := { ordered with applied := fun other => if other = 0 then 2 else ordered.applied other }
  let two := applied.assign 1 (some (holding 0 2))
  let final := State.assign { two with pending := [replacement 2] } 1 none
  have holdsOne : one.sessions 0 = some (holding 0 1) := rfl
  have holdsTwo : two.sessions 1 = some (holding 0 2) := rfl
  have read : getClusterWithoutLock (engine .done) "ns" (record 2).name (applied.view 0) = .ok (record 2) := by
    decide +kernel
  have update : updateCluster (engine .done) "ns" (two.view 0) (record 2) =
      ⟨{ two.view 0 with proposed := [(replacement 2).event] }, 3, none⟩ := by
    have reread : getClusterWithoutLock (engine .done) "ns" (record 2).name (two.view 0) = .ok (record 2) := read
    simp only [updateCluster, reread]
    rfl
  have settledOne : Settled "ns" "c" one (.update 0 .done) := by
    rintro session ⟨⟩
    exact ⟨nofun, rfl, by decide⟩
  have settledTwo : Settled "ns" "c" two (.update 1 .done) := by
    rintro session ⟨⟩
    exact ⟨nofun, rfl, by decide⟩
  have first : Step "ns" "c" one (.update 0 .done) proposed := .updated holdsOne initial_update
  have order : Step "ns" "c" proposed (.order 0) ordered := .ordered rfl
  have apply : Step "ns" "c" ordered (.apply 0) applied := .applied (by decide)
  have second : Step "ns" "c" two (.update 1 .done) final := .updated holdsTwo update
  have run : Run (Guarded (Step "ns" "c") (Settled "ns" "c")) initial
      [.get 0 0, .update 0 .done, .order 0, .apply 0, .get 1 0, .update 1 .done] final :=
    .cons ⟨trivial, .got initial_read Std.ExtTreeMap.getElem?_insert_self⟩ (.cons ⟨settledOne, first⟩
      (.cons ⟨trivial, order⟩ (.cons ⟨trivial, apply⟩
        (.cons ⟨trivial, .got read Std.ExtTreeMap.getElem?_insert_self⟩ (.cons ⟨settledTwo, second⟩ .nil)))))
  exact ⟨_, final, run, rfl, raft_updates_serialise initial_start run⟩

/-- Two clients of one controller read version 1 and both succeed with version 2. -/
theorem raft_updates_clash : ∃ ls s, Start "ns" "c" initial ∧ Run (Step "ns" "c") initial ls s ∧
    s.pending = [replacement 1, replacement 1] ∧ ¬ Serial "ns" "c" s := by
  let one := initial.assign 0 (some (holding 0 1))
  let both := one.assign 1 (some (holding 0 1))
  let first := State.assign { both with pending := [replacement 1] } 0 none
  let second := State.assign { first with pending := [replacement 1, replacement 1] } 1 none
  have holdsFirst : both.sessions 0 = some (holding 0 1) := rfl
  have holdsSecond : first.sessions 1 = some (holding 0 1) := rfl
  have updateFirst : Step "ns" "c" both (.update 0 .done) first := .updated holdsFirst initial_update
  have updateSecond : Step "ns" "c" first (.update 1 .done) second := .updated holdsSecond initial_update
  have run : Run (Step "ns" "c") initial [.get 0 0, .get 1 0, .update 0 .done, .update 1 .done] second :=
    .cons (.got initial_read Std.ExtTreeMap.getElem?_insert_self)
      (.cons (.got initial_read Std.ExtTreeMap.getElem?_insert_self)
        (.cons updateFirst (.cons updateSecond .nil)))
  refine ⟨_, second, initial_start, run, rfl, ?_⟩
  rintro ⟨_, versions⟩
  simp [second, first, both, one, State.assign, replacement, write, initial] at versions

end Kvrocks.RaftStore
