import KvrocksController.Raft.Agreement

/-! Who belongs to the cluster is kept twice by a node: the voters that raft returns,
which snapshots carry, and the peer table, which starts from the configuration file and
follows the entries that the node applies itself. -/
namespace Kvrocks.Raft
open Kvrocks.Transition
variable {V : Type}

section Changes

/-- What `AddPeer` and `RemovePeer` propose. -/
def addPeer (nodeID : Nat) (peer : String) : Payload V := .confChange (.ok ⟨.addNode, nodeID, peer⟩)

def removePeer (nodeID : Nat) : Payload V := .confChange (.ok ⟨.removeNode, nodeID, ""⟩)

/-- The entries that `StartNode` puts at the head of the log. -/
def bootstrap (config : Config) : List (Payload V) := config.peers.mapIdx fun i peer => addPeer (i + 1) peer

inductive Issued : Payload V → Prop where
  | data (data : EntryData V) : Issued (.normal data)
  | addPeer (nodeID : Nat) (peer : String) : Issued (addPeer nodeID peer)
  | removePeer (nodeID : Nat) : Issued (removePeer nodeID)

/-- Whether the entry makes a node a voter, or none any more, if it concerns it. -/
def Payload.vote (id : Nat) : Payload V → Option Bool
  | .confChange (.ok cc) =>
    if cc.nodeID = id then
      match cc.type with
      | .addNode => some true
      | .removeNode => some false
      | _ => none
    else none
  | _ => none

/-- Whether a node is a voter after the entries, given whether it was before. -/
def ballot (id : Nat) (log : List (Payload V)) (before : Bool) : Bool :=
  log.foldl (fun voting payload => (payload.vote id).getD voting) before

/-- Some entry concerns the node. -/
def Concerned (id : Nat) (log : List (Payload V)) : Prop := ∃ payload ∈ log, (payload.vote id).isSome = true

theorem ballot_append (id : Nat) (log later : List (Payload V)) (before : Bool) :
    ballot id (log ++ later) before = ballot id later (ballot id log before) := List.foldl_append

@[simp] theorem ballot_addPeer (id nodeID : Nat) (peer : String) (before : Bool) :
    ballot id [(addPeer nodeID peer : Payload V)] before = (decide (id = nodeID) || before) := by
  by_cases same : nodeID = id
  · simp [ballot, addPeer, Payload.vote, same]
  · simp [ballot, addPeer, Payload.vote, same, Ne.symm same]

@[simp] theorem ballot_removePeer (id nodeID : Nat) (before : Bool) :
    ballot id [(removePeer nodeID : Payload V)] before = (!decide (id = nodeID) && before) := by
  by_cases same : nodeID = id
  · simp [ballot, removePeer, Payload.vote, same]
  · simp [ballot, removePeer, Payload.vote, same, Ne.symm same]

/-- A voter that the entry does not remove stays one. -/
theorem ballot_stays {id : Nat} {payload : Payload V} (stays : payload.removes id = false) :
    ballot id [payload] true = true := by
  match payload with
  | .normal _ | .confChange (.error _) => rfl
  | .confChange (.ok ⟨type, nodeID, _⟩) =>
    by_cases same : nodeID = id
    · cases type <;> simp_all [ballot, Payload.vote, Payload.removes]
    · simp [ballot, Payload.vote, same]

/-- The last entry about a node decides. -/
theorem ballot_concerned {id : Nat} {log : List (Payload V)} (concerned : Concerned id log) (a b : Bool) :
    ballot id log a = ballot id log b := by
  induction log generalizing a b with
  | nil =>
    obtain ⟨_, member, _⟩ := concerned
    cases member
  | cons payload log ih =>
    rw [ballot, ballot, List.foldl_cons, List.foldl_cons]
    cases vote : payload.vote id with
    | some voting => rfl
    | none =>
      obtain ⟨other, member, about⟩ := concerned
      rcases List.mem_cons.mp member with rfl | member
      · rw [vote] at about
        cases about
      · exact ih ⟨other, member, about⟩ a b

end Changes

/-- Raft returns the voters after the change. -/
def Env.Faithful (env : Env) : Prop :=
  ∀ c nodeID context id,
    (id ∈ (env.applyConfChange c ⟨.addNode, nodeID, context⟩).voters ↔ id = nodeID ∨ id ∈ c.voters) ∧
    (id ∈ (env.applyConfChange c ⟨.removeNode, nodeID, context⟩).voters ↔ id ≠ nodeID ∧ id ∈ c.voters)

/-- The entries move the voters and the peer table alike, and nothing else that matters. -/
structure Votes (log : List (Payload V)) (n m : Node V) : Prop where
  id : m.id = n.id
  saved : m.saved = n.saved
  running : m.isRunning = n.isRunning
  voters : ∀ id, decide (id ∈ m.confState.voters) = ballot id log (decide (id ∈ n.confState.voters))
  peers : ∀ id, decide (id ∈ m.peers) = ballot id log (decide (id ∈ n.peers))

theorem Votes.refl (n : Node V) : Votes [] n n := ⟨rfl, rfl, rfl, fun _ => rfl, fun _ => rfl⟩

theorem Votes.trans {n m k : Node V} (first : Votes log n m) (second : Votes later m k) : Votes (log ++ later) n k where
  id := second.id.trans first.id
  saved := second.saved.trans first.saved
  running := second.running.trans first.running
  voters id := by rw [second.voters, first.voters, ballot_append]
  peers id := by rw [second.peers, first.peers, ballot_append]

/-- Where the two differ, they agree from the next entry about the node on. -/
theorem Votes.agree {n m : Node V} {id : Nat} (votes : Votes log n m)
    (before : (id ∈ n.peers ↔ id ∈ n.confState.voters) ∨ Concerned id (log ++ later)) :
    (id ∈ m.peers ↔ id ∈ m.confState.voters) ∨ Concerned id later := by
  have moved (same : ballot id log (decide (id ∈ n.peers)) = ballot id log (decide (id ∈ n.confState.voters))) :
      id ∈ m.peers ↔ id ∈ m.confState.voters := by
    rw [← votes.peers, ← votes.voters] at same
    exact decide_eq_decide.mp same
  rcases before with same | ⟨payload, here, about⟩
  · exact .inl (moved (by rw [decide_eq_decide.mpr same]))
  · rcases List.mem_append.mp here with here | here
    · exact .inl (moved (ballot_concerned ⟨payload, here, about⟩ _ _))
    · exact .inr ⟨payload, here, about⟩

namespace Node
variable {env : Env} {n m : Node V}

/-- Adding a node reaches the table unless it is the node itself, which is in there. -/
theorem addPeer_votes (faithful : env.Faithful) (addressed : peer ≠ "") (own : n.id ∈ n.peers)
    (changed : n.applyConfChange env ⟨.addNode, nodeID, peer⟩ = some m) : Votes [addPeer nodeID peer] n m := by
  have voted (id : Nat) : decide (id ∈ (env.applyConfChange n.confState ⟨.addNode, nodeID, peer⟩).voters) =
      ballot id [(addPeer nodeID peer : Payload V)] (decide (id ∈ n.confState.voters)) := by
    rw [ballot_addPeer, ← Bool.decide_or]
    exact decide_eq_decide.mpr (faithful _ _ _ id).1
  simp only [applyConfChange] at changed
  split at changed
  · obtain rfl := Option.some.inj changed
    refine ⟨rfl, rfl, rfl, voted, fun id => ?_⟩
    rw [ballot_addPeer, ← Bool.decide_or]
    refine decide_eq_decide.mpr ?_
    rw [Std.ExtTreeMap.mem_insert, Std.LawfulEqOrd.compare_eq_iff_eq, eq_comm]
  · rename_i skipped
    obtain rfl := Option.some.inj changed
    have self : nodeID = n.id := not_not.mp fun other => skipped ⟨other, addressed⟩
    refine ⟨rfl, rfl, rfl, voted, fun id => ?_⟩
    rw [ballot_addPeer, ← Bool.decide_or, self]
    refine decide_eq_decide.mpr (iff_or_self.mpr ?_)
    rintro rfl
    exact own

theorem removePeer_votes (faithful : env.Faithful) (other : nodeID ≠ n.id)
    (changed : n.applyConfChange env ⟨.removeNode, nodeID, ""⟩ = some m) : Votes [removePeer nodeID] n m := by
  simp only [applyConfChange, if_neg other] at changed
  obtain rfl := Option.some.inj changed
  refine ⟨rfl, rfl, rfl, fun id => ?_, fun id => ?_⟩
  · rw [ballot_removePeer, ← decide_not, ← Bool.decide_and]
    exact decide_eq_decide.mpr (faithful _ _ _ id).2
  · rw [ballot_removePeer, ← decide_not, ← Bool.decide_and]
    refine decide_eq_decide.mpr ?_
    rw [Std.ExtTreeMap.mem_erase, ne_eq, Std.LawfulEqOrd.compare_eq_iff_eq, eq_comm]

theorem applyEntry_votes (faithful : env.Faithful) (issued : Issued entry.payload)
    (addressed : ∀ id, entry.payload ≠ addPeer id "") (stays : entry.payload.removes n.id = false)
    (own : n.id ∈ n.peers) (applied : n.applyEntry env entry = some (m, err)) : Votes [entry.payload] n m := by
  obtain ⟨index, payload⟩ := entry
  cases issued with
  | data data =>
    have same : m.id = n.id ∧ m.saved = n.saved ∧ m.isRunning = n.isRunning ∧ m.confState = n.confState ∧
        m.peers = n.peers := by
      simp only [applyEntry] at applied
      split at applied <;> cases applied <;> exact ⟨rfl, rfl, rfl, rfl, rfl⟩
    obtain ⟨id, saved, running, voters, peers⟩ := same
    exact ⟨id, saved, running, fun _ => by rw [voters]; rfl, fun _ => by rw [peers]; rfl⟩
  | addPeer nodeID peer =>
    obtain ⟨_, changed, same⟩ := Option.map_eq_some_iff.mp applied
    cases same
    refine addPeer_votes faithful (fun empty => ?_) own changed
    subst empty
    exact addressed nodeID rfl
  | removePeer nodeID =>
    obtain ⟨_, changed, same⟩ := Option.map_eq_some_iff.mp applied
    cases same
    refine removePeer_votes faithful (fun self => ?_) changed
    subst self
    simp [Payload.removes] at stays

theorem applyAll_votes (faithful : env.Faithful) (issued : ∀ entry ∈ entries, Issued (Entry.payload entry))
    (addressed : ∀ entry ∈ entries, ∀ id, entry.payload ≠ addPeer id "")
    (stays : ∀ entry ∈ entries, entry.payload.removes n.id = false) (own : n.id ∈ n.peers)
    (applied : n.applyAll env entries = some m) :
    Votes (entries.map (·.payload)) n m ∧ m.id ∈ m.peers := by
  induction entries generalizing n with
  | nil => exact Option.some.inj applied ▸ ⟨Votes.refl n, own⟩
  | cons entry rest ih =>
    rw [applyAll] at applied
    split at applied
    · cases applied
    · rename_i next err first
      have head : Votes [entry.payload] n next := applyEntry_votes faithful (issued entry (by simp))
        (addressed entry (by simp)) (stays entry (by simp)) own first
      have kept : next.id ∈ next.peers := by
        have moved := head.peers n.id
        rw [decide_eq_true own, ballot_stays (stays entry (by simp))] at moved
        rw [head.id]
        exact of_decide_eq_true moved
      obtain ⟨tail, last⟩ := ih (fun e member => issued e (by simp [member]))
        (fun e member => addressed e (by simp [member]))
        (fun e member => by rw [head.id]; exact stays e (by simp [member])) kept applied
      exact ⟨head.trans tail, last⟩

end Node

/-- A snapshot of the committed log: it can be read, and has the voters of its index. -/
structure Sound (log : Log V) (snapshot : Snapshot V) : Prop where
  bound : snapshot.index ≤ log.payloads.length
  voters : ∀ id, decide (id ∈ snapshot.confState.voters) = ballot id (log.payloads.take snapshot.index) false
  readable : ∃ kvs, DataStore.decode snapshot.data = .ok kvs

/-- Where the table and the voters differ, an entry after the index makes up for it. -/
def Settles (log : Log V) (index : Nat) (peers : Std.ExtTreeMap Nat String) (voters : List Nat) : Prop :=
  ∀ id, (id ∈ peers ↔ id ∈ voters) ∨ Concerned id (log.payloads.drop index)

structure Member (config : Config) (log : Log V) (n : Node V) : Prop where
  id : n.id = config.id
  running : n.isRunning = true
  own : n.id ∈ n.peers
  bound : n.appliedIndex ≤ log.payloads.length
  voters : ∀ id, decide (id ∈ n.confState.voters) = ballot id (log.payloads.take n.appliedIndex) false
  saved : ∀ snapshot, n.saved = some snapshot → Sound log snapshot
  settles : Settles log n.appliedIndex n.peers n.confState.voters

theorem validate_none {config : Config} :
    config.validate = none ↔ 1 ≤ config.id ∧ config.id ≤ config.peers.length := by
  unfold Config.validate
  split
  · simp
    omega
  · split
    · simp
      omega
    · split
      · simp
        omega
      · simp
        omega

theorem mem_configPeers {config : Config} {id : Nat} :
    id ∈ Node.configPeers config ↔ 1 ≤ id ∧ id ≤ config.peers.length := by
  rw [Node.configPeers, Std.ExtTreeMap.mem_ofList, List.contains_iff_mem]
  simp only [List.mem_map, List.mem_mapIdx]
  constructor
  · rintro ⟨_, ⟨i, inside, rfl⟩, rfl⟩
    exact ⟨Nat.le_add_left 1 i, inside⟩
  · rintro ⟨positive, bound⟩
    exact ⟨_, ⟨id - 1, by omega, rfl⟩, Nat.sub_add_cancel positive⟩

/-- The entries at the head of the log make up for the table of a node that starts. -/
theorem bootstrap_settles {config : Config} {log : Log V} (boots : bootstrap config <+: log.payloads) :
    Settles log 0 (Node.configPeers config) [] := by
  intro id
  by_cases known : id ∈ Node.configPeers config
  · obtain ⟨positive, bound⟩ := mem_configPeers.mp known
    have inside : id - 1 < config.peers.length := by omega
    refine .inr ⟨addPeer id config.peers[id - 1], ?_, by simp [addPeer, Payload.vote]⟩
    refine boots.mem (List.mem_mapIdx.mpr ⟨id - 1, inside, ?_⟩)
    rw [Nat.sub_add_cancel positive]
  · exact .inl (by simp [known])

namespace Member
variable {config : Config} {log : Log V} {env : Env} {n m : Node V}

/-- A node that starts from a sound snapshot, or from none. -/
theorem start {disk : Option (Snapshot V)} (valid : config.validate = none)
    (sound : ∀ snapshot, disk = some snapshot → Sound log snapshot)
    (settled : Settles log (disk.getD emptySnapshot).index (Node.configPeers config)
      (disk.getD emptySnapshot).confState.voters)
    (started : Node.run config disk wal = .ok n) : Member config log n := by
  simp only [Node.run, DataStore.replayWAL] at started
  split at started
  · cases started
  · rename_i snapshot kvs replayed
    split at replayed
    · cases replayed
    · split at replayed
      · cases replayed
      · cases replayed
        obtain rfl := Except.ok.inj started
        refine ⟨rfl, rfl, mem_configPeers.mpr (validate_none.mp valid), ?_, ?_, sound, settled⟩
        · cases disk with
          | none => exact Nat.zero_le _
          | some snapshot => exact (sound snapshot rfl).bound
        · cases disk with
          | none => exact fun id => rfl
          | some snapshot => exact (sound snapshot rfl).voters

/-- A snapshot that is installed changes the voters and leaves the table as it is. -/
theorem install (member : Member config log n) {snapshot : Snapshot V}
    (received : isEmptySnap snapshot = false → Sound log snapshot ∧ n.appliedIndex < snapshot.index ∧
      Settles log snapshot.index n.peers snapshot.confState.voters) :
    Member config log ((n.saveReceived env snapshot).applySnapshot snapshot).1 ∧
      ((n.saveReceived env snapshot).applySnapshot snapshot).1.appliedIndex = installedIndex n snapshot := by
  cases empty : isEmptySnap snapshot with
  | true =>
    simp only [Node.saveReceived, Node.applySnapshot, installedIndex, empty, if_true]
    exact ⟨member, trivial⟩
  | false =>
    obtain ⟨sound, newer, settled⟩ := received empty
    have kept : ∃ disk, n.saveReceived env snapshot = { n with saved := disk } ∧
        ∀ snapshot, disk = some snapshot → Sound log snapshot := by
      simp only [Node.saveReceived, empty, Bool.false_eq_true, if_false]
      split
      · exact ⟨n.saved, rfl, member.saved⟩
      · exact ⟨some snapshot, rfl, fun other same => Option.some.inj same ▸ sound⟩
    obtain ⟨disk, same, sounds⟩ := kept
    have reloaded : ∃ kvs, DataStore.reloadSnapshot disk n.kvs = .ok kvs := by
      cases disk with
      | none => exact ⟨n.kvs, rfl⟩
      | some other => exact (sounds other rfl).readable
    obtain ⟨kvs, reloaded⟩ := reloaded
    simp only [same, Node.applySnapshot, installedIndex, empty, Bool.false_eq_true, if_false, Nat.not_le.mpr newer,
      reloaded]
    exact ⟨⟨member.id, member.running, member.own, sound.bound, sound.voters, sounds, settled⟩, trivial⟩

theorem applyEntries (member : Member config log n) (faithful : env.Faithful)
    (issued : ∀ payload ∈ log.payloads, Issued payload)
    (entries : batch = [] ∨ ∃ first last, 1 ≤ first ∧ first ≤ n.appliedIndex + 1 ∧ n.appliedIndex + 1 ≤ last ∧
      last ≤ log.payloads.length ∧ batch = segment log.payloads first last)
    (addressed : ∀ entry ∈ batch, ∀ id, Entry.payload entry ≠ addPeer id "")
    (closes : env.httpServerClose = none ∨ ∀ entry ∈ batch, (Entry.payload entry).removes config.id = false)
    (applied : n.applyEntries env batch = some m) : Member config log m := by
  obtain rfl | ⟨first, last, positive, next, ends, bound, rfl⟩ := entries
  · obtain rfl := Option.some.inj applied
    exact member
  · rw [Node.applyEntries_segment log.small positive next ends bound, Option.map_eq_some_iff] at applied
    obtain ⟨moved, applied, rfl⟩ := applied
    -- what is applied is part of the batch
    have inside : ∀ entry ∈ segment log.payloads (n.appliedIndex + 1) last, entry ∈ segment log.payloads first last := by
      intro entry here
      have rest := segment_drop log.payloads first last (n.appliedIndex + 1 - first) positive
      rw [Nat.add_sub_cancel' next] at rest
      rw [← rest] at here
      exact List.mem_of_mem_drop here
    have stays : ∀ entry ∈ segment log.payloads (n.appliedIndex + 1) last, entry.payload.removes n.id = false := by
      intro entry member'
      rcases closes with closes | none
      · by_contra removes
        have hangs := Node.applyAll_none.mpr
          ⟨member.running, closes, entry, member', Bool.not_eq_false _ ▸ removes⟩
        rw [applied] at hangs
        cases hangs
      · rw [member.id]
        exact none entry (inside entry member')
    obtain ⟨votes, own⟩ := Node.applyAll_votes faithful (fun entry here => issued _ (mem_segment here))
      (fun entry here => addressed entry (inside entry here)) stays member.own applied
    rw [segment_payloads] at votes
    refine ⟨votes.id.trans member.id, votes.running.trans member.running, own, bound, fun id => ?_,
      fun snapshot here => member.saved snapshot (votes.saved ▸ here), fun id => ?_⟩
    · rw [votes.voters, member.voters, ← ballot_append, ← take_split log.payloads (Nat.le_of_succ_le ends)]
    · refine votes.agree ?_
      have parts := drop_split log.payloads (Nat.le_of_succ_le ends) bound bound
      rw [List.take_length] at parts
      rw [← parts]
      exact member.settles id

theorem trigger (member : Member config log n) (env : Env) :
    Member config log (n.triggerSnapshotIfNeed env).node ∧
      ∀ snapshot ∈ (n.triggerSnapshotIfNeed env).created, Sound log snapshot := by
  have sound : Sound log n.snapshot := ⟨member.bound, member.voters, n.kvs, DataStore.decode_snapshot n.kvs⟩
  rcases n.triggerSnapshotIfNeed_cases env with ⟨none, same⟩ | ⟨created, same | ⟨index, same⟩⟩
  · rw [none, same]
    exact ⟨member, nofun⟩
  · rw [created, same]
    exact ⟨member, fun snapshot here => Option.some.inj here ▸ sound⟩
  · rw [created, same]
    exact ⟨⟨member.id, member.running, member.own, member.bound, member.voters,
      fun snapshot here => Option.some.inj here ▸ sound, member.settles⟩,
      fun snapshot here => Option.some.inj here ▸ sound⟩

theorem setSnapshotThreshold (member : Member config log n) (threshold : Nat) :
    Member config log { n with snapshotThreshold := threshold } :=
  ⟨member.id, member.running, member.own, member.bound, member.voters, member.saved, member.settles⟩

end Member

section Runs

inductive Move (V : Type) where
  | ready (i : Nat) (env : Env) (rd : Ready V)
  | setSnapshotThreshold (i threshold : Nat)
  | restart (i : Nat) (wal : List (Entry V))

/-- What raft promises about a `Ready`. -/
structure Delivered (log : Log V) (produced : List (Snapshot V)) (env : Env) (rd : Ready V) (n : Node V) : Prop where
  faithful : env.Faithful
  snapshot : isEmptySnap rd.snapshot = false → rd.snapshot ∈ produced ∧ n.appliedIndex < rd.snapshot.index
  entries : rd.committedEntries = [] ∨ ∃ first last, 1 ≤ first ∧ first ≤ installedIndex n rd.snapshot + 1 ∧
    installedIndex n rd.snapshot + 1 ≤ last ∧ last ≤ log.payloads.length ∧
    rd.committedEntries = segment log.payloads first last

/-- Rounds of the message loops, and restarts from the snapshot that was saved last. -/
inductive MoveStep (configs : Nat → Config) (log : Log V) : System V → Move V → System V → Prop where
  | ready (delivered : Delivered log s.produced env rd (s.nodes i))
      (handled : (s.nodes i).handleReady env rd = some after) :
      MoveStep configs log s (.ready i env rd)
        { s.assign i after.node with produced := s.produced ++ after.created.toList }
  | setSnapshotThreshold :
      MoveStep configs log s (.setSnapshotThreshold i threshold)
        (s.assign i { s.nodes i with snapshotThreshold := threshold })
  | restart (started : Node.run (configs i) (s.nodes i).saved wal = .ok n) :
      MoveStep configs log s (.restart i wal) (s.assign i n)

/-- A snapshot that is installed or restarted from lists the IDs of the peer table, or a
later entry makes up for the difference; every node is added with its address; and a node
is not removed while its server fails to close. -/
def Safe (configs : Nat → Config) (log : Log V) (s : System V) : Move V → Prop
  | .ready i env rd =>
    (isEmptySnap rd.snapshot = false →
      Settles log rd.snapshot.index (s.nodes i).peers rd.snapshot.confState.voters) ∧
    (∀ entry ∈ rd.committedEntries, ∀ id, entry.payload ≠ addPeer id "") ∧
    (env.httpServerClose = none ∨ ∀ entry ∈ rd.committedEntries, entry.payload.removes (configs i).id = false)
  | .setSnapshotThreshold .. => True
  | .restart i _ =>
    Settles log ((s.nodes i).saved.getD emptySnapshot).index (Node.configPeers (configs i))
      ((s.nodes i).saved.getD emptySnapshot).confState.voters

/-- All nodes were started for the first time. -/
structure Begun (configs : Nat → Config) (log : Log V) (s : System V) : Prop where
  valid : ∀ i, (configs i).validate = none
  nodes : ∀ i, Node.run (configs i) none [] = .ok (s.nodes i)
  produced : s.produced = []
  boots : ∀ i, bootstrap (configs i) <+: log.payloads

structure Members (configs : Nat → Config) (log : Log V) (s : System V) : Prop where
  nodes : ∀ i, Member (configs i) log (s.nodes i)
  produced : ∀ snapshot ∈ s.produced, Sound log snapshot

variable {configs : Nat → Config} {log : Log V}

theorem Begun.members (begun : Begun configs log s) : Members configs log s where
  nodes i := by
    have settled : Settles log ((none : Option (Snapshot V)).getD emptySnapshot).index (Node.configPeers (configs i))
        [] := bootstrap_settles (begun.boots i)
    have nothing (snapshot : Snapshot V) (saved : none = some snapshot) : Sound log snapshot := nomatch saved
    exact Member.start (begun.valid i) nothing settled (begun.nodes i)
  produced := by simp [begun.produced]

theorem Members.assign (members : Members configs log s) (own : Member (configs i) log n) (j : Nat) :
    Member (configs j) log ((s.assign i n).nodes j) := by
  simp only [System.assign]
  split
  · rename_i same
    exact same ▸ own
  · exact members.nodes j

theorem Members.ready (members : Members configs log s) (issued : ∀ payload ∈ log.payloads, Issued payload)
    (safe : Safe configs log s (.ready i env rd)) (delivered : Delivered log s.produced env rd (s.nodes i))
    (handled : (s.nodes i).handleReady env rd = some after) :
    Members configs log { s.assign i after.node with produced := s.produced ++ after.created.toList } := by
  obtain ⟨settled, addressed, closes⟩ := safe
  have received (here : isEmptySnap rd.snapshot = false) : Sound log rd.snapshot ∧
      (s.nodes i).appliedIndex < rd.snapshot.index ∧
      Settles log rd.snapshot.index (s.nodes i).peers rd.snapshot.confState.voters :=
    ⟨members.produced _ (delivered.snapshot here).1, (delivered.snapshot here).2, settled here⟩
  obtain ⟨moved, applied, rfl⟩ := Node.handleReady_some.mp handled
  obtain ⟨installed, index⟩ := (members.nodes i).install received
  have member := installed.applyEntries delivered.faithful issued (index ▸ delivered.entries) addressed closes applied
  obtain ⟨member, sound⟩ := member.trigger env
  refine ⟨members.assign member, fun snapshot here => ?_⟩
  rcases List.mem_append.mp here with here | here
  · exact members.produced snapshot here
  · exact sound snapshot (Option.mem_toList.mp here)

theorem Members.step (members : Members configs log s) (valid : ∀ i, (configs i).validate = none)
    (issued : ∀ payload ∈ log.payloads, Issued payload) (safe : Safe configs log s l)
    (step : MoveStep configs log s l t) : Members configs log t := by
  cases step with
  | ready delivered handled => exact members.ready issued safe delivered handled
  | setSnapshotThreshold => exact ⟨members.assign ((members.nodes _).setSnapshotThreshold _), members.produced⟩
  | restart started =>
    exact ⟨members.assign (Member.start (valid _) (members.nodes _).saved safe started), members.produced⟩

/-- In every run whose steps are safe, a node that has applied all committed entries
lists exactly the voters as its peers. -/
theorem peers_are_voters {s₀ s : System V} (begun : Begun configs log s₀)
    (issued : ∀ payload ∈ log.payloads, Issued payload)
    (run : Run (Guarded (MoveStep configs log) (Safe configs log)) s₀ ls s) (i : Nat)
    (applied : (s.nodes i).appliedIndex = log.payloads.length) (id : Nat) :
    id ∈ (s.nodes i).peers ↔ id ∈ (s.nodes i).confState.voters := by
  have members : Members configs log s :=
    run.preserves (P := Members configs log) (fun _ _ _ members step => members.step begun.valid issued step.1 step.2)
      begun.members
  rcases (members.nodes i).settles id with same | ⟨payload, here, _⟩
  · exact same
  · rw [applied, List.drop_length] at here
    cases here

section Samples

def pairConfig (i : Nat) : Config := ⟨i % 2 + 1, ["http://a:1", "http://b:1"]⟩

def keepVoters : ConfState → ConfChange → ConfState
  | c, ⟨.addNode, nodeID, _⟩ => if nodeID ∈ c.voters then c else ⟨c.voters ++ [nodeID]⟩
  | c, ⟨.removeNode, nodeID, _⟩ => ⟨c.voters.filter (· ≠ nodeID)⟩
  | c, _ => c

/-- Nothing fails, and raft keeps the voters. -/
def voting : Env := ⟨keepVoters, none, none, none, none, none⟩

theorem voting_faithful : voting.Faithful := by
  intro c nodeID context id
  constructor
  · simp only [voting, keepVoters]
    split
    · rename_i voter
      exact (or_iff_right_of_imp fun same => same ▸ voter).symm
    · simp [or_comm]
  · simp [voting, keepVoters, and_comm]

/-- A third node joins the two of the configuration file. -/
def joinLog : Log Nat := ⟨bootstrap (pairConfig 0) ++ [addPeer 3 "http://c:1"], by decide⟩

def pair : System Nat := ⟨fun i => fresh (i % 2 + 1), []⟩

theorem pair_begun : Begun pairConfig joinLog pair where
  valid i := validate_none.mpr ⟨Nat.le_add_left 1 _, Nat.succ_le_of_lt (Nat.mod_lt i Nat.two_pos)⟩
  nodes _ := rfl
  produced := rfl
  boots _ := ⟨[addPeer 3 "http://c:1"], rfl⟩

/-- The first node after the three entries. -/
def joined : Node Nat :=
  { fresh 1 with
    appliedIndex := 3
    confState := ⟨[1, 2, 3]⟩
    peers := ((fresh 1).peers.insert 2 "http://b:1").insert 3 "http://c:1" }

theorem joinLog_adds : ∀ payload ∈ joinLog.payloads, ∃ nodeID peer, peer ≠ "" ∧ payload = addPeer nodeID peer := by
  intro payload member
  simp only [joinLog, bootstrap, pairConfig, List.mapIdx_cons, List.mapIdx_nil, List.cons_append, List.nil_append,
    List.mem_cons, List.not_mem_nil, or_false] at member
  rcases member with rfl | rfl | rfl
  · exact ⟨1, "http://a:1", by decide, rfl⟩
  · exact ⟨2, "http://b:1", by decide, rfl⟩
  · exact ⟨3, "http://c:1", by decide, rfl⟩

theorem joinLog_issued : ∀ payload ∈ joinLog.payloads, Issued payload := by
  intro payload member
  obtain ⟨nodeID, peer, _, rfl⟩ := joinLog_adds payload member
  exact .addPeer nodeID peer

theorem joined_entries (threshold : Nat) :
    Node.applyEntries voting (segment joinLog.payloads 1 3) { fresh 1 with snapshotThreshold := threshold } =
      some { joined with snapshotThreshold := threshold } := by
  have next : 1 ≤ Node.appliedIndex { fresh 1 with snapshotThreshold := threshold } + 1 := Nat.le_refl 1
  have ends : Node.appliedIndex { fresh 1 with snapshotThreshold := threshold } + 1 ≤ 3 := by
    simp [fresh]
  rw [Node.applyEntries_segment joinLog.small (by decide) next ends (by decide)]
  rfl

def joinReady : Ready Nat := ⟨emptySnapshot, segment joinLog.payloads 1 3⟩

theorem joined_round (threshold : Nat) :
    Node.handleReady voting joinReady { fresh 1 with snapshotThreshold := threshold } =
      some (Node.triggerSnapshotIfNeed voting { joined with snapshotThreshold := threshold }) := by
  have nothing (n : Node Nat) : (n.saveReceived voting emptySnapshot).applySnapshot emptySnapshot = (n, none) := rfl
  simp only [Node.handleReady, joinReady, nothing, joined_entries]

theorem joinReady_delivered (n : Node Nat) (produced : List (Snapshot Nat)) (start : n.appliedIndex = 0) :
    Delivered joinLog produced voting joinReady n where
  faithful := voting_faithful
  snapshot := nofun
  entries := .inr ⟨1, 3, by decide, by simp [installedIndex, joinReady, isEmptySnap, emptySnapshot, start],
    by simp [installedIndex, joinReady, isEmptySnap, emptySnapshot, start], by decide, rfl⟩

end Samples

/-- A node that restarts without a snapshot learns of the third node again. -/
theorem peers_are_voters_replayed :
    ∃ s, Run (Guarded (MoveStep pairConfig joinLog) (Safe pairConfig joinLog)) pair
        [.ready 0 voting joinReady, .restart 0 [], .ready 0 voting joinReady] s ∧
      (s.nodes 0).appliedIndex = 3 ∧ 3 ∈ (s.nodes 0).confState.voters ∧
      ∀ id, id ∈ (s.nodes 0).peers ↔ id ∈ (s.nodes 0).confState.voters := by
  have safe (s : System Nat) : Safe pairConfig joinLog s (.ready 0 voting joinReady) := by
    refine ⟨nofun, fun entry here id empty => ?_, .inl rfl⟩
    obtain ⟨nodeID, peer, address, same⟩ := joinLog_adds _ (mem_segment here)
    rw [same] at empty
    cases empty
    exact address rfl
  have steady : joined.triggerSnapshotIfNeed voting = ⟨joined, none, none, none⟩ := if_pos (by decide +kernel)
  have round : (fresh 1).handleReady voting joinReady = some ⟨joined, none, none, none⟩ :=
    (joined_round defaultSnapshotThreshold).trans (congrArg some steady)
  let once : System Nat := { pair.assign 0 joined with produced := [] ++ [] }
  let again : System Nat := once.assign 0 (fresh 1)
  have run : Run (Guarded (MoveStep pairConfig joinLog) (Safe pairConfig joinLog)) pair
      [.ready 0 voting joinReady, .restart 0 [], .ready 0 voting joinReady]
      { again.assign 0 joined with produced := ([] ++ []) ++ [] } :=
    .cons ⟨safe pair, .ready (joinReady_delivered _ _ rfl) round⟩
      (.cons ⟨bootstrap_settles (pair_begun.boots 0), .restart rfl⟩
        (.cons ⟨safe again, .ready (joinReady_delivered _ _ rfl) round⟩ .nil))
  exact ⟨_, run, rfl, by decide, peers_are_voters pair_begun joinLog_issued run 0 rfl⟩

section Samples

/-- The snapshot the first node takes once it has applied the log. -/
def joinSnapshot : Snapshot Nat := ⟨3, ⟨[1, 2, 3]⟩, DataStore.getDataStoreSnapshot ∅⟩

def snapshotJoined : Node Nat :=
  { joined with saved := some joinSnapshot, snapshotIndex := 3, snapshotThreshold := 1 }

/-- A node of the configuration file that has only seen the snapshot. -/
def caughtUp (id : Nat) : Node Nat :=
  { fresh id with
    kvs := Std.ExtTreeMap.ofList (∅ : KVs Nat).toList
    saved := some joinSnapshot
    appliedIndex := 3
    snapshotIndex := 3
    confState := ⟨[1, 2, 3]⟩ }

end Samples

/-- The node that restarts from its snapshot, and the one that installs it, have the third
node among the voters and not in their tables. -/
theorem peers_lost_in_snapshot :
    Begun pairConfig joinLog pair ∧ (∀ payload ∈ joinLog.payloads, Issued payload) ∧
      ∃ s, Run (MoveStep pairConfig joinLog) pair [.setSnapshotThreshold 0 1, .ready 0 voting joinReady, .restart 0 [],
          .ready 1 voting ⟨joinSnapshot, []⟩] s ∧
        ∀ i < 2, (s.nodes i).appliedIndex = joinLog.payloads.length ∧ 3 ∈ (s.nodes i).confState.voters ∧
          3 ∉ (s.nodes i).peers := by
  refine ⟨pair_begun, joinLog_issued, ?_⟩
  have triggered : Node.triggerSnapshotIfNeed voting { joined with snapshotThreshold := 1 } =
      ⟨snapshotJoined, some joinSnapshot, some 1, none⟩ := if_neg (by decide +kernel)
  have round : Node.handleReady voting joinReady { fresh 1 with snapshotThreshold := 1 } =
      some ⟨snapshotJoined, some joinSnapshot, some 1, none⟩ := (joined_round 1).trans (congrArg some triggered)
  have received : ((fresh 2).saveReceived voting joinSnapshot).applySnapshot joinSnapshot = (caughtUp 2, none) := rfl
  have idle : (caughtUp 2).applyEntries voting [] = some (caughtUp 2) := rfl
  have steady : (caughtUp 2).triggerSnapshotIfNeed voting = ⟨caughtUp 2, none, none, none⟩ := if_pos (by decide +kernel)
  have installed : (fresh 2).handleReady voting ⟨joinSnapshot, []⟩ = some ⟨caughtUp 2, none, none, none⟩ := by
    simp only [Node.handleReady, received, idle, steady]
  let eager : System Nat := pair.assign 0 { fresh 1 with snapshotThreshold := 1 }
  let ahead : System Nat := { eager.assign 0 snapshotJoined with produced := [] ++ [joinSnapshot] }
  let restarted : System Nat := ahead.assign 0 (caughtUp 1)
  let both : System Nat := { restarted.assign 1 (caughtUp 2) with produced := ([] ++ [joinSnapshot]) ++ [] }
  have delivered : Delivered joinLog restarted.produced voting ⟨joinSnapshot, []⟩ (restarted.nodes 1) :=
    ⟨voting_faithful, fun _ => ⟨List.mem_singleton_self _, by decide⟩, .inl rfl⟩
  have run : Run (MoveStep pairConfig joinLog) pair [.setSnapshotThreshold 0 1, .ready 0 voting joinReady, .restart 0 [],
      .ready 1 voting ⟨joinSnapshot, []⟩] both :=
    .cons .setSnapshotThreshold (.cons (.ready (joinReady_delivered _ _ rfl) round)
      (.cons (.restart rfl) (.cons (.ready delivered installed) .nil)))
  refine ⟨both, run, fun i small => ?_⟩
  have absent (id : Nat) : 3 ∉ (caughtUp id).peers := by
    intro known
    have listed : 3 ∈ Node.configPeers ⟨id, ["http://a:1", "http://b:1"]⟩ := known
    have bound := (mem_configPeers.mp listed).2
    simp at bound
  rcases Nat.lt_succ_iff_lt_or_eq.mp small with first | rfl
  · obtain rfl : i = 0 := by omega
    exact ⟨rfl, by decide, absent 1⟩
  · exact ⟨rfl, by decide, absent 2⟩

end Runs
end Kvrocks.Raft
