import KvrocksController.Raft.DataStore
import Mathlib.Algebra.Group.Nat.Defs

/-! The raft node: how it starts, and what one round of its message loop does with a
`Ready`. Messages, the raft log and its storage belong to the raft library; a round
sees the snapshot and the committed entries it is given. Indexes are `uint64`. -/
namespace Kvrocks.Raft

def uint64 (n : Nat) : Nat := n % 2 ^ 64

/-- `a - b` of two `uint64` values. -/
def wrappingSub (a b : Nat) : Nat := uint64 (a + 2 ^ 64 - b)

def defaultSnapshotThreshold : Nat := 10000
def defaultCompactThreshold : Nat := 1024

structure Config where
  id : Nat
  peers : List String
deriving DecidableEq, Repr

/-- The check of `New`; the cluster state has been set to "new" by then. -/
def Config.validate (c : Config) : Option Error :=
  if c.id = 0 then some (.new "ID cannot be 0")
  else if c.peers.length = 0 then some (.new "peers cannot be empty")
  else if c.id > c.peers.length then some (.new "ID cannot be greater than the number of peers")
  else none

structure Node (V : Type) where
  id : Nat
  kvs : KVs V
  /-- The snapshot the snapshotter loads: the last one saved. -/
  saved : Option (Snapshot V)
  appliedIndex : Nat
  snapshotIndex : Nat
  confState : ConfState
  peers : Std.ExtTreeMap Nat String
  snapshotThreshold : Nat
  compactThreshold : Nat
  isRunning : Bool

/-- What a round meets outside: the configuration raft computes, and how the calls to
the disk, the raft storage and the http server end. -/
structure Env where
  applyConfChange : ConfState → ConfChange → ConfState
  saveReceived : Option Error
  createSnapshot : Option Error
  saveCreated : Option Error
  compact : Option Error
  httpServerClose : Option Error

/-- The part of a `Ready` that reaches the state machine. -/
structure Ready (V : Type) where
  snapshot : Snapshot V
  committedEntries : List (Entry V)

/-- The node after a round, and what its snapshot trigger did: the snapshot created
and the index the raft storage was compacted to. -/
structure Triggered (V : Type) where
  node : Node V
  created : Option (Snapshot V)
  compactIndex : Option Nat
  err : Option Error

namespace Node

/-- `n.Close()` called by the message loop itself. Once the server is closed it waits
for all goroutines, its caller included, and never returns. -/
def closeInLoop (env : Env) (n : Node V) : Option (Node V) :=
  if !n.isRunning then some n
  else
    match env.httpServerClose with
    | some _ => some { n with isRunning := false }
    | none => none

/-- The configuration change of a decoded entry; `none` if the call never returns. -/
def applyConfChange (env : Env) (cc : ConfChange) (n : Node V) : Option (Node V) :=
  let n := { n with confState := env.applyConfChange n.confState cc }
  match cc.type with
  | .addNode =>
    if cc.nodeID ≠ n.id ∧ cc.context ≠ "" then some { n with peers := n.peers.insert cc.nodeID cc.context }
    else some n
  | .removeNode =>
    if cc.nodeID = n.id then n.closeInLoop env
    else some { n with peers := n.peers.erase cc.nodeID }
  | .updateNode =>
    if n.peers.contains cc.nodeID then some { n with peers := n.peers.insert cc.nodeID cc.context }
    else some n
  | .addLearnerNode => some n

def applyEntry (env : Env) (entry : Entry V) (n : Node V) : Option (Node V × Option Error) :=
  match entry.payload with
  | .normal data =>
    match DataStore.applyDataEntry (.normal data) n.kvs with
    | .error e => some (n, some e)
    | .ok kvs => some ({ n with kvs }, none)
  | .confChange (.error e) => some (n, some e)
  | .confChange (.ok cc) => (n.applyConfChange env cc).map (·, none)

/-- The loop of `applyEntries`: an error is logged and the next entry applied. -/
def applyAll (env : Env) : List (Entry V) → Node V → Option (Node V)
  | [], n => some n
  | entry :: rest, n =>
    match n.applyEntry env entry with
    | none => none
    | some (n, _) => applyAll env rest n

def applyEntries (env : Env) (entries : List (Entry V)) (n : Node V) : Option (Node V) :=
  match entries.head? with
  | none => some n
  | some first =>
    if first.index > uint64 (n.appliedIndex + 1) then some n
    else
      let applied := uint64 (wrappingSub n.appliedIndex first.index + 1)
      let entries := if applied < entries.length then entries.drop applied else entries
      match applyAll env entries n with
      | none => none
      | some n => some { n with appliedIndex := (entries.getLast?.map (·.index)).getD n.appliedIndex }

def applySnapshot (snapshot : Snapshot V) (n : Node V) : Node V × Option Error :=
  if isEmptySnap snapshot then (n, none)
  else if n.appliedIndex ≥ snapshot.index then
    (n, some (.new ("snapshot index [" ++ toString snapshot.index ++ "] should be greater than applied index [" ++
      toString n.appliedIndex ++ "]")))
  else
    match DataStore.reloadSnapshot n.saved n.kvs with
    | .error e => (n, some e)
    | .ok kvs =>
      ({ n with
        kvs
        confState := snapshot.confState
        appliedIndex := snapshot.index
        snapshotIndex := snapshot.index }, none)

/-- The index the storage is compacted to after a snapshot at the applied index. -/
def compactIndex (n : Node V) : Nat :=
  if n.appliedIndex > n.compactThreshold then n.appliedIndex - n.compactThreshold else 1

def triggerSnapshotIfNeed (env : Env) (n : Node V) : Triggered V :=
  if wrappingSub n.appliedIndex n.snapshotIndex ≤ n.snapshotThreshold then ⟨n, none, none, none⟩
  else
    match env.createSnapshot with
    | some e => ⟨n, none, none, some e⟩
    | none =>
      let snap : Snapshot V := ⟨n.appliedIndex, n.confState, DataStore.getDataStoreSnapshot n.kvs⟩
      match env.saveCreated with
      | some e => ⟨n, some snap, none, some e⟩
      | none =>
        let n := { n with saved := some snap }
        match env.compact with
        | some e => ⟨n, some snap, some n.compactIndex, some e⟩
        | none => ⟨{ n with snapshotIndex := n.appliedIndex }, some snap, some n.compactIndex, none⟩

/-- Saving the snapshot of a `Ready`; a failure is only logged. -/
def saveReceived (env : Env) (snapshot : Snapshot V) (n : Node V) : Node V :=
  if isEmptySnap snapshot then n
  else
    match env.saveReceived with
    | some _ => n
    | none => { n with saved := some snapshot }

/-- One round of `runRaftMessages`; `none` if it never ends. -/
def handleReady (env : Env) (rd : Ready V) (n : Node V) : Option (Triggered V) :=
  let n := ((n.saveReceived env rd.snapshot).applySnapshot rd.snapshot).1
  match n.applyEntries env rd.committedEntries with
  | none => none
  | some n => some (n.triggerSnapshotIfNeed env)

/-- The peers of the configuration file, numbered from 1. -/
def configPeers (config : Config) : Std.ExtTreeMap Nat String :=
  Std.ExtTreeMap.ofList (config.peers.mapIdx fun i peer => (i + 1, peer))

/-- `run`: the map comes from the snapshot and the whole log, while the applied index
is that of the snapshot. -/
def run (config : Config) (saved : Option (Snapshot V)) (wal : List (Entry V)) : Except Error (Node V) :=
  match DataStore.replayWAL saved wal with
  | .error e => .error e
  | .ok (snapshot, kvs) => .ok {
      id := config.id
      kvs
      saved
      appliedIndex := snapshot.index
      snapshotIndex := snapshot.index
      confState := snapshot.confState
      peers := configPeers config
      snapshotThreshold := defaultSnapshotThreshold
      compactThreshold := defaultCompactThreshold
      isRunning := true }

end Node
end Kvrocks.Raft
