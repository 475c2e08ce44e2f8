import KvrocksController.Consts
import KvrocksController.Lib.Replay

/-! The data store of a raft node: committed entries applied to a map, snapshots of
the map, and the replay of the write-ahead log after a restart. What `json` makes of
an entry's or a snapshot's bytes is part of the entry or the snapshot. -/
namespace Kvrocks.Raft

def opGet : Int := 1
def opSet : Int := 2
def opDelete : Int := 3

structure Event (V : Type) where
  op : Int
  key : String
  value : V
deriving DecidableEq, Repr

/-- The data of a normal entry. Raft itself commits entries without data. -/
inductive EntryData (V : Type) where
  | empty
  | undecodable (e : Error)
  | event (event : Event V)
deriving DecidableEq, Repr

inductive ConfChangeType where
  | addNode
  | removeNode
  | updateNode
  | addLearnerNode
deriving DecidableEq, Repr

structure ConfChange where
  type : ConfChangeType
  nodeID : Nat
  context : String
deriving DecidableEq, Repr

/-- An entry without its index, by its type. -/
inductive Payload (V : Type) where
  | normal (data : EntryData V)
  | confChange (decoded : Except Error ConfChange)
deriving Repr

structure Entry (V : Type) where
  index : Nat
  payload : Payload V
deriving Repr

structure ConfState where
  voters : List Nat
deriving DecidableEq, Repr

abbrev KVs (V : Type) := Std.ExtTreeMap String V

/-- The bytes of a snapshot: an object with its members in order, or not one. -/
inductive SnapshotData (V : Type) where
  | undecodable (e : Error)
  | object (members : List (String × V))
deriving DecidableEq, Repr

structure Snapshot (V : Type) where
  index : Nat
  confState : ConfState
  data : SnapshotData V
deriving DecidableEq, Repr

def isEmptySnap (snapshot : Snapshot V) : Bool := snapshot.index == 0

/-- `emptySnapshot`: no data at all, which is not an object. -/
def emptySnapshot : Snapshot V := ⟨0, ⟨[]⟩, .undecodable (.new "unexpected end of JSON input")⟩

namespace DataStore

/-- An entry that fails is an error of the call and leaves the map as it was. -/
def applyDataEntry (payload : Payload V) (kvs : KVs V) : Except Error (KVs V) :=
  match payload with
  | .confChange _ => .ok kvs
  | .normal .empty => .ok kvs
  | .normal (.undecodable e) => .error e
  | .normal (.event e) =>
    if e.op = opSet then .ok (kvs.insert e.key e.value)
    else if e.op = opDelete then .ok (kvs.erase e.key)
    else if e.op = opGet then .ok kvs
    else .error (.new ("unknown operation type: " ++ toString e.op))

/-- `json.Marshal` of a map writes its keys in order. -/
def getDataStoreSnapshot (kvs : KVs V) : SnapshotData V := .object kvs.toList

/-- The last member of a name wins. -/
def decode : SnapshotData V → Except Error (KVs V)
  | .undecodable e => .error e
  | .object members => .ok (Std.ExtTreeMap.ofList members)

/-- `saved` is what the snapshotter loads; without a snapshot the map stays. -/
def reloadSnapshot (saved : Option (Snapshot V)) (kvs : KVs V) : Except Error (KVs V) :=
  match saved with
  | none => .ok kvs
  | some snapshot => decode snapshot.data

/-- The entries of the log are applied as they are read, committed or not, and the
first failure ends the replay. -/
def applyWAL : List (Entry V) → KVs V → Except Error (KVs V)
  | [], kvs => .ok kvs
  | entry :: rest, kvs =>
    match applyDataEntry entry.payload kvs with
    | .error e => .error (.wrap "failed to apply data entry: " e "")
    | .ok kvs => applyWAL rest kvs

/-- `saved` is the newest snapshot on disk and `entries` the log after it. -/
def replayWAL (saved : Option (Snapshot V)) (entries : List (Entry V)) : Except Error (Snapshot V × KVs V) :=
  match reloadSnapshot saved ∅ with
  | .error e => .error (.wrap "failed to reload snapshot: " e "")
  | .ok kvs =>
    match applyWAL entries kvs with
    | .error e => .error e
    | .ok kvs => .ok (saved.getD emptySnapshot, kvs)

end DataStore

/-- The write an entry stands for, if it is one. -/
def Payload.write? : Payload V → Option (Write String V)
  | .normal (.event e) =>
    if e.op = opSet then some (.put e.key e.value)
    else if e.op = opDelete then some (.drop e.key)
    else none
  | _ => none

/-- The writes of a log, in order. -/
def writes (log : List (Payload V)) : List (Write String V) := log.filterMap (·.write?)

/-- The state machine: the map a log stands for. -/
def fold (log : List (Payload V)) : KVs V := Write.replay (writes log) ∅

/-- An entry that `applyDataEntry` takes without error. -/
def Payload.replayable : Payload V → Bool
  | .normal (.undecodable _) => false
  | .normal (.event e) => e.op = opSet ∨ e.op = opDelete ∨ e.op = opGet
  | _ => true

namespace DataStore

theorem applyDataEntry_ok (payload : Payload V) (kvs : KVs V) (replayable : payload.replayable = true) :
    applyDataEntry payload kvs = .ok (Write.replay payload.write?.toList kvs) := by
  match payload with
  | .confChange _ | .normal .empty => rfl
  | .normal (.undecodable e) => cases replayable
  | .normal (.event e) =>
    simp only [Payload.replayable, decide_eq_true_eq] at replayable
    simp only [applyDataEntry, Payload.write?]
    split
    · rfl
    · rename_i notSet
      split
      · rfl
      · rename_i notDelete
        rw [if_pos ((replayable.resolve_left notSet).resolve_left notDelete)]
        rfl

theorem applyDataEntry_error (payload : Payload V) (kvs : KVs V) (failing : payload.replayable = false) :
    (∃ e, applyDataEntry payload kvs = .error e) ∧ payload.write? = none := by
  match payload with
  | .confChange _ | .normal .empty => cases failing
  | .normal (.undecodable e) => exact ⟨⟨e, rfl⟩, rfl⟩
  | .normal (.event e) =>
    simp only [Payload.replayable, decide_eq_false_iff_not, not_or] at failing
    simp [applyDataEntry, Payload.write?, failing]

theorem decode_snapshot (kvs : KVs V) : decode (getDataStoreSnapshot kvs) = .ok kvs :=
  congrArg Except.ok (ofList_toList kvs)

end DataStore
end Kvrocks.Raft
