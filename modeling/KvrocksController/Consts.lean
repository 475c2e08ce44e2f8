import KvrocksController.Lib.Fallible

/-! The error values of package `consts` and the shape of every other error the
modelled code returns. `Error.is` is what `errors.Is` finds: wrapping with `%w`
changes the text and keeps the sentinel. -/
namespace Kvrocks

inductive Sentinel where
  | invalidArgument
  | notFound
  | forbidden
  | alreadyExists
  | indexOutOfRange
  | shardIsSame
  | slotNotBelongToAnyShard
  | slotRangeBelongsToMultipleShards
  | nodeIsNotMaster
  | oldMasterNodeNotFound
  | shardNoReplica
  | shardIsServicing
  | shardSlotIsMigrating
  | shardNoMatchNewMaster
  | slotOutOfRange
deriving DecidableEq, Repr

/-- `slotOutOfRange` is `store.ErrSlotOutOfRange`; the others are from `consts`. -/
def Sentinel.text : Sentinel → String
  | invalidArgument => "invalid argument"
  | notFound => "not found"
  | forbidden => "forbidden"
  | alreadyExists => "already exists"
  | indexOutOfRange => "index out of range"
  | shardIsSame => "source and target shard is same"
  | slotNotBelongToAnyShard => "slot not belong to any shard"
  | slotRangeBelongsToMultipleShards => "slot range belongs to multiple shards"
  | nodeIsNotMaster => "the old node is not master"
  | oldMasterNodeNotFound => "old master node not found"
  | shardNoReplica => "no replica in shard"
  | shardIsServicing => "shard is servicing"
  | shardSlotIsMigrating => "shard slot is migrating"
  | shardNoMatchNewMaster => "no match new master in shard"
  | slotOutOfRange => "slot id was out of range, should be between 0 and 16383"

structure Error where
  text : String
  is : Option Sentinel
deriving DecidableEq, Repr

namespace Error

def of (s : Sentinel) : Error := ⟨s.text, some s⟩

/-- `errors.New`, or `fmt.Errorf` without `%w`. -/
def new (text : String) : Error := ⟨text, none⟩

/-- `fmt.Errorf` with one `%w` between two texts. -/
def wrap (before : String) (e : Error) (after : String) : Error := ⟨before ++ e.text ++ after, e.is⟩

end Error

/-- How a call ends without a value: with an error, or with a run-time panic
such as a nil dereference. -/
inductive Fault where
  | returned (e : Error)
  | panicked
deriving DecidableEq, Repr

abbrev Result := Except Fault

end Kvrocks
