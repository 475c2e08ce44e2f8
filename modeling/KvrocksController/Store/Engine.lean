import KvrocksController.Consts
import KvrocksController.Lib.Json
import KvrocksController.Lib.Utf8
import Std.Data.ExtTreeMap

/-! The key-value engine behind the store, and the flat engine: one ordered map
whose calls may fail. -/
namespace Kvrocks

/-- What a key holds: the encoding of a record, or the plain text of a namespace. -/
inductive Value where
  | json (j : Json)
  | text (s : String)
deriving Repr

structure Entry where
  key : String
  value : Value
deriving Repr

/-- The engine interface over a state `σ`. A write yields the state it leaves
together with its error. -/
structure Engine (σ : Type) where
  get : String → σ → Except Error Value
  existsKey : String → σ → Except Error Bool
  set : String → Value → σ → σ × Option Error
  delete : String → σ → σ × Option Error
  list : String → σ → Except Error (List Entry)

abbrev KV := Std.ExtTreeMap String Value

/-- How a write ends: done, refused, or done without the caller hearing of it. -/
inductive WriteOutcome where
  | done
  | refused (e : Error)
  | unacknowledged (e : Error)
deriving DecidableEq, Repr

def WriteOutcome.finish (outcome : WriteOutcome) (before after : σ) : σ × Option Error :=
  match outcome with
  | .done => (after, none)
  | .refused e => (before, some e)
  | .unacknowledged e => (after, some e)

/-- A call of the engine that only reads. -/
inductive ReadCall where
  | get (key : String)
  | existsKey (key : String)
  | list (base : String)
deriving DecidableEq, Repr

/-- How the engine calls made inside one store call end: each read in its own way, and the
one write. -/
structure Faults where
  read : ReadCall → Option Error
  write : WriteOutcome

def Faults.none : Faults := ⟨fun _ => .none, .done⟩

/-- The errors of a client library are none of this program's sentinels. -/
def Faults.External (faults : Faults) : Prop := ∀ call e, faults.read call = some e → e.is = Option.none

/-- The answer of a read that may fail. -/
def orFailed (fails : Option Error) (answer : Except Error α) : Except Error α :=
  match fails with
  | .none => answer
  | .some e => .error e

def Faults.reading (faults : Faults) (call : ReadCall) (answer : Except Error α) : Except Error α :=
  orFailed (faults.read call) answer

/-- The name `List` gives to a key below `base`: its first path element. -/
def listedName (base key : String) : String :=
  String.ofList (((key.toList.drop base.length).dropWhile (· == '/')).takeWhile (· != '/'))

/-- Later keys of a name already listed are skipped. -/
def listKV (base : String) (kv : KV) : List Entry :=
  (kv.toList.filter fun (key, _) => base.toList.isPrefixOf key.toList).foldl
    (fun entries (key, value) =>
      if entries.any (·.key == listedName base key) then entries else entries ++ [⟨listedName base key, value⟩]) []

def flat (faults : Faults) : Engine KV where
  get key kv := faults.reading (.get key) (match kv[key]? with
    | none => .error (.of .notFound)
    | some value => .ok value)
  existsKey key kv := faults.reading (.existsKey key) (.ok kv[key]?.isSome)
  set key value kv := faults.write.finish kv (kv.insert key value)
  delete key kv := faults.write.finish kv (kv.erase key)
  list base kv := faults.reading (.list base) (.ok (listKV base kv))

def slash : UInt8 := '/'.toUInt8

/-- The bytes of a key behind those of `base` and one more, without the slashes in front. -/
def trimmedKey (base key : String) : List UInt8 :=
  ((Utf8.bytes key.toList).drop ((Utf8.bytes base.toList).length + 1)).dropWhile (· == slash)

/-- What etcd's `List` shows of a key that starts with `base`: what is left of it, unless a
slash is. The key `base` itself is skipped. -/
def rawName (base key : String) : Option (List UInt8) :=
  if key = base then none
  else if (trimmedKey base key).contains slash then none
  else some (trimmedKey base key)

/-- An entry as the engines return it: a cut can split a character, so the name is bytes. -/
structure RawEntry where
  key : List UInt8
  value : Value

/-- The name as a text; a byte of a character that was cut in two reads as the replacement
character, which is what a client is shown. -/
def RawEntry.entry (raw : RawEntry) : Entry := ⟨String.ofList (Utf8.decode raw.key), raw.value⟩

def etcdName (base key : String) : Option String := (rawName base key).map fun name => String.ofList (Utf8.decode name)

def etcdList (base : String) (kv : KV) : List Entry :=
  (kv.toList.filter fun (key, _) => base.toList.isPrefixOf key.toList).filterMap
    fun (key, value) => (etcdName base key).map (⟨·, value⟩)

/-- The etcd engine: flat, with its own listing. -/
def etcd (faults : Faults) : Engine KV :=
  { flat faults with list := fun base kv => faults.reading (.list base) (.ok (etcdList base kv)) }

end Kvrocks
