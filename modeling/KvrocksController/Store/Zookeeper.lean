import KvrocksController.Lib.PathTree
import KvrocksController.Store.ClusterStore
import KvrocksController.Store.Keys

/-! The Zookeeper engine. Its keys are the paths of a tree of nodes: writing a new key
makes the nodes above it, and these stay when the key is deleted. -/
namespace Kvrocks

/-- A path up to its last slash; nothing for a path whose only slash is the first. -/
def parentPath (path : String) : Option String :=
  match path.toList.reverse.dropWhile (· != '/') with
  | _ :: c :: before => some (String.ofList (c :: before).reverse)
  | _ => none

/-- What follows the last slash. -/
def nodeName (path : String) : String := String.ofList (path.toList.reverse.takeWhile (· != '/')).reverse

section Paths

theorem parentPath_split (parent : parentPath path = some up) :
    path.toList = up.toList ++ '/' :: (nodeName path).toList := by
  unfold parentPath at parent
  split at parent
  · rename_i slash c before rest
    obtain rfl := Option.some.inj parent
    have last : slash = '/' := by
      have := List.head?_dropWhile_not (· != '/') path.toList.reverse
      rw [rest] at this
      simpa using this
    have whole := congrArg List.reverse (List.takeWhile_append_dropWhile (p := (· != '/')) (l := path.toList.reverse))
    rw [rest, last, List.reverse_append, List.reverse_cons, List.reverse_reverse] at whole
    rw [← whole, nodeName]
    simp
  · cases parent

/-- A name without slashes below a path that is not the root. -/
theorem parentPath_below (split : path.toList = up.toList ++ '/' :: name.toList) (noSlash : NoSlash name)
    (inner : up ≠ "") : parentPath path = some up ∧ nodeName path = name := by
  have reversed : path.toList.reverse = name.toList.reverse ++ '/' :: up.toList.reverse := by
    rw [split]
    simp
  have free : ∀ c ∈ name.toList.reverse, (c != '/') = true := by
    intro c member
    simp only [bne_iff_ne, ne_eq]
    rintro rfl
    exact noSlash (List.mem_reverse.mp member)
  constructor
  · rw [parentPath, reversed, List.dropWhile_append_of_pos free, List.dropWhile_cons_of_neg (by simp)]
    cases chars : up.toList.reverse with
    | nil => exact absurd (by simpa using chars) inner
    | cons c before =>
      have : up = String.ofList (c :: before).reverse := by
        rw [← chars, List.reverse_reverse, String.ofList_toList]
      simp only [← this]
  · rw [nodeName, reversed, List.takeWhile_append_of_pos free, List.takeWhile_cons_of_neg (by simp)]
    simp

theorem parentPath_shorter (parent : parentPath path = some up) : up.length < path.length := by
  have split := congrArg List.length (parentPath_split parent)
  simp only [List.length_append, List.length_cons, String.length_toList] at split
  omega

end Paths

abbrev Znodes := PathTree String Value parentPath

namespace Zookeeper

/-- The errors of the client library. -/
def clientError : TreeError → Error
  | .noNode => .new "zk: node does not exist"
  | .nodeExists => .new "zk: node already exists"
  | .notEmpty => .new "zk: node has children"

/-- `nil` and `[]byte{}`. -/
def noData : Value := .text ""

/-- A key that does not exist reads as no data. -/
def get (key : String) (t : Znodes) : Except Error Value :=
  match t.get key with
  | .ok data => .ok data
  | .error .noNode => .ok noData
  | .error err => .error (clientError err)

def existsKey (key : String) (t : Znodes) : Except Error Bool := .ok (decide (key ∈ t.nodes))

/-- The outcome of a call of the client that changes the tree. -/
def answered (t : Znodes) : Except TreeError Znodes → Znodes × Option Error
  | .ok t => (t, none)
  | .error err => (t, some (clientError err))

/-- Makes the missing nodes above the key first; those made stay if a later one fails. -/
def create (key : String) (value : Value) (t : Znodes) : Znodes × Option Error :=
  match _parent : parentPath key with
  | none => answered t (t.create key value)
  | some substring =>
    if ClusterStore.found (existsKey substring t) then answered t (t.create key value)
    else
      match create substring noData t with
      | (t, some err) => (t, some err)
      | (t, none) => answered t (t.create key value)
termination_by key.length
decreasing_by exact parentPath_shorter _parent

def set (key : String) (value : Value) (t : Znodes) : Znodes × Option Error :=
  if ClusterStore.found (existsKey key t) then answered t (t.set key value) else create key value t

def delete (key : String) (t : Znodes) : Znodes × Option Error :=
  match t.delete key with
  | .error .noNode => (t, none)
  | outcome => answered t outcome

/-- The names of the nodes below, in the order Zookeeper gives them, each read again. -/
def list (arrange : List String → List String) (base : String) (t : Znodes) : Except Error (List Entry) :=
  match t.children base with
  | .error .noNode => .ok []
  | .error err => .error (clientError err)
  | .ok children => (arrange (children.map nodeName)).mapM fun child =>
    match t.get (base ++ "/" ++ child) with
    | .error err => .error (clientError err)
    | .ok data => .ok ⟨child, data⟩

end Zookeeper

/-- The order of the names in a listing is not specified. -/
def zookeeper (arrange : List String → List String) : Engine Znodes where
  get := Zookeeper.get
  existsKey := Zookeeper.existsKey
  set := Zookeeper.set
  delete := Zookeeper.delete
  list := Zookeeper.list arrange

end Kvrocks
