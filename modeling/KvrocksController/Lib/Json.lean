import KvrocksController.Lib.Fallible

/-! JSON documents as trees, and the rules of `encoding/json` for reading them
into Go values: `null` leaves the zero value, a missing member is like `null`,
members match field names up to letter case and the last match wins. Text,
escapes and number syntax are below this level. -/
namespace Kvrocks

inductive Json where
  | null
  | bool (b : Bool)
  | num (n : Int)
  | str (s : String)
  | arr (items : List Json)
  | obj (members : List (String × Json))
deriving Repr

namespace Json

/-- Case folding of one rune of an ASCII field name: besides the ASCII letters,
the long s and the Kelvin sign fold to ASCII letters. -/
def foldChar (c : Char) : Char :=
  if c = Char.ofNat 0x17F then 's' else if c = Char.ofNat 0x212A then 'k' else c.toLower

def foldName (name : String) : List Char := name.toList.map foldChar

def member (name : String) : List (String × Json) → Json → Json
  | [], found => found
  | (key, value) :: rest, found =>
    member name rest (if foldName key = foldName name then value else found)

variable {ε : Type}

/-- The members of an object read into a struct. -/
def fields (mismatch : ε) : Json → Except ε (String → Json)
  | .null => .ok fun _ => .null
  | .obj members => .ok fun name => member name members .null
  | _ => .error mismatch

def hasMember (name : String) : Json → Bool
  | .obj members => members.any fun (key, _) => foldName key = foldName name
  | _ => false

def string (mismatch : ε) : Json → Except ε String
  | .null => .ok ""
  | .str s => .ok s
  | _ => .error mismatch

def int (mismatch : ε) : Json → Except ε Int
  | .null => .ok 0
  | .num n => .ok n
  | _ => .error mismatch

def bool' (mismatch : ε) : Json → Except ε Bool
  | .null => .ok false
  | .bool b => .ok b
  | _ => .error mismatch

def list (mismatch : ε) (item : Json → Except ε α) : Json → Except ε (List α)
  | .null => .ok []
  | .arr items => items.mapM item
  | _ => .error mismatch

theorem list_mem {mismatch : ε} {item : Json → Except ε α} (read : list mismatch item j = .ok result)
    (here : a ∈ result) : ∃ i, item i = .ok a := by
  cases j with
  | null =>
    obtain rfl := Except.ok.inj read
    simp at here
  | arr items =>
    obtain ⟨i, _, decoded⟩ := mapM_mem read here
    exact ⟨i, decoded⟩
  | bool b | num n | str s | obj members => cases read

/-- Reading back an encoded array, item by item. -/
theorem list_arr_map {mismatch : ε} {item : Json → Except ε α} {encode : β → Json} {l : List β} {f : α → γ}
    {g : β → γ} (read : list mismatch item (.arr (l.map encode)) = .ok result)
    (each : ∀ b a, item (encode b) = .ok a → f a = g b) : result.map f = l.map g := by
  simp only [list] at read
  have rounds := mapM_rounds.mp read
  rw [List.forall₂_map_left_iff] at rounds
  have same : List.Forall₂ (fun a b => a = b) (l.map g) (result.map f) := by
    rw [List.forall₂_map_left_iff, List.forall₂_map_right_iff]
    exact rounds.imp fun b a decoded => (each b a decoded).symm
  rw [List.forall₂_eq_eq_eq] at same
  exact same.symm

theorem list_arr {mismatch : ε} {item : Json → Except ε α} {encode : β → Json} {f : β → α} {l : List β}
    (each : ∀ b ∈ l, item (encode b) = .ok (f b)) :
    list mismatch item (.arr (l.map encode)) = .ok (l.map f) := mapM_map each

end Json
end Kvrocks
