import Std.Data.ExtTreeMap
import Mathlib.Logic.Relation

/-! Trees as maps from paths to values, over any function that gives the path one level
up. A node is made only below a node that is there, and removed only when nothing is
below it, so every node that is not at the top has its parent. -/
namespace Kvrocks

/-- What a tree refuses. -/
inductive TreeError where
  | noNode
  | nodeExists
  | notEmpty
deriving DecidableEq, Repr

structure PathTree (K V : Type) [Ord K] [Std.TransOrd K] (up : K → Option K) where
  nodes : Std.ExtTreeMap K V
  rooted : ∀ path above, path ∈ nodes → up path = some above → above ∈ nodes

namespace PathTree
variable {K V : Type} {up : K → Option K}

/-- One path is above another, any number of levels. -/
def Above (up : K → Option K) : K → K → Prop := Relation.TransGen fun above path => up path = some above

theorem above_iff (parent : up path = some above) : Above up other path ↔ other = above ∨ Above up other above := by
  rw [Above, Relation.TransGen.tail'_iff]
  constructor
  · rintro ⟨middle, reached, last⟩
    obtain rfl := Option.some.inj (last.symm.trans parent)
    exact (Relation.reflTransGen_iff_eq_or_transGen.mp reached).imp Eq.symm id
  · intro reached
    exact ⟨above, Relation.reflTransGen_iff_eq_or_transGen.mpr (reached.imp Eq.symm id), parent⟩

variable [Ord K] [Std.TransOrd K]

theorem above_mem (t : PathTree K V up) (reached : Above up above path) (present : path ∈ t.nodes) :
    above ∈ t.nodes := by
  induction reached with
  | single parent => exact t.rooted _ _ present parent
  | tail _ parent ih => exact ih (t.rooted _ _ present parent)

def empty : PathTree K V up where
  nodes := ∅
  rooted path above present _ := by simp at present

def get (path : K) (t : PathTree K V up) : Except TreeError V :=
  match t.nodes[path]? with
  | some value => .ok value
  | none => .error .noNode

theorem get_ok {t : PathTree K V up} : t.get path = .ok value ↔ t.nodes[path]? = some value := by
  unfold get
  cases t.nodes[path]? with
  | none => simp
  | some found => simp

variable [Std.LawfulEqOrd K]

theorem rooted_insert (t : PathTree K V up) (path : K) (value : V)
    (grounded : ∀ above, up path = some above → above ∈ t.nodes) :
    ∀ other above, other ∈ t.nodes.insert path value → up other = some above → above ∈ t.nodes.insert path value := by
  intro other above present parent
  rw [Std.ExtTreeMap.mem_insert] at present ⊢
  rcases present with same | present
  · obtain rfl := Std.LawfulEqOrd.compare_eq_iff_eq.mp same
    exact .inr (grounded above parent)
  · exact .inr (t.rooted other above present parent)

def set (path : K) (value : V) (t : PathTree K V up) : Except TreeError (PathTree K V up) :=
  if present : path ∈ t.nodes then
    .ok ⟨t.nodes.insert path value, t.rooted_insert path value fun above => t.rooted path above present⟩
  else .error .noNode

def create (path : K) (value : V) (t : PathTree K V up) : Except TreeError (PathTree K V up) :=
  if path ∈ t.nodes then .error .nodeExists
  else if grounded : ∀ above ∈ up path, above ∈ t.nodes then
    .ok ⟨t.nodes.insert path value, t.rooted_insert path value grounded⟩
  else .error .noNode

section Outcomes
variable {t : PathTree K V up} {path : K}

theorem set_present (value : V) (present : path ∈ t.nodes) :
    ∃ t', t.set path value = .ok t' ∧ t'.nodes = t.nodes.insert path value := by
  rw [set, dif_pos present]
  exact ⟨_, rfl, rfl⟩

theorem create_absent (value : V) (absent : path ∉ t.nodes) (grounded : ∀ above, up path = some above → above ∈ t.nodes) :
    ∃ t', t.create path value = .ok t' ∧ t'.nodes = t.nodes.insert path value := by
  rw [create, if_neg absent, dif_pos (show ∀ above ∈ up path, above ∈ t.nodes from grounded)]
  exact ⟨_, rfl, rfl⟩

end Outcomes

variable [DecidableEq K]

/-- The paths one level below, in order. -/
def children (path : K) (t : PathTree K V up) : Except TreeError (List K) :=
  if path ∈ t.nodes then .ok (t.nodes.keys.filter (up · = some path)) else .error .noNode

def delete (path : K) (t : PathTree K V up) : Except TreeError (PathTree K V up) :=
  if path ∉ t.nodes then .error .noNode
  else if bare : ∀ other ∈ t.nodes.keys, up other ≠ some path then
    .ok ⟨t.nodes.erase path, fun other above present parent => by
      rw [Std.ExtTreeMap.mem_erase] at present ⊢
      refine ⟨fun same => ?_, t.rooted other above present.2 parent⟩
      obtain rfl := Std.LawfulEqOrd.compare_eq_iff_eq.mp same
      exact bare other (Std.ExtTreeMap.mem_keys.mpr present.2) parent⟩
  else .error .notEmpty

theorem delete_bare {t : PathTree K V up} {path : K} (present : path ∈ t.nodes)
    (bare : ∀ other ∈ t.nodes, up other ≠ some path) :
    ∃ t', t.delete path = .ok t' ∧ t'.nodes = t.nodes.erase path := by
  have bare : ∀ other ∈ t.nodes.keys, up other ≠ some path :=
    fun other member => bare other (Std.ExtTreeMap.mem_keys.mp member)
  rw [delete, if_neg (fun absent => absent present), dif_pos bare]
  exact ⟨_, rfl, rfl⟩

end PathTree
end Kvrocks
