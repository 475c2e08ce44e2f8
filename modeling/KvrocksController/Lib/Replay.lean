import Std.Data.ExtTreeMap

/-! Writes replayed onto a map. The last write of a key decides its value, so a log
can be replayed over a map that has already seen part of it. -/
namespace Kvrocks

inductive Write (K V : Type) where
  | put (key : K) (value : V)
  | drop (key : K)
deriving DecidableEq, Repr

namespace Write
variable {K V : Type}

section Lookup
variable [DecidableEq K]

/-- What a write leaves at a key, if it writes it. -/
def at? (key : K) : Write K V → Option (Option V)
  | .put own value => if own = key then some (some value) else none
  | .drop own => if own = key then some none else none

def last? (key : K) : List (Write K V) → Option (Option V)
  | [] => none
  | write :: log => (last? key log).or (write.at? key)

theorem last?_append (key : K) (log later : List (Write K V)) :
    last? key (log ++ later) = (last? key later).or (last? key log) := by
  induction log with
  | nil => simp [last?]
  | cons write log ih => rw [List.cons_append, last?, ih, last?, Option.or_assoc]

end Lookup

variable [Ord K] [Std.TransOrd K]

def apply (map : Std.ExtTreeMap K V) : Write K V → Std.ExtTreeMap K V
  | .put key value => map.insert key value
  | .drop key => map.erase key

def replay (log : List (Write K V)) (map : Std.ExtTreeMap K V) : Std.ExtTreeMap K V := log.foldl apply map

theorem replay_append (log later : List (Write K V)) (map : Std.ExtTreeMap K V) :
    replay (log ++ later) map = replay later (replay log map) := List.foldl_append

variable [DecidableEq K] [Std.LawfulEqOrd K]

theorem getElem?_apply (write : Write K V) (map : Std.ExtTreeMap K V) (key : K) :
    (write.apply map)[key]? = (write.at? key).getD map[key]? := by
  cases write with
  | put own value =>
    simp only [apply, at?, Std.ExtTreeMap.getElem?_insert, Std.LawfulEqOrd.compare_eq_iff_eq]
    split <;> rfl
  | drop own =>
    simp only [apply, at?, Std.ExtTreeMap.getElem?_erase, Std.LawfulEqOrd.compare_eq_iff_eq]
    split <;> rfl

theorem getElem?_replay (log : List (Write K V)) (map : Std.ExtTreeMap K V) (key : K) :
    (replay log map)[key]? = (last? key log).getD map[key]? := by
  induction log generalizing map with
  | nil => rfl
  | cons write log ih =>
    rw [replay, List.foldl_cons, ← replay, ih, getElem?_apply, last?]
    cases last? key log <;> rfl

/-- The writes in the middle may be replayed twice: for each key the later of the two
turns decides, and both leave the same. -/
theorem replay_overlap (seen again rest : List (Write K V)) (map : Std.ExtTreeMap K V) :
    replay (again ++ rest) (replay (seen ++ again) map) = replay (seen ++ again ++ rest) map := by
  apply Std.ExtTreeMap.ext_getElem?
  intro key
  simp only [getElem?_replay, last?_append]
  cases last? key rest with
  | some value => rfl
  | none =>
    cases last? key again with
    | some value => rfl
    | none => rfl

/-- Replaying a log over a map that has seen a prefix of it and then other writes:
only keys the log does not write can tell. -/
theorem replay_over_iff (seen rest other : List (Write K V)) (map : Std.ExtTreeMap K V) :
    replay (seen ++ rest) (replay (seen ++ other) map) = replay (seen ++ rest) map ↔
      ∀ key, last? key (seen ++ rest) = none → (last? key other).getD map[key]? = map[key]? := by
  have lookup (key : K) : (replay (seen ++ rest) (replay (seen ++ other) map))[key]? =
      (last? key (seen ++ rest)).getD ((last? key (seen ++ other)).getD map[key]?) := by
    rw [getElem?_replay, getElem?_replay]
  constructor
  · intro same key unwritten
    have unseen : last? key seen = none := by
      rw [last?_append, Option.or_eq_none_iff] at unwritten
      exact unwritten.2
    have value := lookup key
    rw [same, getElem?_replay, unwritten, last?_append, unseen, Option.or_none] at value
    exact value.symm
  · intro harmless
    refine Std.ExtTreeMap.ext_getElem? fun key => ?_
    rw [lookup, getElem?_replay]
    cases written : last? key (seen ++ rest) with
    | some value => rfl
    | none =>
      have unseen : last? key seen = none := by
        rw [last?_append, Option.or_eq_none_iff] at written
        exact written.2
      rw [last?_append, unseen, Option.or_none]
      exact harmless key written

end Write

/-- A map is rebuilt from its own listing. -/
theorem ofList_toList {K V : Type} [Ord K] [Std.TransOrd K] [Std.LawfulEqOrd K] [BEq K] [Std.LawfulBEqOrd K]
    (map : Std.ExtTreeMap K V) : Std.ExtTreeMap.ofList map.toList = map := by
  refine Std.ExtTreeMap.ext_getElem? fun key => ?_
  cases found : map[key]? with
  | some value =>
    exact Std.ExtTreeMap.getElem?_ofList_of_mem Std.ReflCmp.compare_self Std.ExtTreeMap.distinct_keys_toList
      (Std.ExtTreeMap.mem_toList_iff_getElem?_eq_some.mpr found)
  | none =>
    refine Std.ExtTreeMap.getElem?_ofList_of_contains_eq_false ?_
    rw [Std.ExtTreeMap.map_fst_toList_eq_keys, Std.ExtTreeMap.contains_keys,
      Std.ExtTreeMap.contains_eq_isSome_getElem?, found]
    rfl

end Kvrocks
