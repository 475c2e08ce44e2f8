import KvrocksController.Lib.Like
import KvrocksController.Lib.Utf8
import KvrocksController.Store.Listing

/-! The PostgreSQL engine's listing beside etcd's, over bytes. Both run one loop over the
keys they are sent and cut every key behind the length of the prefix. etcd sends the keys
that start with the prefix; PostgreSQL sends those that match it as a pattern. -/
namespace Kvrocks
open Utf8

/-- The loop of `List`. Cutting a key that is not longer than the prefix panics. -/
def listRows (base : String) : List (String × Value) → Result (List RawEntry)
  | [] => .ok []
  | (key, value) :: rows =>
    if key = base then listRows base rows
    else if (bytes key.toList).length < (bytes base.toList).length + 1 then .error .panicked
    else
      let name := trimmedKey base key
      if name.contains slash then listRows base rows
      else (listRows base rows).map (⟨name, value⟩ :: ·)

/-- `List` of etcd, with the keys in order. -/
def Etcd.list (base : String) (kv : KV) : Result (List RawEntry) :=
  listRows base (kv.toList.filter fun row => base.toList.isPrefixOf row.1.toList)

namespace Postgresql

/-- The escape sign that `LIKE` has when none is named: none in standard SQL. -/
inductive Dialect where
  | standard
  | postgresql
deriving DecidableEq, Repr

def Dialect.signs : Dialect → Like.Signs Char
  | .standard => ⟨'%', '_', none, by decide, by decide⟩
  | .postgresql => ⟨'%', '_', some '\\', by decide, by decide⟩

variable (dialect : Dialect)

/-- `key LIKE pattern`; a pattern that ends with the escape sign is an error. -/
def selectLike (pattern : String) (rows : List (String × Value)) : Result (List (String × Value)) :=
  match dialect.signs.parse pattern.toList with
  | none => .error (.returned (.new "pq: LIKE pattern must not end with escape character"))
  | some items => .ok (rows.filter fun row => Like.accepts items row.1.toList)

/-- `List`, with the rows in the order in which the table has them. -/
def list (base : String) (rows : List (String × Value)) : Result (List RawEntry) := do
  let rows ← selectLike dialect (base ++ "%") rows
  listRows base rows

/-- `ListCluster` over this engine. -/
def listCluster (ns : String) (rows : List (String × Value)) : Result (List (List UInt8)) := do
  let entries ← list dialect (buildClusterPrefix ns) rows
  .ok (entries.map (·.key))

end Postgresql

section Rows
variable {base key : String}

/-- Long enough to be cut, or skipped before that. -/
def Long (base key : String) : Prop := key = base ∨ (bytes base.toList).length < (bytes key.toList).length

/-- What the loop makes of a key that is long enough. -/
def rawEntry (base : String) (row : String × Value) : Option RawEntry :=
  (rawName base row.1).map (⟨·, row.2⟩)

theorem listRows_cons (long : Long base row.1) (rows : List (String × Value)) :
    listRows base (row :: rows) = (listRows base rows).map ((rawEntry base row).toList ++ ·) := by
  have unchanged (result : Result (List RawEntry)) : result.map ([] ++ ·) = result := by cases result <;> rfl
  by_cases same : row.1 = base
  · rw [listRows, if_pos same, rawEntry, rawName, if_pos same]
    exact (unchanged _).symm
  · rw [listRows, if_neg same, if_neg (by rcases long with same' | long; exacts [absurd same' same, by omega]),
      rawEntry, rawName, if_neg same]
    dsimp only
    split
    · exact (unchanged _).symm
    · rfl

/-- The loop ends without a panic when every key is long enough, and then shows them one by one. -/
theorem listRows_ok : listRows base rows = .ok entries ↔
    (∀ row ∈ rows, Long base row.1) ∧ rows.filterMap (rawEntry base) = entries := by
  induction rows generalizing entries with
  | nil => simp [listRows]
  | cons row rows ih =>
    by_cases long : Long base row.1
    · have shown : (row :: rows).filterMap (rawEntry base) =
          (rawEntry base row).toList ++ rows.filterMap (rawEntry base) := by
        cases entry : rawEntry base row with
        | none => rw [List.filterMap_cons_none entry]; rfl
        | some e => rw [List.filterMap_cons_some entry]; rfl
      rw [listRows_cons long rows, shown, List.forall_mem_cons]
      constructor
      · intro listed
        obtain ⟨later, rest, rfl⟩ := map_ok listed
        obtain ⟨others, rfl⟩ := ih.mp rest
        exact ⟨⟨long, others⟩, rfl⟩
      · rintro ⟨⟨_, others⟩, rfl⟩
        rw [ih.mpr ⟨others, rfl⟩]
        rfl
    · refine iff_of_false ?_ fun all => long (all.1 row List.mem_cons_self)
      rw [listRows, if_neg fun same => long (.inl same), if_pos (by unfold Long at long; omega)]
      nofun

theorem long_of_prefix (below : base.toList <+: key.toList) : Long base key := by
  obtain ⟨rest, split⟩ := below
  cases rest with
  | nil => exact .inl (String.toList_inj.mp (by rw [← split, List.append_nil]))
  | cons c rest =>
    right
    have one : 0 < (String.utf8EncodeChar c).length := List.length_pos_iff.mpr String.utf8EncodeChar_ne_nil
    rw [← split, bytes_append, bytes_cons, List.length_append, List.length_append]
    omega

/-- What is shown of the rows whose keys start with the prefix. -/
def shownBelow (base : String) (rows : List (String × Value)) : List RawEntry :=
  (rows.filter fun row => base.toList.isPrefixOf row.1.toList).filterMap (rawEntry base)

theorem listRows_below (base : String) (rows : List (String × Value)) :
    listRows base (rows.filter fun row => base.toList.isPrefixOf row.1.toList) = .ok (shownBelow base rows) := by
  refine listRows_ok.mpr ⟨?_, rfl⟩
  intro row member
  exact long_of_prefix (List.isPrefixOf_iff_prefix.mp (List.mem_filter.mp member).2)

theorem shownBelow_perm (order : rows.Perm others) : (shownBelow base rows).Perm (shownBelow base others) :=
  (order.filter _).filterMap _

/-- A row that has no name below the prefix can be left out. -/
theorem shownBelow_hidden (hidden : base.toList <+: row.1.toList → rawName base row.1 = none)
    (before after : List (String × Value)) :
    shownBelow base (before ++ row :: after) = shownBelow base (before ++ after) := by
  rw [shownBelow, shownBelow, List.filter_append, List.filter_append, List.filterMap_append, List.filterMap_append,
    List.append_right_inj]
  by_cases below : base.toList.isPrefixOf row.1.toList = true
  · rw [List.filter_cons, if_pos below, List.filterMap_cons_none]
    rw [rawEntry, hidden (List.isPrefixOf_iff_prefix.mp below)]
    rfl
  · rw [List.filter_cons, if_neg below]

/-- The cut takes one byte of the character behind the prefix. -/
theorem rawName_below (split : key.toList = base.toList ++ c :: rest) : rawName base key =
    let name := ((String.utf8EncodeChar c).drop 1 ++ bytes rest).dropWhile (· == slash)
    if name.contains slash then none else some name := by
  rw [rawName, if_neg (ne_of_below split), trimmedKey_below split]

/-- A key that is one byte too long is shown as its last byte. -/
theorem rawName_last (split : bytes key.toList = front ++ [b]) (cut : front.length = (bytes base.toList).length + 1)
    (letter : b ≠ slash) : Long base key ∧ rawName base key = some [b] := by
  have length : (bytes key.toList).length = (bytes base.toList).length + 2 := by
    rw [split, List.length_append, cut]
    rfl
  have other : key ≠ base := by
    rintro rfl
    omega
  have trimmed : trimmedKey base key = [b] := by
    rw [trimmedKey, split, ← cut, List.drop_left, List.dropWhile_cons_of_neg (by simpa using letter)]
  refine ⟨.inr (by omega), ?_⟩
  rw [rawName, if_neg other, trimmed]
  simpa using letter.symm

end Rows

/-- etcd's listing, read as texts, is what the engine's `List` shows. -/
theorem Etcd.list_eq (base : String) (kv : KV) :
    ∃ shown, Etcd.list base kv = .ok shown ∧ shown.map (·.entry) = etcdList base kv := by
  refine ⟨_, listRows_below base kv.toList, ?_⟩
  rw [shownBelow, etcdList, List.map_filterMap]
  refine List.filterMap_congr fun row _ => ?_
  cases named : rawName base row.1 <;> simp [rawEntry, etcdName, named, RawEntry.entry]

namespace Postgresql
variable {dialect : Dialect}

theorem pattern_toList (dialect : Dialect) (base : String) :
    (base ++ "%").toList = base.toList ++ [dialect.signs.many] := by
  rw [String.toList_append]
  cases dialect <;> rfl

theorem utf8Size_sign (dialect : Dialect) (sign : dialect.signs.Sign c) : c.utf8Size = 1 := by
  cases dialect with
  | standard => rcases sign with rfl | rfl | none; exacts [rfl, rfl, nomatch none]
  | postgresql => rcases sign with rfl | rfl | escape; exacts [rfl, rfl, Option.some.inj escape ▸ rfl]

/-- The rows that the pattern lets through. -/
theorem list_eq (base : String) (rows : List (String × Value)) : list dialect base rows =
    listRows base (rows.filter fun row => Like.accepts (dialect.signs.below base.toList) row.1.toList) := by
  rw [list, selectLike, pattern_toList dialect, Like.Signs.parse_below]
  rfl

end Postgresql
end Kvrocks
