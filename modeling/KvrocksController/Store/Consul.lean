import KvrocksController.Store.Listing
import KvrocksController.Store.Simulation

/-! The Consul engine. Consul's keys have no leading slash, so the engine drops the one
that every key of the store has. Under the store it is the etcd engine on other keys. -/
namespace Kvrocks

def sanitizeKey (key : String) : String :=
  match key.toList with
  | '/' :: rest => String.ofList rest
  | _ => key

namespace Consul

def get (fails : Option Error) (key : String) (kv : KV) : Except Error Value :=
  let key := sanitizeKey key
  orFailed fails (match kv[key]? with
    | none => .error (.of .notFound)
    | some value => .ok value)

/-- The key is sanitized here and once more by `get`. -/
def existsKey (fails : Option Error) (key : String) (kv : KV) : Except Error Bool :=
  let key := sanitizeKey key
  match get fails key kv with
  | .error err => if err.is = some .notFound then .ok false else .error err
  | .ok _ => .ok true

def set (faults : Faults) (key : String) (value : Value) (kv : KV) : KV × Option Error :=
  let key := sanitizeKey key
  faults.write.finish kv (kv.insert key value)

def delete (faults : Faults) (key : String) (kv : KV) : KV × Option Error :=
  let key := sanitizeKey key
  faults.write.finish kv (kv.erase key)

/-- Names are cut off the keys as etcd's listing does it. -/
def list (fails : Option Error) (base : String) (kv : KV) : Except Error (List Entry) :=
  let base := sanitizeKey base
  orFailed fails (.ok (etcdList base kv))

end Consul

/-- Keys with a second leading slash, which Consul's client treats in a way of its own, are
no keys of the store. -/
def consul (faults : Faults) : Engine KV where
  get key := Consul.get (faults.read (.get key)) key
  existsKey key := Consul.existsKey (faults.read (.existsKey key)) key
  set := Consul.set faults
  delete := Consul.delete faults
  list base := Consul.list (faults.read (.list base)) base

namespace Consul

theorem slash_append_toList (key : String) : ("/" ++ key).toList = '/' :: key.toList := by
  rw [String.toList_append]
  rfl

theorem sanitizeKey_slash (key : String) : sanitizeKey ("/" ++ key) = key := by
  rw [sanitizeKey, slash_append_toList]
  exact String.ofList_toList

theorem slash_append_inj : "/" ++ a = "/" ++ b ↔ a = b := by
  rw [← String.toList_inj, slash_append_toList, slash_append_toList, List.cons.injEq, String.toList_inj]
  simp

/-- A key of the store is a slash and a key without one in front. -/
theorem storeKey_slash (own : StoreKey key) : ∃ rest, key = "/" ++ rest ∧ sanitizeKey rest = rest := by
  obtain ⟨tail, spelled⟩ := own
  have spelled : key.toList = '/' :: 'k' :: ("vrocks/metadata".toList ++ tail) := spelled.symm
  refine ⟨String.ofList ('k' :: ("vrocks/metadata".toList ++ tail)), ?_, ?_⟩
  · rw [← String.toList_inj, slash_append_toList, String.toList_ofList, spelled]
  · rw [sanitizeKey, String.toList_ofList]
    rfl

/-- Consul's map against etcd's: the same records, each under its key without the slash. -/
structure Mirrors (t kv : KV) : Prop where
  same : ∀ key : String, t[key]? = kv["/" ++ key]?
  slashed : ∀ key : String, key ∈ kv → ∃ rest, key = "/" ++ rest

theorem mirrors_empty : Mirrors ∅ ∅ where
  same key := by simp
  slashed key present := by simp at present

section Mirrored
variable {t kv : KV} (mirrors : Mirrors t kv)
include mirrors

theorem Mirrors.insert (key : String) (value : Value) :
    Mirrors (t.insert key value) (kv.insert ("/" ++ key) value) where
  same other := by
    rw [Std.ExtTreeMap.getElem?_insert, Std.ExtTreeMap.getElem?_insert, mirrors.same]
    simp only [Std.LawfulEqOrd.compare_eq_iff_eq, slash_append_inj]
  slashed other present := by
    rcases Std.ExtTreeMap.mem_insert.mp present with same | present
    · exact ⟨key, (Std.LawfulEqOrd.compare_eq_iff_eq.mp same).symm⟩
    · exact mirrors.slashed other present

theorem Mirrors.erase (key : String) : Mirrors (t.erase key) (kv.erase ("/" ++ key)) where
  same other := by
    rw [Std.ExtTreeMap.getElem?_erase, Std.ExtTreeMap.getElem?_erase, mirrors.same]
    simp only [Std.LawfulEqOrd.compare_eq_iff_eq, slash_append_inj]
  slashed other present := mirrors.slashed other (Std.ExtTreeMap.mem_erase.mp present).2

omit mirrors in
theorem ordered (kv : KV) : kv.toList.Pairwise fun a b => a.1 < b.1 := by
  refine List.Pairwise.imp ?_ kv.ordered_keys_toList
  exact fun {a b} less => compareOfLessAndEq_eq_lt.mp less

omit mirrors in
theorem slash_append_lt : "/" ++ a < "/" ++ b ↔ a < b := by
  rw [String.lt_iff, String.lt_iff, slash_append_toList, slash_append_toList, List.cons_lt_cons_iff]
  simp

/-- The two maps are in the same order, since the slash in front decides nothing. -/
theorem Mirrors.toList : kv.toList = t.toList.map fun entry => ("/" ++ entry.1, entry.2) := by
  have sorted : (t.toList.map fun entry => ("/" ++ entry.1, entry.2)).Pairwise fun a b => a.1 < b.1 :=
    List.pairwise_map.mpr ((ordered t).imp slash_append_lt.mpr)
  have distinct {l : List (String × Value)} (sorted : l.Pairwise fun a b => a.1 < b.1) : l.Nodup := by
    refine List.Pairwise.imp ?_ sorted
    rintro a b less rfl
    exact String.lt_irrefl _ less
  refine List.Perm.eq_of_pairwise (fun a b _ _ less more => ?_) (ordered kv) sorted ?_
  · exact absurd (String.lt_trans less more) (String.lt_irrefl _)
  · refine (List.perm_ext_iff_of_nodup (distinct (ordered kv)) (distinct sorted)).mpr ?_
    rintro ⟨key, value⟩
    simp only [List.mem_map, Prod.exists, Prod.mk.injEq, Std.ExtTreeMap.mem_toList_iff_getElem?_eq_some, mirrors.same]
    constructor
    · intro stored
      obtain ⟨rest, rfl⟩ := mirrors.slashed key (mem_iff_stored.mpr ⟨value, stored⟩)
      exact ⟨rest, value, stored, rfl, rfl⟩
    · rintro ⟨rest, value, stored, rfl, rfl⟩
      exact stored

omit mirrors in
theorem etcdName_both (base key : String) : etcdName ("/" ++ base) ("/" ++ key) = etcdName base key := by
  have coded (text : String) : Utf8.bytes ("/" ++ text).toList = slash :: Utf8.bytes text.toList := by
    rw [slash_append_toList, Utf8.bytes_cons, Utf8.encode_ascii (by decide)]
    rfl
  have trimmed : trimmedKey ("/" ++ base) ("/" ++ key) = trimmedKey base key := by
    rw [trimmedKey, coded, coded, List.length_cons, List.drop_succ_cons, trimmedKey]
  simp only [etcdName, rawName, slash_append_inj, trimmed]

theorem Mirrors.etcdList (base : String) : etcdList base t = etcdList ("/" ++ base) kv := by
  rw [Kvrocks.etcdList, Kvrocks.etcdList, mirrors.toList, List.filter_map, List.filterMap_map]
  refine congrArg₂ _ ?_ (congrArg₂ _ ?_ rfl)
  · funext entry
    simp only [Function.comp_apply, etcdName_both]
  · funext entry
    simp only [Function.comp_apply, slash_append_toList, List.isPrefixOf_cons_cons, beq_self_eq_true, Bool.true_and]

end Mirrored

theorem Mirrors.finish (mirrors : Mirrors t kv) (after : Mirrors t' kv') (outcome : WriteOutcome) :
    Alike Mirrors (outcome.finish t t') (outcome.finish kv kv') := by
  cases outcome with
  | done | unacknowledged => exact ⟨rfl, after⟩
  | refused => exact ⟨rfl, mirrors⟩

/-- Under the store, Consul's engine does what etcd's does. -/
theorem simulates (external : Faults.External faults) : (consul faults).Simulates (etcd faults) Mirrors where
  get := by
    intro t kv key mirrors own
    obtain ⟨rest, rfl, _⟩ := storeKey_slash own
    simp only [consul, etcd, flat, Faults.reading, Consul.get, sanitizeKey_slash]
    cases found : kv["/" ++ rest]? <;> simp only [mirrors.same, found]
  existsKey := by
    intro t kv key mirrors own
    obtain ⟨rest, rfl, plain⟩ := storeKey_slash own
    change Consul.existsKey (faults.read (.existsKey ("/" ++ rest))) _ t =
      orFailed (faults.read (.existsKey ("/" ++ rest))) (.ok kv["/" ++ rest]?.isSome)
    simp only [Consul.existsKey, Consul.get, sanitizeKey_slash, plain, mirrors.same, orFailed]
    cases failed : faults.read (.existsKey ("/" ++ rest)) with
    | some e => simp [external _ e failed]
    | none => cases kv["/" ++ rest]? <;> simp [Error.of]
  set := by
    intro t kv key mirrors own value
    obtain ⟨rest, rfl, _⟩ := storeKey_slash own
    change Alike Mirrors (Consul.set faults _ value t) _
    rw [Consul.set, sanitizeKey_slash]
    exact mirrors.finish (mirrors.insert rest value) faults.write
  delete := by
    intro t kv key mirrors own
    obtain ⟨rest, rfl, _⟩ := storeKey_slash own
    change Alike Mirrors (Consul.delete faults _ t) _
    rw [Consul.delete, sanitizeKey_slash]
    exact mirrors.finish (mirrors.erase rest) faults.write
  list := by
    intro t kv base mirrors own
    obtain ⟨rest, rfl, _⟩ := storeKey_slash own
    change Consul.list _ _ t = _
    rw [Consul.list, sanitizeKey_slash, mirrors.etcdList]
    rfl

end Consul
end Kvrocks
