import Std.Data.ExtTreeMap

/-! Ordered maps by their lookups: what an insertion and a removal leave at the other keys,
and what they keep of a property that every entry has. -/
namespace Kvrocks.Entries

variable {α β : Type} [Ord α] [Std.TransOrd α] [Std.LawfulEqOrd α]
variable {m : Std.ExtTreeMap α β} {key other : α} {value found : β}

theorem insert_other (apart : key ≠ other) : (m.insert key value)[other]? = m[other]? := by
  rw [Std.ExtTreeMap.getElem?_insert, if_neg]
  exact fun same => apart (Std.LawfulEqOrd.compare_eq_iff_eq.mp same)

theorem erase_other (apart : key ≠ other) : (m.erase key)[other]? = m[other]? := by
  rw [Std.ExtTreeMap.getElem?_erase, if_neg]
  exact fun same => apart (Std.LawfulEqOrd.compare_eq_iff_eq.mp same)

theorem insert_cases (here : (m.insert key value)[other]? = some found) :
    key = other ∧ value = found ∨ m[other]? = some found := by
  by_cases same : key = other
  · subst same
    rw [Std.ExtTreeMap.getElem?_insert_self] at here
    exact .inl ⟨rfl, Option.some.inj here⟩
  · exact .inr (insert_other same ▸ here)

theorem erase_kept (here : (m.erase key)[other]? = some found) : m[other]? = some found := by
  by_cases same : key = other
  · subst same
    rw [Std.ExtTreeMap.getElem?_erase_self] at here
    cases here
  · rwa [erase_other same] at here

/-- What was there is there, if with another value. -/
theorem insert_present (there : ∃ value, m[other]? = some value) :
    ∃ value, (m.insert key value')[other]? = some value := by
  by_cases same : key = other
  · subst same
    exact ⟨_, Std.ExtTreeMap.getElem?_insert_self⟩
  · rwa [insert_other same]

/-- Every entry of the map has the property. -/
def All (P : α → β → Prop) (m : Std.ExtTreeMap α β) : Prop := ∀ key value, m[key]? = some value → P key value

namespace All
variable {P : α → β → Prop}

omit [Std.LawfulEqOrd α] in
theorem empty : All P ∅ := by
  intro key value here
  rw [Std.ExtTreeMap.getElem?_empty] at here
  cases here

theorem insert (all : All P m) (own : P key value) : All P (m.insert key value) := by
  intro other found here
  rcases insert_cases here with ⟨rfl, rfl⟩ | before
  · exact own
  · exact all other found before

theorem erase (all : All P m) : All P (m.erase key) :=
  fun other found here => all other found (erase_kept here)

end All
end Kvrocks.Entries
