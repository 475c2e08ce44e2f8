import KvrocksController.Store.SlotProofs

/-! The text of slot ranges. `ParseSlotRange` reads one number or two numbers with a dash
between them; a dash in front of a number would be a second one or leave nothing before
it, so a sign other than plus is never read. -/
namespace Kvrocks
open Kvrocks.Strconv

/-- The texts of a range: `D` or `D-D`, with ordered values up to the last slot. -/
inductive Spells (s : String) : SlotRange → Prop where
  | one {n : Nat} (numeral : Numeral s.toList n) (small : (n : Int) ≤ maxSlotID) : Spells s ⟨n, n⟩
  | two {l m : List Char} {a b : Nat} (text : s.toList = l ++ '-' :: m) (first : Numeral l a) (second : Numeral m b)
      (ordered : a ≤ b) (small : (b : Int) ≤ maxSlotID) : Spells s ⟨a, b⟩

theorem atoi_ok {s : String} (noMinus : '-' ∉ s.toList) : atoi s = .ok n ↔
    ∃ k : Nat, n = k ∧ Numeral s.toList k ∧ (k : Int) ≤ maxInt64 := by
  rw [← parseInt_numeral noMinus, atoi]
  cases parseInt s <;> simp

theorem fits_int64 {n : Nat} (small : (n : Int) ≤ maxSlotID) : (n : Int) ≤ maxInt64 := by
  simp only [maxSlotID] at small
  simp only [maxInt64]
  omega

theorem natCast_slot (n : Nat) : minSlotID ≤ (n : Int) := by
  simp only [minSlotID]
  omega

section Reading
variable {s : String} {r : SlotRange}

/-- Exactly the spellings are accepted. -/
theorem parseSlotRange_iff : parseSlotRange s = .ok r ↔ Spells s r := by
  constructor
  · intro parsed
    rcases parseSlotRange_texts parsed with noDash | ⟨l, m, before, after, rfl⟩
    · obtain ⟨_, read, _, small, rfl⟩ := (parseSlotRange_single noDash).mp parsed
      obtain ⟨n, rfl, numeral, _⟩ := (atoi_ok noDash).mp read
      exact .one numeral small
    · obtain ⟨_, _, readStart, readStop, _, ordered, small, rfl⟩ := (parseSlotRange_pair before after).mp parsed
      obtain ⟨a, rfl, first, _⟩ := (atoi_ok (by simpa using before)).mp readStart
      obtain ⟨b, rfl, second, _⟩ := (atoi_ok (by simpa using after)).mp readStop
      rw [String.toList_ofList] at first second
      exact .two (String.toList_ofList ..) first second (Int.ofNat_le.mp ordered) small
  · intro spells
    cases spells with
    | @one n numeral small =>
      have read := (atoi_ok numeral.no_minus).mpr ⟨n, rfl, numeral, fits_int64 small⟩
      exact (parseSlotRange_single numeral.no_minus).mpr ⟨n, read, natCast_slot n, small, rfl⟩
    | @two l m a b text first second ordered small =>
      have whole : s = String.ofList (l ++ '-' :: m) := by rw [← text, String.ofList_toList]
      have least : (a : Int) ≤ maxSlotID := by omega
      have readStart : atoi (String.ofList l) = .ok (a : Int) :=
        (atoi_ok (by simpa using first.no_minus)).mpr ⟨a, rfl, by simpa using first, fits_int64 least⟩
      have readStop : atoi (String.ofList m) = .ok (b : Int) :=
        (atoi_ok (by simpa using second.no_minus)).mpr ⟨b, rfl, by simpa using second, fits_int64 small⟩
      rw [whole, parseSlotRange_pair first.no_minus second.no_minus]
      exact ⟨a, b, readStart, readStop, natCast_slot a, Int.ofNat_le.mpr ordered, small, rfl⟩

end Reading

section Shortest
variable {s : String}

theorem string_one (n : Nat) : (SlotRange.string ⟨n, n⟩).toList = Nat.toDigits 10 n := by
  rw [SlotRange.string, if_pos rfl, itoa_natCast, String.toList_ofList]

theorem string_two {a b : Nat} (different : a ≠ b) :
    (SlotRange.string ⟨a, b⟩).toList = Nat.toDigits 10 a ++ '-' :: Nat.toDigits 10 b := by
  have apart : (a : Int) ≠ b := by omega
  simp [SlotRange.string, apart, itoa_natCast]

/-- No spelling of a range is shorter than its `String`, and no other is as short. -/
theorem Spells.shortest (spells : Spells s r) :
    (SlotRange.string r).length ≤ s.length ∧ ((SlotRange.string r).length = s.length → s = SlotRange.string r) := by
  simp only [← String.length_toList, ← String.toList_inj]
  cases spells with
  | one numeral small =>
    rw [string_one]
    exact numeral.shortest
  | @two l m a b text first second ordered small =>
    obtain ⟨boundA, onlyA⟩ := first.shortest
    obtain ⟨boundB, onlyB⟩ := second.shortest
    by_cases same : a = b
    · subst same
      rw [string_one, text, List.length_append, List.length_cons]
      exact ⟨by omega, fun equal => absurd equal (by omega)⟩
    · rw [string_two same, text]
      simp only [List.length_append, List.length_cons]
      refine ⟨by omega, fun equal => ?_⟩
      rw [onlyA (by omega), onlyB (by omega)]

end Shortest

/-- `ParseSlotRange` accepts exactly its grammar, reads back what `String` writes, and
`String` writes the shortest text that is read as the range. -/
theorem slot_range_text :
    (∀ s r, parseSlotRange s = .ok r ↔ Spells s r) ∧
    (∀ r, SlotRange.InBounds r → parseSlotRange (SlotRange.string r) = .ok r) ∧
    ∀ s r, parseSlotRange s = .ok r → parseSlotRange (SlotRange.string r) = .ok r ∧
      ∀ other, parseSlotRange other = .ok r → (SlotRange.string r).length ≤ other.length ∧
        ((SlotRange.string r).length = other.length → other = SlotRange.string r) := by
  refine ⟨fun s r => parseSlotRange_iff, fun r => parseSlotRange_string, fun s r parsed => ?_⟩
  refine ⟨parseSlotRange_string (parseSlotRange_inBounds parsed), fun other reads => ?_⟩
  exact (parseSlotRange_iff.mp reads).shortest

theorem slot_range_text_padded : parseSlotRange "+007-12" = .ok ⟨7, 12⟩ ∧
    (SlotRange.string ⟨7, 12⟩).length ≤ "+007-12".length ∧ parseSlotRange "7-12" = .ok ⟨7, 12⟩ := by
  have parsed : parseSlotRange "+007-12" = .ok ⟨7, 12⟩ := by decide +kernel
  obtain ⟨back, least⟩ := slot_range_text.2.2 "+007-12" ⟨7, 12⟩ parsed
  exact ⟨parsed, (least "+007-12" parsed).1, slot_range_text.2.1 ⟨7, 12⟩ (by decide)⟩

end Kvrocks
