import Mathlib.Algebra.GroupWithZero.Nat
import Mathlib.Data.List.Basic

/-! Texts as bytes, and bytes read as a text. A byte below 128 is a whole character, so
what looks for an ASCII letter in the bytes finds it in the text. -/
namespace Kvrocks.Utf8
open String

def bytes (text : List Char) : List UInt8 := text.flatMap utf8EncodeChar

@[simp] theorem bytes_cons (c : Char) (text : List Char) : bytes (c :: text) = utf8EncodeChar c ++ bytes text := rfl

@[simp] theorem bytes_append (first second : List Char) : bytes (first ++ second) = bytes first ++ bytes second :=
  List.flatMap_append

theorem length_bytes (text : List Char) : (bytes text).length = (text.map Char.utf8Size).sum := by
  induction text with
  | nil => rfl
  | cons c text ih => rw [bytes_cons, List.length_append, ih, length_utf8EncodeChar, List.map_cons, List.sum_cons]

/-- What a byte reads as that is not part of a character. -/
def replacement : Char := '\uFFFD'

def decodeFrom : (fuel : Nat) → List UInt8 → List Char
  | 0, _ => []
  | _ + 1, [] => []
  | fuel + 1, b :: rest =>
    match (b :: rest).toByteArray.utf8DecodeChar? 0 with
    | some c => c :: decodeFrom fuel ((b :: rest).drop c.utf8Size)
    | none => replacement :: decodeFrom fuel rest

/-- Bytes read from left to right. -/
def decode (coded : List UInt8) : List Char := decodeFrom coded.length coded

theorem decodeFrom_bytes (text : List Char) (enough : (bytes text).length ≤ fuel) :
    decodeFrom fuel (bytes text) = text := by
  induction text generalizing fuel with
  | nil => cases fuel <;> rfl
  | cons c text ih =>
    have size : (utf8EncodeChar c).length = c.utf8Size := length_utf8EncodeChar c
    have first : (bytes (c :: text)).toByteArray.utf8DecodeChar? 0 = some c := by
      rw [bytes_cons, List.toByteArray_append]
      exact ByteArray.utf8DecodeChar?_utf8EncodeChar_append
    have rest : (bytes (c :: text)).drop c.utf8Size = bytes text := by
      rw [bytes_cons, ← size, List.drop_left]
    have one := c.utf8Size_pos
    rw [bytes_cons, List.length_append] at enough
    cases fuel with
    | zero => omega
    | succ fuel =>
      cases coded : bytes (c :: text) with
      | nil => simp [bytes_cons, utf8EncodeChar_ne_nil] at coded
      | cons b later =>
        rw [coded] at first rest
        simp only [decodeFrom, first, rest]
        rw [ih (by omega)]

@[simp] theorem decode_bytes (text : List Char) : decode (bytes text) = text := decodeFrom_bytes text (Nat.le_refl _)

theorem bytes_inj : bytes text = bytes other ↔ text = other := by
  constructor
  · intro same
    have read := congrArg decode same
    rwa [decode_bytes, decode_bytes] at read
  · rintro rfl
    rfl

/-- All bytes of a longer encoding are at least 128. -/
theorem low_byte (member : b ∈ utf8EncodeChar c) (low : b.toNat < 128) :
    utf8EncodeChar c = [b] ∧ c.toNat = b.toNat := by
  unfold utf8EncodeChar at member ⊢
  dsimp only at member ⊢
  split at member
  next small =>
    obtain rfl := List.mem_singleton.mp member
    rw [if_pos small]
    have fits : c.val.toNat % 2 ^ 8 = c.val.toNat := Nat.mod_eq_of_lt (by omega)
    exact ⟨rfl, by rw [UInt8.toNat_ofNat', fits]; rfl⟩
  all_goals exfalso
  split at member
  · simp at member
    rcases member with rfl | rfl
    all_goals simp at low; omega
  split at member
  · simp at member
    rcases member with rfl | rfl | rfl
    all_goals simp at low; omega
  · simp at member
    rcases member with rfl | rfl | rfl | rfl
    all_goals simp at low; omega

section Letter
variable {a : Char} (ascii : a.toNat < 128)
include ascii

theorem toNat_toUInt8 : a.toUInt8.toNat = a.toNat := by
  rw [Char.toUInt8, UInt32.toNat_toUInt8]
  exact Nat.mod_eq_of_lt (Nat.lt_of_lt_of_le ascii (by decide))

theorem encode_ascii : utf8EncodeChar a = [a.toUInt8] :=
  utf8EncodeChar_eq_singleton (Char.utf8Size_eq_one_iff.mpr (UInt32.le_iff_toNat_le.mpr (Nat.le_of_lt_succ ascii)))

theorem mem_encode : a.toUInt8 ∈ utf8EncodeChar c ↔ c = a := by
  constructor
  · intro member
    have here := (low_byte member (toNat_toUInt8 ascii ▸ ascii)).2
    exact Char.toNat_inj.mp (here.trans (toNat_toUInt8 ascii))
  · rintro rfl
    rw [encode_ascii ascii]
    exact List.mem_singleton_self _

theorem mem_bytes : a.toUInt8 ∈ bytes text ↔ a ∈ text := by
  rw [bytes, List.mem_flatMap]
  constructor
  · rintro ⟨c, member, inside⟩
    exact (mem_encode ascii).mp inside ▸ member
  · intro member
    exact ⟨a, member, (mem_encode ascii).mpr rfl⟩

theorem dropWhile_bytes (text : List Char) :
    (bytes text).dropWhile (· == a.toUInt8) = bytes (text.dropWhile (· == a)) := by
  induction text with
  | nil => rfl
  | cons c text ih =>
    by_cases same : c = a
    · subst same
      rw [List.dropWhile_cons_of_pos (by simp), bytes_cons, encode_ascii ascii, List.cons_append, List.nil_append,
        List.dropWhile_cons_of_pos (by simp), ih]
    · rw [List.dropWhile_cons_of_neg (by simpa using same), bytes_cons]
      cases encoded : utf8EncodeChar c with
      | nil => exact absurd encoded utf8EncodeChar_ne_nil
      | cons b rest =>
        refine List.dropWhile_cons_of_neg ?_
        simp only [beq_iff_eq]
        rintro rfl
        exact same ((mem_encode ascii).mp (encoded ▸ List.mem_cons_self))

end Letter
end Kvrocks.Utf8
