import Mathlib.Data.List.Induction

/-! Decimal text of 64-bit integers, as Go's `strconv` reads and writes it:
one optional sign, then one or more ASCII digits, no underscores, no spaces,
and a value that fits into a signed 64-bit word. -/
namespace Kvrocks.Strconv

def maxInt64 : Int := 9223372036854775807

/-- `strconv.Itoa` and `strconv.FormatInt(_, 10)`. -/
def itoa (n : Int) : String := toString n

/-- The digits after the sign; no digit at all is a syntax error. -/
def digits? (cs : List Char) : Option Nat :=
  if cs ≠ [] ∧ cs.all Char.isDigit then some (Nat.ofDigitChars 10 cs 0) else none

def InInt64 (n : Int) : Prop := -(maxInt64 + 1) ≤ n ∧ n ≤ maxInt64

def inInt64 (n : Int) : Option Int :=
  if -(maxInt64 + 1) ≤ n ∧ n ≤ maxInt64 then some n else none

/-- `strconv.ParseInt(s, 10, 64)`, which is also `strconv.Atoi` on a 64-bit
platform. `none` stands for either of its two errors. -/
def parseInt (s : String) : Option Int :=
  match s.toList with
  | '-' :: cs => (digits? cs).bind fun n => inInt64 (-n)
  | '+' :: cs => (digits? cs).bind fun n => inInt64 n
  | cs => (digits? cs).bind fun n => inInt64 n

theorem digits_toDigits (n : Nat) : digits? (Nat.toDigits 10 n) = some n := by
  have all : (Nat.toDigits 10 n).all Char.isDigit = true :=
    List.all_eq_true.mpr fun c member => Nat.isDigit_of_mem_toDigits (by decide) (by decide) member
  rw [digits?, if_pos ⟨Nat.toDigits_ne_nil, all⟩, Nat.ofDigitChars_toDigits (by decide) (by decide)]

theorem itoa_natCast (n : Nat) : itoa n = String.ofList (Nat.toDigits 10 n) := by
  simp [itoa, Int.toString_eq_repr, Int.repr_eq_if, Nat.repr_eq_ofList_toDigits]

/-- The text of a natural number has neither sign, so it takes the last branch. -/
theorem parseInt_digits (cs : List Char) (plain : ∀ c ∈ cs, c.isDigit = true) :
    parseInt (String.ofList cs) = (digits? cs).bind fun n => inInt64 n := by
  rw [parseInt, String.toList_ofList]
  split
  · have bad := plain '-' (by simp)
    simp at bad
  · have bad := plain '+' (by simp)
    simp at bad
  · rfl

theorem parseInt_itoa (n : Nat) (fits : (n : Int) ≤ maxInt64) : parseInt (itoa n) = some (n : Int) := by
  rw [itoa_natCast, parseInt_digits _ fun c member =>
    Nat.isDigit_of_mem_toDigits (by decide) (by decide) member, digits_toDigits]
  have low : -(maxInt64 + 1) ≤ (n : Int) := by
    simp only [maxInt64]
    omega
  exact if_pos ⟨low, fits⟩

section Numerals

/-- One or more ASCII digits that stand for `n`. -/
def Digits (cs : List Char) (n : Nat) : Prop :=
  cs ≠ [] ∧ (∀ c ∈ cs, c.isDigit = true) ∧ Nat.ofDigitChars 10 cs 0 = n

/-- Digits behind an optional plus. -/
inductive Numeral : List Char → Nat → Prop where
  | plain (digits : Digits cs n) : Numeral cs n
  | plus (digits : Digits cs n) : Numeral ('+' :: cs) n

theorem digits?_eq_some : digits? cs = some n ↔ Digits cs n := by
  unfold digits?
  split
  · rename_i plain
    rw [List.all_eq_true] at plain
    exact ⟨fun value => ⟨plain.1, plain.2, Option.some.inj value⟩, fun digits => congrArg some digits.2.2⟩
  · rename_i broken
    rw [List.all_eq_true] at broken
    exact ⟨nofun, fun digits => absurd ⟨digits.1, digits.2.1⟩ broken⟩

theorem Numeral.no_minus (numeral : Numeral cs n) : '-' ∉ cs := by
  have digit {cs : List Char} (digits : Digits cs n) : '-' ∉ cs := fun member =>
    absurd (digits.2.1 '-' member) (by decide)
  cases numeral with
  | plain digits => exact digit digits
  | plus digits =>
    rw [List.mem_cons, not_or]
    exact ⟨by decide, digit digits⟩

/-- Without a minus `ParseInt` reads exactly the numerals that fit. -/
theorem parseInt_numeral {s : String} (noMinus : '-' ∉ s.toList) :
    parseInt s = some n ↔ ∃ k : Nat, n = k ∧ Numeral s.toList k ∧ (k : Int) ≤ maxInt64 := by
  have fits (cs : List Char) : ((digits? cs).bind fun k => inInt64 k) = some n ↔
      ∃ k : Nat, n = k ∧ Digits cs k ∧ (k : Int) ≤ maxInt64 := by
    simp only [Option.bind_eq_some_iff, digits?_eq_some]
    refine exists_congr fun k => ?_
    have low : -(maxInt64 + 1) ≤ (k : Int) := by
      simp only [maxInt64]
      omega
    by_cases small : (k : Int) ≤ maxInt64
    · rw [inInt64, if_pos ⟨low, small⟩, Option.some.injEq]
      exact ⟨fun ⟨digits, same⟩ => ⟨same.symm, digits, small⟩, fun ⟨same, digits, _⟩ => ⟨digits, same.symm⟩⟩
    · rw [inInt64, if_neg fun both => small both.2]
      exact ⟨fun ⟨_, outside⟩ => (nomatch outside), fun ⟨_, _, inside⟩ => absurd inside small⟩
  have same {cs : List Char} (k : Nat) (alone : cs.head? ≠ some '+') : Numeral cs k ↔ Digits cs k := by
    refine ⟨fun numeral => ?_, .plain⟩
    cases numeral with
    | plain digits => exact digits
    | plus => exact absurd rfl alone
  unfold parseInt
  split
  · rename_i cs text
    exact absurd (text ▸ List.mem_cons_self) noMinus
  · rename_i cs text
    rw [fits, text]
    refine exists_congr fun k => and_congr_right fun _ => and_congr_left fun _ => ⟨.plus, fun numeral => ?_⟩
    cases numeral with
    | plain digits => exact absurd (digits.2.1 '+' (by simp)) (by decide)
    | plus digits => exact digits
  · rename_i notMinus notPlus
    rw [fits]
    refine exists_congr fun k => and_congr_right fun _ => and_congr_left fun _ => (same k fun plus => ?_).symm
    obtain ⟨rest, text⟩ := List.head?_eq_some_iff.mp plus
    exact notPlus rest text

theorem digitChar_toNat (digit : Char.isDigit c = true) : c.toNat - 48 < 10 ∧ (c.toNat - 48).digitChar = c := by
  have range : 48 ≤ c.toNat ∧ c.toNat ≤ 57 := Char.isDigit_iff_toNat.mp digit
  have small : c.toNat - 48 < 10 := by omega
  refine ⟨small, Char.toNat_inj.mp ?_⟩
  rw [Nat.toNat_digitChar_of_lt_ten small]
  omega

/-- Of all ways to write a number `toDigits` is the shortest, and the only shortest. -/
theorem toDigits_shortest (digits : Digits cs n) :
    (Nat.toDigits 10 n).length ≤ cs.length ∧ ((Nat.toDigits 10 n).length = cs.length → cs = Nat.toDigits 10 n) := by
  induction cs using List.reverseRecOn generalizing n with
  | nil => exact absurd rfl digits.1
  | append_singleton cs c ih =>
    obtain ⟨_, all, rfl⟩ := digits
    obtain ⟨small, char⟩ := digitChar_toNat (all c (by simp))
    have last : Nat.toDigits 10 (c.toNat - 48) = [c] := by rw [Nat.toDigits_of_lt_base small, char]
    have value : Nat.ofDigitChars 10 (cs ++ [c]) 0 = 10 * Nat.ofDigitChars 10 cs 0 + (c.toNat - 48) := by
      rw [Nat.ofDigitChars_append, Nat.ofDigitChars_cons, Nat.ofDigitChars_nil]
      rfl
    rw [value]
    by_cases zero : Nat.ofDigitChars 10 cs 0 = 0
    · -- leading zeros, or no digit before the last
      rw [zero, Nat.mul_zero, Nat.zero_add, last, List.length_append, List.length_singleton]
      refine ⟨by omega, fun same => ?_⟩
      have empty : cs = [] := List.eq_nil_of_length_eq_zero (by omega)
      rw [empty, List.nil_append]
    · have some : cs ≠ [] := by
        rintro rfl
        exact zero rfl
      obtain ⟨bound, only⟩ := ih ⟨some, fun d member => all d (by simp [member]), rfl⟩
      rw [← Nat.toDigits_append_toDigits (by decide) (Nat.pos_of_ne_zero zero) small, last, List.length_append,
        List.length_append, List.length_singleton]
      refine ⟨by omega, fun same => ?_⟩
      rw [← only (by omega)]

theorem Numeral.shortest (numeral : Numeral cs n) : (Nat.toDigits 10 n).length ≤ cs.length ∧
    ((Nat.toDigits 10 n).length = cs.length → cs = Nat.toDigits 10 n) := by
  cases numeral with
  | plain digits => exact toDigits_shortest digits
  | plus digits =>
    have bound := (toDigits_shortest digits).1
    rw [List.length_cons]
    exact ⟨by omega, fun same => absurd same (by omega)⟩

end Numerals
end Kvrocks.Strconv
