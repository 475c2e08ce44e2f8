import Mathlib.Algebra.GroupWithZero.Nat
import Mathlib.Data.List.Infix

/-! Patterns of the operator `LIKE`, over any alphabet. One sign stands for any text, one
for any letter, and an escape sign, if there is one, takes the letter after it literally.
A text without signs in front of the sign for any text is a test for a prefix. With a sign
in it, the pattern also accepts a text that is no longer than the one in front and differs
from it. -/
namespace Kvrocks.Like
variable {α : Type}

inductive Item (α : Type) where
  | exactly (a : α)
  | one
  | many
deriving DecidableEq, Repr

section Accepts
variable [DecidableEq α]

/-- The whole text is matched. -/
def accepts : List (Item α) → List α → Bool
  | [], text => text.isEmpty
  | .exactly a :: items, text =>
    match text with
    | [] => false
    | c :: rest => c = a && accepts items rest
  | .one :: items, text =>
    match text with
    | [] => false
    | _ :: rest => accepts items rest
  | .many :: items, text => text.tails.any (accepts items)

theorem accepts_exactly {items : List (Item α)} :
    accepts (.exactly a :: items) text = true ↔ ∃ rest, text = a :: rest ∧ accepts items rest = true := by
  cases text with
  | nil => simp [accepts]
  | cons c rest =>
    simp only [accepts, Bool.and_eq_true, decide_eq_true_eq, List.cons.injEq]
    constructor
    · rintro ⟨rfl, later⟩
      exact ⟨rest, ⟨rfl, rfl⟩, later⟩
    · rintro ⟨_, ⟨rfl, rfl⟩, later⟩
      exact ⟨rfl, later⟩

theorem accepts_one {items : List (Item α)} :
    accepts (.one :: items) text = true ↔ ∃ c rest, text = c :: rest ∧ accepts items rest = true := by
  cases text with
  | nil => simp [accepts]
  | cons c rest =>
    simp only [accepts, List.cons.injEq]
    constructor
    · intro later
      exact ⟨c, rest, ⟨rfl, rfl⟩, later⟩
    · rintro ⟨_, _, ⟨rfl, rfl⟩, later⟩
      exact later

theorem accepts_many {items : List (Item α)} :
    accepts (.many :: items) text = true ↔ ∃ before after, text = before ++ after ∧ accepts items after = true := by
  simp only [accepts, List.any_eq_true, List.mem_tails]
  constructor
  · rintro ⟨after, ⟨before, split⟩, later⟩
    exact ⟨before, after, split.symm, later⟩
  · rintro ⟨before, after, rfl, later⟩
    exact ⟨after, List.suffix_append before after, later⟩

theorem accepts_append {items others : List (Item α)} (first : accepts items text = true)
    (second : accepts others later = true) : accepts (items ++ others) (text ++ later) = true := by
  induction items generalizing text with
  | nil =>
    obtain rfl := List.isEmpty_iff.mp first
    exact second
  | cons item items ih =>
    cases item with
    | exactly a =>
      obtain ⟨rest, rfl, accepted⟩ := accepts_exactly.mp first
      exact accepts_exactly.mpr ⟨rest ++ later, rfl, ih accepted⟩
    | one =>
      obtain ⟨c, rest, rfl, accepted⟩ := accepts_one.mp first
      exact accepts_one.mpr ⟨c, rest ++ later, rfl, ih accepted⟩
    | many =>
      obtain ⟨before, after, rfl, accepted⟩ := accepts_many.mp first
      exact accepts_many.mpr ⟨before, after ++ later, List.append_assoc .., ih accepted⟩

theorem accepts_prefix (l text : List α) : accepts (l.map .exactly ++ [.many]) text = true ↔ l <+: text := by
  induction l generalizing text with
  | nil =>
    rw [List.map_nil, List.nil_append, accepts_many]
    exact iff_of_true ⟨text, [], (List.append_nil _).symm, rfl⟩ (List.nil_prefix)
  | cons a l ih =>
    rw [List.map_cons, List.cons_append, accepts_exactly]
    constructor
    · rintro ⟨rest, rfl, accepted⟩
      exact (List.prefix_cons_inj a).mpr ((ih rest).mp accepted)
    · rintro ⟨rest, rfl⟩
      exact ⟨l ++ rest, rfl, (ih _).mpr (List.prefix_append l rest)⟩

end Accepts

/-- The letters with a meaning of their own. -/
structure Signs (α : Type) where
  many : α
  one : α
  escape : Option α
  apart : one ≠ many
  many_not_escape : escape ≠ some many

namespace Signs
variable (signs : Signs α)

def Sign (c : α) : Prop := c = signs.many ∨ c = signs.one ∨ signs.escape = some c

instance [DecidableEq α] (c : α) : Decidable (signs.Sign c) := inferInstanceAs (Decidable (_ ∨ _ ∨ _))

def Plain (text : List α) : Prop := ∀ c ∈ text, ¬ signs.Sign c

instance [DecidableEq α] (text : List α) : Decidable (signs.Plain text) := inferInstanceAs (Decidable (∀ c ∈ text, _))

theorem Plain.append {signs : Signs α} (first : signs.Plain u) (second : signs.Plain v) : signs.Plain (u ++ v) := by
  intro c member
  exact (List.mem_append.mp member).elim (first c) (second c)

variable [DecidableEq α]

def item (c : α) : Item α := if c = signs.many then .many else if c = signs.one then .one else .exactly c

/-- The items of a pattern, and whether its last letter is an escape sign with nothing
behind it. -/
def scan : List α → List (Item α) × Bool
  | [] => ([], false)
  | c :: rest =>
    if signs.escape = some c then
      match rest with
      | [] => ([], true)
      | d :: rest => (.exactly d :: (scan rest).1, (scan rest).2)
    else (signs.item c :: (scan rest).1, (scan rest).2)

/-- A pattern that ends with an escape sign is an error. -/
def parse (pattern : List α) : Option (List (Item α)) :=
  if (signs.scan pattern).2 then none else some (signs.scan pattern).1

variable {signs}

theorem item_many : signs.item signs.many = .many := if_pos rfl

theorem item_plain (plain : ¬ signs.Sign c) : signs.item c = .exactly c := by
  rw [item, if_neg fun many => plain (.inl many), if_neg fun one => plain (.inr (.inl one))]

theorem scan_nil : signs.scan [] = ([], false) := rfl

theorem scan_escape (escaped : signs.escape = some c) (d : α) (rest : List α) :
    signs.scan (c :: d :: rest) = (.exactly d :: (signs.scan rest).1, (signs.scan rest).2) := by
  rw [scan, if_pos escaped]

theorem scan_dangling (escaped : signs.escape = some c) : signs.scan [c] = ([], true) := by
  rw [scan, if_pos escaped]

theorem scan_item (literal : signs.escape ≠ some c) (rest : List α) :
    signs.scan (c :: rest) = (signs.item c :: (signs.scan rest).1, (signs.scan rest).2) := by
  rw [scan.eq_def]
  exact if_neg literal

/-- A letter that is no escape sign ends whatever escape stood before it. -/
theorem scan_append (literal : signs.escape ≠ some c) (u v : List α) :
    signs.scan (u ++ c :: v) = ((signs.scan u).1 ++
      (if (signs.scan u).2 then .exactly c else signs.item c) :: (signs.scan v).1, (signs.scan v).2) := by
  induction u using scan.induct signs with
  | case1 => rw [List.nil_append, scan_item literal, scan_nil]; rfl
  | case2 e escaped => rw [List.cons_append, List.nil_append, scan_escape escaped, scan_dangling escaped]; rfl
  | case3 e escaped d rest ih =>
    rw [List.cons_append, List.cons_append, scan_escape escaped, scan_escape escaped, ih]
    rfl
  | case4 a rest unescaped ih => rw [List.cons_append, scan_item unescaped, scan_item unescaped, ih]; rfl

/-- A letter that is no sign stands for itself, escaped or not. -/
theorem scan_letter (plain : ¬ signs.Sign c) (u v : List α) :
    signs.scan (u ++ c :: v) = ((signs.scan u).1 ++ .exactly c :: (signs.scan v).1, (signs.scan v).2) := by
  rw [scan_append fun escaped => plain (.inr (.inr escaped)), item_plain plain, ite_self]

theorem scan_plain (plain : signs.Plain u) : signs.scan u = (u.map .exactly, false) := by
  induction u with
  | nil => rfl
  | cons c rest ih =>
    have here : ¬ signs.Sign c := plain c List.mem_cons_self
    rw [scan_item fun escaped => here (.inr (.inr escaped)), item_plain here,
      ih fun d member => plain d (List.mem_cons_of_mem c member)]
    rfl

/-- The items of a text with the sign for any text behind it. -/
def below (signs : Signs α) (u : List α) : List (Item α) := (signs.scan (u ++ [signs.many])).1

theorem parse_below (signs : Signs α) (u : List α) : signs.parse (u ++ [signs.many]) = some (signs.below u) := by
  rw [parse, below, scan_append signs.many_not_escape]
  rfl

theorem below_nil : signs.below [] = [.many] := by
  rw [below, List.nil_append, scan_item signs.many_not_escape, item_many]
  rfl

theorem below_escape (escaped : signs.escape = some c) (d : α) (rest : List α) :
    signs.below (c :: d :: rest) = .exactly d :: signs.below rest := by
  rw [below, List.cons_append, List.cons_append, scan_escape escaped, below]

theorem below_dangling (escaped : signs.escape = some c) : signs.below [c] = [.exactly signs.many] := by
  rw [below, List.cons_append, List.nil_append, scan_escape escaped]
  rfl

theorem below_item (literal : signs.escape ≠ some c) (rest : List α) :
    signs.below (c :: rest) = signs.item c :: signs.below rest := by
  rw [below, List.cons_append, scan_item literal, below]

theorem below_letter (plain : ¬ signs.Sign c) (u v : List α) :
    signs.below (u ++ c :: v) = (signs.scan u).1 ++ .exactly c :: signs.below v := by
  rw [below, List.append_assoc, List.cons_append, scan_letter plain, below]

/-- Without signs the pattern is a test for a prefix. -/
theorem below_plain (plain : signs.Plain u) : signs.below u = u.map .exactly ++ [.many] := by
  rw [below, scan_append signs.many_not_escape, scan_plain plain, item_many]
  rfl

end Signs

/-- A text that an item accepts, with `filler` for any letter. -/
def Item.sample (filler : α) : Item α → List α
  | .exactly a => [a]
  | .one => [filler]
  | .many => []

def sample (filler : α) (items : List (Item α)) : List α := items.flatMap (Item.sample filler)

section Sample
variable {filler : α}

@[simp] theorem sample_nil : sample filler ([] : List (Item α)) = [] := rfl

@[simp] theorem sample_cons (item : Item α) (items : List (Item α)) :
    sample filler (item :: items) = item.sample filler ++ sample filler items := rfl

@[simp] theorem sample_append (items others : List (Item α)) :
    sample filler (items ++ others) = sample filler items ++ sample filler others := List.flatMap_append

theorem sample_exactly (text : List α) : sample filler (text.map .exactly) = text := by
  induction text with
  | nil => rfl
  | cons c text ih => rw [List.map_cons, sample_cons, ih]; rfl

variable [DecidableEq α] {signs : Signs α}

theorem accepts_sample (items : List (Item α)) : accepts items (sample filler items) = true := by
  induction items with
  | nil => rfl
  | cons item items ih =>
    cases item with
    | exactly a => exact accepts_exactly.mpr ⟨_, rfl, ih⟩
    | one => exact accepts_one.mpr ⟨filler, _, rfl, ih⟩
    | many => exact accepts_many.mpr ⟨[], _, rfl, ih⟩

/-- Anything may follow where the pattern ends with the sign for any text. -/
theorem accepts_sample_append (items : List (Item α)) (tail : List α) :
    accepts (items ++ [.many]) (sample filler (items ++ [.many]) ++ tail) = true := by
  have trailing : sample filler (items ++ [.many]) = sample filler items := by
    rw [sample_append]
    exact List.append_nil _
  rw [trailing]
  exact accepts_append (accepts_sample items) (accepts_many.mpr ⟨tail, [], (List.append_nil tail).symm, rfl⟩)

/-- A sample is no heavier than the text in front, for a filler no heavier than the sign
it stands for. -/
theorem sample_weight (signs : Signs α) (filler : α) (weight : α → Nat) (light : weight filler ≤ weight signs.one)
    (closed : ∀ e, signs.escape = some e → weight signs.many ≤ weight e) (u : List α) :
    ((sample filler (signs.below u)).map weight).sum ≤ (u.map weight).sum := by
  induction u using Signs.scan.induct signs with
  | case1 =>
    rw [Signs.below_nil]
    exact Nat.zero_le _
  | case2 e escaped =>
    rw [Signs.below_dangling escaped]
    simpa [Item.sample] using closed e escaped
  | case3 e escaped d rest ih =>
    rw [Signs.below_escape escaped]
    simp only [sample_cons, Item.sample, List.map_append, List.map_cons, List.map_nil, List.sum_append, List.sum_cons,
      List.sum_nil]
    omega
  | case4 c rest literal ih =>
    rw [Signs.below_item literal]
    have head : (((signs.item c).sample filler).map weight).sum ≤ weight c := by
      unfold Signs.item
      split
      · exact Nat.zero_le _
      · split <;> simp_all [Item.sample]
    simp only [sample_cons, List.map_append, List.map_cons, List.sum_append, List.sum_cons]
    omega

/-- If the sample is the text in front, that text has no sign. -/
theorem plain_of_sample (other : filler ≠ signs.one) (same : sample filler (signs.below u) = u) : signs.Plain u := by
  have shorter (v : List α) : (sample filler (signs.below v)).length ≤ v.length := by
    have light := sample_weight signs filler (fun _ => 1) (Nat.le_refl 1) (fun _ _ => Nat.le_refl 1) v
    simpa only [List.map_const', List.sum_replicate_nat, Nat.mul_one] using light
  induction u with
  | nil => exact fun _ member => nomatch member
  | cons c rest ih =>
    by_cases escaped : signs.escape = some c
    · exfalso
      cases rest with
      | nil =>
        rw [Signs.below_dangling escaped] at same
        exact signs.many_not_escape (escaped.trans (congrArg some (List.cons.inj same).1.symm))
      | cons d rest =>
        -- an escape sign inside makes the sample shorter
        rw [Signs.below_escape escaped] at same
        have lengths := congrArg List.length same
        simp only [sample_cons, Item.sample, List.length_append, List.length_cons, List.length_nil] at lengths
        have := shorter rest
        omega
    rw [Signs.below_item escaped, sample_cons] at same
    by_cases many : c = signs.many
    · exfalso
      rw [many, Signs.item_many] at same
      have lengths := congrArg List.length same
      have := shorter rest
      simp only [Item.sample, List.nil_append, List.length_cons] at lengths
      omega
    by_cases one : c = signs.one
    · rw [Signs.item, if_neg many, if_pos one] at same
      exact absurd ((List.cons.inj same).1.trans one) other
    have here : ¬ signs.Sign c := by
      rintro (now | now | now)
      · exact many now
      · exact one now
      · exact escaped now
    rw [Signs.item_plain here] at same
    have later : signs.Plain rest := ih (List.cons.inj same).2
    intro d member
    obtain rfl | tail := List.mem_cons.mp member
    · exact here
    · exact later d tail

end Sample
end Kvrocks.Like
