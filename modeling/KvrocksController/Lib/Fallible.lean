import Mathlib.Data.List.Forall2

/-! Sequences and loops of calls that may fail, in `Except`: a sequence succeeds only
if each of its calls does, and a loop's results are the results of its rounds. -/
namespace Kvrocks

theorem bind_ok {x : Except ε α} {f : α → Except ε β} (h : (x >>= f) = .ok b) :
    ∃ a, x = .ok a ∧ f a = .ok b := by
  cases x with
  | error e => cases h
  | ok a => exact ⟨a, rfl, h⟩

theorem map_ok {x : Except ε α} {f : α → β} (h : x.map f = .ok b) : ∃ a, x = .ok a ∧ f a = b := by
  cases x with
  | error e => cases h
  | ok a => exact ⟨a, rfl, Except.ok.inj h⟩

section Loop
variable {f : α → Except ε β} {l : List α} {bs : List β}

/-- Round by round, in order. -/
theorem mapM_rounds : l.mapM f = .ok bs ↔ List.Forall₂ (fun a b => f a = .ok b) l bs := by
  induction l generalizing bs with
  | nil =>
    rw [List.forall₂_nil_left_iff]
    exact ⟨fun done => (Except.ok.inj done).symm, fun none => none ▸ rfl⟩
  | cons a l ih =>
    rw [List.mapM_cons, List.forall₂_cons_left_iff]
    constructor
    · intro looped
      obtain ⟨b, first, looped⟩ := bind_ok looped
      obtain ⟨rest, others, looped⟩ := bind_ok looped
      exact ⟨b, rest, first, ih.mp others, (Except.ok.inj looped).symm⟩
    · rintro ⟨b, rest, first, others, rfl⟩
      rw [first, ih.mpr others]
      rfl

theorem mapM_ok (each : ∀ a ∈ l, ∃ b, f a = .ok b) : ∃ bs, l.mapM f = .ok bs := by
  induction l with
  | nil => exact ⟨[], rfl⟩
  | cons a l ih =>
    obtain ⟨b, first⟩ := each a (by simp)
    obtain ⟨bs, rest⟩ := ih fun a member => each a (by simp [member])
    exact ⟨b :: bs, by rw [List.mapM_cons, first, rest]; rfl⟩

/-- Every round of a loop that succeeds has its result in the end. -/
theorem mapM_each (looped : l.mapM f = .ok bs) (member : a ∈ l) : ∃ b ∈ bs, f a = .ok b := by
  have rounds := mapM_rounds.mp looped
  clear looped
  induction rounds with
  | nil => cases member
  | cons first _ ih =>
    rcases List.mem_cons.mp member with rfl | member
    · exact ⟨_, List.mem_cons_self, first⟩
    · obtain ⟨b, inside, done⟩ := ih member
      exact ⟨b, List.mem_cons_of_mem _ inside, done⟩

/-- Every result of a loop that succeeds comes from one of its rounds. -/
theorem mapM_mem (looped : l.mapM f = .ok bs) (member : b ∈ bs) : ∃ a ∈ l, f a = .ok b := by
  have rounds := mapM_rounds.mp looped
  clear looped
  induction rounds with
  | nil => cases member
  | cons first _ ih =>
    rcases List.mem_cons.mp member with rfl | member
    · exact ⟨_, List.mem_cons_self, first⟩
    · obtain ⟨a, inside, done⟩ := ih member
      exact ⟨a, List.mem_cons_of_mem _ inside, done⟩

/-- Results that tell which round they come from. -/
theorem mapM_origins {g : β → α} (looped : l.mapM f = .ok bs) (origin : ∀ a b, f a = .ok b → g b = a) :
    bs.map g = l := by
  have rounds := mapM_rounds.mp looped
  clear looped
  induction rounds with
  | nil => rfl
  | cons first _ ih => rw [List.map_cons, ih, origin _ _ first]

end Loop

/-- A loop whose rounds all return, in any monad. -/
theorem mapM_pure {m : Type u → Type v} [Monad m] [LawfulMonad m] {f : γ → m β} {encode : α → γ} {g : α → β} {l : List α}
    (each : ∀ a ∈ l, f (encode a) = pure (g a)) : (l.map encode).mapM f = pure (l.map g) := by
  induction l with
  | nil => rfl
  | cons a l ih =>
    rw [List.map_cons, List.mapM_cons, each a (by simp), ih fun b member => each b (by simp [member]), List.map_cons]
    simp only [pure_bind]

theorem mapM_map {f : γ → Except ε β} {encode : α → γ} {g : α → β} {l : List α}
    (each : ∀ a ∈ l, f (encode a) = .ok (g a)) : (l.map encode).mapM f = .ok (l.map g) := mapM_pure each

end Kvrocks
