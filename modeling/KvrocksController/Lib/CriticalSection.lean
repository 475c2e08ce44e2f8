import KvrocksController.Lib.Transition

/-! Operations that look at a shared state and then perhaps change it, each under a lock.
Where the locks keep apart the operations that disturb each other, every interleaving of
the two phases is one of whole operations: each takes effect where it ends. -/
namespace Kvrocks.CriticalSection
open Transition

/-- Operations in two phases over a shared state `S`. The first phase answers at once or
leaves something to be written; `Fate` is how an access to the state turns out. What
happens outside of all operations is an `Event`. -/
structure Sections (S Op Name Fate Answer Pending Event : Type) where
  lock : Op → Name
  exclusive : Op → Bool
  look : Op → Fate → S → Answer ⊕ Pending
  write : Op → Pending → Fate → S → S × Answer
  outside : Event → S → S

variable {S Op Name Fate Answer Pending Event : Type}

namespace Sections
variable (sys : Sections S Op Name Fate Answer Pending Event)

/-- Both phases in one go. -/
def atomic (op : Op) (first second : Fate) (s : S) : S × Answer :=
  match sys.look op first s with
  | .inl answer => (s, answer)
  | .inr pending => sys.write op pending second s

/-- Operations under a shared lock never write, and a write is seen by no operation
under another lock. -/
structure Separated : Prop where
  shared : ∀ op fate s, sys.exclusive op = false → ∃ answer, sys.look op fate s = .inl answer
  unseen : ∀ op other pending fate fate' s, sys.lock op ≠ sys.lock other →
    sys.look op fate (sys.write other pending fate' s).1 = sys.look op fate s
  aside : ∀ op fate event s, sys.look op fate (sys.outside event s) = sys.look op fate s

end Sections

/-- Where a thread is in its operation. It holds the lock from `locked` up to `leaving`. -/
inductive Pc (Fate Answer Pending : Type) where
  | waiting
  | locked
  | writing (first : Fate) (pending : Pending)
  | leaving (answer : Answer)
  | returned (answer : Answer)

def Pc.holds : Pc Fate Answer Pending → Bool
  | .waiting | .returned _ => false
  | .locked | .writing .. | .leaving _ => true

/-- The operation has taken effect. -/
def Pc.ended : Pc Fate Answer Pending → Bool
  | .waiting | .locked | .writing .. => false
  | .leaving _ | .returned _ => true

/-- What has taken effect, in order. -/
inductive Entry (Op Fate Answer Event : Type) where
  | op (thread : Nat) (op : Op) (first second : Fate) (answer : Answer)
  | outside (event : Event)

structure Thread (Op Fate Answer Pending : Type) where
  op : Op
  pc : Pc Fate Answer Pending

/-- `log` is a ghost. Every thread runs one operation. -/
structure State (S Op Fate Answer Pending Event : Type) where
  shared : S
  threads : Nat → Option (Thread Op Fate Answer Pending)
  log : List (Entry Op Fate Answer Event)

inductive Label (Op Fate Event : Type) where
  | start (thread : Nat) (op : Op)
  | lock (thread : Nat)
  | look (thread : Nat) (fate : Fate)
  | write (thread : Nat) (fate : Fate)
  | unlock (thread : Nat)
  | outside (event : Event)

namespace State

def put (s : State S Op Fate Answer Pending Event) (thread : Nat) (op : Op) (pc : Pc Fate Answer Pending) :
    State S Op Fate Answer Pending Event :=
  { s with threads := fun other => if other = thread then some ⟨op, pc⟩ else s.threads other }

def initial (s : S) : State S Op Fate Answer Pending Event := ⟨s, fun _ => none, []⟩

end State

section System
variable (sys : Sections S Op Name Fate Answer Pending Event)

/-- Two operations that may be in their sections at once. -/
def Compatible (op other : Op) : Prop :=
  sys.lock op = sys.lock other → sys.exclusive op = false ∧ sys.exclusive other = false

inductive Step : State S Op Fate Answer Pending Event → Label Op Fate Event →
    State S Op Fate Answer Pending Event → Prop where
  | start (idle : s.threads thread = none) : Step s (.start thread op) (s.put thread op .waiting)
  | lock (here : s.threads thread = some ⟨op, .waiting⟩)
      (free : ∀ other holder, s.threads other = some holder → holder.pc.holds = true → Compatible sys op holder.op) :
      Step s (.lock thread) (s.put thread op .locked)
  | answers (here : s.threads thread = some ⟨op, .locked⟩) (looked : sys.look op fate s.shared = .inl answer) :
      Step s (.look thread fate)
        { s.put thread op (.leaving answer) with log := s.log ++ [.op thread op fate fate answer] }
  | goesOn (here : s.threads thread = some ⟨op, .locked⟩) (looked : sys.look op fate s.shared = .inr pending) :
      Step s (.look thread fate) (s.put thread op (.writing fate pending))
  | writes (here : s.threads thread = some ⟨op, .writing first pending⟩)
      (wrote : sys.write op pending fate s.shared = (shared, answer)) :
      Step s (.write thread fate)
        { s.put thread op (.leaving answer) with
          shared, log := s.log ++ [.op thread op first fate answer] }
  | unlock (here : s.threads thread = some ⟨op, .leaving answer⟩) :
      Step s (.unlock thread) (s.put thread op (.returned answer))
  | outside : Step s (.outside event)
      { s with shared := sys.outside event s.shared, log := s.log ++ [.outside event] }

/-- `Serial s log t`: whole operations, one after the other, lead from `s` to `t` and answer
what the log says. -/
inductive Serial : S → List (Entry Op Fate Answer Event) → S → Prop where
  | nil : Serial s [] s
  | op (before : Serial s log m) (atomic : sys.atomic op first second m = (t, answer)) :
      Serial s (log ++ [.op thread op first second answer]) t
  | outside (before : Serial s log m) : Serial s (log ++ [.outside event]) (sys.outside event m)

end System

/-- The thread whose operation the entry is about. -/
def Entry.thread? : Entry Op Fate Answer Event → Option Nat
  | .op thread .. => some thread
  | .outside _ => none

/-- The threads whose operations are in the log. -/
def logged (log : List (Entry Op Fate Answer Event)) : List Nat := log.filterMap Entry.thread?

section Safety
variable {sys : Sections S Op Name Fate Answer Pending Event} {s t : State S Op Fate Answer Pending Event} {s₀ : S}

theorem put_cases (found : (s.put i op pc).threads j = some a) :
    j = i ∧ a = ⟨op, pc⟩ ∨ j ≠ i ∧ s.threads j = some a := by
  simp only [State.put] at found
  split at found
  · exact .inl ⟨‹_›, (Option.some.inj found).symm⟩
  · exact .inr ⟨‹_›, found⟩

theorem Compatible.symm (compatible : Compatible sys op other) : Compatible sys other op :=
  fun same => (compatible same.symm).symm

/-- A thread that is about to write would still find what it found, and a thread's entry
stands in the log from the end of its operation on. -/
structure Sound (sys : Sections S Op Name Fate Answer Pending Event) (s₀ : S)
    (s : State S Op Fate Answer Pending Event) : Prop where
  serial : Serial sys s₀ s.log s.shared
  apart : ∀ i j a b, i ≠ j → s.threads i = some a → s.threads j = some b → a.pc.holds = true →
    b.pc.holds = true → Compatible sys a.op b.op
  current : ∀ i op first pending, s.threads i = some ⟨op, .writing first pending⟩ →
    sys.look op first s.shared = .inr pending
  done : ∀ i op answer, s.threads i = some ⟨op, .leaving answer⟩ ∨ s.threads i = some ⟨op, .returned answer⟩ →
    ∃ first second, .op i op first second answer ∈ s.log
  once : (logged s.log).Nodup
  fresh : ∀ i ∈ logged s.log, ∃ a, s.threads i = some a ∧ a.pc.ended = true

namespace Sound

theorem initial (s₀ : S) : Sound sys s₀ (.initial s₀) where
  serial := .nil
  apart i j a b _ here := by cases here
  current i op first pending here := by cases here
  done i op answer here := by rcases here with here | here <;> cases here
  once := .nil
  fresh i member := by cases member

section Move
variable {pc : Pc Fate Answer Pending} (sound : Sound sys s₀ s)
include sound

theorem put_apart
    (apart : pc.holds = true → ∀ j b, j ≠ i → s.threads j = some b → b.pc.holds = true → Compatible sys op b.op) :
    ∀ j k a b, j ≠ k → (s.put i op pc).threads j = some a → (s.put i op pc).threads k = some b → a.pc.holds = true →
      b.pc.holds = true → Compatible sys a.op b.op := by
  intro j k a b distinct found found' holds holds'
  rcases put_cases found with ⟨rfl, rfl⟩ | ⟨other, before⟩
  · rcases put_cases found' with ⟨rfl, rfl⟩ | ⟨_, before'⟩
    · exact absurd rfl distinct
    · exact apart holds k b (Ne.symm distinct) before' holds'
  · rcases put_cases found' with ⟨rfl, rfl⟩ | ⟨_, before'⟩
    · exact (apart holds' j a other before holds).symm
    · exact sound.apart j k a b distinct before before' holds holds'

/-- One thread moves on without any effect. -/
theorem move
    (apart : pc.holds = true → ∀ j b, j ≠ i → s.threads j = some b → b.pc.holds = true → Compatible sys op b.op)
    (own : ∀ first pending, pc = .writing first pending → sys.look op first s.shared = .inr pending)
    (done : ∀ answer, pc = .leaving answer ∨ pc = .returned answer →
      ∃ first second, .op i op first second answer ∈ s.log)
    (ended : ∀ a, s.threads i = some a → a.pc.ended = true → pc.ended = true) : Sound sys s₀ (s.put i op pc) := by
  constructor
  · exact sound.serial
  · exact sound.put_apart apart
  · intro j other first pending found
    rcases put_cases found with ⟨rfl, same⟩ | ⟨_, before⟩
    · cases same
      exact own first pending rfl
    · exact sound.current j other first pending before
  · intro j other answer found
    by_cases same : j = i
    · subst same
      simp only [State.put, ↓reduceIte, Option.some.injEq, Thread.mk.injEq] at found
      rcases found with ⟨rfl, here⟩ | ⟨rfl, here⟩
      · exact done answer (.inl here)
      · exact done answer (.inr here)
    · simp only [State.put, if_neg same] at found
      exact sound.done j other answer found
  · exact sound.once
  · intro j member
    obtain ⟨a, found, past⟩ := sound.fresh j member
    by_cases same : j = i
    · subst same
      exact ⟨⟨op, pc⟩, if_pos rfl, ended a found past⟩
    · exact ⟨a, (if_neg same).trans found, past⟩

/-- The lock that a thread holds keeps the others away. -/
theorem others (here : s.threads i = some ⟨op, pc⟩) (holds : pc.holds = true) :
    ∀ j b, j ≠ i → s.threads j = some b → b.pc.holds = true → Compatible sys op b.op :=
  fun j b distinct found holds' => sound.apart i j ⟨op, pc⟩ b (Ne.symm distinct) here found holds holds'

/-- A thread's operation takes effect. -/
theorem effect (here : s.threads i = some ⟨op, pc⟩) (holds : pc.holds = true) (unended : pc.ended = false)
    (atomic : sys.atomic op first second s.shared = (shared, answer))
    (stable : ∀ j other first pending, j ≠ i → s.threads j = some ⟨other, .writing first pending⟩ →
      sys.look other first shared = .inr pending) :
    Sound sys s₀ { s.put i op (.leaving answer) with shared, log := s.log ++ [.op i op first second answer] } := by
  have entries : logged (s.log ++ [.op i op first second answer]) = logged s.log ++ [i] := List.filterMap_append
  constructor
  · exact .op sound.serial atomic
  · exact sound.put_apart fun _ => sound.others here holds
  · intro j other first' pending found
    rcases put_cases found with ⟨_, same⟩ | ⟨distinct, before⟩
    · cases same
    · exact stable j other first' pending distinct before
  · intro j other answer' found
    by_cases same : j = i
    · subst same
      simp only [State.put, ↓reduceIte, Option.some.injEq, Thread.mk.injEq] at found
      rcases found with ⟨rfl, here⟩ | ⟨_, here⟩
      · cases here
        exact ⟨_, _, List.mem_concat_self⟩
      · cases here
    · simp only [State.put, if_neg same] at found
      obtain ⟨first', second', member⟩ := sound.done j other answer' found
      exact ⟨first', second', List.mem_append_left _ member⟩
  · rw [entries]
    refine List.nodup_append.mpr ⟨sound.once, by simp, ?_⟩
    intro j member k own same
    obtain rfl := List.mem_singleton.mp own
    obtain ⟨a, found, past⟩ := sound.fresh j member
    rw [same, here] at found
    cases found
    rw [unended] at past
    cases past
  · intro j member
    rw [entries] at member
    by_cases same : j = i
    · exact ⟨⟨op, .leaving answer⟩, if_pos same, rfl⟩
    · rcases List.mem_append.mp member with old | own
      · obtain ⟨a, found, past⟩ := sound.fresh j old
        exact ⟨a, (if_neg same).trans found, past⟩
      · exact absurd (List.mem_singleton.mp own) same

end Move

/-- Whoever else is about to write holds another lock, and does not see this write. -/
theorem undisturbed (separated : sys.Separated) (sound : Sound sys s₀ s)
    (here : s.threads i = some ⟨op, .writing first pending⟩)
    (wrote : sys.write op pending fate s.shared = (shared, answer)) :
    ∀ j other first' pending', j ≠ i → s.threads j = some ⟨other, .writing first' pending'⟩ →
      sys.look other first' shared = .inr pending' := by
  intro j other first' pending' distinct there
  have found := sound.current j other first' pending' there
  have separate : sys.lock other ≠ sys.lock op := by
    intro same
    have compatible : Compatible sys op other := sound.others here rfl j _ distinct there rfl
    obtain ⟨answer, answered⟩ := separated.shared other first' s.shared (compatible same.symm).2
    rw [found] at answered
    cases answered
  have unseen := separated.unseen other op pending first' fate s.shared separate
  rw [wrote] at unseen
  exact unseen.trans found

theorem step (separated : sys.Separated) (sound : Sound sys s₀ s) (step : Step sys s l t) : Sound sys s₀ t := by
  cases step with
  | start idle => exact sound.move (by simp [Pc.holds]) (by simp) (by simp) (by simp [idle])
  | lock here free =>
    exact sound.move (fun _ j b _ found holds => free j b found holds) (by simp) (by simp) (by simp [here, Pc.ended])
  | answers here looked =>
    refine sound.effect here rfl rfl ?_ fun j other first pending _ found => sound.current j other first pending found
    rw [Sections.atomic, looked]
    rfl
  | goesOn here looked =>
    refine sound.move (fun _ => sound.others here rfl) ?_ (by simp) (by simp [here, Pc.ended])
    intro first pending same
    cases same
    exact looked
  | writes here wrote =>
    refine sound.effect here rfl rfl ?_ (sound.undisturbed separated here wrote)
    rw [Sections.atomic, sound.current _ _ _ _ here]
    exact wrote
  | unlock here =>
    refine sound.move (by simp [Pc.holds]) (by simp) ?_ (by simp [Pc.ended])
    rintro a (same | same)
    · cases same
    · cases same
      exact sound.done _ _ _ (.inl here)
  | @outside _ event =>
    have entries : logged (s.log ++ [.outside event]) = logged s.log := by
      rw [logged, List.filterMap_append]
      exact List.append_nil _
    constructor
    · exact .outside sound.serial
    · exact sound.apart
    · intro i op first pending found
      rw [separated.aside]
      exact sound.current i op first pending found
    · intro i op answer found
      obtain ⟨first, second, member⟩ := sound.done i op answer found
      exact ⟨first, second, List.mem_append_left _ member⟩
    · rw [entries]
      exact sound.once
    · rw [entries]
      exact sound.fresh

theorem run (separated : sys.Separated) (run : Run (Step sys) s ls t) (sound : Sound sys s₀ s) : Sound sys s₀ t :=
  run.preserves (fun _ _ _ before step => before.step separated step) sound

end Sound

end Safety
end Kvrocks.CriticalSection
