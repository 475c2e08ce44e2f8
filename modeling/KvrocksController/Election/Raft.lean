import KvrocksController.Lib.Strconv
import KvrocksController.Lib.Transition
import Mathlib.Logic.Function.Basic

/-! The leader over the raft engine. Raft elects by itself; `watchLeaderChange` polls its
lead and tells `syncLoop` when it differs from the lead of the last poll, and `syncLoop`
then reads the lead once more. Between the two reads the lead may have moved on. -/
namespace Kvrocks.Election.Raft
open Transition

/-- `watchLeaderChange`: in its `select`, or in the send on `leaderChanged`, which has no
buffer. -/
inductive Watch where
  | select
  | sending
  | returned
deriving DecidableEq, Repr

/-- `syncLoop`. `start` tells the `resume` of start-up from a later one, and `reading` is
before `prevTermLeader` is set to `Leader()`. -/
inductive Sync where
  | starting
  | resuming (start : Bool)
  | reading
  | select
  | notified
  | suspending
  | returned
deriving DecidableEq, Repr

/-- A raft node and the controller over it. `lead` is the lead in raft's status, `leader`
what the watcher noted last, 0 is no node. `active` is a ghost: `resume` has been run and
`suspend` has not been since. -/
structure Node where
  lead : Nat
  leader : Nat
  watch : Watch
  shutdown : Bool
  sync : Sync
  prevTermLeader : String
  active : Bool
deriving DecidableEq, Repr

/-- `ID()` of the node with this ID in its configuration. -/
def idText (i : Nat) : String := Strconv.itoa i

namespace Node

def start : Node where
  lead := 0
  leader := 0
  watch := .select
  shutdown := false
  sync := .starting
  prevTermLeader := ""
  active := false

/-- `Leader()`, which asks raft each time. -/
def leaderText (n : Node) : String := Strconv.itoa n.lead

/-- `IsLeader()` of the store over node `i`. -/
def IsLeader (n : Node) (i : Nat) : Prop := n.leaderText = idText i

instance (n : Node) (i : Nat) : Decidable (n.IsLeader i) := inferInstanceAs (Decidable (_ = _))

/-- `becomeLeader` has returned, its `resume` having failed or not. -/
def became (n : Node) (i : Nat) : Bool → Node
  | true => { n with sync := .reading, active := true }
  | false => { n with sync := .select, prevTermLeader := idText i, active := true }

end Node

inductive Action where
  | lead (new : Nat)
  | tick
  | receive
  | sync
  | close
  | quit
  | stop
  | restart

inductive NodeStep (i : Nat) : Node → Action → Node → Prop where
  | lead : NodeStep i n (.lead new) { n with lead := new }
  | unchanged (here : n.watch = .select) (same : n.lead = n.leader) : NodeStep i n .tick n
  | changed (here : n.watch = .select) (differs : n.lead ≠ n.leader) :
      NodeStep i n .tick { n with leader := n.lead, watch := .sending }
  | receive (sends : n.watch = .sending) (waits : n.sync = .select) :
      NodeStep i n .receive { n with watch := .select, sync := .notified }
  | leads (here : n.sync = .starting) (leads : n.IsLeader i) (other : n.prevTermLeader ≠ idText i) :
      NodeStep i n .sync { n with sync := .resuming true }
  | leadsAlready (here : n.sync = .starting) (leads : n.IsLeader i) (same : n.prevTermLeader = idText i) :
      NodeStep i n .sync { n with sync := .reading }
  | follows (here : n.sync = .starting) (follows : ¬ n.IsLeader i) : NodeStep i n .sync { n with sync := .reading }
  | resumed (here : n.sync = .resuming start) : NodeStep i n .sync (n.became i start)
  | read (here : n.sync = .reading) :
      NodeStep i n .sync { n with sync := .select, prevTermLeader := n.leaderText }
  | gained (here : n.sync = .notified) (leads : n.IsLeader i) (other : n.prevTermLeader ≠ idText i) :
      NodeStep i n .sync { n with sync := .resuming false }
  | kept (here : n.sync = .notified) (leads : n.IsLeader i) (same : n.prevTermLeader = idText i) :
      NodeStep i n .sync { n with sync := .select }
  | stillFollows (here : n.sync = .notified) (follows : ¬ n.IsLeader i) (other : n.prevTermLeader ≠ idText i) :
      NodeStep i n .sync { n with sync := .select }
  | lost (here : n.sync = .notified) (follows : ¬ n.IsLeader i) (same : n.prevTermLeader = idText i) :
      NodeStep i n .sync { n with sync := .suspending }
  | suspended (here : n.sync = .suspending) : NodeStep i n .sync { n with sync := .reading, active := false }
  /-- `Close` of the engine, also when the node finds itself removed from the cluster. -/
  | close : NodeStep i n .close { n with shutdown := true }
  | quit (closed : n.shutdown = true) (runs : n.watch ≠ .returned) : NodeStep i n .quit { n with watch := .returned }
  /-- `syncLoop` finds the controller closed. -/
  | stop (here : n.sync = .select) : NodeStep i n .stop { n with sync := .returned }
  | restart : NodeStep i n .restart .start

/-- The nodes by their ID. -/
abbrev State := Nat → Node

structure Label where
  node : Nat
  action : Action

inductive Step : State → Label → State → Prop where
  | node (step : NodeStep i (s i) action n) : Step s ⟨i, action⟩ (Function.update s i n)

def initial : State := fun _ => .start

theorem itoa_inj {a b : Nat} (same : Strconv.itoa a = Strconv.itoa b) : a = b := by
  rw [Strconv.itoa_natCast, Strconv.itoa_natCast, String.ofList_inj] at same
  have values := congrArg Strconv.digits? same
  rw [Strconv.digits_toDigits, Strconv.digits_toDigits] at values
  exact Option.some.inj values

theorem Node.isLeader_iff {n : Node} : n.IsLeader i ↔ n.lead = i :=
  ⟨itoa_inj, congrArg fun lead : Nat => Strconv.itoa lead⟩

section Steady

/-- The lead never returns to what the watcher noted before the watcher looks again, and
`Leader()` still says of the node what it did when `syncLoop` decided. -/
def NodeSteady (i : Nat) (n : Node) : Action → Prop
  | .lead new => n.shutdown = false → new ≠ n.leader
  | .sync => n.sync = .reading → (n.IsLeader i ↔ n.active = true)
  | _ => True

def Steady (s : State) (l : Label) : Prop := NodeSteady l.node (s l.node) l.action

/-- Whether the node will count as active once what `syncLoop` is doing is done. -/
def Node.Intends (n : Node) : Prop :=
  match n.sync with
  | .resuming _ => True
  | .suspending => False
  | _ => n.active = true

/-- Behind a decision of `syncLoop` its outcome fits the lead, or there is something for
the watcher to tell. -/
structure Sound (i : Nat) (n : Node) : Prop where
  fresh : n.sync = .starting → n.active = false ∧ n.prevTermLeader = ""
  handled : n.sync = .select ∨ n.sync = .notified → (n.prevTermLeader = idText i ↔ n.active = true)
  informed : n.shutdown = false → n.sync ≠ .starting → n.sync ≠ .notified →
    (n.Intends ↔ n.IsLeader i) ∨ n.lead ≠ n.leader ∨ n.watch = .sending

/-- Nothing is left to tell or to handle. -/
structure Node.Rests (n : Node) : Prop where
  running : n.shutdown = false
  watch : n.watch = .select
  sync : n.sync = .select
  noted : n.lead = n.leader

variable {n m : Node}

theorem Sound.start (i : Nat) : Sound i .start where
  fresh _ := ⟨rfl, rfl⟩
  handled here := by rcases here with here | here <;> cases here
  informed _ started := absurd rfl started

/-- `syncLoop` moves on, to where its intention fits the lead it has read. -/
theorem Sound.decided (intends : m.Intends ↔ m.IsLeader i) (begun : m.sync ≠ .starting)
    (handled : m.sync = .select ∨ m.sync = .notified → (m.prevTermLeader = idText i ↔ m.active = true)) :
    Sound i m where
  fresh here := absurd here begun
  handled := handled
  informed _ _ _ := .inl intends

/-- `syncLoop` moves on without another look at the lead. -/
theorem Sound.carriesOn (sound : Sound i n) (lead : m.lead = n.lead) (leader : m.leader = n.leader)
    (watch : m.watch = n.watch) (shutdown : m.shutdown = n.shutdown)
    (before : n.sync ≠ .starting ∧ n.sync ≠ .notified) (after : m.sync ≠ .starting) (intends : m.Intends ↔ n.Intends)
    (handled : m.sync = .select ∨ m.sync = .notified → (m.prevTermLeader = idText i ↔ m.active = true)) :
    Sound i m where
  fresh here := absurd here after
  handled := handled
  informed running _ _ := by
    have leads : m.IsLeader i ↔ n.IsLeader i := by rw [Node.isLeader_iff, Node.isLeader_iff, lead]
    rw [intends, leads, lead, leader, watch]
    exact sound.informed (shutdown ▸ running) before.1 before.2

theorem Sound.nodeStep (sound : Sound i n) (steady : NodeSteady i n action) (step : NodeStep i n action m) :
    Sound i m := by
  cases step with
  | lead =>
    exact ⟨sound.fresh, sound.handled, fun running _ _ => .inr (.inl (steady running))⟩
  | unchanged => exact sound
  | changed =>
    exact ⟨sound.fresh, sound.handled, fun _ _ _ => .inr (.inr rfl)⟩
  | receive sends waits =>
    constructor
    · intro here
      cases here
    · intro _
      exact sound.handled (.inl waits)
    · intro _ _ elsewhere
      exact absurd rfl elsewhere
  | leads here leads other =>
    apply Sound.decided
    · exact iff_of_true trivial leads
    · simp
    · simp
  | leadsAlready here leads same =>
    rw [(sound.fresh here).2, idText, Strconv.itoa_natCast] at same
    have digits : [] = Nat.toDigits 10 i := by simpa using congrArg String.toList same
    exact absurd digits.symm Nat.toDigits_ne_nil
  | follows here follows =>
    have inactive : n.active ≠ true := by simp [(sound.fresh here).1]
    apply Sound.decided
    · exact iff_of_false inactive follows
    · simp
    · simp
  | @resumed start here =>
    have intended : n.Intends := by simp [Node.Intends, here]
    cases start
    all_goals
      refine sound.carriesOn rfl rfl rfl rfl (by simp [here]) ?_ ?_ ?_
      · simp [Node.became]
      · exact iff_of_true rfl intended
      · simp [Node.became]
  | read here =>
    have intends : n.Intends ↔ n.active = true := by simp [Node.Intends, here]
    refine sound.carriesOn rfl rfl rfl rfl (by simp [here]) ?_ ?_ ?_
    · simp
    · exact intends.symm
    · intro _
      exact steady here
  | gained here leads other =>
    apply Sound.decided
    · exact iff_of_true trivial leads
    · simp
    · simp
  | kept here leads same =>
    have handled := sound.handled (.inr here)
    apply Sound.decided
    · exact iff_of_true (handled.mp same) leads
    · simp
    · exact fun _ => handled
  | stillFollows here follows other =>
    have handled := sound.handled (.inr here)
    apply Sound.decided
    · exact iff_of_false (mt handled.mpr other) follows
    · simp
    · exact fun _ => handled
  | lost here follows same =>
    apply Sound.decided
    · exact iff_of_false not_false follows
    · simp
    · simp
  | suspended here =>
    have unwilling : ¬ n.Intends := by simp [Node.Intends, here]
    refine sound.carriesOn rfl rfl rfl rfl (by simp [here]) ?_ ?_ ?_
    · simp
    · exact iff_of_false Bool.false_ne_true unwilling
    · simp
  | close => exact ⟨sound.fresh, sound.handled, fun running => by cases running⟩
  | quit closed =>
    refine ⟨sound.fresh, sound.handled, fun running => ?_⟩
    rw [closed] at running
    cases running
  | stop here =>
    have intends : n.Intends ↔ n.active = true := by simp [Node.Intends, here]
    refine sound.carriesOn rfl rfl rfl rfl (by simp [here]) ?_ ?_ ?_
    · simp
    · exact intends.symm
    · simp
  | restart => exact Sound.start i

variable {s t : State}

theorem Sound.step (sound : ∀ i, Sound i (s i)) (step : Guarded Step Steady s l t) : ∀ i, Sound i (t i) := by
  obtain ⟨steady, step⟩ := step
  cases step with
  | @node actor _ _ n step =>
    intro other
    by_cases same : other = actor
    · subst same
      rw [Function.update_self]
      exact (sound other).nodeStep steady step
    · rw [Function.update_of_ne same]
      exact sound other

theorem sound_run (run : Run (Guarded Step Steady) initial ls s) (i : Nat) : Sound i (s i) :=
  run.preserves (fun _ _ _ sound step => Sound.step sound step) Sound.start i

/-- Where nothing is left to tell or to handle, a controller is active just if raft names
its node, and so of two controllers whose nodes agree on the lead at most one is. -/
theorem raft_leaders_agree (run : Run (Guarded Step Steady) initial ls s) :
    (∀ i, (s i).Rests → ((s i).active = true ↔ (s i).lead = i)) ∧
      ∀ i other, (s i).Rests → (s other).Rests → (s i).lead = (s other).lead →
        (s i).active = true → (s other).active = true → i = other := by
  have fits (i : Nat) (rests : (s i).Rests) : (s i).active = true ↔ (s i).lead = i := by
    have intends : (s i).Intends ↔ (s i).active = true := by simp [Node.Intends, rests.sync]
    have informed := (sound_run run i).informed rests.running (by simp [rests.sync]) (by simp [rests.sync])
    rcases informed with told | differs | sending
    · rw [← intends, told, Node.isLeader_iff]
    · exact absurd rests.noted differs
    · rw [rests.watch] at sending
      cases sending
  refine ⟨fits, fun i other rests also agree active too => ?_⟩
  rw [← (fits i rests).mp active, agree, (fits other also).mp too]

end Steady

/-- The steps of one node are steps of the system. -/
theorem run_node {own : Node → Action → Prop} {guard : State → Label → Prop}
    (lifts : ∀ s action, own (s i) action → guard s ⟨i, action⟩)
    (run : Run (Guarded (NodeStep i) own) n actions m) :
    ∀ s, s i = n → Run (Guarded Step guard) s (actions.map (Label.mk i)) (Function.update s i m) := by
  induction run with
  | nil =>
    rintro s rfl
    rw [Function.update_eq_self]
    exact .nil
  | @cons _ _ between _ _ head tail ih =>
    rintro s rfl
    have rest := ih (Function.update s i between) (Function.update_self ..)
    rw [Function.update_idem] at rest
    exact .cons ⟨lifts s _ head.1, .node head.2⟩ rest

theorem run_steady (run : Run (Guarded (NodeStep i) (NodeSteady i)) n actions m) (s : State) (here : s i = n) :
    Run (Guarded Step Steady) s (actions.map (Label.mk i)) (Function.update s i m) := by
  refine run_node ?_ run s here
  intro s action steady
  exact steady

section Handover

/-- Node 1 leads from its start and then loses the lead to node 2. -/
def losing : List Action :=
  [.lead 1, .sync, .sync, .sync, .tick, .receive, .sync, .lead 2, .tick, .receive, .sync, .sync, .sync]

def gaining : List Action := [.lead 1, .sync, .sync, .tick, .receive, .sync, .lead 2, .tick, .receive, .sync, .sync]

theorem losing_run : Run (Guarded (NodeStep 1) (NodeSteady 1)) .start losing
    ⟨2, 2, .select, false, .select, idText 2, false⟩ :=
  .cons ⟨fun _ => by decide, .lead⟩ <|
  .cons ⟨by simp [NodeSteady, Node.start], .leads rfl rfl (by decide)⟩ <|
  .cons ⟨by simp [NodeSteady, Node.start], .resumed rfl⟩ <|
  .cons ⟨fun _ => iff_of_true rfl rfl, .read rfl⟩ <|
  .cons ⟨trivial, .changed rfl (by decide)⟩ <|
  .cons ⟨trivial, .receive rfl rfl⟩ <|
  .cons ⟨by simp [NodeSteady], .kept rfl rfl rfl⟩ <|
  .cons ⟨fun _ => by decide, .lead⟩ <|
  .cons ⟨trivial, .changed rfl (by decide)⟩ <|
  .cons ⟨trivial, .receive rfl rfl⟩ <|
  .cons ⟨by simp [NodeSteady], .lost rfl (by decide) rfl⟩ <|
  .cons ⟨by simp [NodeSteady], .suspended rfl⟩ <|
  .cons ⟨fun _ => by decide, .read rfl⟩ <|
  .nil

theorem gaining_run : Run (Guarded (NodeStep 2) (NodeSteady 2)) .start gaining
    ⟨2, 2, .select, false, .select, idText 2, true⟩ :=
  .cons ⟨fun _ => by decide, .lead⟩ <|
  .cons ⟨by simp [NodeSteady, Node.start], .follows rfl (by decide)⟩ <|
  .cons ⟨fun _ => by decide, .read rfl⟩ <|
  .cons ⟨trivial, .changed rfl (by decide)⟩ <|
  .cons ⟨trivial, .receive rfl rfl⟩ <|
  .cons ⟨by simp [NodeSteady], .stillFollows rfl (by decide) (by decide)⟩ <|
  .cons ⟨fun _ => by decide, .lead⟩ <|
  .cons ⟨trivial, .changed rfl (by decide)⟩ <|
  .cons ⟨trivial, .receive rfl rfl⟩ <|
  .cons ⟨by simp [NodeSteady], .gained rfl rfl (by decide)⟩ <|
  .cons ⟨by simp [NodeSteady], .resumed rfl⟩ <|
  .nil

/-- Both controllers come to rest behind the handover, and only that of node 2 is active. -/
theorem raft_leaders_agree_handover :
    ∃ ls s, Run (Guarded Step Steady) initial ls s ∧ (s 1).Rests ∧ (s 2).Rests ∧ (s 1).lead = (s 2).lead ∧
      (s 2).active = true ∧ ((s 1).active = true ↔ (s 1).lead = 1) ∧ ((s 2).active = true ↔ (s 2).lead = 2) := by
  have run := (run_steady losing_run initial rfl).append (run_steady gaining_run _ rfl)
  have agree := raft_leaders_agree run
  have first : Node.Rests ⟨2, 2, .select, false, .select, idText 2, false⟩ := ⟨rfl, rfl, rfl, rfl⟩
  have second : Node.Rests ⟨2, 2, .select, false, .select, idText 2, true⟩ := ⟨rfl, rfl, rfl, rfl⟩
  exact ⟨_, _, run, first, second, rfl, rfl, agree.1 1 first, agree.1 2 second⟩

end Handover

section Unnoticed

/-- What may happen at a node whose lead is away: it returns to the node, and has done so
where the watcher looks. The node and its controller are left running. -/
def OwnReturn (i : Nat) (n : Node) : Action → Prop
  | .lead new => new = i
  | .tick => n.lead = i
  | .close | .stop | .restart => False
  | _ => True

def Returning (i : Nat) (s : State) (l : Label) : Prop := l.node = i → OwnReturn i (s i) l.action

/-- `syncLoop` has found the node without the lead, and the watcher has nothing to tell. The
checkers are suspended, unless they were left alone then, as `spared` says. -/
structure Missed (i : Nat) (spared : Prop) (n : Node) : Prop where
  running : n.shutdown = false
  watch : n.watch = .select
  noted : n.leader = i
  sync : n.sync = .suspending ∨ (n.sync = .reading ∨ n.sync = .select) ∧ (n.active = true → spared)

variable {spared : Prop}

theorem Missed.nodeStep (missed : Missed i spared n) (returns : OwnReturn i n action) (step : NodeStep i n action m) :
    Missed i spared m := by
  obtain ⟨running, watch, noted, sync⟩ := missed
  cases step with
  | lead => exact ⟨running, watch, noted, sync⟩
  | unchanged => exact ⟨running, watch, noted, sync⟩
  | changed here differs => exact absurd (returns.trans noted.symm) differs
  | receive sends =>
    rw [watch] at sends
    cases sends
  | leads here | leadsAlready here | follows here | resumed here | gained here | kept here | stillFollows here
  | lost here => simp [here] at sync
  | read here =>
    have kept : n.active = true → spared := by simpa [here] using sync
    exact ⟨running, watch, noted, .inr ⟨.inr rfl, kept⟩⟩
  | suspended here =>
    refine ⟨running, watch, noted, .inr ⟨.inl rfl, ?_⟩⟩
    rintro ⟨⟩
  | quit closed =>
    rw [running] at closed
    cases closed
  | close | stop | restart => exact returns.elim

theorem Missed.step (missed : Missed i spared (s i)) (step : Guarded Step (Returning i) s l t) :
    Missed i spared (t i) := by
  obtain ⟨returns, step⟩ := step
  cases step with
  | @node actor _ _ n step =>
    by_cases same : i = actor
    · subst same
      rw [Function.update_self]
      exact missed.nodeStep (returns rfl) step
    · rw [Function.update_of_ne same]
      exact missed

/-- The controller is told of its own node's lead, reads it while the lead is away, and the
lead is back before the watcher looks again: `syncLoop` never resumes from there, however
long the node leads, and the watcher's polls change nothing. Checkers only run on that ran
in a term which `syncLoop` had not noted as its own. -/
theorem raft_returned_lead_unnoticed (running : (s i).shutdown = false) (watch : (s i).watch = .select)
    (noted : (s i).leader = i) (told : (s i).sync = .notified) (away : (s i).lead ≠ i)
    (look : Step s ⟨i, .sync⟩ m) (rest : Run (Guarded Step (Returning i)) m ms t) :
    (∀ start, (t i).sync ≠ .resuming start) ∧
      ((t i).sync = .select → (t i).active = true → (s i).active = true ∧ (s i).prevTermLeader ≠ idText i) ∧
      ((t i).lead = i → ∀ n, NodeStep i (t i) .tick n → n = t i) := by
  have follows : ¬ (s i).IsLeader i := mt Node.isLeader_iff.mp away
  have first : Missed i ((s i).active = true ∧ (s i).prevTermLeader ≠ idText i) (m i) := by
    cases look with
    | node step =>
      rw [Function.update_self]
      cases step with
      | leads here | leadsAlready here | follows here | resumed here | read here | suspended here =>
        rw [told] at here
        cases here
      | gained _ leads | kept _ leads => exact absurd leads follows
      | stillFollows _ _ other => exact ⟨running, watch, noted, .inr ⟨.inr rfl, fun active => ⟨active, other⟩⟩⟩
      | lost => exact ⟨running, watch, noted, .inl rfl⟩
  have last := rest.preserves (P := fun s => Missed i _ (s i)) (fun _ _ _ missed step => missed.step step) first
  refine ⟨fun start here => ?_, fun here => ?_, fun back n poll => ?_⟩
  · have sync := last.sync
    simp [here] at sync
  · simpa [here] using last.sync
  · cases poll with
    | unchanged => rfl
    | changed _ differs => exact absurd (back.trans last.noted.symm) differs

/-- Node 1 leads, its controller is told of it, and the lead goes. -/
def leaving : List Action := [.lead 1, .sync, .sync, .sync, .tick, .receive, .lead 0]

theorem leaving_run : Run (Guarded (NodeStep 1) (NodeSteady 1)) .start leaving
    ⟨0, 1, .select, false, .notified, idText 1, true⟩ :=
  .cons ⟨fun _ => by decide, .lead⟩ <|
  .cons ⟨by simp [NodeSteady, Node.start], .leads rfl rfl (by decide)⟩ <|
  .cons ⟨by simp [NodeSteady, Node.start], .resumed rfl⟩ <|
  .cons ⟨fun _ => iff_of_true rfl rfl, .read rfl⟩ <|
  .cons ⟨trivial, .changed rfl (by decide)⟩ <|
  .cons ⟨trivial, .receive rfl rfl⟩ <|
  .cons ⟨fun _ => by decide, .lead⟩ <|
  .nil

/-- The lead returns while the controller suspends. -/
def returning : List Action := [.lead 1, .tick, .sync, .sync]

theorem returning_run : Run (Guarded (NodeStep 1) (OwnReturn 1)) ⟨0, 1, .select, false, .suspending, idText 1, true⟩
    returning ⟨1, 1, .select, false, .select, idText 1, false⟩ :=
  .cons ⟨rfl, .lead⟩ <|
  .cons ⟨rfl, .unchanged rfl rfl⟩ <|
  .cons ⟨trivial, .suspended rfl⟩ <|
  .cons ⟨trivial, .read rfl⟩ <|
  .nil

/-- A node that leads without a checker, for good. -/
theorem raft_returned_lead_unnoticed_suspended :
    ∃ ls s m ms t, Run (Guarded Step Steady) initial ls s ∧ Step s ⟨1, .sync⟩ m ∧
      Run (Guarded Step (Returning 1)) m ms t ∧ (t 1).lead = 1 ∧ (t 1).sync = .select ∧ (t 1).active = false ∧
      ∀ n, NodeStep 1 (t 1) .tick n → n = t 1 := by
  obtain ⟨s, run, here⟩ : ∃ s, Run (Guarded Step Steady) initial (leaving.map (Label.mk 1)) s ∧
      s 1 = ⟨0, 1, .select, false, .notified, idText 1, true⟩ := ⟨_, run_steady leaving_run initial rfl, rfl⟩
  have lost : NodeStep 1 (s 1) .sync ⟨0, 1, .select, false, .suspending, idText 1, true⟩ := by
    rw [here]
    exact .lost rfl (by decide) rfl
  have rest : Run (Guarded Step (Returning 1)) (Function.update s 1 _) _ _ :=
    run_node (fun _ _ own _ => own) returning_run _ (Function.update_self ..)
  have missed := raft_returned_lead_unnoticed (by rw [here]) (by rw [here]) (by rw [here]) (by rw [here])
    (by simp [here]) (.node lost) rest
  rw [Function.update_idem, Function.update_self] at missed
  refine ⟨_, s, _, _, _, run, .node lost, rest, ?_⟩
  rw [Function.update_idem, Function.update_self]
  exact ⟨rfl, rfl, rfl, missed.2.2 rfl⟩

end Unnoticed

end Kvrocks.Election.Raft
