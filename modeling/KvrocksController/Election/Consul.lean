import KvrocksController.Lib.Campaigns

/-! The election over Consul. A controller acquires one key for a session of its own, which
it never renews, and waits until its watch plan reports the key without a session. The plan
reports the latest state only, so it can pass over a whole change of hands. -/
namespace Kvrocks.Election.Consul
open Transition

/-- `electLoop` and `leaderElection`: creating a session, in the calls of `Acquire` with it,
or in the `select` behind them. -/
inductive Elect where
  | absent
  | creating
  | acquiring (sessionID : Nat)
  | waiting
  | returned
deriving DecidableEq, Repr

/-- `runWatch`: between two reports, or in one of the two sends of `watchHandler`. -/
inductive Watch where
  | watching
  | announcing
  | releasing
  | stopped
deriving DecidableEq, Repr

/-- `index` is that of the last report. `seen` and `refused` are ghosts: the leader when
`syncLoop` last looked, and that the last `Acquire` found the key free and came to nothing. -/
structure Controller where
  leaderID : String
  isReady : Bool
  elect : Elect
  watch : Watch
  index : Nat
  seen : String
  refused : Bool
deriving DecidableEq, Repr

structure KVPair where
  value : String
  session : Option Nat
deriving DecidableEq, Repr

/-- `index` grows with every change of the key; a lease is a session here. -/
structure State where
  pair : Option KVPair
  index : Nat
  leases : Leases
  controllers : Nat → Controller

inductive Label where
  | new (i : Nat)
  | createSession (i : Nat)
  | acquire (i : Nat)
  | expire (sessionID : Nat)
  | watchHandler (i : Nat)
  | receive (i : Nat)
  | lockRelease (i : Nat)
  | quit (i : Nat)

def Controller.start : Controller where
  leaderID := ""
  isReady := false
  elect := .absent
  watch := .watching
  index := 0
  seen := ""
  refused := false

/-- A key that was never written has no report that the handler looks at. -/
def Controller.watchHandler (index : Nat) (pair : KVPair) (c : Controller) : Controller :=
  let c := { c with index, isReady := true }
  match pair.session with
  | none => { c with watch := .releasing }
  | some _ => { c with leaderID := pair.value, watch := .announcing }

namespace State

/-- No session holds the key. -/
def Free (s : State) : Prop := ∀ pair, s.pair = some pair → pair.session = none

theorem Free.of_missing {s : State} (missing : s.pair = none) : s.Free := by simp [Free, missing]

theorem Free.of_released {s : State} (found : s.pair = some ⟨value, none⟩) : s.Free := by simp [Free, found]

def put (s : State) (i : Nat) (c : Controller) : State :=
  { s with controllers := fun other => if other = i then c else s.controllers other }

def create (s : State) (i : Nat) : State := { s with leases := s.leases.grant i }

def write (s : State) (pair : KVPair) : State := { s with pair := some pair, index := s.index + 1 }

/-- The behaviour `release`: the key stays, without a session. -/
def expire (s : State) (sessionID : Nat) : State :=
  let s := { s with leases := s.leases.expire sessionID }
  match s.pair with
  | some pair => if pair.session = some sessionID then s.write { pair with session := none } else s
  | none => s

@[simp] theorem expire_controllers (s : State) (n : Nat) : (s.expire n).controllers = s.controllers := by
  simp only [expire]
  split
  · split <;> rfl
  · rfl

@[simp] theorem expire_leases (s : State) (n : Nat) : (s.expire n).leases = s.leases.expire n := by
  simp only [expire]
  split
  · split <;> rfl
  · rfl

def initial : State := ⟨none, 0, .start, fun _ => .start⟩

end State

section System
variable (ids : Nat → String)

/-- `Acquire` with a session that has expired is answered with an error, and so is one that
does not get through, whether it is carried out or not. `leaderElection` calls it again in
both cases and looks at `quitCh` in neither. -/
inductive Step : State → Label → State → Prop where
  | new (here : (s.controllers i).elect = .absent) :
      Step s (.new i) (s.put i { Controller.start with elect := .creating })
  | created (here : (s.controllers i).elect = .creating) :
      Step s (.createSession i) ((s.create i).put i { s.controllers i with elect := .acquiring s.leases.granted })
  | createFailed (here : (s.controllers i).elect = .creating) : Step s (.createSession i) s
  | createUnheard (here : (s.controllers i).elect = .creating) : Step s (.createSession i) (s.create i)
  | acquired (here : (s.controllers i).elect = .acquiring n) (live : s.leases.live n = true) (free : s.Free) :
      Step s (.acquire i)
        ((s.put i { s.controllers i with elect := .waiting }).write ⟨ids i, some n⟩)
  | reacquired (here : (s.controllers i).elect = .acquiring n) (live : s.leases.live n = true)
      (found : s.pair = some ⟨value, some n⟩) :
      Step s (.acquire i)
        ((s.put i { s.controllers i with elect := .waiting }).write ⟨ids i, some n⟩)
  | held (here : (s.controllers i).elect = .acquiring n) (live : s.leases.live n = true)
      (found : s.pair = some ⟨value, some holder⟩) :
      Step s (.acquire i) (s.put i { s.controllers i with elect := .waiting })
  /-- The lock delay behind a session that has expired. -/
  | delayed (here : (s.controllers i).elect = .acquiring n) (live : s.leases.live n = true)
      (found : s.pair = some ⟨value, none⟩) :
      Step s (.acquire i) (s.put i { s.controllers i with elect := .waiting, refused := true })
  | acquireFailed (here : (s.controllers i).elect = .acquiring n) : Step s (.acquire i) s
  | acquireUnheard (here : (s.controllers i).elect = .acquiring n) (live : s.leases.live n = true) (free : s.Free) :
      Step s (.acquire i) (s.write ⟨ids i, some n⟩)
  | expire (live : s.leases.live n = true) : Step s (.expire n) (s.expire n)
  | watchHandler (here : (s.controllers i).elect ≠ .absent) (watches : (s.controllers i).watch = .watching)
      (found : s.pair = some pair) (changed : (s.controllers i).index ≠ s.index) :
      Step s (.watchHandler i) (s.put i ((s.controllers i).watchHandler s.index pair))
  | received (announces : (s.controllers i).watch = .announcing) :
      Step s (.receive i) (s.put i { s.controllers i with watch := .watching, seen := (s.controllers i).leaderID })
  | released (releases : (s.controllers i).watch = .releasing) (waits : (s.controllers i).elect = .waiting) :
      Step s (.lockRelease i)
        (s.put i { s.controllers i with watch := .watching, elect := .creating, refused := false })
  | quitElect (here : (s.controllers i).elect = .creating ∨ (s.controllers i).elect = .waiting) :
      Step s (.quit i) (s.put i { s.controllers i with elect := .returned })
  | quitWatch (here : (s.controllers i).watch = .watching) :
      Step s (.quit i) (s.put i { s.controllers i with watch := .stopped })

end System

variable {ids : Nat → String} {s t : State} {c : Controller}

/-- What a controller knows of the key. Every change of the key leaves the index of the
last report behind, so only the steps at the same index have to be looked at. -/
structure Controller.Sound (s : State) (c : Controller) : Prop where
  current : c.index = s.index → ∀ value n, s.pair = some ⟨value, some n⟩ → c.leaderID = value
  bounded : c.index ≤ s.index
  awake : c.elect = .waiting → s.Free → c.index ≠ s.index ∨ c.watch = .releasing ∨ c.refused = true
  heard : c.seen = c.leaderID ∨ c.watch = .announcing

namespace Controller.Sound

theorem of_behind (behind : c.index < s.index) (heard : c.seen = c.leaderID ∨ c.watch = .announcing) :
    Controller.Sound s c where
  current same := absurd same (Nat.ne_of_lt behind)
  bounded := Nat.le_of_lt behind
  awake _ _ := .inl (Nat.ne_of_lt behind)
  heard := heard

theorem write (sound : Controller.Sound s c) (pair : KVPair) : Controller.Sound (s.write pair) c :=
  of_behind (Nat.lt_succ_of_le sound.bounded) sound.heard

/-- The sessions are no part of what a controller knows. -/
theorem frame (sound : Controller.Sound s c) (pair : t.pair = s.pair) (index : t.index = s.index) :
    Controller.Sound t c := by
  obtain ⟨current, bounded, awake, heard⟩ := sound
  refine ⟨?_, ?_, ?_, heard⟩
  · rwa [index, pair]
  · rwa [index]
  · rwa [State.Free, index, pair]

theorem expire (sound : Controller.Sound s c) (n : Nat) : Controller.Sound (s.expire n) c := by
  simp only [State.expire]
  split
  · split
    · exact of_behind (Nat.lt_succ_of_le sound.bounded) sound.heard
    · exact sound.frame rfl rfl
  · exact sound.frame rfl rfl

/-- A step of `electLoop` that does not enter its `select`. -/
theorem leave {elect : Elect} (sound : Controller.Sound s c) (away : elect ≠ .waiting) : Controller.Sound s { c with elect } :=
  ⟨sound.current, sound.bounded, fun here => absurd here away, sound.heard⟩

theorem wait (sound : Controller.Sound s c) (held : ¬ s.Free) : Controller.Sound s { c with elect := .waiting } :=
  ⟨sound.current, sound.bounded, fun _ free => absurd free held, sound.heard⟩

theorem watchHandler (sound : Controller.Sound s c) (watches : c.watch = .watching) (found : s.pair = some pair) :
    Controller.Sound s (c.watchHandler s.index pair) := by
  simp only [Controller.watchHandler]
  split
  next free =>
    refine ⟨fun _ value n held => ?_, Nat.le_refl _, fun _ _ => .inr (.inl rfl), ?_⟩
    · rw [found] at held
      cases held
      cases free
    · exact sound.heard.imp_right fun announces => by rw [watches] at announces; cases announces
  next holder held =>
    refine ⟨fun _ value n taken => ?_, Nat.le_refl _, fun _ free => ?_, .inr rfl⟩
    · rw [found] at taken
      cases taken
      rfl
    · have := free pair found
      rw [held] at this
      cases this

theorem receive (sound : Controller.Sound s c) (announces : c.watch = .announcing) :
    Controller.Sound s { c with watch := .watching, seen := c.leaderID } := by
  refine ⟨sound.current, sound.bounded, fun waits free => ?_, .inl rfl⟩
  rcases sound.awake waits free with behind | releases | refused
  · exact .inl behind
  · rw [announces] at releases
    cases releases
  · exact .inr (.inr refused)

theorem release (sound : Controller.Sound s c) (releases : c.watch = .releasing) :
    Controller.Sound s { c with watch := .watching, elect := .creating, refused := false } := by
  refine ⟨sound.current, sound.bounded, by simp, .inl ?_⟩
  rcases sound.heard with seen | announces
  · exact seen
  · rw [releases] at announces
    cases announces

theorem stop (sound : Controller.Sound s c) (watches : c.watch = .watching) :
    Controller.Sound s { c with watch := .stopped } := by
  refine ⟨sound.current, sound.bounded, fun waits free => ?_, .inl ?_⟩
  · rcases sound.awake waits free with behind | releases | refused
    · exact .inl behind
    · rw [watches] at releases
      cases releases
    · exact .inr (.inr refused)
  · rcases sound.heard with seen | announces
    · exact seen
    · rw [watches] at announces
      cases announces

end Controller.Sound

/-- What the server keeps about its sessions. -/
structure Sessions (ids : Nat → String) (s : State) : Prop where
  written : s.index = 0 → s.pair = none
  campaigns : ∀ i n, (s.controllers i).elect = .acquiring n → n < s.leases.granted ∧ s.leases.holder n = i
  holder : ∀ value n, s.pair = some ⟨value, some n⟩ → s.leases.live n = true ∧ value = ids (s.leases.holder n)

namespace Sessions

theorem put (sessions : Sessions ids s) (away : ∀ n, c.elect ≠ .acquiring n) : Sessions ids (s.put i c) := by
  obtain ⟨written, campaigns, holder⟩ := sessions
  refine ⟨written, fun j n here => ?_, holder⟩
  simp only [State.put] at here
  split at here
  · exact absurd here (away n)
  · exact campaigns j n here

theorem keep (sessions : Sessions ids s) (same : c.elect = (s.controllers i).elect) : Sessions ids (s.put i c) := by
  obtain ⟨written, campaigns, holder⟩ := sessions
  refine ⟨written, fun j n here => ?_, holder⟩
  simp only [State.put] at here
  split at here
  next own => exact campaigns j n (by rw [own, ← same, here])
  · exact campaigns j n here

theorem known (sessions : Sessions ids s) (evolves : Leases.Evolves s.leases after) :
    ∀ i n, (s.controllers i).elect = .acquiring n → n < after.granted ∧ after.holder n = i := by
  intro i n here
  obtain ⟨older, owner⟩ := sessions.campaigns i n here
  exact ⟨evolves.older older, (evolves.holder older).trans owner⟩

theorem create (sessions : Sessions ids s) (i : Nat) : Sessions ids (s.create i) := by
  refine ⟨sessions.written, sessions.known .grant, fun value n held => ?_⟩
  obtain ⟨live, owner⟩ := sessions.holder value n held
  refine ⟨Leases.live_grant live i, ?_⟩
  rw [owner]
  exact congrArg ids (Leases.Evolves.grant.holder (s.leases.fresh n live)).symm

theorem campaign (sessions : Sessions ids s) (i : Nat) :
    Sessions ids ((s.create i).put i { c with elect := .acquiring s.leases.granted }) := by
  obtain ⟨written, campaigns, holder⟩ := sessions.create i
  refine ⟨written, fun j n here => ?_, holder⟩
  simp only [State.put] at here
  split at here
  next own =>
    cases here
    exact ⟨Nat.lt_succ_self _, (s.leases.holder_grant_self i).trans own.symm⟩
  · exact campaigns j n here

theorem write (sessions : Sessions ids s) (live : s.leases.live n = true) (owner : s.leases.holder n = i) :
    Sessions ids (s.write ⟨ids i, some n⟩) := by
  refine ⟨by simp [State.write], sessions.campaigns, fun value m held => ?_⟩
  cases held
  exact ⟨live, by simp only [State.write, owner]⟩

theorem expire (sessions : Sessions ids s) (n : Nat) : Sessions ids (s.expire n) := by
  have campaigns := sessions.known (.expire : Leases.Evolves s.leases (s.leases.expire n))
  simp only [State.expire]
  split
  next pair found =>
    split
    next held => exact ⟨by simp [State.write], campaigns, by simp [State.write]⟩
    next other =>
      refine ⟨sessions.written, campaigns, fun value m held => ?_⟩
      obtain ⟨live, owner⟩ := sessions.holder value m held
      refine ⟨Leases.live_expire_of_ne ?_ live, owner⟩
      rintro rfl
      rw [found] at held
      cases held
      exact other rfl
  next missing => exact ⟨sessions.written, campaigns, fun value m held => by rw [missing] at held; cases held⟩

end Sessions

structure Sound (ids : Nat → String) (s : State) : Prop where
  sessions : Sessions ids s
  each : ∀ i, (s.controllers i).Sound s

namespace Sound

theorem initial : Sound ids .initial where
  sessions := by constructor <;> simp [State.initial, Controller.start]
  each _ := by constructor <;> simp [State.initial, Controller.start]

theorem put (each : ∀ i, (s.controllers i).Sound s) (own : c.Sound s) (j : Nat) :
    ((s.put i c).controllers j).Sound (s.put i c) := by
  refine Controller.Sound.frame ?_ (s := s) rfl rfl
  simp only [State.put]
  split
  · exact own
  · exact each j

/-- The write leaves every report behind, so to wait needs nothing of the key before it. -/
theorem acquire (each : ∀ i, (s.controllers i).Sound s) (j : Nat) :
    (((s.put i { s.controllers i with elect := .waiting }).write pair).controllers j).Sound
      ((s.put i { s.controllers i with elect := .waiting }).write pair) := by
  simp only [State.put, State.write]
  split
  · exact .of_behind (Nat.lt_succ_of_le (each i).bounded) (each i).heard
  · exact .of_behind (Nat.lt_succ_of_le (each j).bounded) (each j).heard

theorem step (sound : Sound ids s) (step : Step ids s l t) : Sound ids t := by
  obtain ⟨sessions, each⟩ := sound
  cases step with
  | new here =>
    refine ⟨sessions.put (by simp), put each ⟨fun same value n held => ?_, Nat.zero_le _, by simp, .inl rfl⟩⟩
    rw [sessions.written same.symm] at held
    cases held
  | @created _ i here =>
    have away : Elect.acquiring s.leases.granted ≠ .waiting := by simp
    exact ⟨sessions.campaign i, put (fun j => (each j).frame rfl rfl) (((each i).leave away).frame rfl rfl)⟩
  | createFailed here => exact ⟨sessions, each⟩
  | createUnheard here => exact ⟨sessions.create _, fun j => (each j).frame rfl rfl⟩
  | @acquired _ i n here live free =>
    have owner := (sessions.campaigns i n here).2
    exact ⟨(sessions.put (by simp)).write live owner, acquire each⟩
  | @reacquired _ i n _ here live found =>
    have owner := (sessions.campaigns i n here).2
    exact ⟨(sessions.put (by simp)).write live owner, acquire each⟩
  | held here live found =>
    refine ⟨sessions.put (by simp), put each ((each _).wait fun free => ?_)⟩
    cases free _ found
  | @delayed _ i n value here live found =>
    have own := each i
    exact ⟨sessions.put (by simp), put each ⟨own.current, own.bounded, fun _ _ => .inr (.inr rfl), own.heard⟩⟩
  | acquireFailed here => exact ⟨sessions, each⟩
  | @acquireUnheard _ i n here live free =>
    exact ⟨sessions.write live (sessions.campaigns i n here).2, fun j => (each j).write _⟩
  | expire live =>
    refine ⟨sessions.expire _, fun j => ?_⟩
    rw [State.expire_controllers]
    exact (each j).expire _
  | watchHandler here watches found changed =>
    refine ⟨sessions.keep ?_, put each ((each _).watchHandler watches found)⟩
    simp only [Controller.watchHandler]
    split <;> rfl
  | received announces => exact ⟨sessions.keep rfl, put each ((each _).receive announces)⟩
  | released releases waits => exact ⟨sessions.put (by simp), put each ((each _).release releases)⟩
  | quitElect here => exact ⟨sessions.put (by simp), put each ((each _).leave (by simp))⟩
  | quitWatch here => exact ⟨sessions.keep rfl, put each ((each _).stop here)⟩

theorem run (run : Run (Step ids) .initial ls s) : Sound ids s :=
  run.preserves (fun _ _ _ before step => before.step step) initial

end Sound

/-- Along every run, a controller whose last report is of the key as it is takes the owner
of the session that holds the key for the leader; one that waits while no session holds it
has a report to come, or is about to start over, or met the lock delay; and no change of
leader goes unannounced. -/
theorem consul_leaders_agree (run : Run (Step ids) .initial ls s) (i : Nat) :
    ((s.controllers i).index = s.index → ∀ value n, s.pair = some ⟨value, some n⟩ →
        s.leases.live n = true ∧ (s.controllers i).leaderID = ids (s.leases.holder n)) ∧
      ((s.controllers i).elect = .waiting → s.Free →
        (s.controllers i).index < s.index ∨ (s.controllers i).watch = .releasing ∨ (s.controllers i).refused = true) ∧
      ((s.controllers i).seen = (s.controllers i).leaderID ∨ (s.controllers i).watch = .announcing) := by
  obtain ⟨sessions, each⟩ := Sound.run run
  refine ⟨fun same value n held => ?_, fun waits free => ?_, (each i).heard⟩
  · obtain ⟨live, owner⟩ := sessions.holder value n held
    exact ⟨live, ((each i).current same value n held).trans owner⟩
  · exact ((each i).awake waits free).imp_left fun behind => Nat.lt_of_le_of_ne (each i).bounded behind

section Samples

def names (i : Nat) : String := if i = 0 then "a" else "b"

/-- Controller 0 acquires the key and 1 finds it held; the session expires and 1 is first
then, before the plan of 0 has reported anything. -/
def handover : List Label :=
  [.new 0, .new 1, .createSession 0, .createSession 1, .acquire 0, .acquire 1, .watchHandler 1, .receive 1,
    .expire 0, .watchHandler 1, .lockRelease 1, .createSession 1, .acquire 1, .watchHandler 0]

end Samples

theorem consul_leaders_agree_handover :
    ∃ s, Run (Step names) .initial handover s ∧ s.pair = some ⟨"b", some 2⟩ ∧ (s.controllers 0).index = s.index ∧
      (s.controllers 0).leaderID = "b" ∧ (s.controllers 1).leaderID = "a" ∧ (s.controllers 1).index < s.index := by
  have run : Run (Step names) .initial handover _ :=
    .cons (.new rfl) (.cons (.new rfl) (.cons (.created rfl) (.cons (.created rfl)
    (.cons (.acquired rfl rfl (.of_missing rfl)) (.cons (.held rfl rfl rfl)
    (.cons (.watchHandler (by decide) rfl rfl (by decide)) (.cons (.received rfl) (.cons (.expire rfl)
    (.cons (.watchHandler (by decide) rfl rfl (by decide)) (.cons (.released rfl rfl) (.cons (.created rfl)
    (.cons (.acquired rfl rfl (.of_released rfl)) (.cons (.watchHandler (by decide) rfl rfl (by decide)) .nil)))))))))))))
  exact ⟨_, run, rfl, rfl, ((consul_leaders_agree run 0).1 rfl _ _ rfl).2, rfl, by decide⟩

theorem Step.leases (step : Step ids s l t) : Leases.Evolves s.leases t.leases := by
  cases step with
  | created here => exact .grant
  | createUnheard here => exact .grant
  | expire live =>
    rw [State.expire_leases]
    exact .expire
  | _ => exact .same

/-- The session that `leaderElection` calls `Acquire` with. -/
def Elect.calls : Elect → Option Nat
  | .acquiring sessionID => some sessionID
  | .absent | .creating | .waiting | .returned => none

@[simp] theorem Elect.calls_eq_some {elect : Elect} : elect.calls = some n ↔ elect = .acquiring n := by
  cases elect <;> simp [calls]

def State.campaigns (s : State) : Campaigns where
  leases := s.leases
  calls i := (s.controllers i).elect.calls
  placed n := ∃ value, s.pair = some ⟨value, some n⟩

theorem Sessions.sound (sessions : Sessions ids s) : s.campaigns.Sound where
  granted i n calls := sessions.campaigns i n (Elect.calls_eq_some.mp calls)
  live n placed := by
    obtain ⟨value, held⟩ := placed
    exact (sessions.holder value n held).1

/-- What a step leaves of a controller that calls `Acquire` with an expired session: it is
still there, and a release that its handler has to hand on stays in its hands. -/
def Kept (n : Nat) (before after : Controller) : Prop :=
  after.elect = .acquiring n ∧ (before.watch = .releasing → after = before)

theorem Step.kept (step : Step ids s l t) (acquiring : (s.controllers i).elect = .acquiring n)
    (dead : s.leases.live n = false) : Kept n (s.controllers i) (t.controllers i) := by
  have same : Kept n (s.controllers i) (s.controllers i) := ⟨acquiring, fun _ => rfl⟩
  have put : ∀ {j c}, (i = j → Kept n (s.controllers i) c) → Kept n (s.controllers i) ((s.put j c).controllers i) :=
    Transition.kept same
  -- the steps of `electLoop` itself start elsewhere, or need a live session
  have elsewhere : ∀ {j c}, (s.controllers j).elect ≠ .acquiring n →
      Kept n (s.controllers i) ((s.put j c).controllers i) := fun away =>
    put fun own => absurd (own ▸ acquiring) away
  cases step with
  | new here => exact elsewhere (by simp [here])
  | created here => exact elsewhere (by simp [here])
  | acquired here live free => exact elsewhere (by simp [here, Leases.ne_of_live live dead])
  | reacquired here live found => exact elsewhere (by simp [here, Leases.ne_of_live live dead])
  | held here live found => exact elsewhere (by simp [here, Leases.ne_of_live live dead])
  | delayed here live found => exact elsewhere (by simp [here, Leases.ne_of_live live dead])
  | released releases waits => exact elsewhere (by simp [waits])
  | quitElect here => exact elsewhere (by rcases here with here | here <;> simp [here])
  | createFailed here => exact same
  | createUnheard here => exact same
  | acquireFailed here => exact same
  | acquireUnheard here live free => exact same
  | expire live =>
    rw [State.expire_controllers]
    exact same
  | watchHandler here watches found changed =>
    refine put fun own => ?_
    subst own
    refine ⟨?_, by simp [watches]⟩
    simp only [Controller.watchHandler]
    split <;> exact acquiring
  | received announces =>
    refine put fun own => ?_
    subst own
    exact ⟨acquiring, by simp [announces]⟩
  | quitWatch here =>
    refine put fun own => ?_
    subst own
    exact ⟨acquiring, by simp [here]⟩

theorem State.expire_placed (s : State) (m : Nat) (placed : (s.expire m).campaigns.placed n) : s.campaigns.placed n := by
  obtain ⟨value, held⟩ := placed
  simp only [State.expire] at held
  split at held
  · split at held
    · cases held
    · exact ⟨value, held⟩
  · exact ⟨value, held⟩

/-- Only an `Acquire` that gets through hands the key to a session. -/
theorem Step.taken (step : Step ids s l t) (placed : t.campaigns.placed n) :
    s.campaigns.placed n ∨ ∃ i, s.campaigns.calls i = some n ∧ s.leases.live n = true := by
  have write : ∀ {i m}, (s.controllers i).elect = .acquiring m → s.leases.live m = true →
      (∃ value, some (KVPair.mk (ids i) (some m)) = some ⟨value, some n⟩) →
      s.campaigns.placed n ∨ ∃ i, s.campaigns.calls i = some n ∧ s.leases.live n = true := by
    rintro i m here live ⟨value, same⟩
    cases same
    exact .inr ⟨i, Elect.calls_eq_some.mpr here, live⟩
  cases step with
  | acquired here live free => exact write here live placed
  | reacquired here live found => exact write here live placed
  | acquireUnheard here live free => exact write here live placed
  | expire live => exact .inl (s.expire_placed _ placed)
  | _ => exact .inl placed

theorem Step.campaigns (step : Step ids s l t) : s.campaigns.Evolves t.campaigns where
  leases := step.leases
  again _ _ calls dead := Elect.calls_eq_some.mpr (step.kept (Elect.calls_eq_some.mp calls) dead).1
  taken _ := step.taken

theorem Sound.campaigns (run : Run (Step ids) s ls t) (sound : Sound ids s) :
    Run Campaigns.Step s.campaigns ls t.campaigns :=
  run.refines (fun _ _ _ before step => ⟨before.step step, before.sessions.sound, step.campaigns⟩) sound

/-- While the handler has a release to hand on, nothing of a stuck controller changes. -/
theorem Sound.frozen (run : Run (Step ids) s ls t) (sound : Sound ids s) (stuck : s.campaigns.Stuck i n)
    (releases : (s.controllers i).watch = .releasing) : t.controllers i = s.controllers i := by
  induction run with
  | nil => rfl
  | cons head _ ih =>
    have same := (head.kept (Elect.calls_eq_some.mp stuck.calls) stuck.dead).2 releases
    rw [← same] at releases ⊢
    exact ih (sound.step head) (stuck.step sound.sessions.sound head.campaigns) releases

/-- A session that expires before its `Acquire` goes through takes its controller out of
the election for good: whatever happens, a request to quit included, `leaderElection` goes on
calling; the controller does not come to hold the key again; and once its watch reports a
free key, it keeps the leader it knew. -/
theorem consul_expired_campaign_sticks (before : Run (Step ids) .initial ls s)
    (acquiring : (s.controllers i).elect = .acquiring n) (dead : s.leases.live n = false)
    (run : Run (Step ids) s ms t) :
    (t.controllers i).elect = .acquiring n ∧
      ((s.controllers i).watch = .releasing → t.controllers i = s.controllers i) ∧
      ((∀ value m, s.pair = some ⟨value, some m⟩ → s.leases.holder m ≠ i) →
        ∀ value m, t.pair = some ⟨value, some m⟩ → t.leases.holder m ≠ i) := by
  have sound := Sound.run before
  have stuck : s.campaigns.Stuck i n := ⟨Elect.calls_eq_some.mpr acquiring, dead⟩
  have campaigns := sound.campaigns run
  refine ⟨Elect.calls_eq_some.mp (stuck.run campaigns).calls, sound.frozen run stuck, fun out value m held => ?_⟩
  have ousted : s.campaigns.Ousted i := by
    rintro m ⟨value, held⟩
    exact out value m held
  exact ousted.run campaigns stuck m ⟨value, held⟩

section Samples

/-- The first session of controller 1 is gone before its `Acquire` arrives. -/
def expiry : List Label := [.new 0, .new 1, .createSession 0, .acquire 0, .createSession 1, .expire 1]

/-- The session of controller 0 ends as well; it takes the key again and leads. -/
def reelection : List Label :=
  [.acquire 1, .watchHandler 0, .receive 0, .expire 0, .watchHandler 0, .watchHandler 1, .lockRelease 0,
    .createSession 0, .acquire 0, .acquire 1]

end Samples

theorem consul_expired_campaign_sticks_reelection :
    ∃ s t, Run (Step names) .initial expiry s ∧ Run (Step names) s reelection t ∧
      (t.controllers 1).elect = .acquiring 1 ∧ t.pair = some ⟨"a", some 2⟩ ∧ (t.controllers 1).leaderID = "" := by
  have runs : ∃ s t, Run (Step names) .initial expiry s ∧ (s.controllers 1).elect = .acquiring 1 ∧ s.leases.live 1 = false ∧
      Run (Step names) s reelection t ∧ t.pair = some ⟨"a", some 2⟩ ∧ (t.controllers 1).leaderID = "" :=
    ⟨_, _,
      .cons (.new rfl) (.cons (.new rfl) (.cons (.created rfl) (.cons (.acquired rfl rfl (.of_missing rfl))
      (.cons (.created rfl) (.cons (.expire rfl) .nil))))), rfl, rfl,
      .cons (.acquireFailed rfl) (.cons (.watchHandler (by decide) rfl rfl (by decide)) (.cons (.received rfl)
      (.cons (.expire rfl) (.cons (.watchHandler (by decide) rfl rfl (by decide))
      (.cons (.watchHandler (by decide) rfl rfl (by decide)) (.cons (.released rfl rfl) (.cons (.created rfl)
      (.cons (.acquired rfl rfl (.of_released rfl)) (.cons (.acquireFailed rfl) .nil))))))))), rfl, rfl⟩
  obtain ⟨s, t, before, acquiring, dead, run, pair, leader⟩ := runs
  exact ⟨s, t, before, run, (consul_expired_campaign_sticks before acquiring dead run).1, pair, leader⟩

end Kvrocks.Election.Consul
