import KvrocksController.Lib.Transition

/-! The election over PostgreSQL. The leader is the row of a table: whoever inserts it leads
until a scheduled job deletes it, and a trigger tells every listener of both. One loop of a
controller inserts, another one listens and wakes the first. -/
namespace Kvrocks.Election.Postgresql
open Transition

/-- `electLoop`, and `New` up to its start: `subscribed` is between `Listen` and
`initLeaderId`. -/
inductive Elect where
  | absent
  | subscribed
  | inserting
  | waiting
  | returned
deriving DecidableEq, Repr

/-- `observeLeaderEvent`: in its `select`, or in a send on one of its two channels. -/
inductive Observe where
  | listening
  | announcing
  | releasing
  | panicked
  | returned
deriving DecidableEq, Repr

/-- `none` in the queue is the notification without content that the listener delivers
after a new connection. `seen` and `reconnected` are ghosts: the leader when `syncLoop` last
looked, and whether the listener ever lost its connection. -/
structure Controller where
  leaderID : String
  isReady : Bool
  elect : Elect
  observe : Observe
  queue : List (Option String)
  connected : Bool
  seen : String
  reconnected : Bool
deriving DecidableEq, Repr

structure State where
  row : Option String
  controllers : Nat → Controller

inductive Label where
  | listen (i : Nat)
  | initLeaderId (i : Nat)
  | insert (i : Nat)
  | expire
  | notification (i : Nat)
  | receive (i : Nat)
  | lockRelease (i : Nat)
  | disconnect (i : Nat)
  | reconnect (i : Nat)
  | quit (i : Nat)

/-- The payloads of the trigger. -/
def inserted (leaderID : String) : String := "INSERT:" ++ leaderID

def deleted (leaderID : String) : String := "DELETE:" ++ leaderID

/-- `strings.SplitN(extra, ":", 2)`, where it has two parts. -/
def splitExtra (extra : String) : Option (String × String) :=
  match extra.toList.dropWhile (· != ':') with
  | _ :: rest => some (String.ofList (extra.toList.takeWhile (· != ':')), String.ofList rest)
  | [] => none

namespace Controller

def start : Controller where
  leaderID := ""
  isReady := false
  elect := .absent
  observe := .listening
  queue := []
  connected := true
  seen := ""
  reconnected := false

/-- What the trigger sends reaches the listeners that are connected. -/
def notify (payload : String) (c : Controller) : Controller :=
  if c.elect ≠ .absent ∧ c.connected then { c with queue := c.queue ++ [some payload] } else c

def panic (c : Controller) : Controller := { c with elect := .returned, observe := .panicked }

/-- The body of the loop for one notification. Without a colon the second part is indexed
all the same. -/
def observeLeaderEvent (extra : Option String) (rest : List (Option String)) (c : Controller) : Controller :=
  let c := { c with queue := rest, isReady := true }
  match extra with
  | none => c.panic
  | some extra =>
    match splitExtra extra with
    | none => c.panic
    | some (operation, leaderID) =>
      if operation = "INSERT" then { c with leaderID, observe := .announcing } else { c with observe := .releasing }

end Controller

namespace State

def put (s : State) (i : Nat) (c : Controller) : State :=
  { s with controllers := fun other => if other = i then c else s.controllers other }

/-- The row changes, and the trigger tells. -/
def write (s : State) (row : Option String) (payload : String) : State :=
  { row, controllers := fun i => (s.controllers i).notify payload }

def initial : State := ⟨none, fun _ => .start⟩

end State

section System
variable (ids : Nat → String)

inductive Step : State → Label → State → Prop where
  | listen (here : (s.controllers i).elect = .absent) :
      Step s (.listen i) (s.put i { Controller.start with elect := .subscribed })
  | initLeaderId (here : (s.controllers i).elect = .subscribed) :
      Step s (.initLeaderId i)
        (s.put i { s.controllers i with
          leaderID := s.row.getD "", seen := s.row.getD "", elect := .inserting, observe := .listening })
  | initFailed (here : (s.controllers i).elect = .subscribed) : Step s (.initLeaderId i) (s.put i .start)
  | inserted (here : (s.controllers i).elect = .inserting) (free : s.row = none) :
      Step s (.insert i)
        ((s.put i { s.controllers i with elect := .waiting }).write (some (ids i)) (inserted (ids i)))
  | conflict (here : (s.controllers i).elect = .inserting) (taken : s.row = some leaderID) :
      Step s (.insert i) (s.put i { s.controllers i with elect := .waiting })
  | insertFailed (here : (s.controllers i).elect = .inserting) : Step s (.insert i) s
  | insertUnheard (here : (s.controllers i).elect = .inserting) (free : s.row = none) :
      Step s (.insert i) (s.write (some (ids i)) (inserted (ids i)))
  | expire (taken : s.row = some leaderID) : Step s .expire (s.write none (deleted leaderID))
  /-- The two loops start together, and this one outlives the other. -/
  | notification (begun : (s.controllers i).elect ≠ .absent ∧ (s.controllers i).elect ≠ .subscribed)
      (here : (s.controllers i).observe = .listening) (queued : (s.controllers i).queue = extra :: rest) :
      Step s (.notification i) (s.put i ((s.controllers i).observeLeaderEvent extra rest))
  | received (here : (s.controllers i).observe = .announcing) :
      Step s (.receive i) (s.put i { s.controllers i with observe := .listening, seen := (s.controllers i).leaderID })
  | released (sends : (s.controllers i).observe = .releasing) (waits : (s.controllers i).elect = .waiting) :
      Step s (.lockRelease i) (s.put i { s.controllers i with observe := .listening, elect := .inserting })
  | disconnect (here : (s.controllers i).elect ≠ .absent) :
      Step s (.disconnect i) (s.put i { s.controllers i with connected := false, reconnected := true })
  | reconnect (lost : (s.controllers i).connected = false) :
      Step s (.reconnect i)
        (s.put i { s.controllers i with connected := true, queue := (s.controllers i).queue ++ [none] })
  | quitElect (here : (s.controllers i).elect = .inserting ∨ (s.controllers i).elect = .waiting) :
      Step s (.quit i) (s.put i { s.controllers i with elect := .returned })
  | quitObserve (here : (s.controllers i).observe = .listening) :
      Step s (.quit i) (s.put i { s.controllers i with observe := .returned })

end System

/-- Both loops run, and the listener has not lost its connection. -/
def Controller.Running (c : Controller) : Prop :=
  (c.elect = .inserting ∨ c.elect = .waiting) ∧ c.observe ≠ .panicked ∧ c.observe ≠ .returned ∧ c.reconnected = false

theorem Controller.Running.of_listening {c : Controller} (waits : c.elect = .waiting) (listens : c.observe = .listening)
    (kept : c.reconnected = false) : c.Running :=
  ⟨.inr waits, by simp [listens], by simp [listens], kept⟩

/-- What handling a notification makes of the leader. -/
def tell (leaderID : String) (extra : Option String) : String :=
  match extra.bind splitExtra with
  | some (operation, told) => if operation = "INSERT" then told else leaderID
  | none => leaderID

/-- The leader once all that is queued is handled. -/
def told (leaderID : String) (queue : List (Option String)) : String := queue.foldl tell leaderID

section Payloads

theorem splitExtra_inserted (leaderID : String) : splitExtra (inserted leaderID) = some ("INSERT", leaderID) := by
  have spelled : (inserted leaderID).toList = 'I' :: 'N' :: 'S' :: 'E' :: 'R' :: 'T' :: ':' :: leaderID.toList := by
    rw [inserted, String.toList_append]
    rfl
  simp [splitExtra, spelled]

theorem splitExtra_deleted (leaderID : String) : splitExtra (deleted leaderID) = some ("DELETE", leaderID) := by
  have spelled : (deleted leaderID).toList = 'D' :: 'E' :: 'L' :: 'E' :: 'T' :: 'E' :: ':' :: leaderID.toList := by
    rw [deleted, String.toList_append]
    rfl
  simp [splitExtra, spelled]

theorem inserted_ne_deleted (a b : String) : inserted a ≠ deleted b := by
  intro same
  have parts := congrArg splitExtra same
  rw [splitExtra_inserted, splitExtra_deleted] at parts
  simp at parts

@[simp] theorem tell_inserted (old leaderID : String) : tell old (some (inserted leaderID)) = leaderID := by
  simp [tell, splitExtra_inserted]

@[simp] theorem tell_deleted (old leaderID : String) : tell old (some (deleted leaderID)) = old := by
  simp [tell, splitExtra_deleted]

theorem told_concat (leaderID : String) (queue : List (Option String)) (extra : Option String) :
    told leaderID (queue ++ [extra]) = tell (told leaderID queue) extra := by
  rw [told, List.foldl_append]
  rfl

end Payloads

namespace Controller

/-- As long as the listener keeps its connection, its queue holds what the trigger sent. -/
structure Clean (c : Controller) : Prop where
  payloads : c.reconnected = false → ∀ extra ∈ c.queue, ∃ id, extra = some (inserted id) ∨ extra = some (deleted id)
  linked : c.reconnected = false → c.connected = true
  heard : c.seen = c.leaderID ∨ c.observe = .announcing
  crash : c.observe = .panicked → c.reconnected = true

/-- The queue leads from what the controller believes to the row. Before `initLeaderId` it
believes nothing yet. -/
def Agrees (row : Option String) (c : Controller) : Prop :=
  c.reconnected = false → c.elect ≠ .absent → ∀ id, row = some id →
    told (if c.elect = .subscribed then id else c.leaderID) c.queue = id

/-- Without a row the next insertion is ahead. -/
def Awake (row : Option String) (c : Controller) : Prop :=
  c.Running → row = none → c.elect = .inserting ∨ c.observe = .releasing ∨ ∃ id, some (deleted id) ∈ c.queue

structure Sound (row : Option String) (c : Controller) : Prop where
  clean : c.Clean
  agrees : c.Agrees row
  awake : c.Awake row

variable {c : Controller} {row : Option String}

theorem Sound.start (row : Option String) : Controller.start.Sound row where
  clean :=
    { payloads := by
        intro _ extra member
        cases member
      linked := fun _ => rfl
      heard := .inl rfl
      crash := by
        intro crashed
        cases crashed }
  agrees _ present := absurd rfl present
  awake := by
    rintro ⟨running | running, _⟩ <;> cases running

theorem Clean.notify {id : String} (clean : c.Clean) (sent : payload = inserted id ∨ payload = deleted id) :
    (c.notify payload).Clean := by
  unfold Controller.notify
  split
  · constructor
    · intro kept extra member
      rcases List.mem_append.mp member with old | new
      · exact clean.payloads kept extra old
      · obtain rfl := List.mem_singleton.mp new
        exact ⟨id, sent.imp (congrArg some) (congrArg some)⟩
    · exact clean.linked
    · exact clean.heard
    · exact clean.crash
  · exact clean

/-- A listener with its connection gets what the trigger sends. -/
theorem Clean.notify_eq (clean : c.Clean) (kept : c.reconnected = false) (present : c.elect ≠ .absent) (payload : String) :
    c.notify payload = { c with queue := c.queue ++ [some payload] } := if_pos ⟨present, clean.linked kept⟩

theorem notify_reconnected (payload : String) (c : Controller) : (c.notify payload).reconnected = c.reconnected := by
  unfold Controller.notify
  split <;> rfl

theorem notify_elect (payload : String) (c : Controller) : (c.notify payload).elect = c.elect := by
  unfold Controller.notify
  split <;> rfl

theorem Clean.insert (clean : c.Clean) (id : String) : (c.notify (inserted id)).Sound (some id) where
  clean := clean.notify (.inl rfl)
  agrees := by
    intro kept present other same
    obtain rfl := Option.some.inj same
    rw [notify_reconnected] at kept
    rw [notify_elect] at present
    rw [clean.notify_eq kept present]
    simp only [told_concat, tell_inserted]
  awake _ none := by cases none

theorem Clean.expire (clean : c.Clean) (id : String) : (c.notify (deleted id)).Sound none where
  clean := clean.notify (.inr rfl)
  agrees _ _ other same := by cases same
  awake running _ := by
    obtain ⟨here, _, _, kept⟩ := running
    rw [notify_reconnected] at kept
    rw [notify_elect] at here
    have present : c.elect ≠ .absent := by
      rcases here with here | here <;> simp [here]
    rw [clean.notify_eq kept present]
    exact .inr (.inr ⟨id, List.mem_concat_self⟩)

/-- A change that keeps the queue and the beliefs, and leaves the loops with as much to do. -/
theorem Sound.keep (sound : c.Sound row) {d : Controller} (clean : d.Clean)
    (lost : d.reconnected = false → c.reconnected = false)
    (same : d.reconnected = false → d.elect ≠ .absent → d.queue = c.queue ∧ c.elect ≠ .absent ∧
      ∀ id, row = some id → (if d.elect = .subscribed then id else d.leaderID) =
        if c.elect = .subscribed then id else c.leaderID)
    (awake : d.Awake row) : d.Sound row where
  clean := clean
  agrees kept present id taken := by
    obtain ⟨queue, before, believed⟩ := same kept present
    rw [queue, believed id taken]
    exact sound.agrees (lost kept) before id taken
  awake := awake

section Steps
variable (sound : c.Sound row)
include sound

theorem Sound.initLeaderId (here : c.elect = .subscribed) :
    Controller.Sound row { c with
      leaderID := row.getD "", seen := row.getD "", elect := .inserting, observe := .listening } := by
  refine sound.keep ⟨sound.clean.payloads, sound.clean.linked, .inl rfl, by simp⟩ id ?_ ?_
  · refine fun _ _ => ⟨rfl, by simp [here], fun id taken => ?_⟩
    simp [here, taken]
  · exact fun _ _ => .inl rfl

/-- The row is taken, so there is nothing to wake up for. -/
theorem Sound.conflict (here : c.elect = .inserting) (taken : row = some other) :
    Controller.Sound row { c with elect := .waiting } := by
  refine sound.keep ⟨sound.clean.payloads, sound.clean.linked, sound.clean.heard, sound.clean.crash⟩ id ?_ ?_
  · exact fun _ _ => ⟨rfl, by simp [here], fun id _ => by simp [here]⟩
  · intro _ free
    cases taken.symm.trans free

theorem Sound.receive (here : c.observe = .announcing) :
    Controller.Sound row { c with observe := .listening, seen := c.leaderID } := by
  refine sound.keep ⟨sound.clean.payloads, sound.clean.linked, .inl rfl, by simp⟩ id
    (fun _ present => ⟨rfl, present, fun _ _ => rfl⟩) ?_
  rintro ⟨loop, _, _, kept⟩ free
  rcases sound.awake ⟨loop, by simp [here], by simp [here], kept⟩ free with inserting | releasing | queued
  · exact .inl inserting
  · rw [here] at releasing
    cases releasing
  · exact .inr (.inr queued)

theorem Sound.release (sends : c.observe = .releasing) (waits : c.elect = .waiting) :
    Controller.Sound row { c with observe := .listening, elect := .inserting } := by
  have seen : c.seen = c.leaderID := sound.clean.heard.resolve_right (by simp [sends])
  refine sound.keep ⟨sound.clean.payloads, sound.clean.linked, .inl seen, by simp⟩ id ?_ ?_
  · exact fun _ _ => ⟨rfl, by simp [waits], fun id _ => by simp [waits]⟩
  · exact fun _ _ => .inl rfl

theorem Sound.disconnect : Controller.Sound row { c with connected := false, reconnected := true } where
  clean :=
    { payloads := by
        intro kept
        cases kept
      linked := by
        intro kept
        cases kept
      heard := sound.clean.heard
      crash := fun _ => rfl }
  agrees kept := by cases kept
  awake running := by cases running.2.2.2

/-- Only a listener that lost its connection gets a notification without content. -/
theorem Sound.reconnect (lost : c.connected = false) :
    Controller.Sound row { c with connected := true, queue := c.queue ++ [none] } := by
  have again : c.reconnected ≠ false := by
    intro kept
    rw [sound.clean.linked kept] at lost
    cases lost
  constructor
  · exact ⟨fun kept => absurd kept again, fun _ => rfl, sound.clean.heard, sound.clean.crash⟩
  · exact fun kept => absurd kept again
  · exact fun running => absurd running.2.2.2 again

theorem Sound.quitElect (here : c.elect = .inserting ∨ c.elect = .waiting) :
    Controller.Sound row { c with elect := .returned } := by
  refine sound.keep ⟨sound.clean.payloads, sound.clean.linked, sound.clean.heard, sound.clean.crash⟩ id ?_ ?_
  · intro _ _
    rcases here with here | here <;> exact ⟨rfl, by simp [here], fun id _ => by simp [here]⟩
  · rintro ⟨running | running, _⟩ <;> cases running

theorem Sound.quitObserve (here : c.observe = .listening) : Controller.Sound row { c with observe := .returned } := by
  have seen : c.seen = c.leaderID := sound.clean.heard.resolve_right (by simp [here])
  refine sound.keep ⟨sound.clean.payloads, sound.clean.linked, .inl seen, by simp⟩ id
    (fun _ present => ⟨rfl, present, fun _ _ => rfl⟩) ?_
  intro running
  exact absurd rfl running.2.2.1

end Steps

theorem observeLeaderEvent_kept (c : Controller) (extra : Option String) (rest : List (Option String)) :
    ((c.observeLeaderEvent extra rest).reconnected = c.reconnected ∧ (c.observeLeaderEvent extra rest).seen = c.seen) ∧
      ((c.observeLeaderEvent extra rest).leaderID = c.leaderID ∨
        (c.observeLeaderEvent extra rest).observe = .announcing) := by
  unfold Controller.observeLeaderEvent
  dsimp only
  split
  · exact ⟨⟨rfl, rfl⟩, .inl rfl⟩
  · split
    · exact ⟨⟨rfl, rfl⟩, .inl rfl⟩
    · split
      · exact ⟨⟨rfl, rfl⟩, .inr rfl⟩
      · exact ⟨⟨rfl, rfl⟩, .inl rfl⟩

/-- A notification of the trigger is handled: one more is off the queue, and what it told
is believed or passed on. -/
theorem Sound.observeLeaderEvent (sound : c.Sound row) (begun : c.elect ≠ .absent ∧ c.elect ≠ .subscribed)
    (here : c.observe = .listening) (queued : c.queue = extra :: rest) :
    (c.observeLeaderEvent extra rest).Sound row := by
  have seen : c.seen = c.leaderID := sound.clean.heard.resolve_right (by simp [here])
  obtain ⟨present, unsubscribed⟩ := begun
  have later (kept : c.reconnected = false) : ∀ extra ∈ rest, ∃ id, extra = some (inserted id) ∨ extra = some (deleted id) :=
    fun extra member => sound.clean.payloads kept extra (queued ▸ List.mem_cons_of_mem _ member)
  have agrees (kept : c.reconnected = false) (id : String) (taken : row = some id) :
      told (tell c.leaderID extra) rest = id := by
    have before := sound.agrees kept present id taken
    rwa [if_neg unsubscribed, queued] at before
  cases lost : c.reconnected with
  | true =>
    obtain ⟨same, told⟩ := c.observeLeaderEvent_kept extra rest
    have again : (c.observeLeaderEvent extra rest).reconnected ≠ false := by simp [same.1, lost]
    constructor
    · refine ⟨fun kept => absurd kept again, fun kept => absurd kept again, ?_, fun _ => same.1.trans lost⟩
      rcases told with told | told
      · exact .inl (by rw [same.2, told, seen])
      · exact .inr told
    · exact fun kept => absurd kept again
    · exact fun running => absurd running.2.2.2 again
  | false =>
    obtain ⟨id, rfl | rfl⟩ := sound.clean.payloads lost extra (queued ▸ List.mem_cons_self)
    · have shape : c.observeLeaderEvent (some (inserted id)) rest =
          { c with queue := rest, isReady := true, leaderID := id, observe := .announcing } := by
        simp [Controller.observeLeaderEvent, splitExtra_inserted]
      rw [shape]
      constructor
      · exact ⟨later, sound.clean.linked, .inr rfl, by simp⟩
      · intro kept _ id taken
        rw [if_neg unsubscribed]
        simpa using agrees kept id taken
      · rintro ⟨loop, _, _, kept⟩ free
        rcases sound.awake ⟨loop, by simp [here], by simp [here], kept⟩ free with inserting | releasing | ⟨id, member⟩
        · exact .inl inserting
        · rw [here] at releasing
          cases releasing
        · rw [queued] at member
          rcases List.mem_cons.mp member with same | member
          · exact absurd (Option.some.inj same) (inserted_ne_deleted _ _).symm
          · exact .inr (.inr ⟨id, member⟩)
    · have shape : c.observeLeaderEvent (some (deleted id)) rest =
          { c with queue := rest, isReady := true, observe := .releasing } := by
        simp [Controller.observeLeaderEvent, splitExtra_deleted]
      rw [shape]
      constructor
      · exact ⟨later, sound.clean.linked, .inl seen, by simp⟩
      · intro kept _ id taken
        rw [if_neg unsubscribed]
        simpa using agrees kept id taken
      · exact fun _ _ => .inr (.inl rfl)

end Controller

variable {ids : Nat → String} {s t : State}

def Sound (s : State) : Prop := ∀ i, (s.controllers i).Sound s.row

namespace Sound

theorem put (sound : Sound s) (own : Controller.Sound s.row c) : Sound (s.put i c) := by
  intro j
  simp only [State.put]
  split
  · exact own
  · exact sound j

theorem step (sound : Sound s) (step : Step ids s l t) : Sound t := by
  cases step with
  | listen here =>
    refine sound.put ⟨?_, ?_, ?_⟩
    · exact ⟨by simp [Controller.start], fun _ => rfl, .inl rfl, by simp [Controller.start]⟩
    · intro _ _ id _
      simp [Controller.start, told]
    · rintro ⟨running | running, _⟩ <;> cases running
  | initLeaderId here => exact sound.put ((sound _).initLeaderId here)
  | initFailed here => exact sound.put (.start _)
  | @inserted _ i here free =>
    intro j
    refine Controller.Clean.insert ?_ (ids i)
    simp only [State.put]
    split
    · have clean := (sound i).clean
      exact ⟨clean.payloads, clean.linked, clean.heard, clean.crash⟩
    · exact (sound j).clean
  | conflict here taken => exact sound.put ((sound _).conflict here taken)
  | insertFailed here => exact sound
  | insertUnheard here free => exact fun j => (sound j).clean.insert _
  | expire taken => exact fun j => (sound j).clean.expire _
  | notification begun here queued => exact sound.put ((sound _).observeLeaderEvent begun here queued)
  | received here => exact sound.put ((sound _).receive here)
  | released sends waits => exact sound.put ((sound _).release sends waits)
  | disconnect here => exact sound.put (sound _).disconnect
  | reconnect lost => exact sound.put ((sound _).reconnect lost)
  | quitElect here => exact sound.put ((sound _).quitElect here)
  | quitObserve here => exact sound.put ((sound _).quitObserve here)

theorem run (run : Run (Step ids) .initial ls s) : Sound s :=
  run.preserves (fun _ _ _ before step => before.step step) fun _ => .start _

end Sound

/-- Along every run, a controller that has handled all its notifications takes the row's
owner for the leader; while there is no row, every running controller is about to insert
one or has still to be told that it is gone; no change of leader goes unannounced; and the
loop panics only behind a lost connection. -/
theorem postgresql_leaders_agree (run : Run (Step ids) .initial ls s) (i : Nat) :
    ((s.controllers i).Running → (s.controllers i).queue = [] → ∀ id, s.row = some id → (s.controllers i).leaderID = id) ∧
      ((s.controllers i).Running → s.row = none → (s.controllers i).elect = .inserting ∨
        (s.controllers i).observe = .releasing ∨ ∃ id, some (deleted id) ∈ (s.controllers i).queue) ∧
      ((s.controllers i).seen = (s.controllers i).leaderID ∨ (s.controllers i).observe = .announcing) ∧
      ((s.controllers i).observe = .panicked → (s.controllers i).reconnected = true) := by
  have sound := Sound.run run i
  refine ⟨fun running handled id taken => ?_, sound.awake, sound.clean.heard, sound.clean.crash⟩
  obtain ⟨loop, _, _, kept⟩ := running
  have present : (s.controllers i).elect ≠ .absent := by rcases loop with here | here <;> simp [here]
  have unsubscribed : (s.controllers i).elect ≠ .subscribed := by rcases loop with here | here <;> simp [here]
  have agrees := sound.agrees kept present id taken
  rwa [if_neg unsubscribed, handled] at agrees

section Samples

/-- Controller 0 inserts the row, 1 finds it taken; the row expires and 1 is first then. -/
def turns : List Label :=
  [.listen 0, .initLeaderId 0, .listen 1, .initLeaderId 1, .insert 0, .insert 1, .notification 0, .receive 0,
    .notification 1, .receive 1, .expire, .notification 1, .lockRelease 1, .insert 1, .notification 1, .receive 1]

end Samples

theorem postgresql_leaders_agree_turns :
    ∃ s, Run (Step fun i => if i = 0 then "a" else "b") .initial turns s ∧ s.row = some "b" ∧
      (s.controllers 1).queue = [] ∧ (s.controllers 1).leaderID = "b" ∧ (s.controllers 0).leaderID = "a" ∧
      (s.controllers 0).queue = [some (deleted "a"), some (inserted "b")] := by
  have begun : Elect.waiting ≠ .absent ∧ Elect.waiting ≠ .subscribed := by decide
  have run : Run (Step fun i => if i = 0 then "a" else "b") .initial turns _ :=
    .cons (.listen rfl) (.cons (.initLeaderId rfl) (.cons (.listen rfl) (.cons (.initLeaderId rfl)
    (.cons (.inserted rfl rfl) (.cons (.conflict rfl rfl) (.cons (.notification begun rfl rfl)
    (.cons (.received rfl) (.cons (.notification begun rfl rfl) (.cons (.received rfl) (.cons (.expire rfl)
    (.cons (.notification begun rfl rfl) (.cons (.released rfl rfl) (.cons (.inserted rfl rfl)
    (.cons (.notification begun rfl rfl) (.cons (.received rfl) .nil)))))))))))))))
  exact ⟨_, run, rfl, rfl, (postgresql_leaders_agree run 1).1 (.of_listening rfl rfl rfl) rfl _ rfl, rfl, rfl⟩

end Kvrocks.Election.Postgresql
