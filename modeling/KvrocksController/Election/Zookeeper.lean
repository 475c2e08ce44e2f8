import KvrocksController.Lib.Transition

/-! The election over Zookeeper. Every controller tries to create one ephemeral node that
holds its ID, reads the node with a watch, and starts over when the watch fires. The server
forgets a session before its client hears of it, so a controller can hold on to a leader
that is gone; one whose watch still stands on a live session cannot. -/
namespace Kvrocks.Election.Zookeeper
open Transition

/-- Where `electLoop` is. `creating` is the call of `Create` at `reset` or behind a deleted
node, `setting` is `SetleaderID` with what `GetW` has read. -/
inductive Pc where
  | creating
  | reading
  | setting (data : String)
  /-- In the send on `leaderChangeCh`. -/
  | announcing
  | waiting
  | returned
deriving DecidableEq, Repr

/-- The channel of the last `GetW`: nothing, or an event that may report a deletion. -/
inductive Watch where
  | dropped
  | armed
  | fired (deleted : Bool)
deriving DecidableEq, Repr

/-- `alive` says that the server still keeps the session. `seen` is a ghost: the leader
when `syncLoop` last received from `leaderChangeCh`. -/
structure Controller where
  leaderID : String
  isReady : Bool
  pc : Pc
  watch : Watch
  alive : Bool
  seen : String
deriving DecidableEq, Repr

/-- An ephemeral node goes with its owner's session. -/
structure Znode where
  owner : Nat
  data : String
deriving DecidableEq, Repr

structure State where
  elect : Option Znode
  controllers : Nat → Controller

inductive Label where
  | create (i : Nat)
  | getW (i : Nat)
  | setLeaderID (i : Nat)
  | receive (i : Nat)
  | event (i : Nat)
  | expire (i : Nat)
  | reconnect (i : Nat)
  | quit (i : Nat)

def Controller.start : Controller where
  leaderID := ""
  isReady := false
  pc := .creating
  watch := .dropped
  alive := true
  seen := ""

/-- The session's own watch is lost with it on the server. -/
def Controller.notify (c : Controller) : Controller :=
  if c.alive && c.watch = .armed then { c with watch := .fired true } else c

/-- The connection was lost: pending watches end without an answer to what happened. -/
def Controller.invalidate (c : Controller) : Controller :=
  if c.watch = .armed then { c with watch := .fired false } else c

def Controller.setLeaderID (data : String) (c : Controller) : Controller :=
  if data ≠ "" ∧ data ≠ c.leaderID then { c with leaderID := data, isReady := true, pc := .announcing }
  else { c with pc := .waiting }

def State.put (s : State) (i : Nat) (c : Controller) : State :=
  { s with controllers := fun other => if other = i then c else s.controllers other }

/-- The server drops a session, and with it the node it owns. -/
def State.expire (s : State) (i : Nat) : State :=
  match s.elect with
  | some node =>
    if node.owner = i then
      { elect := none
        controllers := fun other =>
          if other = i then { s.controllers i with alive := false } else (s.controllers other).notify }
    else s.put i { s.controllers i with alive := false }
  | none => s.put i { s.controllers i with alive := false }

def State.initial : State := ⟨none, fun _ => .start⟩

section System
variable (ids : Nat → String)

/-- Calls reach the server over a live session only. A creation can take effect without
the caller hearing of it. -/
inductive Step : State → Label → State → Prop where
  | created (here : (s.controllers i).pc = .creating) (alive : (s.controllers i).alive = true)
      (absent : s.elect = none) :
      Step s (.create i) { s.put i { s.controllers i with pc := .reading } with elect := some ⟨i, ids i⟩ }
  /-- The node is there, or a parent of it that another controller creates at the same time. -/
  | nodeExists (here : (s.controllers i).pc = .creating) (alive : (s.controllers i).alive = true) :
      Step s (.create i) (s.put i { s.controllers i with pc := .reading })
  | createFailed (here : (s.controllers i).pc = .creating) : Step s (.create i) s
  | createUnheard (here : (s.controllers i).pc = .creating) (alive : (s.controllers i).alive = true)
      (absent : s.elect = none) :
      Step s (.create i) { s with elect := some ⟨i, ids i⟩ }
  | read (here : (s.controllers i).pc = .reading) (alive : (s.controllers i).alive = true)
      (present : s.elect = some node) :
      Step s (.getW i) (s.put i { s.controllers i with pc := .setting node.data, watch := .armed })
  /-- No node, or no connection. -/
  | readFailed (here : (s.controllers i).pc = .reading) :
      Step s (.getW i) (s.put i { s.controllers i with pc := .creating })
  | set (here : (s.controllers i).pc = .setting data) :
      Step s (.setLeaderID i) (s.put i ((s.controllers i).setLeaderID data))
  | received (here : (s.controllers i).pc = .announcing) :
      Step s (.receive i) (s.put i { s.controllers i with pc := .waiting, seen := (s.controllers i).leaderID })
  | deleted (here : (s.controllers i).pc = .waiting) (fired : (s.controllers i).watch = .fired true) :
      Step s (.event i) (s.put i { s.controllers i with pc := .creating, watch := .dropped })
  | changed (here : (s.controllers i).pc = .waiting) (fired : (s.controllers i).watch = .fired false) :
      Step s (.event i) (s.put i { s.controllers i with pc := .reading, watch := .dropped })
  | expire : Step s (.expire i) (s.expire i)
  | reconnect (gone : (s.controllers i).alive = false) :
      Step s (.reconnect i) (s.put i { (s.controllers i).invalidate with alive := true })
  | quit (here : (s.controllers i).pc = .waiting ∨ (s.controllers i).pc = .creating) :
      Step s (.quit i) (s.put i { s.controllers i with pc := .returned })

end System

/-- The watch of the last read stands on a live session, and what was read is set. -/
def Controller.Current (c : Controller) : Prop :=
  c.alive = true ∧ c.watch = .armed ∧ (c.pc = .announcing ∨ c.pc = .waiting ∨ c.pc = .returned)

/-- What a controller's place in the loop says about its leader. -/
structure Controller.Sound (elect : Option Znode) (ids : Nat → String) (c : Controller) : Prop where
  unwatched : c.pc = .creating ∨ c.pc = .reading → c.watch = .dropped
  watched : c.alive = true → c.watch = .armed → ∃ node, elect = some node ∧
    (∀ data, c.pc = .setting data → data = node.data) ∧ (c.Current → c.leaderID = node.data)
  read : ∀ data, c.pc = .setting data → ∃ i, data = ids i
  known : c.leaderID = "" ∨ ∃ i, c.leaderID = ids i
  ready : c.isReady = true ↔ c.leaderID ≠ ""
  heard : c.seen = c.leaderID ∨ c.pc = .announcing

/-- The node is its live owner's. -/
structure Sound (ids : Nat → String) (s : State) : Prop where
  owned : ∀ node, s.elect = some node → node.data = ids node.owner ∧ (s.controllers node.owner).alive = true
  each : ∀ i, (s.controllers i).Sound s.elect ids

variable {ids : Nat → String} {s t : State}

theorem Controller.Sound.start (elect : Option Znode) : Controller.start.Sound elect ids where
  unwatched _ := rfl
  watched _ armed := by cases armed
  read _ here := by cases here
  known := .inl rfl
  ready := by simp [Controller.start]
  heard := .inl rfl

theorem Sound.initial : Sound ids .initial where
  owned _ present := by cases present
  each _ := .start _

namespace Controller.Sound
variable {c : Controller} {elect : Option Znode} (sound : c.Sound elect ids)
include sound

/-- Back to a call that starts without a watch. -/
theorem restart (quiet : c.pc ≠ .announcing) (pc : Pc) (calls : pc = .creating ∨ pc = .reading) :
    Controller.Sound elect ids { c with pc, watch := .dropped } where
  unwatched _ := rfl
  watched _ armed := by cases armed
  read data here := by
    rcases calls with rfl | rfl
    · cases here
    · cases here
  known := sound.known
  ready := sound.ready
  heard := .inl (sound.heard.resolve_right quiet)

/-- The same where there is no watch yet. -/
theorem next (here : c.pc = .creating ∨ c.pc = .reading) (pc : Pc) (calls : pc = .creating ∨ pc = .reading) :
    Controller.Sound elect ids { c with pc } := by
  have quiet : c.pc ≠ .announcing := by
    rcases here with here | here <;> simp [here]
  have same : { c with pc } = { c with pc, watch := .dropped } := by
    rw [← sound.unwatched here]
  rw [same]
  exact sound.restart quiet pc calls

theorem getW (here : c.pc = .reading) (present : elect = some node) (owned : node.data = ids node.owner) :
    Controller.Sound elect ids { c with pc := .setting node.data, watch := .armed } where
  unwatched called := by rcases called with called | called <;> cases called
  watched _ _ := by
    refine ⟨node, present, fun data set => by cases set; rfl, ?_⟩
    rintro ⟨_, _, here | here | here⟩ <;> cases here
  read data set := by
    cases set
    exact ⟨node.owner, owned⟩
  known := sound.known
  ready := sound.ready
  heard := .inl (sound.heard.resolve_right (by simp [here]))

theorem setLeaderID (named : ∀ i, ids i ≠ "") (here : c.pc = .setting data) :
    (c.setLeaderID data).Sound elect ids := by
  obtain ⟨owner, rfl⟩ := sound.read data here
  unfold Controller.setLeaderID
  split
  · constructor
    · rintro (called | called) <;> cases called
    · intro alive armed
      obtain ⟨node, present, read, _⟩ := sound.watched alive armed
      exact ⟨node, present, by rintro data ⟨⟩, fun _ => read _ here⟩
    · rintro data ⟨⟩
    · exact .inr ⟨owner, rfl⟩
    · simp [named owner]
    · exact .inr rfl
  · rename_i same
    have same : ids owner = c.leaderID := by simpa [named owner] using same
    constructor
    · rintro (called | called) <;> cases called
    · intro alive armed
      obtain ⟨node, present, read, _⟩ := sound.watched alive armed
      exact ⟨node, present, by rintro data ⟨⟩, fun _ => same ▸ read _ here⟩
    · rintro data ⟨⟩
    · exact sound.known
    · exact sound.ready
    · exact .inl (sound.heard.resolve_right (by simp [here]))

theorem receive (here : c.pc = .announcing) :
    Controller.Sound elect ids { c with pc := .waiting, seen := c.leaderID } where
  unwatched called := by rcases called with called | called <;> cases called
  watched alive armed := by
    obtain ⟨node, present, _, current⟩ := sound.watched alive armed
    exact ⟨node, present, by rintro data ⟨⟩, fun _ => current ⟨alive, armed, .inl here⟩⟩
  read data here := by cases here
  known := sound.known
  ready := sound.ready
  heard := .inl rfl

theorem quit (here : c.pc = .waiting ∨ c.pc = .creating) : Controller.Sound elect ids { c with pc := .returned } where
  unwatched called := by rcases called with called | called <;> cases called
  watched alive armed := by
    obtain ⟨node, present, _, current⟩ := sound.watched alive armed
    refine ⟨node, present, by rintro data ⟨⟩, fun _ => current ⟨alive, armed, ?_⟩⟩
    rcases here with here | here
    · exact .inr (.inl here)
    · rw [sound.unwatched (.inl here)] at armed
      cases armed
  read data here := by cases here
  known := sound.known
  ready := sound.ready
  heard := .inl (sound.heard.resolve_right (by rcases here with here | here <;> simp [here]))

/-- A watch that is not armed on a live session says nothing about the node. -/
theorem unarmed (watch : Watch) (alive : Bool) (still : c.pc = .creating ∨ c.pc = .reading → watch = .dropped)
    (stale : ¬ (alive = true ∧ watch = .armed)) (other : Option Znode) :
    Controller.Sound other ids { c with watch, alive } where
  unwatched := still
  watched live armed := absurd ⟨live, armed⟩ stale
  read := sound.read
  known := sound.known
  ready := sound.ready
  heard := sound.heard

theorem expire : Controller.Sound other ids { c with alive := false } :=
  sound.unarmed c.watch false sound.unwatched (by simp) _

theorem reconnect : Controller.Sound elect ids { c.invalidate with alive := true } := by
  unfold Controller.invalidate
  split
  · rename_i armed
    refine sound.unarmed (.fired false) true (fun calls => ?_) (by simp) elect
    rw [sound.unwatched calls] at armed
    cases armed
  · rename_i unarmed
    exact sound.unarmed c.watch true sound.unwatched (fun live => unarmed live.2) elect

theorem notify : c.notify.Sound none ids := by
  unfold Controller.notify
  split
  · rename_i live
    simp only [Bool.and_eq_true, decide_eq_true_eq] at live
    refine sound.unarmed (.fired true) c.alive (fun calls => ?_) (by simp) none
    rw [sound.unwatched calls] at live
    cases live.2
  · rename_i stale
    refine sound.unarmed c.watch c.alive sound.unwatched (fun live => stale ?_) none
    simp [live.1, live.2]

end Controller.Sound

/-- Where there was no node, no watch stood on a live session. -/
theorem Controller.Sound.appear (sound : Controller.Sound none ids c) (elect : Option Znode) : c.Sound elect ids := by
  refine sound.unarmed c.watch c.alive sound.unwatched ?_ elect
  rintro ⟨alive, armed⟩
  obtain ⟨node, present, _⟩ := sound.watched alive armed
  cases present

namespace Sound

/-- One controller changes, and the node does not. -/
theorem put (sound : Sound ids s) (alive : (s.controllers i).alive = true → c.alive = true)
    (own : c.Sound s.elect ids) : Sound ids (s.put i c) where
  owned node present := by
    obtain ⟨data, owner⟩ := sound.owned node present
    refine ⟨data, ?_⟩
    simp only [State.put]
    split
    · rename_i same
      exact alive (same ▸ owner)
    · exact owner
  each j := by
    simp only [State.put]
    split
    · exact own
    · exact sound.each j

/-- The node appears, made by a controller with a live session. -/
theorem appear (sound : Sound ids s) (absent : s.elect = none) (alive : (s.controllers i).alive = true) :
    Sound ids { s with elect := some ⟨i, ids i⟩ } where
  owned node present := by
    cases present
    exact ⟨rfl, alive⟩
  each j := (absent ▸ sound.each j).appear _

theorem expire (sound : Sound ids s) (i : Nat) : Sound ids (s.expire i) := by
  have dead (notOwner : ∀ node, s.elect = some node → node.owner ≠ i) :
      Sound ids (s.put i { s.controllers i with alive := false }) := by
    constructor
    · intro node present
      obtain ⟨data, owner⟩ := sound.owned node present
      exact ⟨data, by simpa only [State.put, if_neg (notOwner node present)] using owner⟩
    · intro j
      simp only [State.put]
      split
      · exact (sound.each i).expire
      · exact sound.each j
  unfold State.expire
  split
  · rename_i node present
    split
    · constructor
      · rintro node ⟨⟩
      · intro j
        dsimp only
        split
        · exact (sound.each i).expire
        · exact (sound.each j).notify
    · rename_i other
      refine dead fun owner here => ?_
      rw [present] at here
      cases here
      exact other
  · rename_i absent
    refine dead fun owner here => ?_
    rw [absent] at here
    cases here

theorem step (named : ∀ i, ids i ≠ "") (sound : Sound ids s) (step : Step ids s l t) : Sound ids t := by
  cases step with
  | @created _ i here alive absent =>
    have moved : Sound ids (s.put i { s.controllers i with pc := .reading }) :=
      sound.put id ((sound.each i).next (.inl here) .reading (.inr rfl))
    refine moved.appear (i := i) absent ?_
    simp only [State.put, if_pos]
    exact alive
  | nodeExists here alive => exact sound.put id ((sound.each _).next (.inl here) .reading (.inr rfl))
  | createFailed here => exact sound
  | createUnheard here alive absent => exact sound.appear absent alive
  | read here alive present => exact sound.put id ((sound.each _).getW here present (sound.owned _ present).1)
  | readFailed here => exact sound.put id ((sound.each _).next (.inr here) .creating (.inl rfl))
  | set here =>
    refine sound.put ?_ ((sound.each _).setLeaderID named here)
    unfold Controller.setLeaderID
    split <;> exact id
  | received here => exact sound.put id ((sound.each _).receive here)
  | deleted here fired => exact sound.put id ((sound.each _).restart (by simp [here]) .creating (.inl rfl))
  | changed here fired => exact sound.put id ((sound.each _).restart (by simp [here]) .reading (.inr rfl))
  | expire => exact sound.expire _
  | reconnect gone => exact sound.put (fun _ => rfl) (sound.each _).reconnect
  | quit here => exact sound.put id ((sound.each _).quit here)

theorem run (named : ∀ i, ids i ≠ "") (run : Run (Step ids) .initial ls s) : Sound ids s :=
  run.preserves (fun _ _ _ before step => before.step named step) .initial

end Sound

/-- Along every run, a controller whose watch stands on a live session takes the node's
owner for the leader, so two of them never differ and only one of them leads. Without a
node no such watch is left, so nobody sleeps through a vacancy. Leaders are IDs of
controllers, and no change of leader goes unannounced. -/
theorem zookeeper_leaders_agree (named : ∀ i, ids i ≠ "") (distinct : ∀ i j, ids i = ids j → i = j)
    (run : Run (Step ids) .initial ls s) :
    (∀ i, (s.controllers i).Current → ∃ owner, s.elect = some ⟨owner, ids owner⟩ ∧
        (s.controllers owner).alive = true ∧ (s.controllers i).leaderID = ids owner) ∧
      (∀ i j, (s.controllers i).Current → (s.controllers j).Current → (s.controllers i).leaderID = ids i →
        (s.controllers j).leaderID = ids j → i = j) ∧
      (s.elect = none → ∀ i, (s.controllers i).alive = true → (s.controllers i).watch ≠ .armed) ∧
      (∀ i, (s.controllers i).leaderID = "" ∨ ∃ j, (s.controllers i).leaderID = ids j) ∧
      ∀ i, (s.controllers i).seen = (s.controllers i).leaderID ∨ (s.controllers i).pc = .announcing := by
  have sound := Sound.run named run
  have follows (i : Nat) (current : (s.controllers i).Current) : ∃ owner, s.elect = some ⟨owner, ids owner⟩ ∧
      (s.controllers owner).alive = true ∧ (s.controllers i).leaderID = ids owner := by
    obtain ⟨node, present, _, leads⟩ := (sound.each i).watched current.1 current.2.1
    obtain ⟨data, alive⟩ := sound.owned node present
    exact ⟨node.owner, by rw [present, ← data], alive, (leads current).trans data⟩
  refine ⟨follows, ?_, ?_, fun i => (sound.each i).known, fun i => (sound.each i).heard⟩
  · intro i j current current' leads leads'
    obtain ⟨owner, present, _, led⟩ := follows i current
    obtain ⟨owner', present', _, led'⟩ := follows j current'
    cases present.symm.trans present'
    exact distinct i j ((leads.symm.trans led).trans (led'.symm.trans leads'))
  · intro absent i alive armed
    obtain ⟨node, present, _⟩ := (sound.each i).watched alive armed
    cases absent.symm.trans present

section Samples

def sampleIDs (i : Nat) : String := String.ofList (List.replicate (i + 1) 'c')

theorem sampleIDs_length (i : Nat) : (sampleIDs i).length = i + 1 := by simp [sampleIDs]

/-- Controller 0 leads until its session ends, 1 takes over, and 0 comes back. -/
def handover : List Label :=
  [.create 0, .getW 0, .setLeaderID 0, .receive 0, .create 1, .getW 1, .setLeaderID 1, .receive 1, .expire 0,
    .event 1, .create 1, .getW 1, .setLeaderID 1, .receive 1, .reconnect 0, .event 0, .getW 0, .setLeaderID 0, .receive 0]

end Samples

theorem zookeeper_leaders_agree_handover :
    ∃ s, Run (Step sampleIDs) .initial handover s ∧ (s.controllers 0).Current ∧ (s.controllers 1).Current ∧
      s.elect = some ⟨1, sampleIDs 1⟩ ∧ ∃ owner, s.elect = some ⟨owner, sampleIDs owner⟩ ∧
        (s.controllers 0).leaderID = sampleIDs owner := by
  have named (i : Nat) : sampleIDs i ≠ "" := by
    intro empty
    have := sampleIDs_length i
    rw [empty] at this
    cases this
  have distinct (i j : Nat) (same : sampleIDs i = sampleIDs j) : i = j := by
    have lengths := sampleIDs_length i
    rw [same, sampleIDs_length j] at lengths
    omega
  have run : Run (Step sampleIDs) .initial handover _ :=
    .cons (.created rfl rfl rfl) (.cons (.read rfl rfl rfl) (.cons (.set rfl) (.cons (.received rfl)
    (.cons (.nodeExists rfl rfl) (.cons (.read rfl rfl rfl) (.cons (.set rfl) (.cons (.received rfl)
    (.cons .expire (.cons (.deleted rfl rfl) (.cons (.created rfl rfl rfl) (.cons (.read rfl rfl rfl)
    (.cons (.set rfl) (.cons (.received rfl) (.cons (.reconnect rfl) (.cons (.changed rfl rfl)
    (.cons (.read rfl rfl rfl) (.cons (.set rfl) (.cons (.received rfl) .nil))))))))))))))))))
  obtain ⟨owner, present, _, led⟩ :=
    (zookeeper_leaders_agree named distinct run).1 0 ⟨rfl, rfl, .inr (.inl rfl)⟩
  exact ⟨_, run, ⟨rfl, rfl, .inr (.inl rfl)⟩, ⟨rfl, rfl, .inr (.inl rfl)⟩, rfl, owner, present, led⟩

end Kvrocks.Election.Zookeeper
