import KvrocksController.Lib.Campaigns
import Mathlib.Data.List.Nodup

/-! The election over etcd. Whoever campaigns puts a key under the election path, on a
lease of its own, and waits until the keys that are older are gone; the oldest key is the
leader's. `electLoop` campaigns, `observeLeaderEvent` follows the oldest key through the
election that the other loop hands to it. -/
namespace Kvrocks.Election.Etcd
open Transition

/-- `electLoop`. `offering` is the send of the new election on `electionCh`; `queued` is
inside `Campaign`, once its key is there, with the revision that the key was created at. -/
inductive Elect where
  | absent
  | creating
  | offering (lease : Nat)
  | campaigning (lease : Nat)
  | queued (lease rev : Nat)
  | elected (lease : Nat)
  | returned
deriving DecidableEq, Repr

/-- `observeLeaderEvent`: before its first election, in its `select`, or in a send on
`leaderChangeCh`. -/
inductive Observe where
  | idle
  | observing
  | announcing
  | returned
deriving DecidableEq, Repr

structure Key where
  lease : Nat
  rev : Nat
  value : String
deriving DecidableEq, Repr

/-- `rev` is that of the key which `Observe` has fetched last, `resp` that key until the
channel has delivered it. `seen` is a ghost: the leader when `syncLoop` last looked. -/
structure Controller where
  leaderID : String
  isReady : Bool
  elect : Elect
  observe : Observe
  rev : Option Nat
  resp : Option Key
  seen : String
deriving DecidableEq, Repr

/-- The keys under the election path, oldest first, all with revisions below `rev`. -/
structure State where
  keys : List Key
  rev : Nat
  leases : Leases
  controllers : Nat → Controller

inductive Label where
  | new (i : Nat)
  | newSession (i : Nat)
  | offer (i : Nat)
  | campaign (i : Nat)
  | waitDeletes (i : Nat)
  | sessionDone (i : Nat)
  | expire (lease : Nat)
  | fetch (i : Nat)
  | observe (i : Nat)
  | closed (i : Nat)
  | receive (i : Nat)
  | quit (i : Nat)

def Controller.start : Controller where
  leaderID := ""
  isReady := false
  elect := .absent
  observe := .idle
  rev := none
  resp := none
  seen := ""

namespace State

def put (s : State) (i : Nat) (c : Controller) : State :=
  { s with controllers := fun other => if other = i then c else s.controllers other }

def create (s : State) (i : Nat) : State := { s with leases := s.leases.grant i }

def append (s : State) (lease : Nat) (value : String) : State :=
  { s with keys := s.keys ++ [⟨lease, s.rev, value⟩], rev := s.rev + 1 }

/-- A key goes with its lease. -/
def expire (s : State) (lease : Nat) : State :=
  { s with leases := s.leases.expire lease, keys := s.keys.filter (·.lease != lease) }

def initial : State := ⟨[], 0, .start, fun _ => .start⟩

end State

section System
variable (ids : Nat → String)

/-- `Campaign` fails for a key on a lease that has ended, and whenever it does not get
through, be the key put or not; it is called again at once. A session is done when its lease
has ended, or earlier. The channel of `Observe` closes with the watch behind it. -/
inductive Step : State → Label → State → Prop where
  | new (here : (s.controllers i).elect = .absent) :
      Step s (.new i) (s.put i { Controller.start with elect := .creating })
  | created (here : (s.controllers i).elect = .creating) :
      Step s (.newSession i) ((s.create i).put i { s.controllers i with elect := .offering s.leases.granted })
  | createFailed (here : (s.controllers i).elect = .creating) : Step s (.newSession i) s
  | createUnheard (here : (s.controllers i).elect = .creating) : Step s (.newSession i) (s.create i)
  | offered (offers : (s.controllers i).elect = .offering n)
      (takes : (s.controllers i).observe = .idle ∨ (s.controllers i).observe = .observing) :
      Step s (.offer i) (s.put i { s.controllers i with
        elect := .campaigning n, observe := .observing, rev := none, resp := none })
  | putKey (here : (s.controllers i).elect = .campaigning n) (live : s.leases.live n = true)
      (missing : ∀ key ∈ s.keys, key.lease ≠ n) :
      Step s (.campaign i) ((s.put i { s.controllers i with elect := .queued n s.rev }).append n (ids i))
  | foundKey (here : (s.controllers i).elect = .campaigning n) (found : ⟨n, rev, ids i⟩ ∈ s.keys) :
      Step s (.campaign i) (s.put i { s.controllers i with elect := .queued n rev })
  | campaignFailed (here : (s.controllers i).elect = .campaigning n) : Step s (.campaign i) s
  | campaignUnheard (here : (s.controllers i).elect = .campaigning n) (live : s.leases.live n = true)
      (missing : ∀ key ∈ s.keys, key.lease ≠ n) : Step s (.campaign i) (s.append n (ids i))
  | first (here : (s.controllers i).elect = .queued n rev) (oldest : ∀ key ∈ s.keys, rev ≤ key.rev) :
      Step s (.waitDeletes i) (s.put i { s.controllers i with elect := .elected n })
  | waitFailed (here : (s.controllers i).elect = .queued n rev) :
      Step s (.waitDeletes i) (s.put i { s.controllers i with elect := .campaigning n })
  | sessionDone (here : (s.controllers i).elect = .elected n) :
      Step s (.sessionDone i) (s.put i { s.controllers i with elect := .creating })
  | expire (live : s.leases.live n = true) : Step s (.expire n) (s.expire n)
  | fetched (here : (s.controllers i).observe = .observing ∨ (s.controllers i).observe = .announcing)
      (oldest : s.keys = key :: rest) (changed : (s.controllers i).rev ≠ some key.rev)
      (free : (s.controllers i).resp = none) :
      Step s (.fetch i) (s.put i { s.controllers i with rev := some key.rev, resp := some key })
  | observed (here : (s.controllers i).observe = .observing) (delivers : (s.controllers i).resp = some key) :
      Step s (.observe i)
        (s.put i { s.controllers i with leaderID := key.value, resp := none, isReady := true, observe := .announcing })
  | closed (here : (s.controllers i).observe = .observing) :
      Step s (.closed i)
        (s.put i { s.controllers i with rev := none, resp := none, isReady := true, observe := .announcing })
  | received (announces : (s.controllers i).observe = .announcing) :
      Step s (.receive i) (s.put i { s.controllers i with observe := .observing, seen := (s.controllers i).leaderID })
  | quitElect (here : (s.controllers i).elect = .creating ∨ ∃ n, (s.controllers i).elect = .elected n) :
      Step s (.quit i) (s.put i { s.controllers i with elect := .returned })
  | quitObserve (here : (s.controllers i).observe = .idle ∨ (s.controllers i).observe = .observing) :
      Step s (.quit i) (s.put i { s.controllers i with observe := .returned })

end System

variable {ids : Nat → String} {s t : State} {c : Controller}

/-- The session that `electLoop` goes on with. -/
def Elect.lease : Elect → Option Nat
  | .offering n | .campaigning n | .queued n _ | .elected n => some n
  | .absent | .creating | .returned => none

/-- The last leader that was fetched. -/
def Controller.latest (c : Controller) : String :=
  match c.resp with
  | some key => key.value
  | none => c.leaderID

/-- The keys: in order, each on a live lease, with the ID of its holder. -/
structure Queue (ids : Nat → String) (s : State) : Prop where
  sorted : s.keys.Pairwise (·.rev < ·.rev)
  below : ∀ key ∈ s.keys, key.rev < s.rev
  owned : ∀ key ∈ s.keys, s.leases.live key.lease = true ∧ key.value = ids (s.leases.holder key.lease)

/-- What a controller knows of the keys. A revision is that of one key for good. -/
structure Controller.Sound (ids : Nat → String) (s : State) (i : Nat) (c : Controller) : Prop where
  campaigns : ∀ n, c.elect.lease = some n → n < s.leases.granted ∧ s.leases.holder n = i
  queued : ∀ n rev, c.elect = .queued n rev → s.leases.live n = true → ⟨n, rev, ids i⟩ ∈ s.keys
  elected : ∀ n, c.elect = .elected n → s.leases.live n = true → ∃ rev rest, s.keys = ⟨n, rev, ids i⟩ :: rest
  fetched : ∀ rev, c.rev = some rev → rev < s.rev ∧ ∀ key ∈ s.keys, key.rev = rev → c.latest = key.value
  heard : c.seen = c.leaderID ∨ c.observe = .announcing

namespace Queue

theorem append (queue : Queue ids s) (live : s.leases.live n = true) (owner : s.leases.holder n = i) :
    Queue ids (s.append n (ids i)) := by
  obtain ⟨sorted, below, owned⟩ := queue
  refine ⟨List.pairwise_append.mpr ⟨sorted, List.pairwise_singleton _ _, fun key member new same => ?_⟩, fun key member => ?_,
    fun key member => ?_⟩
  · obtain rfl := List.mem_singleton.mp same
    exact below key member
  · rcases List.mem_append.mp member with old | new
    · exact Nat.lt_succ_of_lt (below key old)
    · obtain rfl := List.mem_singleton.mp new
      exact Nat.lt_succ_self _
  · rcases List.mem_append.mp member with old | new
    · exact owned key old
    · obtain rfl := List.mem_singleton.mp new
      exact ⟨live, by simp only [State.append, owner]⟩

theorem create (queue : Queue ids s) (i : Nat) : Queue ids (s.create i) := by
  refine ⟨queue.sorted, queue.below, fun key member => ?_⟩
  obtain ⟨live, value⟩ := queue.owned key member
  refine ⟨Leases.live_grant live i, ?_⟩
  rw [value]
  exact congrArg ids (Leases.Evolves.grant.holder (s.leases.fresh _ live)).symm

theorem expire (queue : Queue ids s) (lease : Nat) : Queue ids (s.expire lease) := by
  refine ⟨queue.sorted.filter _, fun key member => ?_, fun key member => ?_⟩
  · exact queue.below key (List.mem_filter.mp member).1
  · obtain ⟨old, kept⟩ := List.mem_filter.mp member
    obtain ⟨live, value⟩ := queue.owned key old
    exact ⟨Leases.live_expire_of_ne (by simpa using kept) live, value⟩

/-- Two keys of one revision are one. -/
theorem unique (queue : Queue ids s) (here : key ∈ s.keys) (there : other ∈ s.keys) (same : key.rev = other.rev) :
    key = other := by
  have distinct : (s.keys.map (·.rev)).Nodup := List.pairwise_map.mpr (queue.sorted.imp Nat.ne_of_lt)
  exact List.inj_on_of_nodup_map distinct here there same

/-- The oldest key is the first one. -/
theorem oldest (queue : Queue ids s) (here : key ∈ s.keys) (oldest : ∀ other ∈ s.keys, key.rev ≤ other.rev) :
    ∃ rest, s.keys = key :: rest := by
  cases split : s.keys with
  | nil => rw [split] at here; cases here
  | cons first rest =>
    have sorted := queue.sorted
    rw [split] at here oldest sorted
    rcases List.mem_cons.mp here with rfl | later
    · exact ⟨rest, rfl⟩
    · have before := (List.pairwise_cons.mp sorted).1 key later
      have after := oldest first List.mem_cons_self
      omega

end Queue

namespace Controller.Sound
variable {i : Nat}

/-- Keys come at the end, leases are granted, or neither. -/
theorem grow (sound : c.Sound ids s i) (new : List Key) (leases : Leases.Evolves s.leases after)
    (live : ∀ n, n < s.leases.granted → after.live n = true → s.leases.live n = true) (rev : s.rev ≤ rev')
    (fresh : ∀ key ∈ new, s.rev ≤ key.rev) (controllers : Nat → Controller) :
    c.Sound ids ⟨s.keys ++ new, rev', after, controllers⟩ i where
  campaigns n here := by
    obtain ⟨older, owner⟩ := sound.campaigns n here
    exact ⟨leases.older older, (leases.holder older).trans owner⟩
  queued n r here alive := by
    have older := (sound.campaigns n (by rw [here]; rfl)).1
    exact List.mem_append_left _ (sound.queued n r here (live n older alive))
  elected n here alive := by
    have older := (sound.campaigns n (by rw [here]; rfl)).1
    obtain ⟨r, rest, first⟩ := sound.elected n here (live n older alive)
    exact ⟨r, rest ++ new, by rw [first]; rfl⟩
  fetched r here := by
    obtain ⟨bound, known⟩ := sound.fetched r here
    refine ⟨Nat.lt_of_lt_of_le bound rev, fun key member same => ?_⟩
    rcases List.mem_append.mp member with old | later
    · exact known key old same
    · have := fresh key later
      omega
  heard := sound.heard

theorem expire (sound : c.Sound ids s i) (lease : Nat) : c.Sound ids (s.expire lease) i where
  campaigns := sound.campaigns
  queued n rev here alive := by
    obtain ⟨other, live⟩ := Leases.live_expire alive
    exact List.mem_filter.mpr ⟨sound.queued n rev here live, by simpa using other⟩
  elected n here alive := by
    obtain ⟨other, live⟩ := Leases.live_expire alive
    obtain ⟨rev, rest, first⟩ := sound.elected n here live
    refine ⟨rev, rest.filter (·.lease != lease), ?_⟩
    simp only [State.expire, first]
    rw [List.filter_cons_of_pos (by simpa using other)]
  fetched rev here := by
    obtain ⟨bound, known⟩ := sound.fetched rev here
    exact ⟨bound, fun key member => known key (List.mem_filter.mp member).1⟩
  heard := sound.heard

/-- A step of `electLoop` to where it has no key to count on. -/
theorem move {elect : Elect} (sound : c.Sound ids s i)
    (lease : ∀ n, elect.lease = some n → n < s.leases.granted ∧ s.leases.holder n = i)
    (unqueued : ∀ n rev, elect ≠ .queued n rev) (unelected : ∀ n, elect ≠ .elected n) :
    Controller.Sound ids s i { c with elect } where
  campaigns := lease
  queued n rev here := absurd here (unqueued n rev)
  elected n here := absurd here (unelected n)
  fetched := sound.fetched
  heard := sound.heard

/-- A step of `observeLeaderEvent`. -/
theorem observe (sound : c.Sound ids s i) (elect : c'.elect = c.elect)
    (fetched : ∀ rev, c'.rev = some rev → rev < s.rev ∧ ∀ key ∈ s.keys, key.rev = rev → c'.latest = key.value)
    (heard : c'.seen = c'.leaderID ∨ c'.observe = .announcing) : Controller.Sound ids s i c' where
  campaigns := by
    rw [elect]
    exact sound.campaigns
  queued := by
    rw [elect]
    exact sound.queued
  elected := by
    rw [elect]
    exact sound.elected
  fetched := fetched
  heard := heard

theorem start (s : State) (i : Nat) : Controller.start.Sound ids s i := by
  constructor <;> simp [Controller.start, Elect.lease]

/-- The lease stays the same inside the loop. -/
theorem lease {elect : Elect} (sound : c.Sound ids s i) (here : c.elect.lease = some n) (same : elect.lease = some n) :
    ∀ m, elect.lease = some m → m < s.leases.granted ∧ s.leases.holder m = i := by
  intro m found
  rw [same] at found
  cases found
  exact sound.campaigns n here

theorem queue {rev : Nat} (sound : c.Sound ids s i) (here : c.elect.lease = some n) (present : ⟨n, rev, ids i⟩ ∈ s.keys) :
    Controller.Sound ids s i { c with elect := .queued n rev } where
  campaigns := sound.lease here rfl
  queued m r same _ := by
    cases same
    exact present
  elected m same := by cases same
  fetched := sound.fetched
  heard := sound.heard

theorem win {rev : Nat} (sound : c.Sound ids s i) (queue : Queue ids s) (here : c.elect = .queued n rev)
    (oldest : ∀ key ∈ s.keys, rev ≤ key.rev) : Controller.Sound ids s i { c with elect := .elected n } where
  campaigns := sound.lease (by rw [here]; rfl) rfl
  queued m r same := by cases same
  elected m same alive := by
    cases same
    obtain ⟨rest, first⟩ := queue.oldest (sound.queued n rev here alive) oldest
    exact ⟨rev, rest, first⟩
  fetched := sound.fetched
  heard := sound.heard

/-- Outside of a send on `leaderChangeCh`, the leader has been looked at. -/
theorem told (sound : c.Sound ids s i) (here : c.observe = .idle ∨ c.observe = .observing) : c.seen = c.leaderID := by
  rcases sound.heard with seen | announces
  · exact seen
  · rcases here with here | here <;> rw [here] at announces <;> cases announces

theorem offer (sound : c.Sound ids s i) (offers : c.elect = .offering n)
    (takes : c.observe = .idle ∨ c.observe = .observing) :
    Controller.Sound ids s i { c with elect := .campaigning n, observe := .observing, rev := none, resp := none } := by
  have moved : Controller.Sound ids s i { c with elect := .campaigning n } :=
    sound.move (sound.lease (by rw [offers]; rfl) rfl) (by simp) (by simp)
  exact moved.observe rfl (by simp) (.inl (sound.told takes))

theorem fetch (sound : c.Sound ids s i) (queue : Queue ids s) (oldest : s.keys = key :: rest) :
    Controller.Sound ids s i { c with rev := some key.rev, resp := some key } := by
  have member : key ∈ s.keys := by
    rw [oldest]
    exact List.mem_cons_self
  refine sound.observe rfl (fun rev same => ?_) sound.heard
  cases same
  refine ⟨queue.below key member, fun other there same => ?_⟩
  rw [queue.unique there member same]
  rfl

theorem deliver (sound : c.Sound ids s i) (delivers : c.resp = some key) :
    Controller.Sound ids s i { c with leaderID := key.value, resp := none, isReady := true, observe := .announcing } := by
  refine sound.observe rfl (fun rev here => ?_) (.inr rfl)
  have known := sound.fetched rev here
  rwa [Controller.latest, delivers] at known

theorem receive (sound : c.Sound ids s i) :
    Controller.Sound ids s i { c with observe := .observing, seen := c.leaderID } :=
  sound.observe rfl sound.fetched (.inl rfl)

end Controller.Sound

structure Sound (ids : Nat → String) (s : State) : Prop where
  queue : Queue ids s
  each : ∀ i, (s.controllers i).Sound ids s i

namespace Sound

theorem initial : Sound ids .initial where
  queue := by constructor <;> simp [State.initial]
  each i := .start _ i

theorem put (sound : Sound ids s) (own : c.Sound ids s i) : Sound ids (s.put i c) := by
  refine ⟨⟨sound.queue.sorted, sound.queue.below, sound.queue.owned⟩, fun j => ?_⟩
  have framed : ((s.put i c).controllers j).Sound ids s j := by
    simp only [State.put]
    split
    next same =>
      subst same
      exact own
    · exact sound.each j
  exact ⟨framed.campaigns, framed.queued, framed.elected, framed.fetched, framed.heard⟩

theorem create (sound : Sound ids s) (i : Nat) : Sound ids (s.create i) where
  queue := sound.queue.create i
  each j := by
    have grown := (sound.each j).grow [] (.grant : Leases.Evolves s.leases (s.leases.grant i))
      (fun n older alive => ?_) (Nat.le_refl _) (by simp) s.controllers
    · rwa [List.append_nil] at grown
    · exact (if_neg (Nat.ne_of_lt older)).symm.trans alive

theorem append (sound : Sound ids s) (live : s.leases.live n = true) (owner : s.leases.holder n = i) :
    Sound ids (s.append n (ids i)) where
  queue := sound.queue.append live owner
  each j := (sound.each j).grow [_] .same (fun _ _ alive => alive) (Nat.le_succ _) (by simp) s.controllers

theorem expire (sound : Sound ids s) (n : Nat) : Sound ids (s.expire n) where
  queue := sound.queue.expire n
  each j := (sound.each j).expire n

theorem step (sound : Sound ids s) (step : Step ids s l t) : Sound ids t := by
  have each := sound.each
  cases step with
  | new here => exact sound.put ((Controller.Sound.start s _).move (by simp [Elect.lease]) (by simp) (by simp))
  | created here =>
    refine (sound.create _).put (((sound.create _).each _).move (fun n same => ?_) (by simp) (by simp))
    cases same
    exact ⟨Nat.lt_succ_self _, s.leases.holder_grant_self _⟩
  | createFailed here => exact sound
  | createUnheard here => exact sound.create _
  | offered offers takes => exact sound.put ((each _).offer offers takes)
  | putKey here live missing =>
    have lease := congrArg Elect.lease here
    have added := sound.append live ((each _).campaigns _ lease).2
    exact added.put ((added.each _).queue lease (List.mem_append_right _ List.mem_cons_self))
  | foundKey here found => exact sound.put ((each _).queue (congrArg Elect.lease here) found)
  | campaignFailed here => exact sound
  | campaignUnheard here live missing => exact sound.append live ((each _).campaigns _ (congrArg Elect.lease here)).2
  | first here oldest => exact sound.put ((each _).win sound.queue here oldest)
  | waitFailed here =>
    exact sound.put ((each _).move ((each _).lease (congrArg Elect.lease here) rfl) (by simp) (by simp))
  | sessionDone here => exact sound.put ((each _).move (by simp [Elect.lease]) (by simp) (by simp))
  | expire live => exact sound.expire _
  | fetched here oldest changed free => exact sound.put ((each _).fetch sound.queue oldest)
  | observed here delivers => exact sound.put ((each _).deliver delivers)
  | closed here => exact sound.put ((each _).observe rfl (by simp) (.inr rfl))
  | received announces => exact sound.put (each _).receive
  | quitElect here => exact sound.put ((each _).move (by simp [Elect.lease]) (by simp) (by simp))
  | quitObserve here => exact sound.put ((each _).observe rfl (each _).fetched (.inl ((each _).told here)))

theorem run (run : Run (Step ids) .initial ls s) : Sound ids s :=
  run.preserves (fun _ _ _ before step => before.step step) initial

end Sound

/-- Along every run, a controller that has the oldest key delivered takes the holder of its
lease, which is live, for the leader. Whoever has won its campaign and still has its lease
owns the oldest key, so no two of them coexist. No change of leader goes unannounced. -/
theorem etcd_leaders_agree (run : Run (Step ids) .initial ls s) :
    (∀ i key rest, s.keys = key :: rest → (s.controllers i).rev = some key.rev → (s.controllers i).resp = none →
        s.leases.live key.lease = true ∧ (s.controllers i).leaderID = ids (s.leases.holder key.lease)) ∧
      (∀ i n, (s.controllers i).elect = .elected n → s.leases.live n = true →
        ∃ rev rest, s.keys = ⟨n, rev, ids i⟩ :: rest ∧ s.leases.holder n = i) ∧
      (∀ i j n m, (s.controllers i).elect = .elected n → (s.controllers j).elect = .elected m →
        s.leases.live n = true → s.leases.live m = true → i = j) ∧
      ∀ i, (s.controllers i).seen = (s.controllers i).leaderID ∨ (s.controllers i).observe = .announcing := by
  have sound := Sound.run run
  have wins (i n : Nat) (here : (s.controllers i).elect = .elected n) (live : s.leases.live n = true) :
      ∃ rev rest, s.keys = ⟨n, rev, ids i⟩ :: rest ∧ s.leases.holder n = i := by
    obtain ⟨rev, rest, first⟩ := (sound.each i).elected n here live
    exact ⟨rev, rest, first, ((sound.each i).campaigns n (congrArg Elect.lease here)).2⟩
  refine ⟨fun i key rest oldest fetched delivered => ?_, wins, fun i j n m here there live alive => ?_,
    fun i => (sound.each i).heard⟩
  · have member : key ∈ s.keys := by
      rw [oldest]
      exact List.mem_cons_self
    obtain ⟨live, value⟩ := sound.queue.owned key member
    have known := ((sound.each i).fetched key.rev fetched).2 key member rfl
    rw [Controller.latest, delivered] at known
    exact ⟨live, known.trans value⟩
  · obtain ⟨rev, rest, first, holder⟩ := wins i n here live
    obtain ⟨rev', rest', first', holder'⟩ := wins j m there alive
    rw [first] at first'
    have same : n = m := congrArg Key.lease (List.cons.inj first').1
    rw [← holder, same, holder']

section Samples

def names (i : Nat) : String := if i = 0 then "a" else "b"

/-- Controller 0 wins, 1 queues up behind it and observes; the lease of 0 ends, 1 is first
then, and 0 has the change fetched but not delivered. -/
def handover : List Label :=
  [.new 0, .newSession 0, .offer 0, .campaign 0, .waitDeletes 0, .fetch 0, .observe 0, .receive 0,
    .new 1, .newSession 1, .offer 1, .campaign 1, .fetch 1, .observe 1, .receive 1,
    .expire 0, .waitDeletes 1, .fetch 1, .observe 1, .receive 1, .fetch 0]

end Samples

theorem etcd_leaders_agree_handover :
    ∃ s, Run (Step names) .initial handover s ∧ s.keys = [⟨1, 1, "b"⟩] ∧ (s.controllers 1).elect = .elected 1 ∧
      (s.controllers 1).leaderID = "b" ∧ (s.controllers 0).elect = .elected 0 ∧ s.leases.live 0 = false ∧
      (s.controllers 0).leaderID = "a" := by
  have run : Run (Step names) .initial handover _ :=
    .cons (.new rfl) (.cons (.created rfl) (.cons (.offered rfl (.inl rfl)) (.cons (.putKey rfl rfl (List.forall_mem_nil _))
    (.cons (.first rfl (by decide)) (.cons (.fetched (.inl rfl) rfl (by decide) rfl) (.cons (.observed rfl rfl) (.cons (.received rfl)
    (.cons (.new rfl) (.cons (.created rfl) (.cons (.offered rfl (.inl rfl)) (.cons (.putKey rfl rfl (by decide))
    (.cons (.fetched (.inl rfl) rfl (by decide) rfl) (.cons (.observed rfl rfl) (.cons (.received rfl)
    (.cons (.expire rfl) (.cons (.first rfl (by decide)) (.cons (.fetched (.inl rfl) rfl (by decide) rfl)
    (.cons (.observed rfl rfl) (.cons (.received rfl) (.cons (.fetched (.inl rfl) rfl (by decide) rfl) .nil))))))))))))))))))))
  exact ⟨_, run, rfl, rfl, ((etcd_leaders_agree run).1 1 _ _ rfl rfl rfl).2, rfl, rfl, rfl⟩

theorem Step.leases (step : Step ids s l t) : Leases.Evolves s.leases t.leases := by
  cases step with
  | created here => exact .grant
  | createUnheard here => exact .grant
  | expire live => exact .expire
  | _ => exact .same

/-- The lease that `electLoop` calls `Campaign` with. -/
def Elect.calls : Elect → Option Nat
  | .campaigning lease => some lease
  | .absent | .creating | .offering _ | .queued .. | .elected _ | .returned => none

@[simp] theorem Elect.calls_eq_some {elect : Elect} : elect.calls = some n ↔ elect = .campaigning n := by
  cases elect <;> simp [calls]

def State.campaigns (s : State) : Campaigns where
  leases := s.leases
  calls i := (s.controllers i).elect.calls
  placed n := ∃ key ∈ s.keys, key.lease = n

theorem Sound.placed (sound : Sound ids s) : s.campaigns.Sound where
  granted i n calls := (sound.each i).campaigns n (congrArg Elect.lease (Elect.calls_eq_some.mp calls))
  live n placed := by
    obtain ⟨key, member, rfl⟩ := placed
    exact (sound.queue.owned key member).1

/-- A call of `Campaign` with a lease that has ended is followed by another one. -/
theorem Step.again {i n : Nat} (step : Step ids s l t) (queue : Queue ids s)
    (here : (s.controllers i).elect = .campaigning n) (dead : s.leases.live n = false) :
    (t.controllers i).elect = .campaigning n := by
  have put : ∀ {j c}, (i = j → c.elect = .campaigning n) → ((s.put j c).controllers i).elect = .campaigning n :=
    Transition.kept (P := fun c : Controller => c.elect = .campaigning n) here
  -- the other steps of `electLoop` start elsewhere, or need a live lease
  have elsewhere : ∀ {j c}, (s.controllers j).elect ≠ .campaigning n →
      ((s.put j c).controllers i).elect = .campaigning n := fun away =>
    put fun own => absurd (own ▸ here) away
  cases step with
  | new at_ => exact elsewhere (by simp [at_])
  | created at_ => exact elsewhere (by simp [at_])
  | offered offers takes => exact elsewhere (by simp [offers])
  | putKey at_ live missing => exact elsewhere (by simp [at_, Leases.ne_of_live live dead])
  | foundKey at_ found =>
    have live := (queue.owned _ found).1
    exact elsewhere (by simp [at_, Leases.ne_of_live live dead])
  | first at_ oldest => exact elsewhere (by simp [at_])
  | waitFailed at_ => exact elsewhere (by simp [at_])
  | sessionDone at_ => exact elsewhere (by simp [at_])
  | quitElect at_ => exact elsewhere (by rcases at_ with at_ | ⟨m, at_⟩ <;> simp [at_])
  | fetched at_ oldest changed free => exact put fun own => own ▸ here
  | observed at_ delivers => exact put fun own => own ▸ here
  | closed at_ => exact put fun own => own ▸ here
  | received announces => exact put fun own => own ▸ here
  | quitObserve at_ => exact put fun own => own ▸ here
  | createFailed at_ => exact here
  | createUnheard at_ => exact here
  | campaignFailed at_ => exact here
  | campaignUnheard at_ live missing => exact here
  | expire live => exact here

/-- Only a call of `Campaign` that gets through puts a key. -/
theorem Step.taken {n : Nat} (step : Step ids s l t) (placed : t.campaigns.placed n) :
    s.campaigns.placed n ∨ ∃ i, s.campaigns.calls i = some n ∧ s.leases.live n = true := by
  have append : ∀ {i m value}, (s.controllers i).elect = .campaigning m → s.leases.live m = true →
      (s.append m value).campaigns.placed n →
      s.campaigns.placed n ∨ ∃ i, s.campaigns.calls i = some n ∧ s.leases.live n = true := by
    rintro i m value here live ⟨key, member, rfl⟩
    rcases List.mem_append.mp member with old | new
    · exact .inl ⟨key, old, rfl⟩
    · obtain rfl := List.mem_singleton.mp new
      exact .inr ⟨i, Elect.calls_eq_some.mpr here, live⟩
  cases step with
  | putKey here live missing => exact append here live placed
  | campaignUnheard here live missing => exact append here live placed
  | expire live =>
    obtain ⟨key, member, lease⟩ := placed
    exact .inl ⟨key, (List.mem_filter.mp member).1, lease⟩
  | _ => exact .inl placed

theorem Step.campaigns (step : Step ids s l t) (queue : Queue ids s) : s.campaigns.Evolves t.campaigns where
  leases := step.leases
  again _ _ calls dead := Elect.calls_eq_some.mpr (step.again queue (Elect.calls_eq_some.mp calls) dead)
  taken _ := step.taken

theorem Sound.campaigns (run : Run (Step ids) s ls t) (sound : Sound ids s) :
    Run Campaigns.Step s.campaigns ls t.campaigns :=
  run.refines (fun _ _ _ before step => ⟨before.step step, before.placed, step.campaigns before.queue⟩) sound

/-- A lease that ends before its key is put takes its controller out of the election for
good: whatever happens, and asked to quit or not, `electLoop` goes on calling `Campaign`, and
no key of the controller gets into the queue again. -/
theorem etcd_expired_campaign_sticks {i n : Nat} (before : Run (Step ids) .initial ls s)
    (campaigning : (s.controllers i).elect = .campaigning n) (dead : s.leases.live n = false)
    (run : Run (Step ids) s ms t) :
    (t.controllers i).elect = .campaigning n ∧
      ((∀ key ∈ s.keys, s.leases.holder key.lease ≠ i) → ∀ key ∈ t.keys, t.leases.holder key.lease ≠ i) := by
  have stuck : s.campaigns.Stuck i n := ⟨Elect.calls_eq_some.mpr campaigning, dead⟩
  have campaigns := (Sound.run before).campaigns run
  refine ⟨Elect.calls_eq_some.mp (stuck.run campaigns).calls, fun out key member => ?_⟩
  have ousted : s.campaigns.Ousted i := by
    rintro _ ⟨key, member, rfl⟩
    exact out key member
  exact ousted.run campaigns stuck key.lease ⟨key, member, rfl⟩

section Samples

/-- `Campaign` fails for longer than the lease lasts. -/
def outage : List Label := [.new 0, .newSession 0, .offer 0, .campaign 0, .expire 0]

def reconnected : List Label := [.campaign 0, .new 1, .newSession 1, .offer 1, .campaign 1, .waitDeletes 1, .expire 1, .campaign 0]

end Samples

theorem etcd_expired_campaign_sticks_outage :
    ∃ s t, Run (Step names) .initial outage s ∧ Run (Step names) s reconnected t ∧
      (t.controllers 0).elect = .campaigning 0 ∧ t.keys = [] := by
  have runs : ∃ s t, Run (Step names) .initial outage s ∧ (s.controllers 0).elect = .campaigning 0 ∧
      s.leases.live 0 = false ∧ Run (Step names) s reconnected t ∧ t.keys = [] :=
    ⟨_, _,
      .cons (.new rfl) (.cons (.created rfl) (.cons (.offered rfl (.inl rfl)) (.cons (.campaignFailed rfl)
      (.cons (.expire rfl) .nil)))), rfl, rfl,
      .cons (.campaignFailed rfl) (.cons (.new rfl) (.cons (.created rfl) (.cons (.offered rfl (.inl rfl))
      (.cons (.putKey rfl rfl (by decide)) (.cons (.first rfl (by decide)) (.cons (.expire rfl)
      (.cons (.campaignFailed rfl) .nil))))))), rfl⟩
  obtain ⟨s, t, before, campaigning, dead, run, empty⟩ := runs
  exact ⟨s, t, before, run, (etcd_expired_campaign_sticks before campaigning dead run).1, empty⟩

end Kvrocks.Election.Etcd
