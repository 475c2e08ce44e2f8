import KvrocksController.Concurrency.Resuming

/-! Whether a controller that lost the leadership still runs checkers. Each loop reads the
leader on its own and acts on it later: an event passed by `leaderEventLoop` before the
loss is handled behind `suspend`, and `syncLoop` suspends only where it remembers having
been the leader. -/
namespace Kvrocks.Controller
open Kvrocks.Transition ClusterStore
open Orphans (withNamespace sample)

variable {self : String} {s t : State}

/-- The node leads, or `syncLoop` will hear that it does not. -/
def Due (self : String) (s : State) : Prop := s.leader = self ∨ 0 < s.notifications

/-- No insertion meets another. `leaderEventLoop` inserts only while the node leads or a
suspension is still ahead, and `syncLoop` passes over a loss only if nothing is watched. -/
def Heeded (self : String) (s : State) (l : Label) : Prop :=
  Uncontended s l ∧ match l with
    | .eventLoop => ∀ ns cluster k, s.eventLoop = .inserting ns cluster k →
        Due self s ∨ s.syncLoop = .notified ∨ s.syncLoop = .suspending
    | .syncLoop _ => s.syncLoop = .notified → s.leader ≠ self → s.prevTermLeader ≠ self → ∀ key, s.clusters key = none
    | _ => True

def SyncPc.resumes : SyncPc → Bool
  | .resuming _ | .listing _ _ | .adding _ _ _ _ | .inserting _ _ _ _ _ _ => true
  | _ => false

/-- A look at the leader, or the suspension, is ahead. -/
def SyncPc.decides : SyncPc → Bool
  | .notified | .suspending | .closingAll | .closing _ _ => true
  | _ => false

structure Led (node : String) (s : State) : Prop where
  tracked : Tracked s
  resuming : s.syncLoop.resumes = true → Due node s
  watching : ∀ key k, s.clusters key = some k → Due node s ∨ s.syncLoop.decides = true

namespace Led

theorem start (start : Start s) : Led self s where
  tracked := .start start
  resuming := by
    rw [start.syncLoop]
    exact nofun
  watching := by
    intro key k found
    rw [start.clusters key] at found
    cases found

/-- Past an election or a notification `syncLoop` has something to hear. -/
theorem hears (tracked : Tracked t) (more : 0 < t.notifications) : Led self t where
  tracked := tracked
  resuming := fun _ => .inr more
  watching := fun _ _ _ => .inl (.inr more)

theorem frame (led : Led self s) (tracked : Tracked t) (leader : t.leader = s.leader)
    (notifications : t.notifications = s.notifications) (syncLoop : t.syncLoop = s.syncLoop)
    (clusters : ∀ key k, t.clusters key = some k →
      s.clusters key = some k ∨ Due self s ∨ s.syncLoop.decides = true) : Led self t := by
  have due : Due self t ↔ Due self s := by rw [Due, leader, notifications, Due]
  constructor
  · exact tracked
  · rw [due, syncLoop]
    exact led.resuming
  · intro key k found
    rw [due, syncLoop]
    rcases clusters key k found with before | heard
    · exact led.watching key k before
    · exact heard

theorem eventStep (led : Led self s) (heeded : Heeded self s .eventLoop) (step : EventStep self s t) : Led self t := by
  have tracked := led.tracked.eventStep heeded.1 step
  cases step with
  | insert here mutex =>
    refine led.frame tracked rfl rfl rfl fun key k _ => .inr ?_
    rcases heeded.2 _ _ _ here with due | notified | suspending
    · exact .inl due
    · exact .inr (by rw [notified]; rfl)
    · exact .inr (by rw [suspending]; rfl)
  | closed here checker returned =>
    refine led.frame tracked rfl rfl rfl fun key k found => .inl ?_
    simp only [State.setCluster] at found
    split at found
    · cases found
    · exact found
  | receive | ignore | dispatch | known | start | unknown | close | missing | lookup | send | abandon =>
    exact led.frame tracked rfl rfl rfl fun key k found => .inl found

/-- `syncLoop` has come to a place from which a loss is not yet overlooked. -/
theorem sees (tracked : Tracked t) (due : Due self t) : Led self t where
  tracked := tracked
  resuming := fun _ => due
  watching := fun _ _ _ => .inl due

theorem became {start : Bool} (tracked : Tracked (s.became self start)) (due : Due self s) :
    Led self (s.became self start) := by
  refine sees tracked ?_
  cases start with
  | true => exact due
  | false => exact due

theorem decides (tracked : Tracked t) (decides : t.syncLoop.decides = true) (rests : t.syncLoop.resumes = false) :
    Led self t where
  tracked := tracked
  resuming := by
    rw [rests]
    exact nofun
  watching := fun _ _ _ => .inr decides

theorem empty (tracked : Tracked t) (empty : ∀ key, t.clusters key = none) (rests : t.syncLoop.resumes = false) :
    Led self t where
  tracked := tracked
  resuming := by
    rw [rests]
    exact nofun
  watching := by
    intro key k found
    rw [empty key] at found
    cases found

theorem syncStep (led : Led self s) (heeded : Heeded self s (.syncLoop faults)) (step : SyncStep self s faults t) :
    Led self t := by
  have tracked := led.tracked.syncStep heeded.1 step
  have due (resumes : s.syncLoop.resumes = true) : Due self s := led.resuming resumes
  have settled (calm : s.syncLoop.decides = false) (key : String) (k : Nat) (found : s.clusters key = some k) :
      Due self s := (led.watching key k found).resolve_right (by simp [calm])
  cases step with
  | leads here leads _ => exact sees tracked (.inl leads)
  | gained here leads _ => exact sees tracked (.inl leads)
  | kept here leads _ => exact sees tracked (.inl leads)
  | leadsAlready here leads _ => exact sees tracked (.inl leads)
  | follows here _ =>
    refine ⟨tracked, nofun, fun key k found => .inl (settled ?_ key k found)⟩
    rw [here]
    rfl
  | read here =>
    refine ⟨tracked, nofun, fun key k found => .inl (settled ?_ key k found)⟩
    rw [here]
    rfl
  | listNamespace here _ => exact sees tracked (due (by rw [here]; rfl))
  | namespacesFailed here _ => exact became tracked (due (by rw [here]; rfl))
  | listCluster here _ => exact sees tracked (due (by rw [here]; rfl))
  | clustersFailed here _ => exact became tracked (due (by rw [here]; rfl))
  | resumed here => exact became tracked (due (by rw [here]; rfl))
  | nextNamespace here => exact sees tracked (due (by rw [here]; rfl))
  | known here _ _ => exact sees tracked (due (by rw [here]; rfl))
  | start here _ _ _ => exact sees tracked (due (by rw [here]; rfl))
  | insert here _ => exact sees tracked (due (by rw [here]; rfl))
  | receive | lost | lock | close | closed => exact decides tracked rfl rfl
  | stillFollows here follows other => exact empty tracked (heeded.2 here follows other) rfl
  | suspended here none => exact empty tracked none rfl

theorem step (led : Led self s) (step : Guarded (Step self) (Heeded self) s l t) : Led self t := by
  obtain ⟨heeded, step⟩ := step
  have tracked := led.tracked.step heeded.1 step
  cases step with
  | elect | notify => exact hears tracked (Nat.succ_pos _)
  | write step => cases step <;> exact led.frame tracked rfl rfl rfl fun key k found => .inl found
  | emit step => cases step <;> exact led.frame tracked rfl rfl rfl fun key k found => .inl found
  | checker step =>
    obtain ⟨before, after, _, rfl, _⟩ := step.changes
    exact led.frame tracked rfl rfl rfl fun key k found => .inl found
  | eventLoop step => exact led.eventStep heeded step
  | syncLoop step => exact led.syncStep heeded step

end Led

/-- In every heeded run, once the loss is handled and the event loop is idle, every
checker ever started is closed. -/
theorem follower_runs_no_checker {s₀ s : State} (start : Start s₀) (run : Run (Guarded (Step self) (Heeded self)) s₀ ls s)
    (handled : s.syncLoop = .select ∧ s.notifications = 0) (idle : s.eventLoop = .select) (follows : s.leader ≠ self) :
    ∀ k c, s.checkers k = some c → c.Closed := by
  intro k c found
  have led := run.preserves (fun _ _ _ led step => Led.step led step) (Led.start start)
  rcases led.tracked.kept k c found with closed | mapped | carried
  · exact closed
  · rcases led.watching _ _ mapped with (leads | more) | decides
    · exact absurd leads follows
    · omega
    · rw [handled.1] at decides
      cases decides
  · simp [State.Inserts, idle, handled.1, EventPc.inserts, SyncPc.inserts] at carried

section Samples

/-- The leader "a" waits in both loops, with nothing to watch. -/
def leading : State :=
  { started withNamespace "a" with
    syncLoop := .select, prevTermLeader := "a", resumed := true, resume := ⟨withNamespace, [("ns", withNamespace)], []⟩ }

/-- Where no loop has a checker in hand and the node leads, every step is heeded. -/
theorem heeded_leading (leads : s.leader = "a") (event : s.eventLoop.inserts = none) (sync : s.syncLoop.inserts = none) :
    Heeded "a" s l := by
  cases l with
  | elect | notify | write | emit | checker => exact ⟨trivial, trivial⟩
  | eventLoop =>
    constructor
    · intro ns cluster k here
      simp [here, EventPc.inserts] at event
    · intro ns cluster k here
      simp [here, EventPc.inserts] at event
  | syncLoop faults =>
    constructor
    · intro start ns cluster k clusters namespaces here
      simp [here, SyncPc.inserts] at sync
    · exact fun _ follows => absurd leads follows

theorem heeded_handled (handled : s.prevTermLeader = "a") (sync : s.syncLoop.inserts = none) :
    Heeded "a" s (.syncLoop faults) := by
  constructor
  · intro start ns cluster k clusters namespaces here
    simp [here, SyncPc.inserts] at sync
  · exact fun _ _ other => absurd handled other

theorem leading_reached :
    Run (Guarded (Step "a") (Heeded "a")) (started withNamespace "a") (List.replicate 6 (.syncLoop .none)) leading := by
  have namespaces : listNamespace (etcd .none) withNamespace = .ok ["ns"] := by decide +kernel
  have clusters : listCluster (etcd .none) "ns" withNamespace = .ok [] := by decide +kernel
  exact
    .cons ⟨heeded_leading rfl rfl rfl, .syncLoop (.leads rfl rfl (by decide))⟩ <|
    .cons ⟨heeded_leading rfl rfl rfl, .syncLoop (.listNamespace rfl namespaces)⟩ <|
    .cons ⟨heeded_leading rfl rfl rfl, .syncLoop (.listCluster rfl clusters)⟩ <|
    .cons ⟨heeded_leading rfl rfl rfl, .syncLoop (.nextNamespace rfl)⟩ <|
    .cons ⟨heeded_leading rfl rfl rfl, .syncLoop (.resumed rfl)⟩ <|
    .cons ⟨heeded_leading rfl rfl rfl, .syncLoop (.read rfl)⟩ .nil

def created : EventPayload := ⟨"ns", "c", .eventCluster, .create⟩

/-- The event of a new cluster has passed the look at the leader. -/
def passed : State := { leading with kv := stored, eventLoop := .adding "ns" "c" }

def toPassed : List Label := [.write .api (.createCluster "ns" sample) .none, .emit ⟨.api, created⟩, .eventLoop, .eventLoop]

theorem passed_reached : Run (Guarded (Step "a") (Heeded "a")) leading toPassed passed := by
  have absent : withNamespace[Kvrocks.buildClusterKey "ns" "c"]? = none := by decide +kernel
  have written : (Op.createCluster "ns" sample).perform .none leading.kv = (stored, none) :=
    (Orphans.sample_written absent).1
  have emission : Step "a" leading (.write .api (.createCluster "ns" sample) .none) _ :=
    .write (.emits_idle rfl rfl written rfl)
  exact
    .cons ⟨heeded_leading rfl rfl rfl, emission⟩ <|
    .cons ⟨heeded_leading rfl rfl rfl, .emit (.alone rfl (by decide))⟩ <|
    .cons ⟨heeded_leading rfl rfl rfl, .eventLoop (.receive rfl rfl)⟩ <|
    .cons ⟨heeded_leading rfl rfl rfl, .eventLoop (.dispatch rfl rfl rfl)⟩ .nil

/-- The cluster is watched. -/
def watched : State :=
  ({ passed with eventLoop := .select }.setChecker 0 (newClusterChecker "ns" "c")).setCluster
    (buildClusterKey "ns" "c") (some 0)

theorem watched_reached : Run (Guarded (Step "a") (Heeded "a")) passed [.eventLoop, .eventLoop] watched := by
  have free : Uncontended { passed with eventLoop := .inserting "ns" "c" 0 } .eventLoop := fun _ _ _ _ => rfl
  exact
    .cons ⟨heeded_leading rfl rfl rfl, .eventLoop (.start (k := 0) rfl ⟨rfl, rfl⟩ rfl rfl)⟩ <|
    .cons ⟨⟨free, fun _ _ _ _ => .inl (.inl rfl)⟩, .eventLoop (.insert rfl ⟨rfl, rfl⟩)⟩ .nil

end Samples

/-- A watched cluster, and then the loss of the leadership. -/
theorem follower_closes_watched :
    ∃ s, Run (Guarded (Step "a") (Heeded "a")) (started withNamespace "a")
        (List.replicate 6 (.syncLoop .none) ++ toPassed ++ [.eventLoop, .eventLoop] ++
          [.elect "b", .syncLoop .none, .syncLoop .none, .syncLoop .none, .syncLoop .none, .checker 0, .checker 0,
            .syncLoop .none, .syncLoop .none, .syncLoop .none]) s ∧
      s.leader = "b" ∧ s.prevTermLeader = "b" ∧ (∃ c, s.checkers 0 = some c) ∧
      ∀ k c, s.checkers k = some c → c.Closed := by
  have emptied (key : String) : ((watched.setCluster (buildClusterKey "ns" "c") none).clusters key) = none := by
    change (if key = _ then none else if key = _ then some 0 else none) = none
    split <;> rfl
  have run : Run (Guarded (Step "a") (Heeded "a")) watched [.elect "b", .syncLoop .none, .syncLoop .none, .syncLoop .none,
      .syncLoop .none, .checker 0, .checker 0, .syncLoop .none, .syncLoop .none, .syncLoop .none] _ :=
    .cons ⟨⟨trivial, trivial⟩, .elect⟩ <|
    .cons ⟨heeded_handled rfl rfl, .syncLoop (.receive rfl rfl)⟩ <|
    .cons ⟨heeded_handled rfl rfl, .syncLoop (.lost rfl (by decide) rfl)⟩ <|
    .cons ⟨heeded_handled rfl rfl, .syncLoop (.lock rfl ⟨rfl, rfl⟩)⟩ <|
    .cons ⟨heeded_handled rfl rfl, .syncLoop (.close (k := 0) rfl (if_pos rfl) rfl)⟩ <|
    .cons ⟨⟨trivial, trivial⟩, .checker (.probeReturned rfl rfl rfl)⟩ <|
    .cons ⟨⟨trivial, trivial⟩, .checker (.migrationReturned rfl rfl rfl)⟩ <|
    .cons ⟨heeded_handled rfl rfl, .syncLoop (.closed rfl rfl ⟨rfl, rfl⟩)⟩ <|
    .cons ⟨heeded_handled rfl rfl, .syncLoop (.suspended rfl emptied)⟩ <|
    .cons ⟨heeded_handled rfl rfl, .syncLoop (.read rfl)⟩ .nil
  have whole := ((leading_reached.append passed_reached).append watched_reached).append run
  exact ⟨_, whole, rfl, rfl, ⟨_, rfl⟩,
    follower_runs_no_checker (started_start _ _) whole ⟨rfl, rfl⟩ rfl (by decide)⟩

/-- The leadership is lost between the look at the leader and the insertion. -/
theorem follower_runs_checker :
    ∃ s, Start (started withNamespace "a") ∧ Run (Step "a") (started withNamespace "a")
        (List.replicate 6 (.syncLoop .none) ++ toPassed ++ [.elect "b", .syncLoop .none, .syncLoop .none, .syncLoop .none,
          .syncLoop .none, .syncLoop .none, .eventLoop, .eventLoop]) s ∧
      s.syncLoop = .select ∧ s.notifications = 0 ∧ s.eventLoop = .select ∧ s.leader = "b" ∧
      s.checkers 0 = some (newClusterChecker "ns" "c") ∧ ¬ (newClusterChecker "ns" "c").Closed := by
  have run : Run (Step "a") passed [.elect "b", .syncLoop .none, .syncLoop .none, .syncLoop .none,
      .syncLoop .none, .syncLoop .none, .eventLoop, .eventLoop] _ :=
    .cons .elect <|
    .cons (.syncLoop (.receive rfl rfl)) <|
    .cons (.syncLoop (.lost rfl (by decide) rfl)) <|
    .cons (.syncLoop (.lock rfl ⟨rfl, rfl⟩)) <|
    .cons (.syncLoop (.suspended rfl fun _ => rfl)) <|
    .cons (.syncLoop (.read rfl)) <|
    .cons (.eventLoop (.start (k := 0) rfl ⟨rfl, rfl⟩ rfl rfl)) <|
    .cons (.eventLoop (.insert rfl ⟨rfl, rfl⟩)) .nil
  exact ⟨_, started_start _ _, ((leading_reached.append passed_reached).unguarded).append run, rfl, rfl, rfl, rfl, rfl,
    by simp [ClusterChecker.Closed, newClusterChecker]⟩

end Kvrocks.Controller
