import KvrocksController.Controller.Failover
import KvrocksController.Lib.Transition
import Mathlib.Data.List.DropRight
import Mathlib.Data.List.Infix

/-! The failure counts of one checker against the history of its probes. Probes of all
nodes run at once and their goroutines meet under `failureMu`; a failover that was begun
may reset the count of another node at any later time. -/
namespace Kvrocks.Counting
open Kvrocks.Failover (ClusterCheckOptions FailureCounts Goroutine increaseFailureCount resetFailureCount)
open Kvrocks.Transition

section Probe

def errClusterNotInitialized : Error := .new "CLUSTERDOWN The cluster is not initialized"
def errRestoringBackUp : Error := .new "LOADING kvrocks is restoring the db from backup"

inductive ProbeError where
  | restoringBackUp
  | clusterNotInitialized
  | other (e : Error)
deriving DecidableEq, Repr

/-- `strings.Contains`. -/
def contains (s substr : String) : Bool := substr.toList <:+: s.toList

/-- The answer of a node to `CLUSTERX INFO`; its errors are told apart by their text. -/
def probeNode : Except Error ClusterInfo → Except ProbeError Int
  | .error err =>
    if contains err.text errRestoringBackUp.text then .error .restoringBackUp
    else if contains err.text errClusterNotInitialized.text then .error .clusterNotInitialized
    else .error (.other err)
  | .ok clusterInfo => .ok clusterInfo.currentEpoch

inductive Verdict where
  | alive
  | restoring
  | failed
deriving DecidableEq, Repr

/-- What `parallelProbeNodes` makes of a probe: reset the count, leave it, increase it. -/
def verdict : Except ProbeError Int → Verdict
  | .error .restoringBackUp => .restoring
  | .error (.other _) => .failed
  | .error .clusterNotInitialized | .ok _ => .alive

end Probe

structure State where
  failureCounts : FailureCounts
  goroutines : Nat → Option Goroutine

def State.assign (s : State) (goroutine : Nat) (work : Option Goroutine) : State :=
  { s with goroutines := fun other => if other = goroutine then work else s.goroutines other }

inductive Label where
  /-- The probe of a node of the snapshot, and what `GetCluster` finds if it comes to that. -/
  | probed (goroutine : Nat) (shardIndex : Int) (node : ClusterNode) (answer : Except Error ClusterInfo)
      (stored : Except Error Cluster)
  /-- `PromoteNewMaster` returns, with the new master if it succeeds. -/
  | promoted (goroutine : Nat) (replies : NodeReplies) (newMasterID : Option String)
  | updated (goroutine : Nat)

/-- A failover goes on with the cluster it loads. Reading it takes no part in the counts,
so the read belongs to the step that asks for it. -/
def load (stored : Except Error Cluster) (work : Goroutine) : Option Goroutine :=
  match stored with
  | .error _ => none
  | .ok cluster => some { work with phase := .promoting cluster }

inductive Step (options : ClusterCheckOptions) : State → Label → State → Prop where
  | restoring (seen : verdict (probeNode answer) = .restoring) :
      Step options s (.probed g shardIndex node answer stored) s
  | alive (seen : verdict (probeNode answer) = .alive) :
      Step options s (.probed g shardIndex node answer stored)
        { s with failureCounts := resetFailureCount node.id s.failureCounts }
  | failed (seen : verdict (probeNode answer) = .failed) (free : s.goroutines g = none)
      (result : increaseFailureCount options.maxFailureCount shardIndex node s.failureCounts = (failureCounts, work)) :
      Step options s (.probed g shardIndex node answer stored)
        (State.assign { s with failureCounts } g (work.bind (load stored)))
  | promoted (holds : s.goroutines g = some ⟨shardIndex, node, .promoting cluster⟩)
      (chosen : cluster.promoteNewMaster replies shardIndex node.id "" = .ok (object, newMasterID)) :
      Step options s (.promoted g replies (some newMasterID))
        (State.assign { s with failureCounts := resetFailureCount newMasterID s.failureCounts } g
          (some ⟨shardIndex, node, .updating object newMasterID replies⟩))
  | refused (holds : s.goroutines g = some ⟨shardIndex, node, .promoting cluster⟩)
      (refused : cluster.promoteNewMaster replies shardIndex node.id "" = .error e) :
      Step options s (.promoted g replies none) (s.assign g none)
  | updated (holds : s.goroutines g = some ⟨shardIndex, node, .updating object newMasterID replies⟩) :
      Step options s (.updated g) (s.assign g none)

section History

/-- The node answered, or was chosen as the new master. -/
def Label.resets (id : String) : Label → Bool
  | .probed _ _ node answer _ => node.id = id ∧ verdict (probeNode answer) = .alive
  | .promoted _ _ newMasterID => newMasterID = some id
  | .updated _ => false

/-- The probe of the node failed with an error of neither special kind. -/
def Label.fails (id : String) : Label → Bool
  | .probed _ _ node answer _ => node.id = id ∧ verdict (probeNode answer) = .failed
  | _ => false

/-- The failures of a node after the last step that resets it. -/
def failuresSince (id : String) (history : List Label) : Nat :=
  (history.rtakeWhile fun label => !label.resets id).countP (·.fails id)

/-- The same number as an `int64` counts it. -/
def counted (id : String) (history : List Label) : Int := (failuresSince id history : Int).bmod (2 ^ 64)

theorem failuresSince_concat (id : String) (history : List Label) (label : Label) :
    failuresSince id (history ++ [label]) =
      if label.resets id then 0 else failuresSince id history + if label.fails id then 1 else 0 := by
  rw [failuresSince, List.rtakeWhile_concat]
  cases label.resets id with
  | true => rfl
  | false => simp [failuresSince, List.countP_append, List.countP_singleton]

theorem counted_concat (id : String) (history : List Label) (label : Label) :
    counted id (history ++ [label]) =
      if label.resets id then 0
      else if label.fails id then (counted id history + 1).bmod (2 ^ 64) else counted id history := by
  unfold counted
  rw [failuresSince_concat]
  cases label.resets id with
  | true => simp
  | false =>
    cases label.fails id with
    | true => simp
    | false => simp

/-- The probes that are made do not reach the end of `int64`. -/
theorem counted_eq {id : String} (few : failuresSince id history < 2 ^ 63) :
    counted id history = failuresSince id history :=
  Int.bmod_eq_of_le (by omega) (by omega)

end History

section Step
variable {options : ClusterCheckOptions} {s t : State}

theorem getD_resetFailureCount (nodeID id : String) (failureCounts : FailureCounts) :
    (resetFailureCount nodeID failureCounts).getD id 0 = if nodeID = id then 0 else failureCounts.getD id 0 := by
  rw [resetFailureCount, Std.ExtTreeMap.getD_erase]
  simp only [Std.LawfulEqOrd.compare_eq_iff_eq]

theorem getD_increaseFailureCount
    (result : increaseFailureCount options.maxFailureCount shardIndex node before = (failureCounts, work)) (id : String) :
    failureCounts.getD id 0 = if node.id = id then (before.getD id 0 + 1).bmod (2 ^ 64) else before.getD id 0 := by
  obtain ⟨rfl, _⟩ := Prod.mk.inj result
  rw [Std.ExtTreeMap.getD_insert]
  simp only [Std.LawfulEqOrd.compare_eq_iff_eq]
  by_cases own : node.id = id
  · rw [if_pos own, if_pos own, own]
  · rw [if_neg own, if_neg own]

/-- The work that the count leads to. -/
theorem increaseFailureCount_work
    (result : increaseFailureCount options.maxFailureCount shardIndex node before = (failureCounts, work)) :
    work = if node.isMaster = true ∧ options.maxFailureCount ∣ failureCounts.getD node.id 0 then
      some ⟨shardIndex, node, .loading⟩ else none := by
  have count := getD_increaseFailureCount result node.id
  obtain ⟨_, rfl⟩ := Prod.mk.inj result
  rw [if_pos rfl] at count
  simp only [count, Failover.triggers, Bool.and_eq_true, beq_iff_eq, Int.dvd_iff_tmod_eq_zero]

/-- What one step does to the count of a node. -/
theorem Step.count (step : Step options s label t) (id : String) : t.failureCounts.getD id 0 =
    if label.resets id then 0
    else if label.fails id then (s.failureCounts.getD id 0 + 1).bmod (2 ^ 64) else s.failureCounts.getD id 0 := by
  cases step with
  | restoring seen => simp [Label.resets, Label.fails, seen]
  | alive seen => simp [Label.resets, Label.fails, seen, getD_resetFailureCount]
  | failed seen free result =>
    have count := getD_increaseFailureCount result id
    simpa [Label.resets, Label.fails, seen, State.assign] using count
  | promoted holds chosen => simp [Label.resets, Label.fails, State.assign, getD_resetFailureCount]
  | refused holds refused => simp [Label.resets, Label.fails, State.assign]
  | updated holds => simp [Label.resets, Label.fails, State.assign]

/-- `PromoteNewMaster` is called on the loaded cluster, for the failing node and with the
index of its shard in the snapshot. -/
def Attempts (s t : State) (g : Nat) (shardIndex : Int) (node : ClusterNode) (cluster : Cluster) : Prop :=
  s.goroutines g = none ∧ t.goroutines g = some ⟨shardIndex, node, .promoting cluster⟩

theorem assign_other (apart : g ≠ h) (work : Option Goroutine) : (s.assign h work).goroutines g = s.goroutines g :=
  if_neg apart

/-- A goroutine that was there before, or has no work after the step, attempts nothing. -/
theorem not_attempts (other : ∀ h, s.goroutines h = none → t.goroutines h = none) :
    ¬ Attempts s t g shardIndex node cluster := by
  rintro ⟨free, begun⟩
  rw [other g free] at begun
  cases begun

theorem assign_held (holds : s.goroutines h = some held) (failureCounts : FailureCounts) (work : Option Goroutine) :
    ∀ g, s.goroutines g = none → (State.assign { s with failureCounts } h work).goroutines g = none := by
  intro g free
  have apart : g ≠ h := by
    rintro rfl
    rw [free] at holds
    cases holds
  exact (assign_other apart work).trans free

/-- What a counted failure leaves to do once the cluster is asked for. -/
theorem work_begun (result : increaseFailureCount options.maxFailureCount shard probed before = (failureCounts, work)) :
    work.bind (load stored) = some ⟨shardIndex, node, .promoting cluster⟩ ↔
      shard = shardIndex ∧ probed = node ∧ stored = .ok cluster ∧
        probed.isMaster = true ∧ options.maxFailureCount ∣ failureCounts.getD probed.id 0 := by
  rw [increaseFailureCount_work result]
  by_cases due : probed.isMaster = true ∧ options.maxFailureCount ∣ failureCounts.getD probed.id 0
  · rw [if_pos due, Option.bind_some]
    cases stored with
    | error e => simp [load]
    | ok found => simp [load, due]
  · rw [if_neg due, Option.bind_none]
    exact iff_of_false nofun fun all => due all.2.2.2

/-- A probe that is not counted begins nothing. -/
theorem uncounted_attempts_iff (kept : t.goroutines = s.goroutines) (uncounted : verdict (probeNode answer) ≠ .failed) :
    Attempts s t g shardIndex node cluster ↔ ∃ counted,
      Label.probed h shard probed answer stored = .probed g shardIndex node counted (.ok cluster) ∧
        verdict (probeNode counted) = .failed ∧ node.isMaster = true ∧
          options.maxFailureCount ∣ t.failureCounts.getD node.id 0 := by
  refine iff_of_false (not_attempts fun h free => (congrFun kept h).trans free) ?_
  rintro ⟨counted, same, failed, _⟩
  cases same
  exact uncounted failed

theorem Step.attempts_iff (step : Step options s label t) (g : Nat) (shardIndex : Int) (node : ClusterNode)
    (cluster : Cluster) : Attempts s t g shardIndex node cluster ↔ ∃ answer,
      label = .probed g shardIndex node answer (.ok cluster) ∧ verdict (probeNode answer) = .failed ∧
        node.isMaster = true ∧ options.maxFailureCount ∣ t.failureCounts.getD node.id 0 := by
  cases step with
  | restoring seen => exact uncounted_attempts_iff rfl (by simp [seen])
  | alive seen => exact uncounted_attempts_iff rfl (by simp [seen])
  | failed seen free result =>
    rename_i answer shard probed failureCounts work h stored
    by_cases own : g = h
    · subst own
      have begun : (State.assign { s with failureCounts } g (work.bind (load stored))).goroutines g =
          work.bind (load stored) := if_pos rfl
      rw [Attempts, begun, work_begun result, and_iff_right free]
      constructor
      · rintro ⟨rfl, rfl, rfl, due⟩
        exact ⟨answer, rfl, seen, due⟩
      · rintro ⟨_, same, _, due⟩
        cases same
        exact ⟨rfl, rfl, rfl, due⟩
    · refine iff_of_false (fun begun => ?_) ?_
      · have unchanged := (assign_other own _).symm.trans begun.2
        rw [begun.1] at unchanged
        cases unchanged
      · rintro ⟨_, same, _⟩
        cases same
        exact own rfl
  | promoted holds chosen => exact iff_of_false (not_attempts (assign_held holds _ _)) (by simp)
  | refused holds refused => exact iff_of_false (not_attempts (assign_held holds _ _)) (by simp)
  | updated holds => exact iff_of_false (not_attempts (assign_held holds _ _)) (by simp)

end Step

section Run
variable {options : ClusterCheckOptions} {s t : State}

/-- The counts are what the history says. -/
def Counts (s : State) (history : List Label) : Prop := ∀ id, s.failureCounts.getD id 0 = counted id history

theorem Counts.step (counts : Counts s history) (step : Step options s label t) :
    Counts t (history ++ [label]) := by
  intro id
  rw [step.count, counts id, counted_concat]

theorem Counts.run (counts : Counts s history) (run : Run (Step options) s labels t) :
    Counts t (history ++ labels) := by
  induction run generalizing history with
  | nil => rwa [List.append_nil]
  | cons head tail ih =>
    have later := ih (counts.step head)
    rwa [List.append_assoc] at later

end Run

/-- Whoever has failed at all and has a count that is a multiple of the limit has failed that
often: a count beyond `int64` would be larger than every limit. -/
theorem limit_reached {id : String} (options : ClusterCheckOptions) (failed : 0 < failuresSince id history)
    (multiple : options.maxFailureCount ∣ counted id history) :
    options.maxFailureCount ≤ failuresSince id history := by
  by_cases few : failuresSince id history < 2 ^ 63
  · rw [counted_eq few] at multiple
    exact Int.le_of_dvd (by omega) multiple
  · have bounded := options.bounded
    simp only [Strconv.maxInt64] at bounded
    omega

/-- The count of a node is the number of its failures in a row, as far as an `int64` can hold
it, and it alone decides when a failover is attempted: never before there are
`maxFailureCount` of them. -/
theorem failover_by_consecutive_failures {options : ClusterCheckOptions} {start s : State}
    (fresh : start.failureCounts = ∅) (run : Run (Step options) start history s) :
    (∀ id, s.failureCounts.getD id 0 = counted id history) ∧
    (∀ id, failuresSince id history < 2 ^ 63 → s.failureCounts.getD id 0 = failuresSince id history) ∧
    ∀ label t, Step options s label t → ∀ g shardIndex node cluster,
      (Attempts s t g shardIndex node cluster ↔
        ∃ answer, label = .probed g shardIndex node answer (.ok cluster) ∧ verdict (probeNode answer) = .failed ∧
          node.isMaster = true ∧ options.maxFailureCount ∣ counted node.id (history ++ [label])) ∧
      (Attempts s t g shardIndex node cluster →
        options.maxFailureCount ≤ failuresSince node.id (history ++ [label])) := by
  have begins : Counts start [] := by
    intro id
    unfold counted
    simp [fresh, failuresSince]
  have counts : Counts s history := begins.run run
  refine ⟨counts, fun id few => (counts id).trans (counted_eq few), fun label t step g shardIndex node cluster => ?_⟩
  have attempts := step.attempts_iff g shardIndex node cluster
  rw [counts.step step node.id] at attempts
  refine ⟨attempts, fun attempted => ?_⟩
  obtain ⟨answer, rfl, failed, _, multiple⟩ := attempts.mp attempted
  refine limit_reached options ?_ multiple
  simp [failuresSince_concat, Label.resets, Label.fails, failed]

section Samples

/-- The master of a shard of two nodes. -/
def down : ClusterNode := ⟨0, "m", "a:1", roleMaster, "", 0⟩

def pair : Cluster where
  name := "c"
  version := 1
  shards := [⟨[down, ⟨1, "r", "b:1", roleSlave, "", 0⟩], [⟨0, 16383⟩], -1, none⟩]

def timeout : Except Error ClusterInfo := .error (.new "i/o timeout")

def idle : State := ⟨∅, fun _ => none⟩

def two : ClusterCheckOptions := Failover.withMaxFailureCount 2 (by decide)

/-- One failure of the master, counted and not yet followed by anything. -/
def once : State := State.assign { idle with failureCounts := Std.ExtTreeMap.insert ∅ "m" 1 } 0 none

end Samples

/-- With a limit of two the second failure in a row is followed by an attempt. -/
theorem failover_by_consecutive_failures_twice : ∃ t : State,
    Run (Step two) idle [.probed 0 0 down timeout (.ok pair)] once ∧
      Step two once (.probed 1 0 down timeout (.ok pair)) t ∧
      once.failureCounts.getD "m" 0 = 1 ∧ Attempts once t 1 0 down pair := by
  have failed : verdict (probeNode timeout) = .failed := by decide +kernel
  have first : Run (Step two) idle [.probed 0 0 down timeout (.ok pair)] once := .cons (.failed failed rfl rfl) .nil
  have free : once.goroutines 1 = none := rfl
  have second : Step two once (.probed 1 0 down timeout (.ok pair)) _ := .failed failed free rfl
  obtain ⟨counts, _, next⟩ := failover_by_consecutive_failures rfl first
  refine ⟨_, first, second, ?_, (next _ _ second 1 0 down pair).1.mpr ⟨timeout, rfl, failed, rfl, ?_⟩⟩
  · rw [counts "m"]
    decide +kernel
  · decide +kernel

end Kvrocks.Counting
