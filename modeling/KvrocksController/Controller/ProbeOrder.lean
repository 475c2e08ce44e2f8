import KvrocksController.Controller.Probe
import KvrocksController.Lib.Scan

/-! The text a probe round retains, over all orders in which the goroutines enter the
section under the mutex. The section raises the version before it asks for the text, so
the first node of the highest version decides, also if it cannot be read. -/
namespace Kvrocks.Probe
open Kvrocks.Scan

/-- What the section retains of a node: nothing if the fetch fails. -/
def Answer.text (answer : Answer) : String :=
  match answer.nodesString with
  | .ok text => text
  | .error _ => ""

section Spec
variable (clusterVersion : Int) (answers : List Answer)

/-- No answer has a higher version, and the version is above the stored one. -/
def Highest (answer : Answer) : Prop :=
  answer ∈ answers ∧ clusterVersion < answer.version ∧ ∀ other ∈ answers, other.version ≤ answer.version

def SameInEveryOrder : Prop :=
  ∀ order order' : List Answer, order.Perm answers → order'.Perm answers →
    (latest clusterVersion order).clusterNodesStr = (latest clusterVersion order').clusterNodesStr

def RetainsHighest : Prop :=
  ∀ order : List Answer, order.Perm answers → ∀ answer text, Highest clusterVersion answers answer →
    answer.nodesString = .ok text → (latest clusterVersion order).clusterNodesStr = text

/-- Nodes that report one version hold one text. -/
def Agree : Prop :=
  ∀ a ∈ answers, ∀ b ∈ answers, a.version = b.version →
    ∀ s t, a.nodesString = .ok s → b.nodesString = .ok t → s = t

end Spec

/-- The answers that raise the latest version, which starts at 0. -/
def raising (clusterVersion : Int) (answers : List Answer) : List Answer :=
  answers.filter fun answer => answer.version > clusterVersion ∧ answer.version > 0

variable {clusterVersion : Int} {answers order : List Answer}

theorem mem_raising : answer ∈ raising clusterVersion answers ↔
    answer ∈ answers ∧ clusterVersion < answer.version ∧ 0 < answer.version := by
  simp [raising]

/-- The section keeps the first answer of the highest version. -/
def retained : Option Answer → Latest
  | none => ⟨0, ""⟩
  | some answer => ⟨answer.version, answer.text⟩

theorem observe_eq (clusterVersion : Int) (latest : Latest) (answer : Answer) :
    observe clusterVersion latest answer =
      if clusterVersion < answer.version ∧ latest.nodeVersion < answer.version then retained (some answer)
      else latest := rfl

theorem latest_eq (clusterVersion : Int) (answers : List Answer) :
    latest clusterVersion answers = retained ((raising clusterVersion answers).argmax (·.version)) := by
  induction answers using List.reverseRecOn with
  | nil => rfl
  | append_singleton answers answer ih =>
    have step : latest clusterVersion (answers ++ [answer]) =
        observe clusterVersion (latest clusterVersion answers) answer := by
      rw [latest, List.foldl_append]
      rfl
    rw [step, ih, observe_eq]
    by_cases raises : answer.version > clusterVersion ∧ answer.version > 0
    · have joined : raising clusterVersion (answers ++ [answer]) = raising clusterVersion answers ++ [answer] := by
        simp [raising, List.filter_append, raises]
      rw [joined, argmax_append]
      cases best : (raising clusterVersion answers).argmax (·.version) with
      | none => exact if_pos raises
      | some chosen =>
        by_cases better : chosen.version < answer.version
        · simp only [if_pos better]
          exact if_pos ⟨raises.1, better⟩
        · simp only [if_neg better]
          exact if_neg fun both => better both.2
    · have same : raising clusterVersion (answers ++ [answer]) = raising clusterVersion answers := by
        simp [raising, List.filter_append, raises]
      rw [same]
      refine if_neg fun both => raises ⟨both.1, ?_⟩
      -- the version kept so far is not negative
      cases best : (raising clusterVersion answers).argmax (·.version) with
      | none =>
        rw [best] at both
        exact both.2
      | some chosen =>
        rw [best] at both
        exact (mem_raising.mp (List.argmax_mem best)).2.2.trans both.2

section Orders

theorem Highest.perm (same : order.Perm answers) (highest : Highest clusterVersion answers a) :
    Highest clusterVersion order a :=
  ⟨same.mem_iff.mpr highest.1, highest.2.1, fun other member => highest.2.2 other (same.mem_iff.mp member)⟩

theorem argmax_highest (best : (raising clusterVersion answers).argmax (·.version) = some chosen) :
    Highest clusterVersion answers chosen ∧ 0 < chosen.version := by
  obtain ⟨member, above, positive⟩ := mem_raising.mp (List.argmax_mem best)
  refine ⟨⟨member, above, fun other listed => ?_⟩, positive⟩
  by_cases raises : clusterVersion < other.version ∧ 0 < other.version
  · exact List.le_of_mem_argmax (mem_raising.mpr ⟨listed, raises⟩) best
  · rw [not_and_or, not_lt, not_lt] at raises
    omega

/-- What is retained is the text of a highest answer, or nothing if the highest version
is not positive. -/
theorem latest_cases (clusterVersion : Int) (answers : List Answer) :
    (∀ a, Highest clusterVersion answers a → a.version ≤ 0) ∧ (latest clusterVersion answers).clusterNodesStr = "" ∨
      ∃ a, Highest clusterVersion answers a ∧ 0 < a.version ∧
        (latest clusterVersion answers).clusterNodesStr = a.text := by
  rw [latest_eq]
  cases best : (raising clusterVersion answers).argmax (·.version) with
  | none =>
    refine .inl ⟨fun a highest => ?_, rfl⟩
    by_contra positive
    have raises : a ∈ raising clusterVersion answers := mem_raising.mpr ⟨highest.1, highest.2.1, not_le.mp positive⟩
    rw [List.argmax_eq_none.mp best] at raises
    cases raises
  | some chosen =>
    obtain ⟨highest, positive⟩ := argmax_highest best
    exact .inr ⟨chosen, highest, positive, rfl⟩

/-- Every highest answer decides in the order that has it first. -/
theorem latest_first (highest : Highest clusterVersion answers a) (positive : 0 < a.version) :
    ∃ order : List Answer, order.Perm answers ∧ (latest clusterVersion order).clusterNodesStr = a.text := by
  obtain ⟨member, above, best⟩ := highest
  obtain ⟨before, after, rfl⟩ := List.append_of_mem member
  refine ⟨a :: (before ++ after), List.perm_middle.symm, ?_⟩
  have first : raising clusterVersion (a :: (before ++ after)) = a :: raising clusterVersion (before ++ after) :=
    List.filter_cons_of_pos (by simpa using ⟨above, positive⟩)
  rw [latest_eq, first, argmax_first]
  · rfl
  · intro other raises
    exact best other (List.perm_middle.mem_iff.mpr (List.mem_cons_of_mem a (mem_raising.mp raises).1))

theorem latest_unreadable (unreadable : ¬ ∃ a text, Highest clusterVersion answers a ∧ a.nodesString = .ok text)
    (arranged : order.Perm answers) : (latest clusterVersion order).clusterNodesStr = "" := by
  rcases latest_cases clusterVersion order with ⟨_, kept⟩ | ⟨c, highest, _, kept⟩
  · exact kept
  · rw [kept, Answer.text]
    cases fetched : c.nodesString with
    | ok text => exact absurd ⟨c, text, highest.perm arranged.symm, fetched⟩ unreadable
    | error e => rfl

end Orders

/-- Over all orders a round retains one text, and the text of the highest version if a
node of that version can be read, exactly if no node of that version fails to be read
where another holds a text, and that version is positive. -/
theorem round_order_free (agree : Agree answers) (clusterVersion : Int) :
    SameInEveryOrder clusterVersion answers ∧ RetainsHighest clusterVersion answers ↔
      ∀ a text, Highest clusterVersion answers a → a.nodesString = .ok text → text ≠ "" →
        0 < a.version ∧ ∀ b ∈ answers, b.version = a.version → ∃ other, b.nodesString = .ok other := by
  constructor
  · rintro ⟨_, retains⟩ a text highest read nonempty
    have positive : 0 < a.version := by
      by_contra notPositive
      rcases latest_cases clusterVersion answers with ⟨_, empty⟩ | ⟨c, other, positive, _⟩
      · exact nonempty ((retains answers (.refl _) a text highest read).symm.trans empty)
      · exact notPositive (positive.trans_le (highest.2.2 c other.1))
    refine ⟨positive, fun b member same => ?_⟩
    have equal : Highest clusterVersion answers b := ⟨member, same ▸ highest.2.1, same ▸ highest.2.2⟩
    obtain ⟨order, arranged, first⟩ := latest_first equal (same ▸ positive)
    have kept := retains order arranged a text highest read
    cases fetched : b.nodesString with
    | ok other => exact ⟨other, rfl⟩
    | error e =>
      rw [first, Answer.text, fetched] at kept
      exact absurd kept.symm nonempty
  · intro condition
    have retains : RetainsHighest clusterVersion answers := by
      intro order arranged a text highest read
      rcases latest_cases clusterVersion order with ⟨notPositive, kept⟩ | ⟨c, other, _, kept⟩
      · rw [kept]
        by_contra nonempty
        have positive := (condition a text highest read (Ne.symm nonempty)).1
        exact absurd (notPositive a (highest.perm arranged)) (not_le.mpr positive)
      · have member := arranged.mem_iff.mp other.1
        have same : c.version = a.version :=
          le_antisymm (highest.2.2 c member) (other.2.2 a (arranged.mem_iff.mpr highest.1))
        rw [kept, Answer.text]
        cases fetched : c.nodesString with
        | ok held => exact agree c member a highest.1 same held text fetched read
        | error e =>
          by_contra nonempty
          obtain ⟨held, readable⟩ := (condition a text highest read (Ne.symm nonempty)).2 c member same
          cases readable.symm.trans fetched
    refine ⟨fun order order' arranged arranged' => ?_, retains⟩
    by_cases readable : ∃ a text, Highest clusterVersion answers a ∧ a.nodesString = .ok text
    · obtain ⟨a, text, highest, read⟩ := readable
      rw [retains order arranged a text highest read, retains order' arranged' a text highest read]
    · rw [latest_unreadable readable arranged, latest_unreadable readable arranged']

section Samples

def reportedText : String := "x a:1 master - 0 0 2 connected 0-5"

/-- Two nodes report version 2, and one of them cannot be read. -/
def halfReadable : List Answer := [⟨2, .error (.new "i/o timeout")⟩, ⟨2, .ok reportedText⟩]

/-- Nodes of two versions, all of them readable. -/
def readable : List Answer := [⟨2, .ok "x a:1 master - 0 0 2 connected"⟩, ⟨3, .ok reportedText⟩]

end Samples

/-- With every node readable one text is retained. -/
theorem round_order_free_readable :
    Agree readable ∧ SameInEveryOrder 1 readable ∧ RetainsHighest 1 readable := by
  have agree : Agree readable := by
    simp [Agree, readable]
  refine ⟨agree, (round_order_free agree 1).mpr fun a text highest _ _ => ⟨?_, by simp [readable]⟩⟩
  have above := highest.2.1
  omega

/-- Which of the two nodes comes first decides whether the text is retained. -/
theorem round_depends_on_order :
    Agree halfReadable ∧ ¬ SameInEveryOrder 1 halfReadable ∧ ¬ RetainsHighest 1 halfReadable := by
  have nonempty : "" ≠ reportedText := by decide
  have arranged : halfReadable.reverse.Perm halfReadable := List.reverse_perm _
  refine ⟨by simp [Agree, halfReadable], fun same => ?_, fun retains => ?_⟩
  · exact nonempty (same halfReadable halfReadable.reverse (.refl _) arranged)
  · have highest : Highest 1 halfReadable ⟨2, .ok reportedText⟩ := by
      simp [Highest, halfReadable]
    exact nonempty (retains halfReadable (.refl _) _ reportedText highest rfl)

end Kvrocks.Probe
