import KvrocksController.Raft.Agreement

/-! Batches of committed entries against the applied index. What has been applied is cut
off the head of a batch only if something remains: a batch that lies behind the applied
index altogether is applied again as a whole and takes the index back. -/
namespace Kvrocks.Raft
variable {V : Type}

/-- Entries with the indexes from `first` on, all of them `uint64`. -/
structure Batch (V : Type) where
  first : Nat
  entries : List (Entry V)
  nonempty : entries ≠ []
  contiguous : entries.map (·.index) = List.range' first entries.length
  small : first + entries.length ≤ 2 ^ 64

def Batch.last (batch : Batch V) : Nat := batch.first + batch.entries.length - 1

section Contiguous
variable {entries : List (Entry V)}

theorem contiguous_cons {entry : Entry V} :
    (entry :: entries).map (·.index) = List.range' first (entry :: entries).length ↔
      entry.index = first ∧ entries.map (·.index) = List.range' (first + 1) entries.length := by
  rw [List.map_cons, List.length_cons, List.range'_succ, List.cons.injEq]

/-- Indexes rise by one, so the entries above an index are a tail. -/
theorem filter_contiguous (contiguous : entries.map (·.index) = List.range' first entries.length) (a : Nat) :
    entries.filter (a < ·.index) = entries.drop (a + 1 - first) := by
  induction entries generalizing first with
  | nil => simp
  | cons entry rest ih =>
    obtain ⟨rfl, later⟩ := contiguous_cons.mp contiguous
    have tail := ih later
    by_cases above : a < entry.index
    · have all : a + 1 - entry.index = 0 := by omega
      have allLater : a + 1 - (entry.index + 1) = 0 := by omega
      rw [List.filter_cons_of_pos (by simpa using above), tail, all, allLater, List.drop_zero, List.drop_zero]
    · have shift : a + 1 - entry.index = a + 1 - (entry.index + 1) + 1 := by omega
      rw [List.filter_cons_of_neg (by simpa using above), tail, shift, List.drop_succ_cons]

end Contiguous

namespace Batch
variable (batch : Batch V)

theorem length_pos : 0 < batch.entries.length := List.length_pos_iff.mpr batch.nonempty

theorem getElem_index (k : Nat) (inside : k < batch.entries.length) : batch.entries[k].index = batch.first + k := by
  have mapped : (batch.entries.map (·.index))[k]? = (List.range' batch.first batch.entries.length)[k]? := by
    rw [batch.contiguous]
  rw [List.getElem?_map, List.getElem?_eq_getElem inside, List.getElem?_range' inside, Nat.one_mul] at mapped
  exact Option.some.inj mapped

theorem head : ∃ entry, batch.entries.head? = some entry ∧ entry.index = batch.first := by
  have inside := batch.length_pos
  refine ⟨batch.entries[0], ?_, batch.getElem_index 0 inside⟩
  rw [List.head?_eq_getElem?, List.getElem?_eq_getElem inside]

theorem getLast : ∃ entry, batch.entries.getLast? = some entry ∧ entry.index = batch.last := by
  have inside := batch.length_pos
  have final : batch.entries.length - 1 < batch.entries.length := by omega
  refine ⟨batch.entries[batch.entries.length - 1], ?_, ?_⟩
  · rw [List.getLast?_eq_getElem?, List.getElem?_eq_getElem final]
  · rw [batch.getElem_index _ final, last]
    omega

theorem index_le_last (member : entry ∈ batch.entries) : entry.index ≤ batch.last := by
  obtain ⟨k, inside, rfl⟩ := List.getElem_of_mem member
  rw [batch.getElem_index k inside, last]
  omega

end Batch

/-- The entries that the loop of `applyEntries` goes over. -/
def toApply (appliedIndex : Nat) (entries : List (Entry V)) : List (Entry V) :=
  match entries.head? with
  | none => []
  | some first =>
    if first.index > uint64 (appliedIndex + 1) then []
    else
      let applied := uint64 (wrappingSub appliedIndex first.index + 1)
      if applied < entries.length then entries.drop applied else entries

theorem toApply_next {entries : List (Entry V)} (head : entries.head? = some first)
    (next : ¬ first.index > uint64 (a + 1)) : toApply a entries =
      if uint64 (wrappingSub a first.index + 1) < entries.length then
        entries.drop (uint64 (wrappingSub a first.index + 1)) else entries := by
  simp only [toApply, head, if_neg next]

theorem trimmed_ne_nil {entries : List (Entry V)} (nonempty : entries ≠ []) (applied : Nat) :
    (if applied < entries.length then entries.drop applied else entries) ≠ [] := by
  split
  · rename_i remains
    rw [ne_eq, List.drop_eq_nil_iff]
    omega
  · exact nonempty

theorem Node.applyEntries_slice {env : Env} {entries slice : List (Entry V)} {n : Node V}
    (head : entries.head? = some first) (next : ¬ first.index > uint64 (n.appliedIndex + 1))
    (cut : (if uint64 (wrappingSub n.appliedIndex first.index + 1) < entries.length then
      entries.drop (uint64 (wrappingSub n.appliedIndex first.index + 1)) else entries) = slice)
    (last : slice.getLast? = some final) :
    n.applyEntries env entries = (n.applyAll env slice).map fun m => { m with appliedIndex := final.index } := by
  simp only [applyEntries, head, if_neg next, cut, last, Option.map_some, Option.getD_some]
  cases n.applyAll env slice <;> rfl

/-- The call is the loop over those entries, and then the index of the last of them. -/
theorem Node.applyEntries_eq (env : Env) (entries : List (Entry V)) (n : Node V) : n.applyEntries env entries =
    match (toApply n.appliedIndex entries).getLast? with
    | none => some n
    | some final => (n.applyAll env (toApply n.appliedIndex entries)).map fun m =>
        { m with appliedIndex := final.index } := by
  cases head : entries.head? with
  | none => simp only [applyEntries, toApply, head, List.getLast?_nil]
  | some first =>
    by_cases gap : first.index > uint64 (n.appliedIndex + 1)
    · simp only [applyEntries, toApply, head, if_pos gap, List.getLast?_nil]
    · have nonempty : entries ≠ [] := by
        rintro rfl
        cases head
      have remains := trimmed_ne_nil nonempty (uint64 (wrappingSub n.appliedIndex first.index + 1))
      rw [← toApply_next head gap] at remains
      have last := List.getLast?_eq_some_getLast remains
      rw [last, applyEntries_slice head gap (toApply_next head gap).symm last]

/-- Nothing beyond a gap; what is above the applied index if that is anything; else all. -/
theorem toApply_batch (batch : Batch V) (fits : a < 2 ^ 64) : toApply a batch.entries =
    if uint64 (a + 1) < batch.first then []
    else if a < batch.last then batch.entries.filter (a < ·.index) else batch.entries := by
  obtain ⟨entry, head, index⟩ := batch.head
  have small := batch.small
  have some := batch.length_pos
  simp only [toApply, head, index, gt_iff_lt]
  by_cases gap : uint64 (a + 1) < batch.first
  · rw [if_pos gap, if_pos gap]
  · rw [if_neg gap, if_neg gap, filter_contiguous batch.contiguous]
    by_cases wraps : a + 1 = 2 ^ 64
    · -- the next index wraps to 0, and nothing is cut off
      have zero : uint64 (wrappingSub a batch.first + 1) = 0 := by
        simp only [uint64, wrappingSub] at gap ⊢
        omega
      have behind : ¬ a < batch.last := by
        simp only [Batch.last]
        omega
      rw [zero, if_pos some, if_neg behind, List.drop_zero]
    · have cut : uint64 (wrappingSub a batch.first + 1) = a + 1 - batch.first := by
        simp only [uint64, wrappingSub] at gap ⊢
        omega
      have next : batch.first ≤ a + 1 := by
        simp only [uint64] at gap
        omega
      have remains : a < batch.last ↔ a + 1 - batch.first < batch.entries.length := by
        simp only [Batch.last]
        omega
      rw [cut]
      simp only [remains]

section Once
variable (env : Env) (n : Node V) (batch : Batch V)

/-- What is expected of a call: nothing across a gap, and else exactly the entries above
the applied index, in order, after which the index is the higher of the two. -/
structure AppliesOnce : Prop where
  gap : n.appliedIndex + 1 < batch.first →
    toApply n.appliedIndex batch.entries = [] ∧ n.applyEntries env batch.entries = some n
  next : batch.first ≤ n.appliedIndex + 1 →
    toApply n.appliedIndex batch.entries = batch.entries.filter (n.appliedIndex < ·.index) ∧
      ∃ m, n.applyAll env (batch.entries.filter (n.appliedIndex < ·.index)) = some m ∧
        n.applyEntries env batch.entries = some { m with appliedIndex := max n.appliedIndex batch.last }

/-- A new entry takes this running node out of the cluster, and the loop that applies it
waits for itself. -/
def Hangs : Prop := n.isRunning = true ∧ env.httpServerClose = none ∧
  ∃ entry ∈ batch.entries, n.appliedIndex < entry.index ∧ entry.payload.removes n.id = true

/-- Beyond the next index, or with an entry that is new and none that hangs the loop. -/
def Proper : Prop :=
  uint64 (n.appliedIndex + 1) < batch.first ∨ n.appliedIndex < batch.last ∧ ¬ Hangs env n batch

end Once

section Step
variable {env : Env} {n : Node V} {batch : Batch V}

theorem applyEntries_gap (env : Env) (fits : n.appliedIndex < 2 ^ 64)
    (gap : uint64 (n.appliedIndex + 1) < batch.first) :
    toApply n.appliedIndex batch.entries = [] ∧ n.applyEntries env batch.entries = some n := by
  have nothing : toApply n.appliedIndex batch.entries = [] := by rw [toApply_batch batch fits, if_pos gap]
  refine ⟨nothing, ?_⟩
  rw [Node.applyEntries_eq, nothing]
  rfl

theorem applyEntries_fresh (env : Env) (fits : n.appliedIndex < 2 ^ 64)
    (next : ¬ uint64 (n.appliedIndex + 1) < batch.first) (fresh : n.appliedIndex < batch.last) :
    toApply n.appliedIndex batch.entries = batch.entries.filter (n.appliedIndex < ·.index) ∧
      n.applyEntries env batch.entries = (n.applyAll env (batch.entries.filter (n.appliedIndex < ·.index))).map
        fun m => { m with appliedIndex := batch.last } := by
  have slice : toApply n.appliedIndex batch.entries = batch.entries.filter (n.appliedIndex < ·.index) := by
    rw [toApply_batch batch fits, if_neg next, if_pos fresh]
  refine ⟨slice, ?_⟩
  obtain ⟨final, atEnd, index⟩ := batch.getLast
  have last : (batch.entries.filter (n.appliedIndex < ·.index)).getLast? = some final := by
    have some := batch.length_pos
    simp only [Batch.last] at fresh
    rw [filter_contiguous batch.contiguous, List.getLast?_drop, if_neg (by omega), atEnd]
  rw [Node.applyEntries_eq, slice, last]
  simp only [index]

theorem hangs_iff : Hangs env n batch ↔ n.applyAll env (batch.entries.filter (n.appliedIndex < ·.index)) = none := by
  rw [Node.applyAll_none, Hangs]
  simp only [List.mem_filter, decide_eq_true_eq, and_assoc]

theorem nothing_above (behind : batch.last ≤ n.appliedIndex) :
    batch.entries.filter (n.appliedIndex < ·.index) = [] := by
  rw [List.filter_eq_nil_iff]
  intro entry member
  have := batch.index_le_last member
  simp only [decide_eq_true_eq]
  omega

/-- The call does what is expected of it exactly for the proper batches. -/
theorem appliesOnce_iff (fits : n.appliedIndex < 2 ^ 64) : AppliesOnce env n batch ↔ Proper env n batch := by
  have small := batch.small
  have some := batch.length_pos
  by_cases gap : uint64 (n.appliedIndex + 1) < batch.first
  · refine iff_of_true ⟨fun _ => applyEntries_gap env fits gap, fun next => ?_⟩ (.inl gap)
    -- only the highest index has no next one
    have behind : batch.last ≤ n.appliedIndex := by
      simp only [uint64] at gap
      simp only [Batch.last]
      omega
    obtain ⟨nothing, unchanged⟩ := applyEntries_gap env fits gap
    rw [nothing_above behind, Nat.max_eq_left behind]
    exact ⟨nothing, n, rfl, unchanged⟩
  · have next : batch.first ≤ n.appliedIndex + 1 := by
      have least := Nat.mod_le (n.appliedIndex + 1) (2 ^ 64)
      simp only [uint64] at gap
      omega
    rw [Proper, or_iff_right gap]
    by_cases fresh : n.appliedIndex < batch.last
    · obtain ⟨slice, called⟩ := applyEntries_fresh env fits gap fresh
      rw [and_iff_right fresh, hangs_iff]
      constructor
      · rintro once hangs
        obtain ⟨_, m, applied, _⟩ := once.next next
        rw [hangs] at applied
        cases applied
      · intro returns
        obtain ⟨m, applied⟩ := Option.ne_none_iff_exists'.mp returns
        refine ⟨fun beyond => absurd beyond (by omega), fun _ => ⟨slice, m, applied, ?_⟩⟩
        rw [called, applied, Nat.max_eq_right (Nat.le_of_lt fresh)]
        rfl
    · refine iff_of_false (fun once => ?_) fun both => fresh both.1
      have again : toApply n.appliedIndex batch.entries = batch.entries := by
        rw [toApply_batch batch fits, if_neg gap, if_neg fresh]
      have slice := (once.next next).1
      rw [again, nothing_above (Nat.le_of_not_lt fresh)] at slice
      exact batch.nonempty slice

end Step

section Run

/-- Calls of `applyEntries` with proper batches from `n` on to the last node, and all the
entries they went over. -/
inductive Deliveries : Node V → List (Entry V) → Node V → Prop where
  | none : Deliveries n [] n
  | batch (env : Env) (batch : Batch V) (proper : Proper env n batch)
      (applied : n.applyEntries env batch.entries = some m) (rest : Deliveries m later k) :
      Deliveries n (toApply n.appliedIndex batch.entries ++ later) k

/-- Between two applied indexes, in rising order. -/
structure Rising (a b : Nat) (entries : List (Entry V)) : Prop where
  le : a ≤ b
  rising : (entries.map (·.index)).Pairwise (· < ·)
  inside : ∀ entry ∈ entries, a < entry.index ∧ entry.index ≤ b

theorem Rising.append {entries later : List (Entry V)} (first : Rising a b entries) (second : Rising b c later) :
    Rising a c (entries ++ later) where
  le := Nat.le_trans first.le second.le
  rising := by
    rw [List.map_append, List.pairwise_append]
    refine ⟨first.rising, second.rising, ?_⟩
    simp only [List.mem_map, forall_exists_index, and_imp, forall_apply_eq_imp_iff₂]
    intro entry member other among
    exact Nat.lt_of_le_of_lt (first.inside entry member).2 (second.inside other among).1
  inside := by
    intro entry member
    rcases List.mem_append.mp member with member | member
    · exact (first.inside entry member).imp_right fun below => Nat.le_trans below second.le
    · exact (second.inside entry member).imp_left fun above => Nat.lt_of_le_of_lt first.le above

variable {env : Env} {n m : Node V} {batch : Batch V}

theorem Proper.rising (proper : Proper env n batch) (fits : n.appliedIndex < 2 ^ 64)
    (applied : n.applyEntries env batch.entries = some m) :
    m.appliedIndex < 2 ^ 64 ∧ Rising n.appliedIndex m.appliedIndex (toApply n.appliedIndex batch.entries) := by
  have once := (appliesOnce_iff fits).mpr proper
  by_cases gap : n.appliedIndex + 1 < batch.first
  · obtain ⟨nothing, unchanged⟩ := once.gap gap
    obtain rfl := Option.some.inj (unchanged.symm.trans applied)
    rw [nothing]
    exact ⟨fits, Nat.le_refl _, .nil, by simp⟩
  · obtain ⟨slice, reached, _, called⟩ := once.next (by omega)
    obtain rfl := Option.some.inj (called.symm.trans applied)
    have small := batch.small
    have some := batch.length_pos
    rw [slice]
    refine ⟨?_, Nat.le_max_left _ _, ?_, ?_⟩
    · simp only [Batch.last]
      omega
    · have all : (batch.entries.map (·.index)).Pairwise (· < ·) := by
        rw [batch.contiguous]
        exact List.pairwise_lt_range'
      exact all.sublist (List.filter_sublist.map _)
    · intro entry member
      obtain ⟨listed, above⟩ := List.mem_filter.mp member
      exact ⟨by simpa using above, Nat.le_trans (batch.index_le_last listed) (Nat.le_max_right _ _)⟩

theorem Deliveries.rising (run : Deliveries n entries m) (fits : n.appliedIndex < 2 ^ 64) :
    Rising n.appliedIndex m.appliedIndex entries := by
  induction run with
  | none => exact ⟨Nat.le_refl _, .nil, by simp⟩
  | batch env batch proper applied rest ih =>
    obtain ⟨small, first⟩ := proper.rising fits applied
    exact first.append (ih small)

end Run

/-- One call, and any sequence of calls: each index once and never back, exactly as long
as the batches are proper. -/
theorem batches_applied_once (V : Type) :
    (∀ (env : Env) (n : Node V) (batch : Batch V), n.appliedIndex < 2 ^ 64 →
      (AppliesOnce env n batch ↔ Proper env n batch)) ∧
    ∀ (n m : Node V) (entries : List (Entry V)), n.appliedIndex < 2 ^ 64 → Deliveries n entries m →
      n.appliedIndex ≤ m.appliedIndex ∧ (entries.map (·.index)).Pairwise (· < ·) ∧
        ∀ entry ∈ entries, n.appliedIndex < entry.index ∧ entry.index ≤ m.appliedIndex := by
  refine ⟨fun env n batch fits => appliesOnce_iff fits, fun n m entries fits run => ?_⟩
  obtain ⟨le, rising, inside⟩ := run.rising fits
  exact ⟨le, rising, inside⟩

section Samples

def firstTwo : Batch Nat where
  first := 1
  entries := [⟨1, setEntry "a" 1⟩, ⟨2, setEntry "a" 2⟩]
  nonempty := by simp
  contiguous := rfl
  small := by decide

def lastTwo : Batch Nat where
  first := 2
  entries := [⟨2, setEntry "a" 2⟩, ⟨3, setEntry "a" 3⟩]
  nonempty := by simp
  contiguous := rfl
  small := by decide

def oldWrite : Batch Nat where
  first := 1
  entries := [⟨1, setEntry "a" 1⟩]
  nonempty := by simp
  contiguous := rfl
  small := by decide

/-- The node has applied two writes of the key. -/
def advanced : Node Nat := { fresh 1 with kvs := Std.ExtTreeMap.insert ∅ "a" 2, appliedIndex := 2 }

end Samples

/-- The second batch starts with an entry that the first one brought: only what is new in
it is applied. -/
theorem batches_applied_once_overlap : ∃ m k : Node Nat, (fresh 1).applyEntries calm firstTwo.entries = some m ∧
    m.applyEntries calm lastTwo.entries = some k ∧ k.appliedIndex = 3 ∧ k.kvs["a"]? = some 3 ∧
    toApply m.appliedIndex lastTwo.entries = [⟨3, setEntry "a" 3⟩] ∧
    ((toApply 0 firstTwo.entries ++ toApply m.appliedIndex lastTwo.entries).map (·.index)).Pairwise (· < ·) := by
  have proper : Proper calm (fresh 1) firstTwo := .inr ⟨by decide, by simp [Hangs, firstTwo, setEntry, Payload.removes]⟩
  have once := ((batches_applied_once Nat).1 calm (fresh 1) firstTwo (by decide)).mpr proper
  obtain ⟨_, reached, _, called⟩ := once.next (by decide)
  let m : Node Nat := { reached with appliedIndex := 2 }
  have properNext : Proper calm m lastTwo :=
    .inr ⟨show 2 < 3 by decide, by simp [Hangs, lastTwo, setEntry, Payload.removes]⟩
  have onceMore := ((batches_applied_once Nat).1 calm m lastTwo (show 2 < 2 ^ 64 by decide)).mpr properNext
  obtain ⟨slice, k, new, calledNext⟩ := onceMore.next (show 2 ≤ 2 + 1 by decide)
  have run : Deliveries (fresh 1) _ _ := .batch calm firstTwo proper called (.batch calm lastTwo properNext calledNext .none)
  obtain ⟨_, rising, _⟩ := (batches_applied_once Nat).2 _ _ _ (by decide) run
  rw [List.append_nil] at rising
  refine ⟨m, _, called, calledNext, rfl, ?_, slice, rising⟩
  rw [(Node.applyAll_moves new).kvs, Write.getElem?_replay]
  rfl

/-- The outdated write is applied again, over the newer one, and the index goes back. -/
theorem outdated_batch_goes_back : ¬ AppliesOnce calm advanced oldWrite ∧
    ∃ m, advanced.applyEntries calm oldWrite.entries = some m ∧ m.appliedIndex < advanced.appliedIndex ∧
      advanced.kvs["a"]? = some 2 ∧ m.kvs["a"]? = some 1 := by
  have next : ¬ uint64 (advanced.appliedIndex + 1) < oldWrite.first := by decide
  have slice : toApply advanced.appliedIndex oldWrite.entries = oldWrite.entries := by
    rw [toApply_batch oldWrite (by decide), if_neg next, if_neg (by decide)]
  constructor
  · rw [appliesOnce_iff (by decide)]
    rintro (gap | fresh)
    · exact next gap
    · exact absurd fresh.1 (by decide)
  · refine ⟨{ advanced with kvs := advanced.kvs.insert "a" 1, appliedIndex := 1 }, ?_, by decide, ?_, ?_⟩
    · rw [Node.applyEntries_eq, slice]
      rfl
    · exact Std.ExtTreeMap.getElem?_insert_self
    · exact Std.ExtTreeMap.getElem?_insert_self

end Kvrocks.Raft
