import KvrocksController.Lib.Replay
import KvrocksController.Store.ClusterStoreProofs
import KvrocksController.Store.Keys

/-! Namespaces and clusters as records of one flat map, along any sequence of store
calls. What a record answers is compared with the calls that succeeded on it; records
answer for themselves exactly as long as no two of them share a key. -/
namespace Kvrocks.Isolation
open ClusterStore

inductive Record where
  | space (ns : String)
  | cluster (ns name : String)
deriving DecidableEq, Repr

def Record.key : Record → String
  | .space ns => appendPrefix ns
  | .cluster ns name => buildClusterKey ns name

inductive Op where
  | createNamespace (ns : String)
  | removeNamespace (ns : String)
  | createCluster (ns : String) (cluster : Cluster)
  | updateCluster (ns : String) (cluster : Cluster)
  | removeCluster (ns name : String)

def Op.record : Op → Record
  | .createNamespace ns | .removeNamespace ns => .space ns
  | .createCluster ns cluster | .updateCluster ns cluster => .cluster ns cluster.name
  | .removeCluster ns name => .cluster ns name

/-- The clusters it is called with have ranges that can be read back. -/
def Op.InBounds : Op → Prop
  | .createCluster _ cluster | .updateCluster _ cluster => cluster.InBounds
  | _ => True

/-- What a successful call did. -/
inductive Event where
  | created (ns : String)
  | removed (ns : String)
  | written (ns : String) (content : Cluster)
  | deleted (ns name : String)
deriving DecidableEq, Repr

namespace Event

def record : Event → Record
  | .created ns | .removed ns => .space ns
  | .written ns content => .cluster ns content.name
  | .deleted ns name => .cluster ns name

/-- What the record holds afterwards. -/
def value : Event → Option Value
  | .created ns => some (.text ns)
  | .written _ content => some (.json content.marshalJSON)
  | .removed _ | .deleted .. => none

def InBounds : Event → Prop
  | .written _ content => content.InBounds
  | _ => True

def write (event : Event) : Write String Value :=
  match event.value with
  | some value => .put event.record.key value
  | none => .drop event.record.key

theorem at?_write (event : Event) (key : String) :
    event.write.at? key = if event.record.key = key then some event.value else none := by
  cases event <;> rfl

end Event

/-- The map, and the calls that succeeded, the latest first. -/
structure State where
  kv : KV
  log : List Event

def State.after (s : State) (event : Event) : KV × Option Error → State
  | (kv, none) => ⟨kv, event :: s.log⟩
  | (kv, some _) => ⟨kv, s.log⟩

def perform (e : Engine KV) (s : State) : Op → State
  | .createNamespace ns => s.after (.created ns) (createNamespace e ns s.kv)
  | .removeNamespace ns => s.after (.removed ns) (removeNamespace e ns s.kv)
  | .createCluster ns cluster => s.after (.written ns cluster) (createCluster e ns cluster s.kv)
  | .updateCluster ns cluster =>
    let updated := updateCluster e ns s.kv cluster
    s.after (.written ns { cluster with version := updated.version }) (updated.store, updated.err)
  | .removeCluster ns name => s.after (.deleted ns name) (removeCluster e ns name s.kv)

def lastOn (r : Record) (log : List Event) : Option Event := log.find? (·.record = r)

/-- What `GetCluster` should say of a cluster, by the last call that succeeded on it. Content
with a range out of bounds is written as well, and then read as far as it can be decoded. -/
def Expected (e : Engine KV) (kv : KV) (ns name : String) : Option Event → Prop
  | some (.written _ content) => content.name = name ∧
      (∀ cluster, getCluster e ns name kv = .ok cluster ↔ decode (.json content.marshalJSON) = .ok cluster) ∧
      (content.InBounds → getCluster e ns name kv = .ok content.stored)
  | _ => ∃ err, getCluster e ns name kv = .error err ∧ err.is = some .notFound

/-- A namespace exists iff it was created and not removed since; a cluster is the last
content written if it was not removed since, and not found otherwise. -/
def Answers (e : Engine KV) (s : State) : Record → Prop
  | .space ns => ∃ has, existsNamespace e ns s.kv = .ok has ∧
      (has = true ↔ lastOn (.space ns) s.log = some (.created ns))
  | .cluster ns name => Expected e s.kv ns name (lastOn (.cluster ns name) s.log)

/-- A flat engine with any listing. -/
def listing (list : String → KV → Except Error (List Entry)) : Engine KV := { flat .none with list }

def initial : State := ⟨∅, []⟩

section Calls
variable {list : String → KV → Except Error (List Entry)} {s : State}

/-- A call that fails changes nothing; one that succeeds writes its own key. -/
theorem perform_cases (s : State) (op : Op) :
    perform (listing list) s op = s ∨
      ∃ event, event.record = op.record ∧ (op.InBounds → event.InBounds) ∧
        perform (listing list) s op = ⟨event.write.apply s.kv, event :: s.log⟩ := by
  cases op with
  | createNamespace ns =>
    simp only [perform, createNamespace]
    split
    · exact .inl rfl
    · exact .inr ⟨.created ns, rfl, id, rfl⟩
  | removeNamespace ns =>
    simp only [perform, removeNamespace]
    split
    · exact .inl rfl
    · split
      · exact .inl rfl
      · split
        · exact .inl rfl
        · exact .inr ⟨.removed ns, rfl, id, rfl⟩
  | createCluster ns cluster =>
    simp only [perform, createCluster]
    split
    · exact .inl rfl
    · exact .inr ⟨.written ns cluster, rfl, id, rfl⟩
  | updateCluster ns cluster =>
    simp only [perform, updateCluster]
    split
    · exact .inl rfl
    · split
      · exact .inl rfl
      · exact .inr ⟨.written ns { cluster with version := nextVersion cluster.version }, rfl, id, rfl⟩
  | removeCluster ns name =>
    simp only [perform, removeCluster]
    split
    · exact .inl rfl
    · exact .inr ⟨.deleted ns name, rfl, id, rfl⟩

/-- Every record of `U` holds what the last successful call on it left. -/
def Holds (U : Record → Prop) (s : State) : Prop :=
  ∀ r, U r → s.kv[r.key]? = (lastOn r s.log).bind Event.value

theorem Holds.perform (apart : ∀ r r', U r → U r' → r.key = r'.key → r = r') (holds : Holds U s)
    (within : U (Op.record op)) : Holds U (perform (listing list) s op) := by
  rcases perform_cases s op with same | ⟨event, about, _, changed⟩
  · rwa [same]
  · rw [changed]
    intro r member
    rw [Write.getElem?_apply, Event.at?_write, about]
    by_cases own : op.record = r
    · subst own
      simp [lastOn, about]
    · rw [if_neg fun same => own (apart _ _ within member same), Option.getD_none, holds r member]
      simp [lastOn, about, own]

theorem Holds.run {ops : List Op} (apart : ∀ r r', U r → U r' → r.key = r'.key → r = r') (holds : Holds U s)
    (within : ∀ op ∈ ops, U op.record) : Holds U (ops.foldl (Isolation.perform (listing list)) s) := by
  induction ops generalizing s with
  | nil => exact holds
  | cons op ops ih =>
    exact ih (holds.perform apart (within op (by simp))) fun op member => within op (by simp [member])

theorem lastOn_record (last : lastOn r log = some event) : event.record = r := by
  simpa using List.find?_some last

theorem lastOn_space_value : (lastOn (.space ns) log).bind Event.value = some value ↔
    lastOn (.space ns) log = some (.created ns) ∧ value = .text ns := by
  constructor
  · intro held
    obtain ⟨event, last, valued⟩ := Option.bind_eq_some_iff.mp held
    have about := lastOn_record last
    cases event with
    | created _ =>
      cases about
      exact ⟨last, (Option.some.inj valued).symm⟩
    | removed _ => cases valued
    | written _ _ => cases about
    | deleted _ _ => cases about
  · rintro ⟨last, rfl⟩
    rw [last]
    rfl

theorem lastOn_cluster_value : (lastOn (.cluster ns name) log).bind Event.value = some value ↔
    ∃ content, lastOn (.cluster ns name) log = some (.written ns content) ∧ value = .json content.marshalJSON := by
  constructor
  · intro held
    obtain ⟨event, last, valued⟩ := Option.bind_eq_some_iff.mp held
    have about := lastOn_record last
    cases event with
    | created _ => cases about
    | removed _ => cases about
    | written _ content =>
      cases about
      exact ⟨content, last, (Option.some.inj valued).symm⟩
    | deleted _ _ => cases valued
  · rintro ⟨content, last, rfl⟩
    rw [last]
    rfl

theorem absent_notFound (absent : s.kv[buildClusterKey ns name]? = none) :
    ∃ err, getCluster (listing list) ns name s.kv = .error err ∧ err.is = some .notFound := by
  refine ⟨.wrap "cluster: " (.of .notFound) "", ?_, rfl⟩
  simp [getCluster, getClusterWithoutLock, listing, flat, Faults.reading, orFailed, Faults.none, absent]

/-- What a record holds decides what it answers. -/
theorem Holds.answers (holds : Holds U s) (member : U r) : Answers (listing list) s r := by
  have stored := holds r member
  cases r with
  | space ns =>
    refine ⟨s.kv[appendPrefix ns]?.isSome, rfl, ?_⟩
    rw [show s.kv[appendPrefix ns]? = _ from stored, Option.isSome_iff_exists]
    constructor
    · rintro ⟨value, held⟩
      exact (lastOn_space_value.mp held).1
    · intro created
      exact ⟨.text ns, lastOn_space_value.mpr ⟨created, rfl⟩⟩
  | cluster ns name =>
    rw [Answers]
    cases last : lastOn (.cluster ns name) s.log with
    | none =>
      rw [last] at stored
      exact absent_notFound stored
    | some event =>
      rw [last] at stored
      have about := lastOn_record last
      cases event with
      | created _ => cases about
      | removed _ => cases about
      | deleted _ _ => exact absent_notFound stored
      | written _ content =>
        cases about
        have reads : ∀ cluster, getCluster (listing list) ns content.name s.kv = .ok cluster ↔
            decode (.json content.marshalJSON) = .ok cluster := by
          intro cluster
          refine flat_read_ok.trans ⟨?_, fun decoded => ⟨_, stored, decoded⟩⟩
          rintro ⟨value, held, decoded⟩
          obtain rfl := Option.some.inj (held.symm.trans stored)
          exact decoded
        exact ⟨rfl, reads, fun bounds => (reads _).mpr (Cluster.unmarshal_marshal bounds)⟩

theorem listing_getCluster : getCluster (listing list) ns name kv = getCluster (flat .none) ns name kv := rfl

/-- A created cluster also answers for any other record with its key. -/
theorem collision (distinct : r ≠ .cluster ns name) (same : r.key = buildClusterKey ns name) :
    ¬ Answers (listing list) (perform (listing list) initial (.createCluster ns ⟨name, 1, []⟩)) r := by
  have performed : perform (listing list) initial (.createCluster ns ⟨name, 1, []⟩) =
      ⟨(∅ : KV).insert (buildClusterKey ns name) (.json (Cluster.marshalJSON ⟨name, 1, []⟩)),
        [.written ns ⟨name, 1, []⟩]⟩ := by
    have absent : found (existsCluster (listing list) ns name ∅) = false := by
      simp [found, existsCluster, listing, flat, Faults.reading, orFailed, Faults.none]
    simp only [perform, createCluster, initial, absent]
    rfl
  have silent : lastOn r [.written ns ⟨name, 1, []⟩] = none := by
    simp [lastOn, Event.record, Ne.symm distinct]
  rw [performed]
  cases r with
  | space other =>
    rintro ⟨has, answered, spec⟩
    have there : has = true := by
      have := Except.ok.inj answered
      rw [← this, show appendPrefix other = buildClusterKey ns name from same]
      simp
    rw [silent] at spec
    cases spec.mp there
  | cluster ns' name' =>
    rw [Answers, silent]
    rintro ⟨err, failed, _⟩
    have bounds : Cluster.InBounds ⟨name, 1, []⟩ := by simp [Cluster.InBounds]
    have there : ((∅ : KV).insert (buildClusterKey ns name)
        (.json (Cluster.marshalJSON ⟨name, 1, []⟩)))[buildClusterKey ns' name']? =
          some (.json (Cluster.marshalJSON ⟨name, 1, []⟩)) := by
      rw [show buildClusterKey ns' name' = buildClusterKey ns name from same]
      exact Std.ExtTreeMap.getElem?_insert_self
    have read := flat_read_ok.mpr ⟨_, there, Cluster.unmarshal_marshal bounds⟩
    rw [listing_getCluster, getCluster, read] at failed
    cases failed

end Calls

/-- Along every sequence of calls on records of `U`, starting from an empty map, every
record of `U` answers for itself, if and only if no two of them have the same key. -/
theorem records_isolated_iff (U : Record → Prop) :
    (∀ list (ops : List Op), (∀ op ∈ ops, U op.record) → ∀ r, U r →
      Answers (listing list) (ops.foldl (perform (listing list)) initial) r) ↔
      ∀ r r', U r → U r' → r.key = r'.key → r = r' := by
  constructor
  · intro isolated r r' member member' same
    by_contra distinct
    -- one of the two is a cluster; its creation is seen through the other
    have refuted {r ns name} (member : U r) (other : U (.cluster ns name)) (distinct : r ≠ .cluster ns name)
        (same : r.key = buildClusterKey ns name) : False := by
      refine collision distinct same (isolated (fun _ _ => .ok []) [.createCluster ns ⟨name, 1, []⟩] ?_ r member)
      intro op here
      obtain rfl := List.mem_singleton.mp here
      exact other
    cases r' with
    | cluster ns' name' => exact refuted member member' distinct same
    | space ns' =>
      cases r with
      | space ns => exact distinct (by rw [appendPrefix_inj.mp same])
      | cluster ns name => exact refuted member' member (Ne.symm distinct) same.symm
  · intro apart list ops within r member
    have holds : Holds U initial := fun r _ => by simp [initial, lastOn]
    exact (holds.run apart within).answers member

/-- Names in which the key's marker does not begin keep all records apart. -/
theorem plain_keys_apart {U : Record → Prop} (plain : ∀ ns, U (.space ns) → Plain ns)
    (plain' : ∀ ns name, U (.cluster ns name) → Plain ns) : ∀ r r', U r → U r' → r.key = r'.key → r = r' := by
  intro r r' member member' same
  cases r with
  | space ns =>
    cases r' with
    | space ns' => rw [appendPrefix_inj.mp same]
    | cluster ns' name' => exact absurd same.symm (plain ns member).ne_clusterKey
  | cluster ns name =>
    cases r' with
    | space ns' => exact absurd same (plain ns' member').ne_clusterKey
    | cluster ns' name' =>
      obtain ⟨rfl, rfl⟩ := (plain' ns name member).clusterKey_inj (plain' ns' name' member') same
      rfl

section Samples

def justCreated : State := perform (etcd .none) initial (.createCluster "a" ⟨"b", 1, []⟩)

def thenRemoved : State := perform (etcd .none) justCreated (.removeNamespace "a/cluster/b")

end Samples

/-- Creating the cluster b of namespace a makes a namespace appear that nobody created,
and removing that namespace removes the cluster. -/
theorem records_collide :
    ¬ Answers (etcd .none) justCreated (.space "a/cluster/b") ∧ ¬ Answers (etcd .none) thenRemoved (.cluster "a" "b") := by
  constructor
  · rintro ⟨has, answered, spec⟩
    have there : existsNamespace (etcd .none) "a/cluster/b" justCreated.kv = .ok true := by decide +kernel
    have silent : lastOn (.space "a/cluster/b") justCreated.log = none := by decide +kernel
    obtain rfl := Except.ok.inj (there.symm.trans answered)
    rw [silent] at spec
    cases spec.mp rfl
  · have last : lastOn (.cluster "a" "b") thenRemoved.log = some (.written "a" ⟨"b", 1, []⟩) := by decide +kernel
    have gone : getCluster (etcd .none) "a" "b" thenRemoved.kv = .error (.wrap "cluster: " (.of .notFound) "") := by
      decide +kernel
    rw [Answers, last]
    rintro ⟨_, _, read⟩
    have found := read (by simp [Cluster.InBounds])
    rw [gone] at found
    cases found

end Kvrocks.Isolation
