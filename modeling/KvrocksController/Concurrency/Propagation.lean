import KvrocksController.Concurrency.FailureCounts
import KvrocksController.Lib.Entries
import KvrocksController.Topology.Bounds

/-! How topologies reach the nodes. Any number of checkers read the stored cluster at times
of their own, probe the nodes and push to those behind, store what a node ahead reports, and
push to all nodes after a `sync` event; pushes overtake each other and get lost while the
record moves on, goes and comes back. -/
namespace Kvrocks.Propagation
open Kvrocks.Transition Kvrocks.Strconv Kvrocks.Counting ClusterStore

/-- A kvrocks node: what the last `SETNODEID` and the last accepted `SETNODES` told it. -/
structure Peer where
  id : String
  version : Int
  text : String
deriving DecidableEq, Repr

namespace Peer

/-- Without a topology; `probeNode` returns the version `-1` then. -/
def unset : Peer := ⟨"", -1, ""⟩

/-- A node refuses a version below its own, and has nothing to do for its own. -/
def setNodes (text : String) (version : Int) (peer : Peer) : Peer :=
  if peer.version < version then { peer with version, text } else peer

end Peer

/-- `SyncClusterInfo` for one node; `client` is the address behind the connection once
`SETNODEID` is through. -/
structure Push where
  node : ClusterNode
  cluster : Cluster
  client : Option String

/-- `clients` holds the addresses of the connections by node ID; `probing` is the nodes
of the round whose goroutines have not asked yet, and `answers` what the others were told. -/
structure Checker where
  clients : String → Option String
  cluster : Option Cluster
  probing : List ClusterNode
  answers : List Probe.Answer
  pushes : List Push

def Checker.idle : Checker := ⟨fun _ => none, none, [], [], []⟩

/-- The first address that came with the ID stays, whatever the node has now. -/
def getClient (clients : String → Option String) (node : ClusterNode) : String := (clients node.id).getD node.addr

def connect (clients : String → Option String) (node : ClusterNode) : String → Option String :=
  fun id => if id = node.id then some (getClient clients node) else clients id

/-- The version a probe goes on with; `none` if it ends there. -/
def probedVersion : Except ProbeError Int → Option Int
  | .ok version => some version
  | .error .clusterNotInitialized => some (-1)
  | .error .restoringBackUp | .error (.other _) => none

/-- The goroutine of `parallelProbeNodes` pushes to a node that is behind its snapshot. -/
def follow (cluster : Cluster) (node : ClusterNode) : Option Int → List Push
  | some version => if version < cluster.version then [⟨node, cluster, none⟩] else []
  | none => []

/-- A node that is ahead is asked for its `CLUSTER NODES` text besides. -/
def answered (nodesString : Except Error String) : Option Int → List Probe.Answer
  | some version => [⟨version, nodesString⟩]
  | none => []

/-- The goroutines are picked in any order. -/
theorem mem_middle {a b : α} : a ∈ before ++ b :: after ↔ a = b ∨ a ∈ before ++ after :=
  List.perm_middle.mem_iff.trans List.mem_cons

theorem mem_follow (member : p ∈ follow cluster node version) : p = ⟨node, cluster, none⟩ := by
  cases version with
  | none => simp [follow] at member
  | some version =>
    simp only [follow] at member
    split at member
    · exact List.mem_singleton.mp member
    · simp at member

structure State where
  kv : KV
  checkers : Nat → Checker
  peers : String → Peer

inductive Label where
  | update (edited : Cluster) (faults : Faults)
  | create (cluster : Cluster) (faults : Faults)
  | remove (faults : Faults)
  | elsewhere (kv : KV)
  /-- Another use of the connections of a controller. -/
  | connect (k : Nat) (node : ClusterNode)
  | tick (k : Nat) (faults : Faults)
  | probe (k : Nat) (node : ClusterNode) (answer : Except Error ClusterInfo) (nodesString : Except Error String)
  | adopt (k : Nat) (latest : Cluster) (faults : Faults)
  | sync (k : Nat) (faults : Faults)
  | setNodeID (k : Nat) (push : Push) (heard : Bool)
  | setNodes (k : Nat) (push : Push)
  | fail (k : Nat) (push : Push)
  | reset (addr : String)

namespace State

def put (s : State) (k : Nat) (checker : Checker) : State :=
  { s with checkers := fun other => if other = k then checker else s.checkers other }

def tell (s : State) (addr : String) (peer : Peer) : State :=
  { s with peers := fun other => if other = addr then peer else s.peers other }

end State

section System
variable (ns name : String)

/-- A push can fail at any point, with its last command carried out or not. The node behind
the connection is the one that answers, with its version and any text. -/
inductive Step : State → Label → State → Prop where
  | update (named : edited.name = name) (small : edited.version < maxInt64) :
      Step s (.update edited faults) { s with kv := (updateCluster (flat faults) ns s.kv edited).store }
  | create (named : cluster.name = name) :
      Step s (.create cluster faults) { s with kv := (createCluster (flat faults) ns cluster s.kv).1 }
  | remove : Step s (.remove faults) { s with kv := (removeCluster (flat faults) ns name s.kv).1 }
  | elsewhere (same : kv[buildClusterKey ns name]? = s.kv[buildClusterKey ns name]?) :
      Step s (.elsewhere kv) { s with kv }
  | connect : Step s (.connect k node)
      (s.put k { s.checkers k with clients := connect (s.checkers k).clients node })
  | tick (done : (s.checkers k).probing = []) (read : getCluster (flat faults) ns name s.kv = .ok cluster) :
      Step s (.tick k faults)
        (s.put k { s.checkers k with cluster := some cluster, probing := cluster.getNodes, answers := [] })
  | probe (round : (s.checkers k).cluster = some cluster) (asks : (s.checkers k).probing = before ++ node :: after)
      (honest : ∀ version, probedVersion (probeNode answer) = some version →
        version = (s.peers (getClient (s.checkers k).clients node)).version) :
      Step s (.probe k node answer nodesString)
        (s.put k { s.checkers k with
          clients := connect (s.checkers k).clients node
          probing := before ++ after
          answers := (s.checkers k).answers ++ answered nodesString (probedVersion (probeNode answer))
          pushes := (s.checkers k).pushes ++ follow cluster node (probedVersion (probeNode answer)) })
  | adopt (round : (s.checkers k).cluster = some cluster) (done : (s.checkers k).probing = [])
      (chosen : Probe.adoptionBy (parseClusterBy sort) cluster (s.checkers k).answers = .ok (some latest))
      (permutes : ∀ shards, (sort shards).Perm shards) :
      Step s (.adopt k latest faults)
        ({ s with kv := (setCluster (flat faults) ns latest s.kv).1 }.put k { s.checkers k with answers := [] })
  | sync (read : getCluster (flat faults) ns name s.kv = .ok cluster) :
      Step s (.sync k faults)
        (s.put k { s.checkers k with pushes := (s.checkers k).pushes ++ cluster.getNodes.map (⟨·, cluster, none⟩) })
  | setNodeID (pending : (s.checkers k).pushes = before ++ ⟨node, cluster, none⟩ :: after)
      (rendered : cluster.toSlotString = .ok text) :
      Step s (.setNodeID k ⟨node, cluster, none⟩ heard)
        ((s.tell (getClient (s.checkers k).clients node)
            { s.peers (getClient (s.checkers k).clients node) with id := node.id }).put k
          { s.checkers k with
            clients := connect (s.checkers k).clients node
            pushes := before ++
              (if heard then ⟨node, cluster, some (getClient (s.checkers k).clients node)⟩ :: after else after) })
  | setNodes (pending : (s.checkers k).pushes = before ++ ⟨node, cluster, some addr⟩ :: after)
      (rendered : cluster.toSlotString = .ok text) :
      Step s (.setNodes k ⟨node, cluster, some addr⟩)
        ((s.tell addr ((s.peers addr).setNodes text cluster.version)).put k
          { s.checkers k with pushes := before ++ after })
  | fail (pending : (s.checkers k).pushes = before ++ push :: after) :
      Step s (.fail k push) (s.put k { s.checkers k with pushes := before ++ after })
  | reset : Step s (.reset addr) (s.tell addr .unset)

/-- There is no record, or one as `CreateCluster` leaves it that no checker and no node knows. -/
structure Start (s : State) : Prop where
  record : ∀ value, s.kv[buildClusterKey ns name]? = some value →
    ∃ c : Cluster, value = .json c.marshalJSON ∧ c.name = name ∧ 0 ≤ c.version
  checkers : ∀ k, s.checkers k = .idle
  peers : ∀ addr, s.peers addr = .unset

/-- No running round, push or node has this version or a later one. -/
structure Newest (version : Int) (s : State) : Prop where
  rounds : ∀ k c, (s.checkers k).cluster = some c → (s.checkers k).probing ≠ [] → c.version < version
  pushes : ∀ k, ∀ p ∈ (s.checkers k).pushes, p.cluster.version < version
  peers : ∀ addr, (s.peers addr).version < version

/-- The map that a step leaves. -/
def Label.leaves (s : State) : Label → KV
  | .update edited faults => (updateCluster (flat faults) ns s.kv edited).store
  | .create cluster faults => (createCluster (flat faults) ns cluster s.kv).1
  | .remove faults => (removeCluster (flat faults) ns name s.kv).1
  | .adopt _ latest faults => (setCluster (flat faults) ns latest s.kv).1
  | .elsewhere kv => kv
  | _ => s.kv

/-- The record stays as it is; a call that is refused writes nothing. -/
def Keeps (s : State) (l : Label) : Prop :=
  (l.leaves ns name s)[buildClusterKey ns name]? = s.kv[buildClusterKey ns name]?

/-- A record that is created has a version that is new, and a reported topology that is
stored under the version of the record has its text. -/
def Agreed (s : State) (l : Label) : Prop :=
  Keeps ns name s l ∨ match l with
    | .create cluster _ => 0 ≤ cluster.version ∧ Newest cluster.version s
    | .adopt _ latest _ => ∀ old, getCluster (flat .none) ns name s.kv = .ok old → old.version = latest.version →
        latest.toSlotString = old.toSlotString
    | _ => True

end System

section Versions

/-- A topology that was stored once, under the text of its version. -/
structure Known (render : Int → Except Error String) (top : Int) (c : Cluster) : Prop where
  rendered : c.toSlotString = render c.version
  lower : 0 ≤ c.version
  upper : c.version ≤ top

/-- What a node holds is the text of its version. -/
structure Attributed (render : Int → Except Error String) (top : Int) (peer : Peer) : Prop where
  lower : 0 ≤ peer.version
  upper : peer.version ≤ top
  text : render peer.version = .ok peer.text

/-- The record, if there is one, and the one text that goes with each version up to its. -/
structure Sound (ns name : String) (render : Int → Except Error String) (top : Int) (s : State) : Prop where
  record : ∀ value, s.kv[buildClusterKey ns name]? = some value →
    (∃ record : Cluster, value = .json record.marshalJSON ∧ record.name = name ∧ record.version = top) ∧
      ∀ c, decode value = .ok c → c.toSlotString = render top
  lower : 0 ≤ top
  rounds : ∀ k c, (s.checkers k).cluster = some c →
    c.name = name ∧ ((s.checkers k).probing ≠ [] → Known render top c)
  pushes : ∀ k, ∀ p ∈ (s.checkers k).pushes, Known render top p.cluster
  peers : ∀ addr, (s.peers addr).version = -1 ∨ Attributed render top (s.peers addr)

variable {ns name : String} {render : Int → Except Error String} {top : Int} {s t : State}

theorem Step.leaves (step : Step ns name s l t) : t.kv = l.leaves ns name s := by
  cases step <;> rfl

/-- The decoder is a function: whatever it makes of a record has one text. -/
theorem one_text (value : Value) : ∃ text, ∀ c, decode value = .ok c → c.toSlotString = text := by
  cases decode value with
  | error e => exact ⟨.ok "", by simp⟩
  | ok c => exact ⟨c.toSlotString, by simp⟩

theorem Attributed.setNodes {text : String} (known : Known render top cluster) (rendered : cluster.toSlotString = .ok text)
    (old : peer.version = -1 ∨ Attributed render top peer) :
    (peer.setNodes text cluster.version).version = -1 ∨ Attributed render top (peer.setNodes text cluster.version) := by
  simp only [Peer.setNodes]
  split
  · exact .inr ⟨known.lower, known.upper, by rw [← known.rendered, rendered]⟩
  · exact old

namespace Sound

theorem start (start : Start ns name s) : ∃ render top, Sound ns name render top s := by
  have rounds (k : Nat) (c : Cluster) (round : (s.checkers k).cluster = some c) : False := by
    rw [start.checkers] at round
    cases round
  have pushes (k : Nat) (p : Push) (member : p ∈ (s.checkers k).pushes) : False := by
    rw [start.checkers] at member
    cases member
  have peers (addr : String) : (s.peers addr).version = -1 := by
    rw [start.peers]
    rfl
  cases found : s.kv[buildClusterKey ns name]? with
  | none =>
    refine ⟨fun _ => .ok "", 0, fun value stored => ?_, Int.le_refl 0, fun k c round => (rounds k c round).elim,
      fun k p member => (pushes k p member).elim, fun addr => .inl (peers addr)⟩
    rw [found] at stored
    cases stored
  | some value =>
    obtain ⟨record, rfl, named, lower⟩ := start.record value found
    obtain ⟨text, reads⟩ := one_text (.json record.marshalJSON)
    refine ⟨fun _ => text, record.version, fun value stored => ?_, lower, fun k c round => (rounds k c round).elim,
      fun k p member => (pushes k p member).elim, fun addr => .inl (peers addr)⟩
    obtain rfl := Option.some.inj (found.symm.trans stored)
    exact ⟨⟨record, rfl, named, rfl⟩, reads⟩

theorem read (sound : Sound ns name render top s) (read : getCluster (flat faults) ns name s.kv = .ok c) :
    Known render top c ∧ c.version = top ∧ c.name = name := by
  obtain ⟨value, stored, decoded⟩ := flat_read_ok.mp (flat_read_sound read)
  obtain ⟨⟨record, rfl, named, rfl⟩, reads⟩ := sound.record value stored
  obtain ⟨header, version⟩ := decode_marshal_header decoded
  have text := reads c decoded
  rw [← version] at text
  exact ⟨⟨text, version ▸ sound.lower, Int.le_of_eq version⟩, version, header.trans named⟩

theorem pending (sound : Sound ns name render top s)
    (pending : (s.checkers k).pushes = before ++ push :: after) :
    Known render top push.cluster ∧ ∀ p ∈ before ++ after, Known render top p.cluster := by
  have own := sound.pushes k
  rw [pending] at own
  exact ⟨own push (mem_middle.mpr (.inl rfl)), fun p member => own p (mem_middle.mpr (.inr member))⟩

theorem put (sound : Sound ns name render top s)
    (round : ∀ c, checker.cluster = some c → c.name = name ∧ (checker.probing ≠ [] → Known render top c))
    (own : ∀ p ∈ checker.pushes, Known render top p.cluster) : Sound ns name render top (s.put k checker) := by
  obtain ⟨record, lower, rounds, pushes, peers⟩ := sound
  refine ⟨record, lower, fun j c => ?_, fun j p => ?_, peers⟩
  · simp only [State.put]
    split
    · exact round c
    · exact rounds j c
  · simp only [State.put]
    split
    · exact own p
    · exact pushes j p

theorem tell (sound : Sound ns name render top s) (own : peer.version = -1 ∨ Attributed render top peer) :
    Sound ns name render top (s.tell addr peer) := by
  obtain ⟨record, lower, rounds, pushes, peers⟩ := sound
  refine ⟨record, lower, rounds, pushes, fun other => ?_⟩
  simp only [State.tell]
  split
  · exact own
  · exact peers other

theorem same (sound : Sound ns name render top s) (same : kv[buildClusterKey ns name]? = s.kv[buildClusterKey ns name]?) :
    Sound ns name render top { s with kv } where
  record value stored := sound.record value (same.symm.trans stored)
  lower := sound.lower
  rounds := sound.rounds
  pushes := sound.pushes
  peers := sound.peers

/-- What is known is below every version above the record's. -/
theorem newest (sound : Sound ns name render top s) (above : top < version) : Newest version s where
  rounds k c round running := by
    have upper := ((sound.rounds k c round).2 running).upper
    omega
  pushes k p member := by
    have upper := (sound.pushes k p member).upper
    omega
  peers addr := by
    have lower := sound.lower
    rcases sound.peers addr with unset | attributed
    · omega
    · have upper := attributed.upper
      omega

/-- A record under a version that nothing has yet brings a text of its own. -/
theorem write (sound : Sound ns name render top s) (written : Cluster) (named : written.name = name)
    (lower : 0 ≤ written.version) (newest : Newest written.version s) :
    ∃ after, Sound ns name after written.version
      { s with kv := s.kv.insert (buildClusterKey ns written.name) (.json written.marshalJSON) } := by
  obtain ⟨_, _, rounds, pushes, peers⟩ := sound
  obtain ⟨text, reads⟩ := one_text (.json written.marshalJSON)
  let after : Int → Except Error String := fun v => if v = written.version then text else render v
  have older : ∀ v, v < written.version → after v = render v := fun v bound => if_neg (by omega)
  have known : ∀ c, c.version < written.version → Known render top c → Known after written.version c := fun c below old =>
    ⟨by rw [older _ below, old.rendered], old.lower, Int.le_of_lt below⟩
  refine ⟨after, fun value stored => ?_, lower, fun k c round => ⟨(rounds k c round).1, fun running => ?_⟩,
    fun k p member => known _ (newest.pushes k p member) (pushes k p member), fun addr => ?_⟩
  · rw [named, Std.ExtTreeMap.getElem?_insert_self] at stored
    obtain rfl := Option.some.inj stored
    exact ⟨⟨written, rfl, named, rfl⟩, by simpa only [after, if_true] using reads⟩
  · exact known c (newest.rounds k c round running) ((rounds k c round).2 running)
  · refine (peers addr).imp_right fun old => ⟨old.lower, Int.le_of_lt (newest.peers addr), ?_⟩
    rw [older _ (newest.peers addr), old.text]

/-- The record is replaced under its version, with its text. -/
theorem rewrite (sound : Sound ns name render top s) (written : Cluster) (named : written.name = name)
    (same : written.version = top) (bounds : written.InBounds) (text : written.toSlotString = render top) :
    Sound ns name render top
      { s with kv := s.kv.insert (buildClusterKey ns written.name) (.json written.marshalJSON) } := by
  refine ⟨fun value stored => ?_, sound.lower, sound.rounds, sound.pushes, sound.peers⟩
  rw [named, Std.ExtTreeMap.getElem?_insert_self] at stored
  obtain rfl := Option.some.inj stored
  refine ⟨⟨written, rfl, named, same⟩, fun c decoded => ?_⟩
  obtain rfl := Except.ok.inj ((Cluster.unmarshal_marshal bounds).symm.trans decoded)
  exact written.toSlotString_stored.trans text

theorem update (sound : Sound ns name render top s) (named : edited.name = name)
    (small : edited.version < maxInt64) (faults : Faults) :
    ∃ render top, Sound ns name render top
      { s with kv := (updateCluster (flat faults) ns s.kv edited).store } := by
  rcases flat_updateCluster_cases faults ns s.kv edited with ⟨version, err, refused⟩ | ⟨old, err, read, notAbove, written⟩
  · rw [refused]
    exact ⟨render, top, sound⟩
  · rw [named] at read
    have current := (sound.read read).2.1
    have lower := sound.lower
    have next : nextVersion edited.version = edited.version + 1 := by
      apply nextVersion_eq _ small
      simp only [maxInt64]
      omega
    obtain ⟨after, sound⟩ := sound.write { edited with version := nextVersion edited.version } named
      (by simp only [next]; omega) (sound.newest (by simp only [next]; omega))
    rw [written]
    exact ⟨after, _, sound⟩

theorem create (sound : Sound ns name render top s) (named : cluster.name = name) (lower : 0 ≤ cluster.version)
    (newest : Newest cluster.version s) (faults : Faults) :
    ∃ render top, Sound ns name render top { s with kv := (createCluster (flat faults) ns cluster s.kv).1 } := by
  rcases flat_createCluster_cases faults ns s.kv cluster with ⟨err, refused⟩ | ⟨_, err, written⟩
  · rw [refused]
    exact ⟨render, top, sound⟩
  · rw [written]
    obtain ⟨after, sound⟩ := sound.write cluster named lower newest
    exact ⟨after, _, sound⟩

theorem remove (sound : Sound ns name render top s) (faults : Faults) :
    Sound ns name render top { s with kv := (removeCluster (flat faults) ns name s.kv).1 } := by
  rcases flat_removeCluster_cases faults ns name s.kv with ⟨err, refused⟩ | ⟨_, err, erased⟩
  · rw [refused]
    exact sound
  · rw [erased]
    exact ⟨fun value stored => sound.record value (Entries.erase_kept stored), sound.lower, sound.rounds, sound.pushes,
      sound.peers⟩

/-- A reported topology is refused below the version of the record, and new above it. -/
theorem set (sound : Sound ns name render top s) (named : latest.name = name) (bounds : latest.InBounds)
    (agreed : ∀ old, getCluster (flat .none) ns name s.kv = .ok old → old.version = latest.version →
      latest.toSlotString = old.toSlotString) (faults : Faults) :
    ∃ render top, Sound ns name render top { s with kv := (setCluster (flat faults) ns latest s.kv).1 } := by
  rcases flat_setCluster_cases faults ns s.kv latest with ⟨err, refused⟩ | ⟨old, err, read, notAbove, written⟩
  · rw [refused]
    exact ⟨render, top, sound⟩
  · rw [written]
    rw [named] at read
    obtain ⟨known, current, _⟩ := sound.read read
    have lower := sound.lower
    by_cases same : latest.version = top
    · have text := agreed old read (current.trans same.symm)
      rw [known.rendered, current] at text
      exact ⟨render, top, sound.rewrite latest named same bounds text⟩
    · obtain ⟨after, sound⟩ := sound.write latest named (by omega) (sound.newest (by omega))
      exact ⟨after, _, sound⟩

theorem step (sound : Sound ns name render top s) (agreed : Agreed ns name s l) (step : Step ns name s l t) :
    ∃ render top, Sound ns name render top t := by
  cases step with
  | update named small => exact sound.update named small _
  | create named =>
    rcases agreed with keeps | ⟨lower, newest⟩
    · exact ⟨render, top, sound.same keeps⟩
    · exact sound.create named lower newest _
  | remove => exact ⟨render, top, sound.remove _⟩
  | elsewhere same => exact ⟨render, top, sound.same same⟩
  | connect => exact ⟨render, top, sound.put (sound.rounds _) (sound.pushes _)⟩
  | tick done read =>
    refine ⟨render, top, sound.put (fun c same => ?_) (sound.pushes _)⟩
    obtain rfl := Option.some.inj same
    exact ⟨(sound.read read).2.2, fun _ => (sound.read read).1⟩
  | probe round asks honest =>
    have running := ne_of_eq_of_ne asks (List.append_ne_nil_of_right_ne_nil _ (List.cons_ne_nil _ _))
    refine ⟨render, top, sound.put (fun c same => ?_) fun p member => ?_⟩
    · exact ⟨(sound.rounds _ c same).1, fun _ => (sound.rounds _ c same).2 running⟩
    · rcases List.mem_append.mp member with old | new
      · exact sound.pushes _ p old
      · rw [mem_follow new]
        exact (sound.rounds _ _ round).2 running
  | adopt round done chosen permutes =>
    rcases agreed with keeps | agreed
    · exact ⟨render, top, (sound.same keeps).put (sound.rounds _) (sound.pushes _)⟩
    · have named := (Probe.adoptionBy_name chosen).trans (sound.rounds _ _ round).1
      obtain ⟨render, top, sound⟩ := sound.set named (Cluster.InBounds.adopted chosen permutes) agreed _
      exact ⟨render, top, sound.put (sound.rounds _) (sound.pushes _)⟩
  | sync read =>
    refine ⟨render, top, sound.put (sound.rounds _) fun p member => ?_⟩
    rcases List.mem_append.mp member with old | new
    · exact sound.pushes _ p old
    · obtain ⟨node, _, rfl⟩ := List.mem_map.mp new
      exact (sound.read read).1
  | setNodeID pending rendered =>
    obtain ⟨own, others⟩ := sound.pending pending
    refine ⟨render, top, (sound.tell ?_).put (sound.rounds _) fun p member => ?_⟩
    · exact (sound.peers _).imp_right fun old => ⟨old.lower, old.upper, old.text⟩
    · rcases List.mem_append.mp member with earlier | later
      · exact others p (List.mem_append_left _ earlier)
      · split at later
        · rcases List.mem_cons.mp later with same | later
          · rw [same]
            exact own
          · exact others p (List.mem_append_right _ later)
        · exact others p (List.mem_append_right _ later)
  | setNodes pending rendered =>
    obtain ⟨own, others⟩ := sound.pending pending
    exact ⟨render, top, (sound.tell (Attributed.setNodes own rendered (sound.peers _))).put (sound.rounds _) others⟩
  | fail pending => exact ⟨render, top, sound.put (sound.rounds _) (sound.pending pending).2⟩
  | reset => exact ⟨render, top, sound.tell (.inl rfl)⟩

theorem run (start : Start ns name s) (run : Run (Guarded (Step ns name) (Agreed ns name)) s ls t) :
    ∃ render top, Sound ns name render top t := by
  refine run.preserves (P := fun s => ∃ render top, Sound ns name render top s) ?_ (Sound.start start)
  rintro s l t ⟨render, top, sound⟩ ⟨agreed, step⟩
  exact sound.step agreed step

end Sound

/-- A node's version, over a step that does not reset it. -/
theorem Step.version_le (step : Step ns name s l t) (kept : l ≠ .reset addr) :
    (s.peers addr).version ≤ (t.peers addr).version := by
  have told : ∀ {other peer}, (other = addr → (s.peers addr).version ≤ peer.version) →
      (s.peers addr).version ≤ ((s.tell other peer).peers addr).version := by
    intro other peer own
    simp only [State.tell]
    split
    next same => exact own same.symm
    · exact Int.le_refl _
  cases step with
  | setNodeID pending rendered =>
    refine told fun same => Int.le_of_eq ?_
    rw [same]
  | setNodes pending rendered =>
    refine told fun same => ?_
    rw [same, Peer.setNodes]
    split
    next behind => exact Int.le_of_lt behind
    · exact Int.le_refl _
  | reset =>
    refine told fun same => ?_
    exact absurd (by rw [same]) kept
  | _ => exact Int.le_refl _

end Versions

section Places
variable (ns name : String) (home : String → String)

/-- Every node is where its ID says. -/
def Placed (c : Cluster) : Prop := ∀ node ∈ c.getNodes, node.addr = home node.id

/-- IDs keep their addresses, and a reset falls between the two commands of no push. -/
def Orderly (s : State) : Label → Prop
  | .update edited faults => Keeps ns name s (.update edited faults) ∨ Placed home edited
  | .create cluster faults => Keeps ns name s (.create cluster faults) ∨ Placed home cluster
  | .adopt k latest faults => Keeps ns name s (.adopt k latest faults) ∨ Placed home latest
  | .connect _ node => node.addr = home node.id
  | .reset addr => ∀ k, ∀ p ∈ (s.checkers k).pushes, p.client ≠ some addr
  | _ => True

structure Checker.Homely (checker : Checker) : Prop where
  clients : ∀ id addr, checker.clients id = some addr → addr = home id
  probing : ∀ node ∈ checker.probing, node.addr = home node.id
  pushes : ∀ p ∈ checker.pushes, p.node.addr = home p.node.id ∧ ∀ addr, p.client = some addr → addr = home p.node.id

structure Homely (s : State) : Prop where
  stored : ∀ c, getCluster (flat .none) ns name s.kv = .ok c → Placed home c
  checkers : ∀ k, (s.checkers k).Homely home
  ids : ∀ addr, ((s.peers addr).version ≠ -1 ∨ ∃ k, ∃ p ∈ (s.checkers k).pushes, p.client = some addr) →
    home (s.peers addr).id = addr

variable {ns name home} {s t : State}

/-- A decoded node is one of those written, but for its identity. -/
theorem Placed.decode (placed : Placed home c) (read : Cluster.unmarshalJSON c.marshalJSON = .ok d) : Placed home d := by
  obtain ⟨shards, allocated, same⟩ := Cluster.unmarshal_marshal_nodes read
  intro node member
  obtain ⟨shard, listed, inside⟩ := List.mem_flatMap.mp member
  obtain ⟨base, source, decoded, rfl⟩ := mem_allocate (allocated ▸ listed)
  have copied : source.nodes ∈ shards.map (·.nodes) := List.mem_map_of_mem decoded
  rw [same, List.mem_map] at copied
  obtain ⟨original, written, copied⟩ := copied
  simp only [Shard.renumber, ← copied, List.mem_mapIdx, List.getElem_map] at inside
  obtain ⟨i, bound, rfl⟩ := inside
  rw [List.length_map] at bound
  exact placed original.nodes[i] (List.mem_flatMap.mpr ⟨original, written, List.getElem_mem bound⟩)

theorem follow_fresh (placed : node.addr = home node.id) :
    ∀ p ∈ follow cluster node version, p.node.addr = home p.node.id ∧ p.client = none := by
  intro p member
  have same := mem_follow member
  rw [same]
  exact ⟨placed, rfl⟩

theorem getClient_eq {checker : Checker} (homely : checker.Homely home) (placed : node.addr = home node.id) :
    getClient checker.clients node = home node.id := by
  simp only [getClient]
  cases found : checker.clients node.id with
  | none => exact placed
  | some addr => exact homely.clients _ _ found

theorem connect_home {checker : Checker} (homely : checker.Homely home) (placed : node.addr = home node.id) :
    ∀ id addr, connect checker.clients node id = some addr → addr = home id := by
  intro id addr found
  simp only [connect] at found
  split at found
  next same =>
    rw [same, ← Option.some.inj found]
    exact getClient_eq homely placed
  · exact homely.clients id addr found

namespace Homely

theorem start (start : Start ns name s) (placed : ∀ c, getCluster (flat .none) ns name s.kv = .ok c → Placed home c) :
    Homely ns name home s where
  stored := placed
  checkers k := by
    rw [start.checkers]
    constructor <;> simp [Checker.idle]
  ids addr known := by
    rcases known with set | ⟨k, p, member, _⟩
    · rw [start.peers] at set
      exact absurd rfl set
    · rw [start.checkers] at member
      cases member

theorem read (homely : Homely ns name home s) (read : getCluster (flat faults) ns name s.kv = .ok c) : Placed home c :=
  homely.stored c (flat_read_sound read)

theorem same (homely : Homely ns name home s) (same : kv[buildClusterKey ns name]? = s.kv[buildClusterKey ns name]?) :
    Homely ns name home { s with kv } where
  stored c read := homely.stored c ((flat_read_congr same).symm.trans read)
  checkers := homely.checkers
  ids := homely.ids

theorem identified (homely : Homely ns name home s) :
    ∀ p ∈ (s.checkers k).pushes, ∀ addr, p.client = some addr → home (s.peers addr).id = addr :=
  fun p member addr client => homely.ids addr (.inr ⟨k, p, member, client⟩)

theorem put (homely : Homely ns name home s) (own : checker.Homely home)
    (identified : ∀ p ∈ checker.pushes, ∀ addr, p.client = some addr → home (s.peers addr).id = addr) :
    Homely ns name home (s.put k checker) := by
  obtain ⟨stored, checkers, ids⟩ := homely
  refine ⟨stored, fun j => ?_, fun addr known => ?_⟩
  · simp only [State.put]
    split
    · exact own
    · exact checkers j
  · rcases known with set | ⟨j, p, member, client⟩
    · exact ids addr (.inl set)
    · simp only [State.put] at member
      split at member
      · exact identified p member addr client
      · exact ids addr (.inr ⟨j, p, member, client⟩)

theorem connected (homely : Homely ns name home s) (placed : node.addr = home node.id) :
    Homely ns name home (s.put k { s.checkers k with clients := connect (s.checkers k).clients node }) := by
  have own := homely.checkers k
  exact homely.put ⟨connect_home own placed, own.probing, own.pushes⟩ homely.identified

theorem tick (homely : Homely ns name home s) (read : getCluster (flat faults) ns name s.kv = .ok c) :
    Homely ns name home (s.put k { s.checkers k with cluster := some c, probing := c.getNodes, answers := [] }) := by
  have own := homely.checkers k
  exact homely.put ⟨own.clients, homely.read read, own.pushes⟩ homely.identified

theorem pending {push : Push} (homely : Homely ns name home s)
    (pending : (s.checkers k).pushes = before ++ push :: after) :
    push.node.addr = home push.node.id ∧ ∀ addr, push.client = some addr → home (s.peers addr).id = addr := by
  have member : push ∈ (s.checkers k).pushes := by
    rw [pending]
    simp
  exact ⟨((homely.checkers k).pushes push member).1, homely.identified push member⟩

/-- New pushes have no connection yet. -/
theorem enqueue {clients : String → Option String} {probing : List ClusterNode} {answers : List Probe.Answer}
    {pushes : List Push}
    (homely : Homely ns name home s) (connected : ∀ id addr, clients id = some addr → addr = home id)
    (asked : ∀ node ∈ probing, node.addr = home node.id)
    (fresh : ∀ p ∈ pushes, p.node.addr = home p.node.id ∧ p.client = none) :
    Homely ns name home
      (s.put k { s.checkers k with clients, probing, answers, pushes := (s.checkers k).pushes ++ pushes }) := by
  refine homely.put ⟨connected, asked, fun p member => ?_⟩ fun p member addr client => ?_
  · rcases List.mem_append.mp member with old | new
    · exact (homely.checkers k).pushes p old
    · obtain ⟨placed, unconnected⟩ := fresh p new
      exact ⟨placed, by simp [unconnected]⟩
  · rcases List.mem_append.mp member with old | new
    · exact homely.identified p old addr client
    · rw [(fresh p new).2] at client
      cases client

theorem probe (homely : Homely ns name home s) (asks : (s.checkers k).probing = before ++ node :: after) :
    Homely ns name home (s.put k { s.checkers k with
      clients := connect (s.checkers k).clients node
      probing := before ++ after
      answers := (s.checkers k).answers ++ answered nodesString version
      pushes := (s.checkers k).pushes ++ follow cluster node version }) := by
  have own := homely.checkers k
  have asked : ∀ n, n = node ∨ n ∈ before ++ after → n.addr = home n.id := fun n member =>
    own.probing n (by rw [asks]; exact mem_middle.mpr member)
  exact homely.enqueue (connect_home own (asked node (.inl rfl))) (fun n member => asked n (.inr member))
    (follow_fresh (asked node (.inl rfl)))

theorem sync (homely : Homely ns name home s) (read : getCluster (flat faults) ns name s.kv = .ok c) :
    Homely ns name home
      (s.put k { s.checkers k with pushes := (s.checkers k).pushes ++ c.getNodes.map (⟨·, c, none⟩) }) := by
  have own := homely.checkers k
  refine homely.enqueue own.clients own.probing fun p member => ?_
  obtain ⟨node, listed, rfl⟩ := List.mem_map.mp member
  exact ⟨homely.read read node listed, rfl⟩

theorem fail (homely : Homely ns name home s) (pending : (s.checkers k).pushes = before ++ push :: after) :
    Homely ns name home (s.put k { s.checkers k with pushes := before ++ after }) := by
  have own := homely.checkers k
  have remaining : ∀ p ∈ before ++ after, p ∈ (s.checkers k).pushes := fun p member => by
    rw [pending]
    exact mem_middle.mpr (.inr member)
  exact homely.put ⟨own.clients, own.probing, fun p member => own.pushes p (remaining p member)⟩
    fun p member => homely.identified p (remaining p member)

theorem tell (homely : Homely ns name home s) (known : peer.version ≠ -1 ∨ (∃ k, ∃ p ∈ (s.checkers k).pushes,
    p.client = some addr) → home peer.id = addr) : Homely ns name home (s.tell addr peer) := by
  obtain ⟨stored, checkers, ids⟩ := homely
  refine ⟨stored, checkers, fun other old => ?_⟩
  simp only [State.tell] at old ⊢
  split
  next same =>
    rw [if_pos same, same] at old
    exact (known old).trans same.symm
  next away =>
    rw [if_neg away] at old
    exact ids other old

theorem setNodeID (homely : Homely ns name home s) (placed : node.addr = home node.id)
    (pending : (s.checkers k).pushes = before ++ ⟨node, cluster, none⟩ :: after) (heard : Bool) :
    Homely ns name home
      ((s.tell (getClient (s.checkers k).clients node)
          { s.peers (getClient (s.checkers k).clients node) with id := node.id }).put k
        { s.checkers k with
          clients := connect (s.checkers k).clients node
          pushes := before ++
            (if heard then ⟨node, cluster, some (getClient (s.checkers k).clients node)⟩ :: after else after) }) := by
  have own := homely.checkers k
  have client := getClient_eq own placed
  have told : Homely ns name home (s.tell (getClient (s.checkers k).clients node)
      { s.peers (getClient (s.checkers k).clients node) with id := node.id }) := homely.tell fun _ => client.symm
  have split : ∀ p ∈ before ++
      (if heard then ⟨node, cluster, some (getClient (s.checkers k).clients node)⟩ :: after else after),
      p = ⟨node, cluster, some (getClient (s.checkers k).clients node)⟩ ∨ p ∈ (s.checkers k).pushes := by
    intro p member
    rw [pending]
    cases heard <;> simp at member ⊢ <;> tauto
  refine told.put ⟨connect_home own placed, own.probing, fun p member => ?_⟩ fun p member addr connected => ?_
  · rcases split p member with rfl | old
    · refine ⟨placed, fun addr same => ?_⟩
      rw [← Option.some.inj same, client]
    · exact own.pushes p old
  · rcases split p member with rfl | old
    · rw [← Option.some.inj connected]
      simp only [State.tell, if_true]
      exact client.symm
    · exact told.identified p old addr connected

theorem write (homely : Homely ns name home s) (written : Cluster) (placed : Placed home written)
    (named : written.name = name) :
    Homely ns name home { s with kv := s.kv.insert (buildClusterKey ns written.name) (.json written.marshalJSON) } := by
  refine ⟨fun c read => ?_, homely.checkers, homely.ids⟩
  obtain ⟨value, found, decoded⟩ := flat_read_ok.mp read
  rw [named, Std.ExtTreeMap.getElem?_insert_self] at found
  obtain rfl := Option.some.inj found
  exact placed.decode decoded

theorem update (homely : Homely ns name home s) (named : edited.name = name) (placed : Placed home edited)
    (faults : Faults) : Homely ns name home { s with kv := (updateCluster (flat faults) ns s.kv edited).store } := by
  rcases flat_updateCluster_cases faults ns s.kv edited with ⟨version, err, refused⟩ | ⟨old, err, _, _, written⟩
  · rw [refused]
    exact homely
  · rw [written]
    exact homely.write { edited with version := nextVersion edited.version } placed named

theorem create (homely : Homely ns name home s) (named : cluster.name = name) (placed : Placed home cluster)
    (faults : Faults) : Homely ns name home { s with kv := (createCluster (flat faults) ns cluster s.kv).1 } := by
  rcases flat_createCluster_cases faults ns s.kv cluster with ⟨err, refused⟩ | ⟨_, err, written⟩
  · rw [refused]
    exact homely
  · rw [written]
    exact homely.write _ placed named

theorem remove (homely : Homely ns name home s) (faults : Faults) :
    Homely ns name home { s with kv := (removeCluster (flat faults) ns name s.kv).1 } := by
  rcases flat_removeCluster_cases faults ns name s.kv with ⟨err, refused⟩ | ⟨_, err, erased⟩
  · rw [refused]
    exact homely
  · rw [erased]
    refine ⟨fun c read => ?_, homely.checkers, homely.ids⟩
    obtain ⟨value, found, decoded⟩ := flat_read_ok.mp read
    rw [Std.ExtTreeMap.getElem?_erase_self] at found
    cases found

theorem set (homely : Homely ns name home s) (named : latest.name = name) (placed : Placed home latest)
    (faults : Faults) : Homely ns name home { s with kv := (setCluster (flat faults) ns latest s.kv).1 } := by
  rcases flat_setCluster_cases faults ns s.kv latest with ⟨err, refused⟩ | ⟨old, err, _, _, written⟩
  · rw [refused]
    exact homely
  · rw [written]
    exact homely.write _ placed named

theorem step (homely : Homely ns name home s) (sound : Sound ns name render top s) (orderly : Orderly ns name home s l)
    (step : Step ns name s l t) : Homely ns name home t := by
  cases step with
  | update named small =>
    rcases orderly with keeps | placed
    · exact homely.same keeps
    · exact homely.update named placed _
  | create named =>
    rcases orderly with keeps | placed
    · exact homely.same keeps
    · exact homely.create named placed _
  | remove => exact homely.remove _
  | adopt round done chosen permutes =>
    have named := (Probe.adoptionBy_name chosen).trans (sound.rounds _ _ round).1
    have own := homely.checkers
    rcases orderly with keeps | placed
    · exact (homely.same keeps).put ⟨(own _).clients, (own _).probing, (own _).pushes⟩ homely.identified
    · exact (homely.set named placed _).put ⟨(own _).clients, (own _).probing, (own _).pushes⟩ homely.identified
  | elsewhere same => exact homely.same same
  | connect => exact homely.connected orderly
  | tick done read => exact homely.tick read
  | probe round asks honest => exact homely.probe asks
  | sync read => exact homely.sync read
  | setNodeID pending rendered => exact homely.setNodeID (homely.pending pending).1 pending _
  | setNodes pending rendered =>
    have known := (homely.pending pending).2 _ rfl
    refine Homely.fail (homely.tell fun _ => ?_) pending
    rw [Peer.setNodes]
    split <;> exact known
  | fail pending => exact homely.fail pending
  | reset =>
    refine homely.tell ?_
    rintro (set | ⟨k, p, member, client⟩)
    · exact absurd rfl set
    · exact absurd client (orderly k p member)

/-- Both invariants, where both conditions are kept. -/
theorem run (start : Start ns name s) (placed : ∀ c, getCluster (flat .none) ns name s.kv = .ok c → Placed home c)
    (run : Run (Guarded (Step ns name) fun s l => Orderly ns name home s l ∧ Agreed ns name s l) s ls t) :
    (∃ render top, Sound ns name render top t) ∧ Homely ns name home t := by
  refine run.preserves (P := fun s => (∃ render top, Sound ns name render top s) ∧ Homely ns name home s) ?_
    ⟨Sound.start start, Homely.start start placed⟩
  rintro s l t ⟨⟨render, top, sound⟩, homely⟩ ⟨⟨orderly, agreed⟩, step⟩
  exact ⟨sound.step agreed step, homely.step sound orderly step⟩

end Homely
end Places

section Rounds

/-- Steps during a round of checker `k` over `c`: nobody writes the record, no node is
reset, and of this checker's own calls with `c` none fails. -/
def Undisturbed (ns name : String) (k : Nat) (c : Cluster) (s : State) (l : Label) : Prop :=
  Keeps ns name s l ∧ match l with
    | .reset _ => False
    | .tick j _ => j ≠ k
    | .probe j _ answer _ => j = k → probedVersion (probeNode answer) ≠ none
    | .setNodeID j push heard => j = k → push.cluster = c → heard = true
    | .fail j push => j = k → push.cluster ≠ c
    | _ => True

/-- The checker has the node yet to ask, or a push of `c` to it on its way. -/
def Owed (c : Cluster) (checker : Checker) (node : ClusterNode) : Prop :=
  node ∈ checker.probing ∨ ∃ p ∈ checker.pushes, p.node = node ∧ p.cluster = c

structure Reaching (ns name : String) (home : String → String) (k : Nat) (c : Cluster) (s : State) : Prop where
  sound : ∃ render top, Sound ns name render top s
  homely : Homely ns name home s
  stored : getCluster (flat .none) ns name s.kv = .ok c
  round : (s.checkers k).cluster = some c
  due : ∀ node ∈ c.getNodes, Owed c (s.checkers k) node ∨ (s.peers node.addr).version = c.version

variable {ns name : String} {home : String → String} {k : Nat} {c : Cluster} {s t : State}

theorem Owed.put (owed : Owed c (s.checkers k) node) (own : j = k → Owed c checker node) :
    Owed c ((s.put j checker).checkers k) node := by
  simp only [State.put]
  split
  next same => exact own same.symm
  · exact owed

theorem Owed.pushed (owed : Owed c checker node) (probing : ∀ n ∈ checker.probing, n ∈ after.probing)
    (pushes : ∀ p ∈ checker.pushes, p ∈ after.pushes) : Owed c after node := by
  rcases owed with asked | ⟨p, member, same⟩
  · exact .inl (probing node asked)
  · exact .inr ⟨p, pushes p member, same⟩

/-- Nobody is ahead of the record. -/
theorem version_le (sound : ∃ render top, Sound ns name render top s)
    (stored : getCluster (flat .none) ns name s.kv = .ok c) (addr : String) : (s.peers addr).version ≤ c.version := by
  obtain ⟨render, top, sound⟩ := sound
  obtain ⟨known, current, _⟩ := sound.read stored
  have lower := known.lower
  rcases sound.peers addr with unset | attributed
  · omega
  · have upper := attributed.upper
    omega

theorem Step.stored (step : Step ns name s l t) (keeps : Keeps ns name s l)
    (stored : getCluster (flat .none) ns name s.kv = .ok d) : getCluster (flat .none) ns name t.kv = .ok d := by
  rw [step.leaves]
  exact (flat_read_congr keeps).trans stored

theorem Step.round (step : Step ns name s l t) (quiet : Undisturbed ns name k c s l) :
    (t.checkers k).cluster = (s.checkers k).cluster := by
  have kept : ∀ {j checker}, (j = k → checker.cluster = (s.checkers k).cluster) →
      ((s.put j checker).checkers k).cluster = (s.checkers k).cluster := by
    intro j checker own
    simp only [State.put]
    split
    next same => exact own same.symm
    · rfl
  cases step with
  | tick done read => exact kept fun same => absurd same quiet.2
  | connect => exact kept fun same => by rw [same]
  | probe round asks honest => exact kept fun same => by rw [same]
  | sync read => exact kept fun same => by rw [same]
  | setNodeID pending rendered => exact kept fun same => by rw [same]
  | setNodes pending rendered => exact kept fun same => by rw [same]
  | fail pending => exact kept fun same => by rw [same]
  | adopt round done chosen permutes => exact kept fun same => by rw [same]
  | update | create | remove | elsewhere | reset => rfl

namespace Reaching

/-- A node that answers its probe with a version below the round's gets a push. -/
theorem probed {answer : Option Int} (reaching : Reaching ns name home k c s)
    (asks : (s.checkers k).probing = before ++ node :: after)
    (honest : ∀ version, answer = some version → version = (s.peers (getClient (s.checkers k).clients node)).version)
    (answered : answer ≠ none) (away : (s.peers node.addr).version ≠ c.version) :
    ⟨node, c, none⟩ ∈ follow c node answer := by
  have placed := (reaching.homely.checkers k).probing node (by rw [asks]; exact mem_middle.mpr (.inl rfl))
  have client := getClient_eq (reaching.homely.checkers k) placed
  obtain ⟨version, rfl⟩ := Option.ne_none_iff_exists'.mp answered
  have upper := version_le reaching.sound reaching.stored node.addr
  have same := honest version rfl
  rw [client, ← placed] at same
  rw [follow, if_pos (by omega)]
  exact List.mem_singleton.mpr rfl

/-- A push that is carried out brings its node to the version of the round. -/
theorem delivered (reaching : Reaching ns name home k c s) (text : String)
    (pending : (s.checkers j).pushes = before ++ ⟨target, cluster, some addr⟩ :: after)
    (owed : Owed c (s.checkers k) node) (away : (s.peers node.addr).version ≠ c.version) :
    let t := (s.tell addr ((s.peers addr).setNodes text cluster.version)).put j
      { s.checkers j with pushes := before ++ after }
    Owed c (t.checkers k) node ∨ (t.peers node.addr).version = c.version := by
  intro t
  rcases owed with asked | ⟨p, member, toNode, ofCluster⟩
  · exact .inl (Owed.put (.inl asked) fun same => by subst same; exact .inl asked)
  · by_cases own : j = k
    · subst own
      have place := (reaching.homely.checkers j).pushes p member
      rw [pending] at member
      rcases mem_middle.mp member with rfl | other
      · have here : addr = node.addr := by rw [place.2 addr rfl, ← place.1, toNode]
        have upper := version_le reaching.sound reaching.stored node.addr
        have behind : (s.peers node.addr).version < c.version := by omega
        right
        simp only [t, State.put, State.tell, here, if_true, Peer.setNodes]
        simp only at ofCluster
        rw [ofCluster, if_pos behind]
      · refine .inl (Owed.put (.inr ⟨p, ?_, toNode, ofCluster⟩) fun _ => .inr ⟨p, other, toNode, ofCluster⟩)
        rw [State.tell, pending]
        exact member
    · exact .inl (Owed.put (.inr ⟨p, member, toNode, ofCluster⟩) fun same => absurd same own)

theorem owed (reaching : Reaching ns name home k c s) (quiet : Undisturbed ns name k c s l) (step : Step ns name s l t)
    (owed : Owed c (s.checkers k) node) (away : (s.peers node.addr).version ≠ c.version) :
    Owed c (t.checkers k) node ∨ (t.peers node.addr).version = c.version := by
  cases step with
  | update | create | remove | elsewhere => exact .inl owed
  | adopt => exact .inl (owed.put fun same => by subst same; exact owed)
  | connect => exact .inl (owed.put fun same => by subst same; exact owed)
  | tick done read => exact .inl (owed.put fun same => absurd same quiet.2)
  | probe round asks honest =>
    refine .inl (owed.put fun same => ?_)
    subst same
    obtain rfl := Option.some.inj (round.symm.trans reaching.round)
    rcases owed with asked | ⟨p, member, toNode⟩
    · rw [asks] at asked
      rcases mem_middle.mp asked with rfl | other
      · exact .inr ⟨_, List.mem_append_right _ (reaching.probed asks honest (quiet.2 rfl) away), rfl, rfl⟩
      · exact .inl other
    · exact .inr ⟨p, List.mem_append_left _ member, toNode⟩
  | sync read =>
    refine .inl (owed.put fun same => ?_)
    subst same
    exact owed.pushed (fun _ member => member) fun _ member => List.mem_append_left _ member
  | setNodeID pending rendered =>
    refine .inl (owed.put fun same => ?_)
    subst same
    rcases owed with asked | ⟨p, member, toNode, ofCluster⟩
    · exact .inl asked
    · rw [pending] at member
      rcases mem_middle.mp member with rfl | other
      · rw [quiet.2 rfl ofCluster]
        exact .inr ⟨_, mem_middle.mpr (.inl rfl), toNode, ofCluster⟩
      · refine .inr ⟨p, ?_, toNode, ofCluster⟩
        rcases List.mem_append.mp other with earlier | later
        · exact List.mem_append_left _ earlier
        · apply List.mem_append_right
          split
          · exact List.mem_cons_of_mem _ later
          · exact later
  | setNodes pending rendered => exact reaching.delivered _ pending owed away
  | fail pending =>
    refine .inl (owed.put fun same => ?_)
    subst same
    rcases owed with asked | ⟨p, member, toNode, ofCluster⟩
    · exact .inl asked
    · rw [pending] at member
      rcases mem_middle.mp member with rfl | other
      · exact absurd ofCluster (quiet.2 rfl)
      · exact .inr ⟨p, other, toNode, ofCluster⟩
  | reset => exact quiet.2.elim

theorem tick (sound : ∃ render top, Sound ns name render top s) (homely : Homely ns name home s)
    (tick : Step ns name s (.tick k faults) t) (round : (t.checkers k).cluster = some c) :
    Reaching ns name home k c t := by
  have after : ∃ render top, Sound ns name render top t := by
    obtain ⟨render, top, sound⟩ := sound
    exact sound.step (l := .tick k faults) (.inl rfl) tick
  have homely : Homely ns name home t := by
    obtain ⟨render, top, sound⟩ := sound
    exact homely.step sound (l := .tick k faults) trivial tick
  cases tick with
  | tick done read =>
    simp only [State.put, if_true, Option.some.injEq] at round
    subst round
    refine ⟨after, homely, flat_read_sound read, ?_, fun node listed => .inl (.inl ?_)⟩
    · simp only [State.put, if_true]
    · simpa only [State.put, if_true] using listed

theorem step (reaching : Reaching ns name home k c s) (orderly : Orderly ns name home s l)
    (quiet : Undisturbed ns name k c s l) (step : Step ns name s l t) : Reaching ns name home k c t := by
  have sound : ∃ render top, Sound ns name render top t := by
    obtain ⟨render, top, sound⟩ := reaching.sound
    exact sound.step (.inl quiet.1) step
  have homely : Homely ns name home t := by
    obtain ⟨render, top, sound⟩ := reaching.sound
    exact reaching.homely.step sound orderly step
  have stored := step.stored quiet.1 reaching.stored
  have unreset : ∀ addr, l ≠ .reset addr := by
    rintro addr rfl
    exact quiet.2
  refine ⟨sound, homely, stored, (step.round quiet).trans reaching.round, fun node listed => ?_⟩
  by_cases there : (s.peers node.addr).version = c.version
  · -- versions only grow, and nobody is ahead of the record
    have grown := step.version_le (unreset node.addr)
    have upper := version_le sound stored node.addr
    right
    omega
  · exact reaching.owed quiet step ((reaching.due node listed).resolve_right there) there

theorem run (reaching : Reaching ns name home k c s)
    (run : Run (Guarded (Step ns name) fun s l => Orderly ns name home s l ∧ Undisturbed ns name k c s l) s ls t) :
    Reaching ns name home k c t :=
  run.preserves (fun _ _ _ before step => before.step step.1.1 step.1.2 step.2) reaching

end Reaching

section Samples

/-- Its ID is its address, so that addresses are IDs here. -/
def node : ClusterNode := ⟨0, "a:1", "a:1", roleMaster, "", 0⟩

def first : Cluster := ⟨"c", 1, [⟨[node], [⟨0, 16383⟩], -1, none⟩]⟩

def edited : Cluster := ⟨"c", 1, [⟨[node], [⟨0, 99⟩], -1, none⟩]⟩

def second : Cluster := { edited with version := 2 }

def created : State :=
  ⟨(∅ : KV).insert (buildClusterKey "ns" "c") (.json first.marshalJSON), fun _ => .idle, fun _ => .unset⟩

/-- Checker 2 is in a round and checker 1 is to push the first version when the second one
is written. -/
def overtaken : List Label := [.tick 2 .none, .sync 1 .none, .update edited .none]

/-- Checker 0 finds a node without topology, which then gets the older one first. -/
def caughtUp : List Label :=
  [.setNodeID 1 ⟨node, first, none⟩ true, .probe 0 node (.error errClusterNotInitialized) (.error (.new "EOF")),
    .setNodes 1 ⟨node, first, some "a:1"⟩, .setNodeID 0 ⟨node, second, none⟩ true,
    .setNodes 0 ⟨node, second, some "a:1"⟩]

/-- The node is ahead of checker 2, which stores what it reports. Then the cluster is removed,
the node reset, and the first version created once more. -/
def recreated : List Label :=
  [.probe 2 node (.ok ⟨2, none, ""⟩) (.ok "a:1 a:1 master - 0 0 2 connected 0-99"), .adopt 2 second .none, .remove .none,
    .reset "a:1", .create first .none]

theorem created_start : Start "ns" "c" created where
  record := by
    intro value stored
    rw [created, Std.ExtTreeMap.getElem?_insert_self] at stored
    exact ⟨first, (Option.some.inj stored).symm, rfl, by decide⟩
  checkers _ := rfl
  peers _ := rfl

theorem first_read : getCluster (flat .none) "ns" "c" created.kv = .ok first := by decide +kernel

theorem second_read :
    getCluster (flat .none) "ns" "c" (updateCluster (flat .none) "ns" created.kv edited).store = .ok second := by
  decide +kernel

theorem second_text : second.toSlotString = .ok "a:1 a 1 master - 0-99\n" := by decide +kernel

/-- What checker 2 comes across after that. -/
structure Late (s : State) : Prop where
  stored : s.kv = (updateCluster (flat .none) "ns" created.kv edited).store
  round : s.checkers 2 = ⟨fun _ => none, some first, [node], [], []⟩
  others : ∀ k, k ≠ 2 → (s.checkers k).probing = [] ∧ (s.checkers k).pushes = []
  peer : (s.peers "a:1").version = 2
  away : ∀ addr, addr ≠ "a:1" → s.peers addr = .unset

theorem sample_round : ∃ s m t,
    Run (Guarded (Step "ns" "c") fun s l => Orderly "ns" "c" id s l ∧ Agreed "ns" "c" s l) created overtaken s ∧
      Step "ns" "c" s (.tick 0 .none) m ∧ (m.checkers 0).cluster = some second ∧
      Run (Guarded (Step "ns" "c") fun s l => Orderly "ns" "c" id s l ∧ Undisturbed "ns" "c" 0 second s l) m caughtUp t ∧
      (t.checkers 0).probing = [] ∧ (t.checkers 0).pushes = [] ∧ Late t := by
  have placed : Placed id edited := by simp [Placed, Cluster.getNodes, edited, node]
  have text : first.toSlotString = .ok "a:1 a 1 master - 0-16383\n" := by decide +kernel
  have answer : probedVersion (probeNode (.error errClusterNotInitialized)) = some (-1) := by decide +kernel
  refine ⟨_, _, _, .cons ⟨⟨trivial, .inl rfl⟩, .tick rfl first_read⟩ (.cons ⟨⟨trivial, .inl rfl⟩, .sync first_read⟩
    (.cons ⟨⟨.inr placed, .inr trivial⟩, .update rfl (by decide)⟩ .nil)), .tick rfl second_read, rfl,
    .cons ⟨⟨trivial, rfl, by simp⟩, .setNodeID (rfl : _ = [] ++ _ :: []) text⟩
    (.cons ⟨⟨trivial, rfl, by simp [answer]⟩, .probe rfl (rfl : _ = [] ++ _ :: []) fun version found => by
      rw [answer] at found
      exact (Option.some.inj found).symm⟩
    (.cons ⟨⟨trivial, rfl, trivial⟩, .setNodes (rfl : _ = [] ++ _ :: []) text⟩
    (.cons ⟨⟨trivial, rfl, by simp⟩, .setNodeID (rfl : _ = [] ++ _ :: []) second_text⟩
    (.cons ⟨⟨trivial, rfl, trivial⟩, .setNodes (rfl : _ = [] ++ _ :: []) second_text⟩ .nil)))), rfl, rfl, rfl, rfl, ?_,
    rfl, ?_⟩
  · intro k other
    simp only [State.put, State.tell]
    split_ifs <;> simp_all [created, Checker.idle]
  · intro addr other
    simp [State.put, State.tell, getClient, connect, Checker.idle, node, other, created]

end Samples

/-- One probe round of a checker brings every node to the stored topology: if the record
stays as the round read it, the nodes answer, and the pushes of the round are carried out,
then whatever was on its way before the round or comes from other checkers during it, in
whatever order, each node ends with its own ID, the version and the text of the record. -/
theorem probe_round_converges (injective : ∀ id other, home id = home other → id = other)
    (start : Start ns name s₀) (placed : ∀ c, getCluster (flat .none) ns name s₀.kv = .ok c → Placed home c)
    (before : Run (Guarded (Step ns name) fun s l => Orderly ns name home s l ∧ Agreed ns name s l) s₀ ls s)
    (tick : Step ns name s (.tick k faults) m) (round : (m.checkers k).cluster = some c)
    (run : Run (Guarded (Step ns name) fun s l => Orderly ns name home s l ∧ Undisturbed ns name k c s l) m ms t)
    (asked : (t.checkers k).probing = []) (pushed : (t.checkers k).pushes = [])
    (rendered : c.toSlotString = .ok text) :
    ∀ node ∈ c.getNodes, t.peers node.addr = ⟨node.id, c.version, text⟩ := by
  obtain ⟨sound, homely⟩ := Homely.run start placed before
  have reaching := (Reaching.tick sound homely tick round).run run
  intro node listed
  have version : (t.peers node.addr).version = c.version := by
    refine (reaching.due node listed).resolve_left ?_
    simp [Owed, asked, pushed]
  obtain ⟨render, top, sound⟩ := reaching.sound
  obtain ⟨known, _, _⟩ := sound.read reaching.stored
  have lower := known.lower
  have set : (t.peers node.addr).version ≠ -1 := by omega
  have told := ((sound.peers node.addr).resolve_left set).text
  rw [version, ← known.rendered, rendered] at told
  have id : home (t.peers node.addr).id = home node.id :=
    (reaching.homely.ids node.addr (.inl set)).trans (reaching.homely.stored c reaching.stored node listed)
  calc t.peers node.addr = ⟨(t.peers node.addr).id, (t.peers node.addr).version, (t.peers node.addr).text⟩ := rfl
    _ = ⟨node.id, c.version, text⟩ := by rw [injective _ _ id, version, Except.ok.inj told]

theorem probe_round_converges_overtaken :
    ∃ s m t,
      Run (Guarded (Step "ns" "c") fun s l => Orderly "ns" "c" id s l ∧ Agreed "ns" "c" s l) created overtaken s ∧
      Step "ns" "c" s (.tick 0 .none) m ∧
      Run (Guarded (Step "ns" "c") fun s l => Orderly "ns" "c" id s l ∧ Undisturbed "ns" "c" 0 second s l) m caughtUp t ∧
      t.peers "a:1" = ⟨"a:1", 2, "a:1 a 1 master - 0-99\n"⟩ := by
  obtain ⟨s, m, t, before, tick, round, run, asked, pushed, _⟩ := sample_round
  have placed : ∀ c, getCluster (flat .none) "ns" "c" created.kv = .ok c → Placed id c := by
    intro c same
    obtain rfl := Except.ok.inj (first_read.symm.trans same)
    simp [Placed, Cluster.getNodes, first, node]
  refine ⟨s, m, t, before, tick, run, ?_⟩
  exact probe_round_converges (fun _ _ same => same) created_start placed before tick round run asked pushed second_text
    node (by simp [Cluster.getNodes, second, edited])

end Rounds
end Kvrocks.Propagation
