import KvrocksController.Lib.Transition
import KvrocksController.Store.ClusterStore

/-! The goroutines of a controller: `syncLoop`, `leaderEventLoop`, the loops of every
cluster checker and the writers of the store, with the channels and locks they meet at.
`NewClusterChecker` and `Start` touch nothing shared, so they are one step with the lookup
before them. A goroutine that waits is one without a step. -/
namespace Kvrocks.Controller
open ClusterStore

inductive EventType where
  | eventNamespace
  | eventCluster
deriving DecidableEq, Repr

inductive Command where
  | create
  | update
  | remove
deriving DecidableEq, Repr

structure EventPayload where
  ns : String
  cluster : String
  type : EventType
  command : Command
deriving DecidableEq, Repr

/-- The capacity of `eventNotifyCh`. -/
def eventCapacity : Nat := 100

/-- Where a loop of a checker is: in its `select`, in `GetCluster` behind the cluster's
lock, in the rest of a round, or gone. -/
inductive LoopPc where
  | select
  | reading
  | busy
  | returned
deriving DecidableEq, Repr

/-- A checker that was started. `syncCh` holds at most one element. -/
structure ClusterChecker where
  ns : String
  clusterName : String
  cancelled : Bool
  syncCh : Bool
  probeLoop : LoopPc
  migrationLoop : LoopPc
deriving DecidableEq, Repr

def newClusterChecker (ns clusterName : String) : ClusterChecker :=
  { ns, clusterName, cancelled := false, syncCh := false, probeLoop := .select, migrationLoop := .select }

namespace ClusterChecker

/-- What `wg.Wait` waits for. -/
def Returned (checker : ClusterChecker) : Prop := checker.probeLoop = .returned ∧ checker.migrationLoop = .returned

/-- `Close` was called and has returned. -/
def Closed (checker : ClusterChecker) : Prop := checker.cancelled = true ∧ checker.Returned

def cancel (checker : ClusterChecker) : ClusterChecker := { checker with cancelled := true }

end ClusterChecker

/-- Who calls a writing method of the store; a checker is known by its number. -/
inductive Sender where
  | api
  | probe (k : Nat)
  | migration (k : Nat)
deriving DecidableEq, Repr

/-- A call that has written and not yet returned from `EmitEvent`. It holds the lock of
its cluster. -/
structure Emission where
  sender : Sender
  event : EventPayload
deriving DecidableEq, Repr

inductive EventPc where
  | select
  | received (event : EventPayload)
  | adding (ns cluster : String)
  | inserting (ns cluster : String) (k : Nat)
  | removing (ns cluster : String)
  /-- In `Close`, with the mutex held. -/
  | closing (ns cluster : String) (k : Nat)
  | updating (ns cluster : String)
  /-- In `sendSyncEvent`. -/
  | syncing (k : Nat)
deriving DecidableEq, Repr

/-- `start` tells the `resume` of start-up from a later one; `clusters` and `namespaces`
are what is left of its two loops. -/
inductive SyncPc where
  | starting
  | resuming (start : Bool)
  | listing (start : Bool) (namespaces : List String)
  | adding (start : Bool) (ns : String) (clusters namespaces : List String)
  | inserting (start : Bool) (ns cluster : String) (k : Nat) (clusters namespaces : List String)
  /-- About to set `prevTermLeader` to `Leader()`: behind a `resume` at start-up, or behind
  a start-up without one or a `suspend`. -/
  | reading (resume : Bool)
  | select
  | notified
  | suspending
  /-- In `suspend`, with the mutex held. -/
  | closingAll
  | closing (key : String) (k : Nat)
deriving DecidableEq, Repr

def EventPc.holdsMutex : EventPc → Bool
  | .closing _ _ _ => true
  | _ => false

def SyncPc.holdsMutex : SyncPc → Bool
  | .closingAll | .closing _ _ => true
  | _ => false

/-- What the running or last `resume` has seen and done: the store when it listed the
namespaces and the clusters of each, and its calls of `addCluster`. -/
structure Resume where
  listedAt : KV
  listed : List (String × KV)
  called : List (String × String)

/-- `notifications` counts the values waiting in `LeaderChange`. `calls` have still to
reach the channel, `senders` wait there for room. The last two fields are ghosts:
`resumed` says that a `resume` has completed since `syncLoop` last saw another leader. -/
structure State where
  leader : String
  notifications : Nat
  kv : KV
  calls : List Emission
  events : List EventPayload
  senders : List Emission
  clusters : String → Option Nat
  checkers : Nat → Option ClusterChecker
  eventLoop : EventPc
  syncLoop : SyncPc
  prevTermLeader : String
  resumed : Bool
  resume : Resume

def buildClusterKey (ns clusterName : String) : String := ns ++ "/" ++ clusterName

namespace State

def MutexFree (s : State) : Prop := s.eventLoop.holdsMutex = false ∧ s.syncLoop.holdsMutex = false

/-- `getLock` names its locks as the controller names its clusters. -/
def LockFree (s : State) (ns cluster : String) : Prop :=
  ∀ call ∈ s.senders ++ s.calls, call.event.type = .eventCluster →
    buildClusterKey call.event.ns call.event.cluster ≠ buildClusterKey ns cluster

def setCluster (s : State) (key : String) (k : Option Nat) : State :=
  { s with clusters := fun other => if other = key then k else s.clusters other }

def setChecker (s : State) (k : Nat) (checker : ClusterChecker) : State :=
  { s with checkers := fun other => if other = k then some checker else s.checkers other }

/-- The loop has no call under way that it waits for. -/
def Idle (s : State) (sender : Sender) : Prop := ∀ call ∈ s.senders ++ s.calls, call.sender ≠ sender

end State

/-! The writers of the store. -/

inductive Op where
  | createNamespace (ns : String)
  | removeNamespace (ns : String)
  | createCluster (ns : String) (object : Cluster)
  | removeCluster (ns cluster : String)
  | updateCluster (ns : String) (object : Cluster)
  | setCluster (ns : String) (object : Cluster)

namespace Op

def perform (faults : Faults) (kv : KV) : Op → KV × Option Error
  | createNamespace ns => ClusterStore.createNamespace (etcd faults) ns kv
  | removeNamespace ns => ClusterStore.removeNamespace (etcd faults) ns kv
  | createCluster ns object => ClusterStore.createCluster (etcd faults) ns object kv
  | removeCluster ns cluster => ClusterStore.removeCluster (etcd faults) ns cluster kv
  | updateCluster ns object =>
    let updated := ClusterStore.updateCluster (etcd faults) ns kv object
    (updated.store, updated.err)
  | setCluster ns object => ClusterStore.setCluster (etcd faults) ns object kv

def event : Op → Option EventPayload
  | createNamespace ns => some ⟨ns, "", .eventNamespace, .create⟩
  | removeNamespace ns => some ⟨ns, "", .eventNamespace, .remove⟩
  | createCluster ns object => some ⟨ns, object.name, .eventCluster, .create⟩
  | removeCluster ns cluster => some ⟨ns, cluster, .eventCluster, .remove⟩
  | updateCluster ns object => some ⟨ns, object.name, .eventCluster, .update⟩
  | setCluster _ _ => none

/-- The cluster whose lock the call takes. -/
def locks : Op → Option (String × String)
  | createNamespace _ | removeNamespace _ => none
  | createCluster ns object | updateCluster ns object | setCluster ns object => some (ns, object.name)
  | removeCluster ns cluster => some (ns, cluster)

/-- Which calls are made where: by the handlers, by the goroutines of a probe round (a
failover, or the adoption of a newer topology), by a round of the migration loop. What a
checker writes is any object of its cluster. -/
def CalledBy (s : State) : Sender → Op → Prop
  | .api, op => ∀ ns object, op ≠ setCluster ns object
  | .probe k, op => ∃ checker object, s.checkers k = some checker ∧ checker.probeLoop = .busy ∧
      object.name = checker.clusterName ∧ (op = updateCluster checker.ns object ∨ op = setCluster checker.ns object)
  | .migration k, op => ∃ checker object, s.checkers k = some checker ∧ checker.migrationLoop = .busy ∧
      object.name = checker.clusterName ∧ op = updateCluster checker.ns object

end Op

inductive WriteStep : State → Sender → Op → Faults → State → Prop where
  | emits (called : op.CalledBy s sender) (free : ∀ ns cluster, op.locks = some (ns, cluster) → s.LockFree ns cluster)
      (done : op.perform faults s.kv = (kv, none)) (event : op.event = some e) :
      WriteStep s sender op faults { s with kv, calls := s.calls ++ [⟨sender, e⟩] }
  | silent (called : op.CalledBy s sender) (free : ∀ ns cluster, op.locks = some (ns, cluster) → s.LockFree ns cluster)
      (done : op.perform faults s.kv = (kv, err)) (quiet : err ≠ none ∨ op.event = none) :
      WriteStep s sender op faults { s with kv }

/-- A call reaches the send of `EmitEvent`: it returns, or waits there with its lock held. -/
inductive EmitStep : State → Emission → State → Prop where
  | sent (pending : s.calls = before ++ call :: after) (room : s.events.length < eventCapacity) :
      EmitStep s call { s with calls := before ++ after, events := s.events ++ [call.event] }
  | blocks (pending : s.calls = before ++ call :: after) (full : eventCapacity ≤ s.events.length) :
      EmitStep s call { s with calls := before ++ after, senders := s.senders ++ [call] }

/-! The loops of checker `k`. -/

inductive CheckerStep : State → Nat → State → Prop where
  | tick (found : s.checkers k = some checker) (here : checker.probeLoop = .select) :
      CheckerStep s k (s.setChecker k { checker with probeLoop := .reading })
  | sync (found : s.checkers k = some checker) (here : checker.probeLoop = .select) (queued : checker.syncCh = true) :
      CheckerStep s k (s.setChecker k { checker with probeLoop := .reading, syncCh := false })
  | read (found : s.checkers k = some checker) (here : checker.probeLoop = .reading)
      (free : s.LockFree checker.ns checker.clusterName) :
      CheckerStep s k (s.setChecker k { checker with probeLoop := .busy })
  | probed (found : s.checkers k = some checker) (here : checker.probeLoop = .busy) (idle : s.Idle (.probe k)) :
      CheckerStep s k (s.setChecker k { checker with probeLoop := .select })
  | probeReturned (found : s.checkers k = some checker) (here : checker.probeLoop = .select)
      (cancelled : checker.cancelled = true) :
      CheckerStep s k (s.setChecker k { checker with probeLoop := .returned })
  | migrationTick (found : s.checkers k = some checker) (here : checker.migrationLoop = .select) :
      CheckerStep s k (s.setChecker k { checker with migrationLoop := .busy })
  | migrated (found : s.checkers k = some checker) (here : checker.migrationLoop = .busy)
      (idle : s.Idle (.migration k)) :
      CheckerStep s k (s.setChecker k { checker with migrationLoop := .select })
  | migrationReturned (found : s.checkers k = some checker) (here : checker.migrationLoop = .select)
      (cancelled : checker.cancelled = true) :
      CheckerStep s k (s.setChecker k { checker with migrationLoop := .returned })

/-- What `leaderEventLoop` does with a cluster's event. -/
def EventPayload.dispatch (event : EventPayload) : EventPc :=
  match event.command with
  | .create => .adding event.ns event.cluster
  | .remove => .removing event.ns event.cluster
  | .update => .updating event.ns event.cluster

inductive EventStep (self : String) : State → State → Prop where
  /-- The first of the waiting senders takes the place that became free. -/
  | receive (here : s.eventLoop = .select) (queued : s.events = event :: rest) :
      EventStep self s { s with
        eventLoop := .received event
        events := rest ++ (s.senders.head?.map (·.event)).toList
        senders := s.senders.tail }
  | ignore (here : s.eventLoop = .received event) (other : s.leader ≠ self ∨ event.type ≠ .eventCluster) :
      EventStep self s { s with eventLoop := .select }
  | dispatch (here : s.eventLoop = .received event) (leads : s.leader = self) (kind : event.type = .eventCluster) :
      EventStep self s { s with eventLoop := event.dispatch }
  | known (here : s.eventLoop = .adding ns cluster) (free : s.MutexFree)
      (found : s.clusters (buildClusterKey ns cluster) = some k) :
      EventStep self s { s with eventLoop := .select }
  | start (here : s.eventLoop = .adding ns cluster) (free : s.MutexFree)
      (absent : s.clusters (buildClusterKey ns cluster) = none) (fresh : s.checkers k = none) :
      EventStep self s
        ({ s with eventLoop := .inserting ns cluster k }.setChecker k (newClusterChecker ns cluster))
  | insert (here : s.eventLoop = .inserting ns cluster k) (free : s.MutexFree) :
      EventStep self s ({ s with eventLoop := .select }.setCluster (buildClusterKey ns cluster) (some k))
  | unknown (here : s.eventLoop = .removing ns cluster) (free : s.MutexFree)
      (absent : s.clusters (buildClusterKey ns cluster) = none) :
      EventStep self s { s with eventLoop := .select }
  | close (here : s.eventLoop = .removing ns cluster) (free : s.MutexFree)
      (found : s.clusters (buildClusterKey ns cluster) = some k) (checker : s.checkers k = some c) :
      EventStep self s ({ s with eventLoop := .closing ns cluster k }.setChecker k c.cancel)
  | closed (here : s.eventLoop = .closing ns cluster k) (checker : s.checkers k = some c) (returned : c.Returned) :
      EventStep self s ({ s with eventLoop := .select }.setCluster (buildClusterKey ns cluster) none)
  | missing (here : s.eventLoop = .updating ns cluster) (free : s.MutexFree)
      (absent : s.clusters (buildClusterKey ns cluster) = none) :
      EventStep self s { s with eventLoop := .select }
  | lookup (here : s.eventLoop = .updating ns cluster) (free : s.MutexFree)
      (found : s.clusters (buildClusterKey ns cluster) = some k) :
      EventStep self s { s with eventLoop := .syncing k }
  | send (here : s.eventLoop = .syncing k) (checker : s.checkers k = some c) (room : c.syncCh = false) :
      EventStep self s ({ s with eventLoop := .select }.setChecker k { c with syncCh := true })
  | abandon (here : s.eventLoop = .syncing k) (checker : s.checkers k = some c) (cancelled : c.cancelled = true) :
      EventStep self s { s with eventLoop := .select }

/-- `becomeLeader` has returned. Behind start-up `Leader()` is read, later
`prevTermLeader` becomes the node's own ID, whether `resume` succeeded or not. -/
def State.became (self : String) (start : Bool) (s : State) : State :=
  if start then { s with syncLoop := .reading true } else { s with syncLoop := .select, prevTermLeader := self }

/-- `addCluster` is called for the head of `clusters`. -/
def Resume.call (ns cluster : String) (resume : Resume) : Resume :=
  { resume with called := resume.called ++ [(ns, cluster)] }

inductive SyncStep (self : String) : State → Faults → State → Prop where
  | leads (here : s.syncLoop = .starting) (leads : s.leader = self) (other : s.prevTermLeader ≠ self) :
      SyncStep self s faults { s with syncLoop := .resuming true }
  | leadsAlready (here : s.syncLoop = .starting) (leads : s.leader = self) (same : s.prevTermLeader = self) :
      SyncStep self s faults { s with syncLoop := .reading false }
  | follows (here : s.syncLoop = .starting) (follows : s.leader ≠ self) :
      SyncStep self s faults { s with syncLoop := .reading false, resumed := false }
  | listNamespace (here : s.syncLoop = .resuming start) (listed : listNamespace (etcd faults) s.kv = .ok namespaces) :
      SyncStep self s faults { s with syncLoop := .listing start namespaces, resume := ⟨s.kv, [], []⟩ }
  | namespacesFailed (here : s.syncLoop = .resuming start) (failed : listNamespace (etcd faults) s.kv = .error err) :
      SyncStep self s faults (s.became self start)
  | listCluster (here : s.syncLoop = .listing start (ns :: namespaces))
      (listed : listCluster (etcd faults) ns s.kv = .ok clusters) :
      SyncStep self s faults { s with
        syncLoop := .adding start ns clusters namespaces
        resume := { s.resume with listed := s.resume.listed ++ [(ns, s.kv)] } }
  | clustersFailed (here : s.syncLoop = .listing start (ns :: namespaces))
      (failed : listCluster (etcd faults) ns s.kv = .error err) :
      SyncStep self s faults (s.became self start)
  | resumed (here : s.syncLoop = .listing start []) :
      SyncStep self s faults ({ s with resumed := true }.became self start)
  | nextNamespace (here : s.syncLoop = .adding start ns [] namespaces) :
      SyncStep self s faults { s with syncLoop := .listing start namespaces }
  | known (here : s.syncLoop = .adding start ns (cluster :: clusters) namespaces) (free : s.MutexFree)
      (found : s.clusters (buildClusterKey ns cluster) = some k) :
      SyncStep self s faults { s with
        syncLoop := .adding start ns clusters namespaces
        resume := s.resume.call ns cluster }
  | start (here : s.syncLoop = .adding start ns (cluster :: clusters) namespaces) (free : s.MutexFree)
      (absent : s.clusters (buildClusterKey ns cluster) = none) (fresh : s.checkers k = none) :
      SyncStep self s faults ({ s with
        syncLoop := .inserting start ns cluster k clusters namespaces
        resume := s.resume.call ns cluster }.setChecker k (newClusterChecker ns cluster))
  | insert (here : s.syncLoop = .inserting start ns cluster k clusters namespaces) (free : s.MutexFree) :
      SyncStep self s faults
        ({ s with syncLoop := .adding start ns clusters namespaces }.setCluster (buildClusterKey ns cluster) (some k))
  | read (here : s.syncLoop = .reading resume) :
      SyncStep self s faults { s with
        syncLoop := .select
        prevTermLeader := s.leader
        resumed := if s.leader = self then s.resumed else false }
  | receive (here : s.syncLoop = .select) (queued : s.notifications = n + 1) :
      SyncStep self s faults { s with syncLoop := .notified, notifications := n }
  | gained (here : s.syncLoop = .notified) (leads : s.leader = self) (other : s.prevTermLeader ≠ self) :
      SyncStep self s faults { s with syncLoop := .resuming false }
  | kept (here : s.syncLoop = .notified) (leads : s.leader = self) (same : s.prevTermLeader = self) :
      SyncStep self s faults { s with syncLoop := .select }
  | stillFollows (here : s.syncLoop = .notified) (follows : s.leader ≠ self) (other : s.prevTermLeader ≠ self) :
      SyncStep self s faults { s with syncLoop := .select, resumed := false }
  | lost (here : s.syncLoop = .notified) (follows : s.leader ≠ self) (same : s.prevTermLeader = self) :
      SyncStep self s faults { s with syncLoop := .suspending, resumed := false }
  | lock (here : s.syncLoop = .suspending) (free : s.MutexFree) :
      SyncStep self s faults { s with syncLoop := .closingAll }
  /-- The next key of the range, in any order. -/
  | close (here : s.syncLoop = .closingAll) (found : s.clusters key = some k) (checker : s.checkers k = some c) :
      SyncStep self s faults ({ s with syncLoop := .closing key k }.setChecker k c.cancel)
  | closed (here : s.syncLoop = .closing key k) (checker : s.checkers k = some c) (returned : c.Returned) :
      SyncStep self s faults ({ s with syncLoop := .closingAll }.setCluster key none)
  | suspended (here : s.syncLoop = .closingAll) (empty : ∀ key, s.clusters key = none) :
      SyncStep self s faults { s with syncLoop := .reading false }

inductive Label where
  | elect (leader : String)
  | notify
  | write (sender : Sender) (op : Op) (faults : Faults)
  | emit (call : Emission)
  | checker (k : Nat)
  | eventLoop
  | syncLoop (faults : Faults)

/-- The engine sets the leader and then sends the notification, which waits to be received. -/
inductive Step (self : String) : State → Label → State → Prop where
  | elect : Step self s (.elect leader) { s with leader, notifications := s.notifications + 1 }
  | notify : Step self s .notify { s with notifications := s.notifications + 1 }
  | write (step : WriteStep s sender op faults t) : Step self s (.write sender op faults) t
  | emit (step : EmitStep s call t) : Step self s (.emit call) t
  | checker (step : CheckerStep s k t) : Step self s (.checker k) t
  | eventLoop (step : EventStep self s t) : Step self s .eventLoop t
  | syncLoop (step : SyncStep self s faults t) : Step self s (.syncLoop faults) t

/-- Nothing runs but the two loops, which have just been started. The store, the leader
and the notifications are any. -/
structure Start (s : State) : Prop where
  calls : s.calls = []
  events : s.events = []
  senders : s.senders = []
  clusters : ∀ key, s.clusters key = none
  checkers : ∀ k, s.checkers k = none
  eventLoop : s.eventLoop = .select
  syncLoop : s.syncLoop = .starting
  prevTermLeader : s.prevTermLeader = ""
  resumed : s.resumed = false

end Kvrocks.Controller
