import KvrocksController.Server.Routes

/-! Which requests are answered once and written by the leader following. Two exits of the
middlewares answer without aborting the chain: the redirect to the leader, and the
shard index that is not a number. Behind both the handler of the route still runs. -/
namespace Kvrocks.Server
open HandlerChain ClusterStore

variable {σ : Type} {env : Env σ} {request : Request} {s : σ}

/-- A middleware wrote a response. -/
def Answered (visit : Visit Handler (Context σ)) : Prop :=
  visit.handler.isMiddleware = true ∧ visit.before.responses.length < visit.after.responses.length

/-- No mutator of the store runs where the engine is not raft and another controller,
or none, is the leader. -/
def MutatesAsLeader (env : Env σ) (final : Context σ) : Prop :=
  env.raft = none → env.leader ≠ env.id → final.mutations = []

/-- Another controller leads, and the engine does not forward to it. -/
def Follower (env : Env σ) : Prop := env.raft = none ∧ env.leader ≠ "" ∧ env.leader ≠ env.id

/-- The request gets past `RedirectIfNotLeader`. -/
def Passes (env : Env σ) : Prop := env.leader ≠ "" ∧ (env.leader = env.id ∨ env.raft ≠ none)

/-- The cluster of the path is stored and its shard is not a number. -/
def ShardUnparsed (env : Env σ) (request : Request) (s : σ) : Prop :=
  (∃ cluster, getCluster env.engine request.nsParam request.clusterParam s = .ok cluster) ∧
    ∃ e, atoi request.shardParam = .error e

theorem leader_cases (env : Env σ) : env.leader = "" ∨ Follower env ∨ Passes env := by
  unfold Follower Passes
  by_cases missing : env.leader = ""
  · exact .inl missing
  · by_cases leads : env.leader = env.id
    · exact .inr (.inr ⟨missing, .inl leads⟩)
    · cases raft : env.raft with
      | none => exact .inr (.inl ⟨rfl, missing, leads⟩)
      | some node => exact .inr (.inr ⟨missing, .inr nofun⟩)

/-- The context once the store is set. -/
def ready (s : σ) : Context σ := { Context.start s with hasStore := true }

abbrev performs (env : Env σ) (request : Request) (handler : Handler) (c : Context σ) : Served σ :=
  handler.perform env request c

@[simp] theorem length_write (response : Response) (c : Context σ) :
    (c.write response).responses.length = c.responses.length + 1 := by
  simp [Context.write]

theorem silent {before after : Context σ} (same : after.responses = before.responses) :
    ¬ Answered ⟨handler, before, after⟩ := by
  intro answered
  have grown := answered.2
  rw [same] at grown
  exact Nat.lt_irrefl _ grown

/-- A middleware answers and the chain goes on behind it. -/
def Leaks (env : Env σ) (request : Request) (m : Middleware) (c : Context σ) : Prop :=
  (performs env request (.middleware m) c).2.goesOn = true ∧
    Answered ⟨.middleware m, c, (performs env request (.middleware m) c).1⟩

theorem Leaks.not_endsAt (leaks : Leaks env request m c) (behind : rest ≠ []) :
    ¬ EndsAt Answered (exec (performs env request) (.middleware m :: rest) c).2 := by
  intro ends
  exact behind (((endsAt_goesOn leaks.1).mp ends).1 leaks.2)

section Exits

theorem redirect_missing (missing : env.leader = "") :
    performs env request (.middleware .redirectIfNotLeader) (ready s) = ((ready s).json 400 noLeader, .aborted) := by
  simp [Handler.perform, Middleware.perform, redirectIfNotLeader, ready, missing]

theorem redirect_passes (passes : Passes env) :
    performs env request (.middleware .redirectIfNotLeader) (ready s) = (ready s, .next) := by
  obtain ⟨led, leads | raft⟩ := passes
  · simp [Handler.perform, Middleware.perform, redirectIfNotLeader, ready, Env.isLeader, led, ← leads]
  · simp [Handler.perform, Middleware.perform, redirectIfNotLeader, ready, led, Option.isNone_iff_eq_none, raft]

/-- The redirect is written, twice, and nothing is aborted. -/
theorem redirect_leaks (follower : Follower env) : Leaks env request .redirectIfNotLeader (ready s) := by
  obtain ⟨flat, led, other⟩ := follower
  simp [Leaks, Answered, Handler.isMiddleware, Handler.perform, Middleware.perform, redirectIfNotLeader, ready,
    Context.start, Env.isLeader, Context.redirect, Flow.goesOn, flat, led, other]

def Middleware.isGuard : Middleware → Bool
  | .requiredNamespace | .requiredCluster | .requiredClusterShard | .requiredRaftEngine => true
  | .collectMetrics | .setStore | .redirectIfNotLeader => false

theorem shard_leaks (unparsed : ShardUnparsed env request s) : Leaks env request .requiredClusterShard (ready s) := by
  obtain ⟨⟨cluster, found⟩, e, bad⟩ := unparsed
  simp [Leaks, Answered, Handler.isMiddleware, Handler.perform, Middleware.perform, requiredClusterShard, found, bad,
    ready, Context.start, Context.responseBadRequest, Context.json, Flow.goesOn]

/-- Every other exit of a guard aborts, or has written nothing. -/
theorem guard_settles {guard : Middleware} (guards : guard.isGuard = true)
    (parsed : ¬ (guard = .requiredClusterShard ∧ ShardUnparsed env request s)) :
    (guard.perform env request (ready s)).2 = .aborted ∨
      (guard.perform env request (ready s)).2 = .next ∧ (guard.perform env request (ready s)).1.responses = [] := by
  have stored : (ready s).hasStore = true := rfl
  cases guard with
  | collectMetrics | setStore | redirectIfNotLeader => cases guards
  | requiredNamespace =>
    simp only [Middleware.perform, requiredNamespace, stored, Bool.not_true, Bool.false_eq_true, ↓reduceIte]
    split
    · exact .inl rfl
    · exact .inl rfl
    · exact .inr ⟨rfl, rfl⟩
  | requiredCluster =>
    simp only [Middleware.perform, requiredCluster, stored, Bool.not_true, Bool.false_eq_true, ↓reduceIte]
    split
    · exact .inl rfl
    · exact .inr ⟨rfl, rfl⟩
  | requiredClusterShard =>
    simp only [Middleware.perform, requiredClusterShard, stored, Bool.not_true, Bool.false_eq_true, ↓reduceIte]
    split
    · exact .inl rfl
    · rename_i cluster found
      split
      · rename_i e bad
        exact absurd ⟨rfl, ⟨cluster, found⟩, e, bad⟩ parsed
      · split
        · exact .inl rfl
        · exact .inr ⟨rfl, rfl⟩
  | requiredRaftEngine =>
    simp only [Middleware.perform, requiredRaftEngine, stored, Bool.not_true, Bool.false_eq_true, ↓reduceIte]
    split
    · exact .inl rfl
    · exact .inr ⟨rfl, rfl⟩

end Exits

theorem registered_guard {route : Route} (registered : route ∈ initHandlers) :
    ∀ guard, route.guard = some guard → guard.isGuard = true := by
  have each : ∀ route ∈ initHandlers, ∀ guard ∈ route.guard, guard.isGuard = true := by decide
  exact fun guard here => each route registered guard here

section Chain

/-- The handlers behind `RedirectIfNotLeader`. -/
def Route.guarded (route : Route) : List Handler :=
  route.guard.toList.map .middleware ++ [.endpoint route.endpoint]

/-- The first two middlewares write nothing and stop nothing. -/
theorem serve_final (route : Route) :
    (serve env request route s).1 =
      (exec (performs env request) (.middleware .redirectIfNotLeader :: route.guarded) (ready s)).1 := by
  simp only [serve, Route.chain, List.cons_append]
  rw [exec_goesOn rfl, exec_goesOn rfl]
  rfl

theorem serve_endsAt (route : Route) :
    EndsAt Answered (serve env request route s).2 ↔ EndsAt Answered
      (exec (performs env request) (.middleware .redirectIfNotLeader :: route.guarded) (ready s)).2 := by
  simp only [serve, Route.chain, List.cons_append]
  rw [endsAt_goesOn rfl, endsAt_goesOn rfl]
  constructor
  · exact fun ends => ends.2.2
  · intro ends
    exact ⟨fun answered => absurd answered (silent rfl), fun answered => absurd answered (silent rfl), ends⟩

theorem endpoint_endsAt (endpoint : Endpoint) (c : Context σ) :
    EndsAt Answered (exec (performs env request) [.endpoint endpoint] c).2 := by
  cases goes : (performs env request (.endpoint endpoint) c).2.goesOn with
  | true =>
    rw [endsAt_goesOn goes]
    exact ⟨fun _ => rfl, endsAt_nil⟩
  | false => exact endsAt_stops goes

theorem guarded_ne_nil (route : Route) : route.guarded ≠ [] := by simp [Route.guarded]

/-- Past `RedirectIfNotLeader` only the unparsed shard is answered with a handler behind it. -/
theorem guarded_endsAt {route : Route} (guards : ∀ guard, route.guard = some guard → guard.isGuard = true) :
    EndsAt Answered (exec (performs env request) route.guarded (ready s)).2 ↔
      ¬ (route.guard = some .requiredClusterShard ∧ ShardUnparsed env request s) := by
  cases kind : route.guard with
  | none =>
    simp only [Route.guarded, kind, Option.toList_none, List.map_nil, List.nil_append]
    exact ⟨fun _ => by simp, fun _ => endpoint_endsAt _ _⟩
  | some guard =>
    simp only [Route.guarded, kind, Option.toList_some, List.map_cons, List.map_nil, List.cons_append,
      List.nil_append, Option.some.injEq]
    by_cases unparsed : guard = .requiredClusterShard ∧ ShardUnparsed env request s
    · obtain ⟨rfl, unparsed⟩ := unparsed
      refine iff_of_false ((shard_leaks unparsed).not_endsAt (by simp)) fun parsed => parsed ⟨rfl, unparsed⟩
    · refine ⟨fun _ => unparsed, fun _ => ?_⟩
      rcases guard_settles (guards guard kind) unparsed with stopped | ⟨flow, same⟩
      · exact endsAt_stops (by rw [performs, Handler.perform, stopped]; rfl)
      · rw [endsAt_goesOn (by rw [performs, Handler.perform, flow]; rfl)]
        exact ⟨fun answered => absurd answered (silent same), endpoint_endsAt _ _⟩

end Chain

/-- A request keeps to the leader, and is answered at most once by a middleware,
exactly when no other controller leads and the shard it names, if it needs one, is a number. -/
theorem only_leader_mutates (env : Env σ) (request : Request) (s : σ) {route : Route}
    (registered : route ∈ initHandlers) :
    (MutatesAsLeader env (serve env request route s).1 ∧ EndsAt Answered (serve env request route s).2) ↔
      ¬ Follower env ∧
        ¬ (Passes env ∧ route.guard = some .requiredClusterShard ∧ ShardUnparsed env request s) := by
  rw [serve_final, serve_endsAt]
  rcases leader_cases env with missing | follower | passes
  · have exit : performs env request _ (ready s) = _ := redirect_missing missing
    have stops : (performs env request (.middleware .redirectIfNotLeader) (ready s)).2.goesOn = false := by
      rw [exit]
      rfl
    refine iff_of_true ⟨fun _ _ => ?_, endsAt_stops stops⟩
      ⟨fun follower => follower.2.1 missing, fun passed => passed.1.1 missing⟩
    rw [exec_stops stops, exit]
    rfl
  · refine iff_of_false (fun kept => ?_) fun led => led.1 follower
    exact (redirect_leaks follower).not_endsAt (guarded_ne_nil route) kept.2
  · have passed : performs env request _ (ready s) = _ := redirect_passes passes
    rw [endsAt_goesOn (by rw [passed]; rfl), passed, guarded_endsAt (registered_guard registered)]
    constructor
    · rintro ⟨_, _, parsed⟩
      exact ⟨fun follower => passes.2.elim follower.2.2 (absurd follower.1), fun unparsed => parsed unparsed.2⟩
    · rintro ⟨_, parsed⟩
      refine ⟨fun flat other => ?_, fun answered => absurd answered (silent rfl),
        fun unparsed => parsed ⟨passes, unparsed⟩⟩
      exact passes.2.elim (absurd · other) (absurd flat)

/-- A controller that another one leads, in front of an engine whose calls all succeed. -/
def following : Env KV where
  engine := flat .none
  mutator := flat .none
  leader := "b/10.0.0.2:9379"
  id := "a/10.0.0.1:9379"
  raft := none
  replies := ⟨fun _ => .error (.new "EOF"), fun _ => .error (.new "EOF"), fun _ _ _ => .error (.new "EOF")⟩
  checkClusterMode := fun _ => .ok (-1)
  getClusterNodesString := fun _ => .error (.new "EOF")
  draw := fun _ => ("", 0)
  page := fun _ => ⟨200, none, .null⟩

def leading : Env KV := { following with leader := following.id }

def namespaceRequest : Request where
  requestURI := namespacesPath
  nsParam := ""
  clusterParam := ""
  shardParam := ""
  idParam := ""
  profileParam := ""
  dontCheckClusterMode := ""
  body := some (.obj [("namespace", .str "ns")])

def createNamespaceRoute : Route := ⟨"POST", namespacesPath, none, .createNamespace⟩

theorem only_leader_mutates_leading :
    (serve leading namespaceRequest createNamespaceRoute ∅).1.mutations = [.createNamespace "ns"] ∧
      MutatesAsLeader leading (serve leading namespaceRequest createNamespaceRoute ∅).1 ∧
      EndsAt Answered (serve leading namespaceRequest createNamespaceRoute ∅).2 := by
  refine ⟨by decide +kernel, (only_leader_mutates _ _ _ (by decide)).mpr ⟨?_, ?_⟩⟩
  · exact fun follower => follower.2.2 rfl
  · exact fun unparsed => nomatch unparsed.2.1

def shardRequest : Request :=
  { namespaceRequest with nsParam := "ns", clusterParam := "c", shardParam := "first", body := none }

def getShardRoute : Route := ⟨"GET", shardsPath ++ "/:shard", some .requiredClusterShard, .getShard⟩

def oneCluster : KV :=
  (∅ : KV).insert (buildClusterKey "ns" "c") (.json (Cluster.marshalJSON { name := "c", version := 1, shards := [] }))

/-- Behind the redirect a namespace is created by a controller that does not lead,
and on the leader the handler of a shard runs behind the answer that there is none. -/
theorem only_leader_mutates_redirected :
    createNamespaceRoute ∈ initHandlers ∧ following.raft = none ∧ following.leader ≠ following.id ∧
      (serve following namespaceRequest createNamespaceRoute ∅).1.mutations = [.createNamespace "ns"] ∧
      (serve following namespaceRequest createNamespaceRoute ∅).1.responses.map (·.code) = [307, 307, 201] ∧
      existsNamespace following.engine "ns" (serve following namespaceRequest createNamespaceRoute ∅).1.store =
        .ok true ∧
      ¬ MutatesAsLeader following (serve following namespaceRequest createNamespaceRoute ∅).1 ∧
      getShardRoute ∈ initHandlers ∧
      (serve leading shardRequest getShardRoute oneCluster).1.responses.map (·.code) = [400] ∧
      (serve leading shardRequest getShardRoute oneCluster).2.map (·.handler) = getShardRoute.chain := by
  have mutated : (serve following namespaceRequest createNamespaceRoute ∅).1.mutations = [.createNamespace "ns"] := by
    decide +kernel
  refine ⟨by decide, rfl, by decide, mutated, by decide +kernel, by decide +kernel, fun kept => ?_, by decide,
    by decide +kernel, by decide +kernel⟩
  rw [kept rfl (by decide)] at mutated
  cases mutated

/-- The handlers behind an unparsed shard find no cluster in the context. -/
theorem unset_panics {route : Route} (registered : route ∈ initHandlers)
    (guard : route.guard = some .requiredClusterShard) {c : Context σ} (cluster : c.cluster = none)
    (shard : c.shard = none) : route.endpoint.perform env request c = (c, .panicked) := by
  have kinds : ∀ route ∈ initHandlers, route.guard = some .requiredClusterShard →
      route.endpoint ∈ [.getShard, .failover, .listNode, .createNode, .removeNode] := by decide
  have kind := kinds route registered guard
  generalize route.endpoint = endpoint at kind
  simp only [List.mem_cons, List.not_mem_nil, or_false] at kind
  rcases kind with rfl | rfl | rfl | rfl | rfl
  · simp [Endpoint.perform, ShardHandler.get, Context.mustGet, shard, Body.run, bind, Except.bind]
  · simp [Endpoint.perform, ShardHandler.failover, Context.mustGet, cluster, Body.run, bind, Except.bind]
  · simp [Endpoint.perform, NodeHandler.list, Context.mustGet, shard, Body.run, bind, Except.bind]
  · simp [Endpoint.perform, NodeHandler.create, Context.mustGet, cluster, Body.run, bind, Except.bind]
  · simp [Endpoint.perform, NodeHandler.remove, Context.mustGet, cluster, Body.run, bind, Except.bind]

/-- So of the two exits only the redirect lets the store be written. -/
theorem unparsed_mutates_nothing {route : Route} (registered : route ∈ initHandlers) (passes : Passes env)
    (guard : route.guard = some .requiredClusterShard) (unparsed : ShardUnparsed env request s) :
    (serve env request route s).1.mutations = [] := by
  have passed : performs env request _ (ready s) = _ := redirect_passes passes
  have leaks := shard_leaks unparsed
  obtain ⟨⟨cluster, found⟩, e, bad⟩ := unparsed
  have answer : (performs env request (.middleware .requiredClusterShard) (ready s)).1 =
      (ready s).responseBadRequest e := by
    simp [Handler.perform, Middleware.perform, requiredClusterShard, found, bad, ready, Context.start]
  have panics : performs env request (.endpoint route.endpoint) ((ready s).responseBadRequest e) = (_, .panicked) :=
    unset_panics registered guard rfl rfl
  simp only [serve_final, Route.guarded, guard, Option.toList_some, List.map_cons, List.map_nil, List.cons_append,
    List.nil_append]
  rw [exec_goesOn (by rw [passed]; rfl), passed, exec_goesOn leaks.1, answer, exec_stops (by rw [panics]; rfl), panics]
  rfl

end Kvrocks.Server
