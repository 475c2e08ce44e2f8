import KvrocksController.Store.ClusterProofs

/-! What `ShardHandler.Create` and `ShardHandler.Remove` do to the cluster they
read, before they hand it to `UpdateCluster`. -/
namespace Kvrocks.ShardHandler

/-- The first address becomes the master. -/
def newNodes (draw : Draw) (base : Nat) (nodes : List String) (password : String) : List ClusterNode :=
  nodes.mapIdx fun i addr =>
    (newClusterNode (draw.fresh base i) addr password).setRole (if i = 0 then roleMaster else roleSlave)

def create (draw : Draw) (nodes : List String) (password : String) (cluster : Cluster) : Except Error Cluster :=
  if nodes.length = 0 then .error (.new "nodes should NOT be empty")
  else
    let shard := { newShard with nodes := newNodes draw cluster.freshPtr nodes password }
    .ok { cluster with shards := cluster.shards ++ [shard] }

def remove (shardIdx : Int) (cluster : Cluster) : Except Error Cluster := do
  let shard ← cluster.getShard shardIdx
  if shard.isServicing then .error (.of .shardIsServicing)
  else .ok { cluster with shards := cluster.shards.eraseIdx shardIdx.toNat }

theorem create_ok {cluster next : Cluster} (created : create draw nodes password cluster = .ok next) :
    nodes ≠ [] ∧ next.shards =
      cluster.shards ++ [{ newShard with nodes := newNodes draw cluster.freshPtr nodes password }] := by
  unfold create at created
  split at created
  · cases created
  · rename_i some
    obtain rfl := Except.ok.inj created
    exact ⟨fun empty => some (by rw [empty]; rfl), rfl⟩

/-- Only a shard that owns and migrates nothing is removed; those after it move down. -/
theorem remove_ok {cluster next : Cluster} (removed : remove shardIdx cluster = .ok next) :
    ∃ (i : Nat) (shard : Shard), shardIdx = i ∧ cluster.shards[i]? = some shard ∧
      shard.isServicing = false ∧ next.shards = cluster.shards.eraseIdx i := by
  obtain ⟨shard, found, removed⟩ := bind_ok removed
  obtain ⟨i, rfl, position⟩ := Cluster.getShard_ok.mp found
  split at removed
  · cases removed
  · rename_i idle
    obtain rfl := Except.ok.inj removed
    exact ⟨i, shard, rfl, position, Bool.eq_false_iff.mpr idle, rfl⟩

end Kvrocks.ShardHandler
