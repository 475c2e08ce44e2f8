import KvrocksController.Store.Keys

/-! Two engines under one store. Where the engines answer alike on the keys of the store,
every call of the store does, so a refinement between engines is a refinement between
the stores over them. -/
namespace Kvrocks
open ClusterStore

/-- The keys that the store works with: all of them start with `nsPrefix`. -/
def StoreKey (key : String) : Prop := nsPrefix.toList <+: key.toList

theorem storeKey_nsPrefix : StoreKey nsPrefix := List.prefix_rfl

theorem storeKey_appendPrefix (ns : String) : StoreKey (appendPrefix ns) := by
  rw [StoreKey, appendPrefix_toList]
  exact List.prefix_append _ _

theorem storeKey_buildClusterKey (ns cluster : String) : StoreKey (buildClusterKey ns cluster) := by
  rw [StoreKey, buildClusterKey_toList]
  exact List.prefix_append _ _

theorem storeKey_buildClusterPrefix (ns : String) : StoreKey (buildClusterPrefix ns) := by
  simp only [StoreKey, buildClusterPrefix, String.toList_append, List.append_assoc]
  exact List.prefix_append _ _

variable {σ τ : Type}

/-- Two writes that end alike. -/
def Alike (R : σ → τ → Prop) (left : σ × Option Error) (right : τ × Option Error) : Prop :=
  left.2 = right.2 ∧ R left.1 right.1

/-- In related states the two engines answer alike, and their writes keep the states related. -/
structure Engine.Simulates (e : Engine σ) (f : Engine τ) (R : σ → τ → Prop) : Prop where
  get : ∀ {s t key}, R s t → StoreKey key → e.get key s = f.get key t
  existsKey : ∀ {s t key}, R s t → StoreKey key → e.existsKey key s = f.existsKey key t
  set : ∀ {s t key}, R s t → StoreKey key → ∀ value, Alike R (e.set key value s) (f.set key value t)
  delete : ∀ {s t key}, R s t → StoreKey key → Alike R (e.delete key s) (f.delete key t)
  list : ∀ {s t base}, R s t → StoreKey base → e.list base s = f.list base t

namespace Engine.Simulates
variable {e : Engine σ} {f : Engine τ} {R : σ → τ → Prop} {s : σ} {t : τ}
variable (simulates : e.Simulates f R) (related : R s t)
include simulates related

theorem listNamespace : listNamespace e s = listNamespace f t := by
  rw [ClusterStore.listNamespace, ClusterStore.listNamespace, simulates.list related storeKey_nsPrefix]

theorem listCluster (ns : String) : listCluster e ns s = listCluster f ns t := by
  rw [ClusterStore.listCluster, ClusterStore.listCluster, simulates.list related (storeKey_buildClusterPrefix ns)]

theorem existsNamespace (ns : String) : existsNamespace e ns s = existsNamespace f ns t :=
  simulates.existsKey related (storeKey_appendPrefix ns)

theorem existsCluster (ns cluster : String) : existsCluster e ns cluster s = existsCluster f ns cluster t :=
  simulates.existsKey related (storeKey_buildClusterKey ns cluster)

theorem getCluster (ns cluster : String) : getCluster e ns cluster s = getCluster f ns cluster t := by
  simp only [ClusterStore.getCluster, getClusterWithoutLock,
    simulates.get related (storeKey_buildClusterKey ns cluster)]

theorem createNamespace (ns : String) : Alike R (createNamespace e ns s) (createNamespace f ns t) := by
  simp only [ClusterStore.createNamespace, simulates.existsNamespace related]
  split
  · exact ⟨rfl, related⟩
  · exact simulates.set related (storeKey_appendPrefix ns) _

theorem removeNamespace (ns : String) : Alike R (removeNamespace e ns s) (removeNamespace f ns t) := by
  simp only [ClusterStore.removeNamespace, simulates.existsNamespace related, simulates.listCluster related]
  split
  · exact ⟨rfl, related⟩
  · split
    · exact ⟨rfl, related⟩
    · split
      · exact ⟨rfl, related⟩
      · exact simulates.delete related (storeKey_appendPrefix ns)

theorem putCluster (ns : String) (cluster : Cluster) : Alike R (putCluster e ns cluster s) (putCluster f ns cluster t) :=
  simulates.set related (storeKey_buildClusterKey ns cluster.name) _

theorem createCluster (ns : String) (cluster : Cluster) :
    Alike R (createCluster e ns cluster s) (createCluster f ns cluster t) := by
  simp only [ClusterStore.createCluster, simulates.existsCluster related]
  split
  · exact ⟨rfl, related⟩
  · exact simulates.putCluster related ns cluster

theorem removeCluster (ns cluster : String) :
    Alike R (removeCluster e ns cluster s) (removeCluster f ns cluster t) := by
  simp only [ClusterStore.removeCluster, simulates.existsCluster related]
  split
  · exact ⟨rfl, related⟩
  · exact simulates.delete related (storeKey_buildClusterKey ns cluster)

theorem setCluster (ns : String) (cluster : Cluster) : Alike R (setCluster e ns cluster s) (setCluster f ns cluster t) := by
  have read := simulates.getCluster related ns cluster.name
  simp only [ClusterStore.getCluster] at read
  simp only [ClusterStore.setCluster, read]
  split
  · exact ⟨rfl, related⟩
  · split
    · exact ⟨rfl, related⟩
    · exact simulates.putCluster related ns cluster

theorem updateCluster (ns : String) (cluster : Cluster) :
    (updateCluster e ns s cluster).version = (updateCluster f ns t cluster).version ∧
      Alike R ((updateCluster e ns s cluster).store, (updateCluster e ns s cluster).err)
        ((updateCluster f ns t cluster).store, (updateCluster f ns t cluster).err) := by
  have read := simulates.getCluster related ns cluster.name
  simp only [ClusterStore.getCluster] at read
  simp only [ClusterStore.updateCluster, read]
  split
  · exact ⟨rfl, rfl, related⟩
  · split
    · exact ⟨rfl, rfl, related⟩
    · exact ⟨rfl, simulates.putCluster related ns _⟩

theorem checkNewNodes (nodes : List String) : checkNewNodes e nodes s = checkNewNodes f nodes t := by
  simp only [ClusterStore.checkNewNodes, simulates.listNamespace related, simulates.listCluster related,
    simulates.getCluster related]

end Engine.Simulates
end Kvrocks
