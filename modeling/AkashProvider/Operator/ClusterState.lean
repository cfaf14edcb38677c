import AkashProvider.Operator.StorageConfig

/-!
# The state of the cluster

`clusterState.run` keeps the latest configuration, nodes and storage, and answers with a snapshot.
The storage is computed when a driver reports, and not when the configuration changes
(`late_config_ignored`).
-/

namespace AkashProvider.Operator

open InventoryV1 (Node Storage Cluster)

inductive StateMessage where
  | config (cfg : StorageConfig)
  | nodes (nodes : List Node)
  | storage (driver : String) (storage : List Storage)

/-- The state of `run`.  `storageConfig` is a record: the configuration with which the storage was
computed. -/
structure ClusterState where
  cfg : StorageConfig
  storage : List (String × List Storage)
  state : Cluster
  storageConfig : StorageConfig

namespace ClusterState

def start : ClusterState := ⟨⟨[], []⟩, [], ⟨[], []⟩, ⟨[], []⟩⟩

/-- The classes that a configuration names, of all drivers. -/
def named (cfg : StorageConfig) (storage : List (String × List Storage)) : List Storage :=
  (storage.flatMap (·.2)).filter fun s => cfg.hasStorageClass s.info.storageClass

def step (s : ClusterState) : StateMessage → ClusterState
  | .config cfg => { s with cfg }
  | .nodes nodes => { s with state.nodes := nodes }
  | .storage driver storage =>
    let storage := (driver, storage) :: s.storage.filter (·.1 ≠ driver)
    { s with storage, state.storage := named s.cfg storage, storageConfig := s.cfg }

/-- The latest message of a kind. -/
def latest {β : Type} (pick : StateMessage → Option β) (msgs : List StateMessage) : Option β :=
  msgs.reverse.findSome? pick

def configOf : StateMessage → Option StorageConfig
  | .config cfg => some cfg
  | _ => none

def nodesOf : StateMessage → Option (List Node)
  | .nodes nodes => some nodes
  | _ => none

def storageOf (driver : String) : StateMessage → Option (List Storage)
  | .storage driver' storage => if driver' = driver then some storage else none
  | _ => none

variable {β : Type} {msgs : List StateMessage}

theorem latest_concat (pick : StateMessage → Option β) (msgs : List StateMessage)
    (m : StateMessage) : latest pick (msgs ++ [m]) = (pick m).or (latest pick msgs) := by
  simp [latest, List.findSome?_cons]
  cases pick m <;> rfl

@[grind cases]
structure Follows (msgs : List StateMessage) (s : ClusterState) : Prop where
  cfg : s.cfg = (latest configOf msgs).getD ⟨[], []⟩
  nodes : s.state.nodes = (latest nodesOf msgs).getD []
  storage : ∀ driver l, (driver, l) ∈ s.storage ↔ latest (storageOf driver) msgs = some l
  computed : s.state.storage = named s.storageConfig s.storage

theorem follows_run (msgs : List StateMessage) : Follows msgs (msgs.foldl step start) := by
  induction msgs using List.reverseRecOn with
  | nil => constructor <;> simp [latest, start, named]
  | append_singleton msgs m ih =>
    cases m <;> constructor <;> grind [step, latest_concat, configOf, nodesOf, storageOf]

/-- A snapshot has the latest nodes.  It has exactly the latest classes that the latest
configuration names iff the configuration that the storage was computed with names the same of them.
-/
theorem snapshot_follows_iff (msgs : List StateMessage) :
    let s := msgs.foldl step start
    let cfg := (latest configOf msgs).getD ⟨[], []⟩
    s.state.nodes = (latest nodesOf msgs).getD [] ∧
      ((∀ c, c ∈ s.state.storage ↔ cfg.hasStorageClass c.info.storageClass ∧
          ∃ driver l, latest (storageOf driver) msgs = some l ∧ c ∈ l) ↔
        ∀ driver l c, latest (storageOf driver) msgs = some l → c ∈ l →
          (cfg.hasStorageClass c.info.storageClass ↔
            s.storageConfig.hasStorageClass c.info.storageClass)) := by
  obtain ⟨hcfg, hnodes, hstorage, hcomputed⟩ := follows_run msgs
  simp only [hcomputed, named, List.mem_filter, List.mem_flatMap, Prod.exists, hstorage]
  grind

/-- The configuration comes after the storage. -/
theorem late_config_ignored :
    let gold : Storage := ⟨⟨none, none, none⟩, ⟨"gold"⟩⟩
    let s := [.storage "ceph" [gold], .config ⟨["gold"], []⟩].foldl step start
    s.cfg.hasStorageClass "gold" = true ∧ s.storage = [("ceph", [gold])] ∧
      s.state.storage = [] :=
  ⟨rfl, rfl, rfl⟩

end ClusterState

end AkashProvider.Operator
