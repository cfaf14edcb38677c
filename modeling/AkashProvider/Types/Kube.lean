import AkashProvider.Lib.Objects
import AkashProvider.Manifest.Types

/-!
# Objects of the cluster

The specs of the Kubernetes objects of a lease, with the fields that the provider varies.  A
pointer is an `Option`, a quantity counts thousandths.  `ClusterState` has one collection for each
kind.
-/

namespace AkashProvider

/-! ## Conversions of Go -/

def Go.int32 (n : UInt32) : Int := n.toBitVec.toInt

def Go.int64 (n : UInt64) : Int := n.toBitVec.toInt

namespace Kube

open InventoryV1 (Quantity)

/-! ## Pods -/

/-- Quantities by resource name. -/
abbrev ResourceList := List (String × Quantity)

def ResourceList.set (l : ResourceList) (name : String) (q : Quantity) : ResourceList :=
  (name, q) :: l.filter (·.1 ≠ name)

structure EnvVar where
  name : String
  value : String
deriving DecidableEq

structure VolumeMount where
  name : String
  readOnly : Bool
  mountPath : String
deriving DecidableEq

structure Container where
  name : String
  image : String
  command : List String
  args : List String
  requests : ResourceList
  limits : ResourceList
  volumeMounts : List VolumeMount
  env : List EnvVar
  ports : List Int
deriving DecidableEq

structure EmptyDirVolumeSource where
  medium : String
  sizeLimit : Option Quantity
deriving DecidableEq

structure Volume where
  name : String
  emptyDir : Option EmptyDirVolumeSource
deriving DecidableEq

structure PersistentVolumeClaim where
  name : String
  requests : ResourceList
  storageClassName : Option String
deriving DecidableEq

inductive NodeSelectorOp where
  | opIn
  | opGt
deriving DecidableEq

structure NodeSelectorRequirement where
  key : String
  operator : NodeSelectorOp
  values : List String
deriving DecidableEq

structure PodAffinityTerm where
  matchLabels : Labels
  topologyKey : String
deriving DecidableEq

structure Affinity where
  /-- The expressions of the one term of the node selector. -/
  nodeAffinity : List NodeSelectorRequirement
  podAntiAffinity : Option PodAffinityTerm
deriving DecidableEq

structure PodTemplate where
  labels : Labels
  annotations : Labels
  affinity : Affinity
  runtimeClassName : Option String
  automountServiceAccountToken : Bool
  serviceAccountName : String
  containers : List Container
  imagePullSecrets : List String
  volumes : List Volume
deriving DecidableEq

/-! ## Workloads -/

structure DeploymentStrategy where
  maxUnavailable : Int
  maxSurge : Int
deriving DecidableEq

structure DeploymentSpec where
  selector : Labels
  strategy : DeploymentStrategy
  revisionHistoryLimit : Option Int
  replicas : Int
  template : PodTemplate
deriving DecidableEq

structure StatefulSetSpec where
  selector : Labels
  partition : Int
  maxUnavailable : Int
  revisionHistoryLimit : Option Int
  replicas : Int
  template : PodTemplate
  volumeClaimTemplates : List PersistentVolumeClaim
deriving DecidableEq

/-! ## Network -/

inductive ServiceType where
  | clusterIP
  | nodePort
  | loadBalancer
deriving DecidableEq

structure ServicePort where
  name : String
  port : Int
  targetPort : Int
  protocol : Mani.ServiceProtocol
  /-- Zero if none is assigned. -/
  nodePort : Int
deriving DecidableEq

structure ServiceSpec where
  type : ServiceType
  selector : Labels
  ports : List ServicePort
deriving DecidableEq

structure NetworkPolicyPort where
  protocol : Mani.ServiceProtocol
  port : Int
deriving DecidableEq

structure IPBlock where
  cidr : String
  except : List String
deriving DecidableEq

structure NetworkPolicyPeer where
  podSelector : Option Labels
  namespaceSelector : Option Labels
  ipBlock : Option IPBlock
deriving DecidableEq

/-- A rule for traffic from `peers` (ingress) or to them (egress); no peers or no ports are
all of them. -/
structure NetworkPolicyRule where
  peers : List NetworkPolicyPeer
  ports : List NetworkPolicyPort
deriving DecidableEq

inductive PolicyType where
  | ingress
  | egress
deriving DecidableEq

structure NetworkPolicySpec where
  podSelector : Labels
  policyTypes : List PolicyType
  ingress : List NetworkPolicyRule
  egress : List NetworkPolicyRule
deriving DecidableEq

/-! ## Access -/

structure PolicyRule where
  apiGroups : List String
  resources : List String
  verbs : List String
deriving DecidableEq

structure RoleBindingSpec where
  roleName : String
  subjectName : String
  subjectNamespace : String
deriving DecidableEq

/-- The contents of `.dockerconfigjson`. -/
structure DockerCredentials where
  host : String
  username : String
  password : String
  email : String
  auth : String
deriving DecidableEq

/-! ## The cluster -/

inductive Kind where
  | manifest
  | namespace
  | networkPolicy
  | serviceAccount
  | role
  | roleBinding
  | secret
  | statefulSet
  | deployment
  | service
deriving DecidableEq

/-- The spec of an object; namespaces and service accounts have none. -/
def Kind.Spec : Kind → Type
  | .manifest => Crd.ManifestSpec
  | .namespace => Unit
  | .networkPolicy => NetworkPolicySpec
  | .serviceAccount => Unit
  | .role => List PolicyRule
  | .roleBinding => RoleBindingSpec
  | .secret => DockerCredentials
  | .statefulSet => StatefulSetSpec
  | .deployment => DeploymentSpec
  | .service => ServiceSpec

instance Kind.decEqSpec (k : Kind) : DecidableEq k.Spec := by
  cases k <;> unfold Kind.Spec <;> infer_instance

/-- Manifests are kept in the namespace of the provider. -/
def Kind.InLeaseNamespace (k : Kind) : Prop := k ≠ .manifest ∧ k ≠ .namespace

instance (k : Kind) : Decidable k.InLeaseNamespace :=
  inferInstanceAs (Decidable (k ≠ .manifest ∧ k ≠ .namespace))

abbrev Object (k : Kind) := ApiObject k.Spec

/-- The objects of a lease by kind. -/
abbrev ClusterState := (k : Kind) → Collection k.Spec

namespace ClusterState

def empty : ClusterState := fun _ => .empty

def set (cl : ClusterState) (k : Kind) (C : Collection k.Spec) : ClusterState :=
  Function.update cl k C

@[simp] theorem set_self (cl : ClusterState) (k : Kind) (C : Collection k.Spec) :
    cl.set k C k = C :=
  Function.update_self ..

theorem set_of_ne {k k' : Kind} (h : k' ≠ k) (cl : ClusterState) (C : Collection k.Spec) :
    cl.set k C k' = cl k' :=
  Function.update_of_ne h ..

@[simp] theorem set_eq_self (cl : ClusterState) (k : Kind) : cl.set k (cl k) = cl :=
  Function.update_eq_self ..

/-- What is in the namespace goes with it. -/
def clearNamespace (cl : ClusterState) : ClusterState :=
  fun k => if k.InLeaseNamespace then (cl k).cleared else cl k

end ClusterState

end Kube

end AkashProvider
