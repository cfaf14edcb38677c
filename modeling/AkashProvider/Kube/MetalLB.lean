import AkashProvider.Kube.Builder

/-!
# Services at a leased IP

The MetalLB client makes one service of the type LoadBalancer for each port that a lease has at
a leased IP.  Services with the same sharing key get the same IP.
-/

namespace AkashProvider.Kube

structure ClusterIPPassthroughDirective where
  leaseID : LeaseID
  serviceName : String
  port : UInt32
  externalPort : UInt32
  sharingKey : String
  protocol : Mani.ServiceProtocol
deriving DecidableEq

def metalLbAllowSharedIP : String := "metallb.universe.tf/allow-shared-ip"
def metalLbPoolAnnotation : String := "metallb.universe.tf/address-pool"
def defaultMetalLBPoolName : String := "default"

variable (S : ManifestSdk) (directive : ClusterIPPassthroughDirective)

/-- The protocol is its text, which is empty if none is set. -/
def createIPPassthroughResourceName (serviceName : String) (externalPort : UInt32)
    (protocol : String) : String :=
  (serviceName ++ "-ip-" ++ formatUint32 externalPort ++ "-" ++ protocol).toLower

/-- The labels of the service: those of the lease, without the name of a service. -/
def ipPassthroughLabels (lid : LeaseID) : Labels :=
  appendLeaseLabels lid [] ++ [(akashManagedLabelName, "true"), (akashServiceTarget, akashMetalLB)]

/-- The service that `CreateIPPassthrough` writes. -/
def ipPassthroughService (poolName : String) : Object .service :=
  let portName := createIPPassthroughResourceName directive.serviceName directive.externalPort
    (S.protocolToString directive.protocol)
  { name := portName
    labels := ipPassthroughLabels directive.leaseID
    annotations := (metalLbAllowSharedIP, directive.sharingKey) ::
      if poolName ≠ defaultMetalLBPoolName then [.mk metalLbPoolAnnotation poolName] else []
    resourceVersion := 0
    spec :=
      { type := .loadBalancer
        selector := [(akashManagedLabelName, "true"),
          (akashManifestServiceLabelName, directive.serviceName)]
        ports := [
          { name := portName
            port := Go.int32 directive.externalPort
            targetPort := Go.int32 directive.port
            protocol := directive.protocol
            nodePort := 0 }] : ServiceSpec } }

end AkashProvider.Kube
