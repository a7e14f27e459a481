import FrameOperator.Api.Versions
import FrameOperator.Lib.Requests

/-!
# The FrameResourceQuota controller

`FrameResourceQuotaReconciler` (`internal/controller/frame/frameresourcequota_controller.go`), for a server that answers every call.
Events, log lines, the interval of requeuing and what `sumQuotaUsage` puts in the status are left out.
-/

namespace FrameOperator.Quotas

open Api

/-- The service classes that the schema admits. -/
inductive ServiceClass where
  | HIGH
  | MEDIUM
  | LOW
  deriving DecidableEq

/-- A service class as a label has it. -/
def ServiceClass.value : ServiceClass → String
  | HIGH => "HIGH"
  | MEDIUM => "MEDIUM"
  | LOW => "LOW"

def ServiceClass.toLower : ServiceClass → String
  | HIGH => "high"
  | MEDIUM => "medium"
  | LOW => "low"

structure FrameResourceQuotaSpec where
  serviceClass : ServiceClass
  maxGPUs : Int32 := 0
  maxCPU : Option Core.Quantity := none
  maxMemory : Option Core.Quantity := none
  maxJobs : Int32 := 0

structure FrameResourceQuota where
  key : NamespacedName
  generation : Int64 := 1
  finalizers : List String := []
  deleting : Bool := false
  spec : FrameResourceQuotaSpec
  status : V1beta1.FrameResourceQuotaStatus := {}

/-- A Namespace, with its label `frame.plume-labs.io/service-class`. -/
structure Namespace where
  name : String
  serviceClass : Option String := none

/-- A limit: as it was written, or the quantity of a count. -/
inductive Limit where
  | quantity (q : Core.Quantity)
  | count (n : Int32)

structure ResourceQuota where
  key : NamespacedName
  hard : List (String × Limit)

/-- The cluster, with a ghost: the FrameResourceQuotas that were applied since something was last changed. -/
structure Cluster where
  frameResourceQuotas : Keyed FrameResourceQuota FrameResourceQuota.key := Keyed.empty
  namespaces : Keyed Namespace Namespace.name := Keyed.empty
  resourceQuotas : Keyed ResourceQuota ResourceQuota.key := Keyed.empty
  applied : List NamespacedName := []
  clock : Time := 0

def frameResourceQuotaFinalizer : String := "frame.plume-labs.io/frameresourcequota"

def buildResourceList (spec : FrameResourceQuotaSpec) : List (String × Limit) :=
  (spec.maxCPU.map fun q => ("limits.cpu", .quantity q)).toList ++
    (spec.maxMemory.map fun q => ("limits.memory", .quantity q)).toList ++
    (if 0 < spec.maxGPUs then [("requests.nvidia.com/gpu", .count spec.maxGPUs)] else []) ++
    if 0 < spec.maxJobs then [("count/framejobs.frame.plume-labs.io", .count spec.maxJobs)] else []

def quotaName (c : ServiceClass) : String := "frame-" ++ c.toLower

namespace Cluster

variable (s : Cluster)

/-- `controllerutil.CreateOrUpdate` of a ResourceQuota. -/
def createOrUpdate (key : NamespacedName) (hard : List (String × Limit)) : Cluster :=
  { s with
    resourceQuotas :=
      match s.resourceQuotas.get? key with
      | none => s.resourceQuotas.insertNew ⟨key, hard⟩
      | some _ => s.resourceQuotas.modify key (fun q => { q with hard := hard }) fun _ => rfl }

def updateFinalizers (frq : FrameResourceQuota) (finalizers : List String) : Cluster :=
  if frq.deleting ∧ finalizers = [] then { s with frameResourceQuotas := s.frameResourceQuotas.erase frq.key }
  else
    { s with
      frameResourceQuotas := s.frameResourceQuotas.modify frq.key (fun frq => { frq with finalizers := finalizers }) fun _ => rfl }

/-- The Namespaces that a FrameResourceQuota selects. -/
def selected (c : ServiceClass) : List Namespace := s.namespaces.items.filter fun ns => ns.serviceClass = some c.value

def project (frq : FrameResourceQuota) : Cluster :=
  (s.selected frq.spec.serviceClass).foldl
    (fun s ns => s.createOrUpdate ⟨ns.name, quotaName frq.spec.serviceClass⟩ (buildResourceList frq.spec)) s

def patchStatus (frq : FrameResourceQuota) : Cluster :=
  let selects := (s.selected frq.spec.serviceClass).length
  let status : V1beta1.FrameResourceQuotaStatus :=
    { frq.status with
      observedGeneration := frq.generation
      namespaces := Int32.ofNat selects
      conditions := some (Meta.setStatusCondition (frq.status.conditions.getD [])
        { type := "Ready", status := "True", reason := "Reconciled", message := "Applied to " ++ toString selects ++ " namespaces",
          observedGeneration := frq.generation } s.clock) }
  { s with
    frameResourceQuotas := s.frameResourceQuotas.modify frq.key (fun frq => { frq with status := status }) fun _ => rfl
    applied := frq.key :: s.applied }

def reconcile (key : NamespacedName) : Cluster :=
  match s.frameResourceQuotas.get? key with
  | none => s
  | some frq =>
    if frq.deleting then s.updateFinalizers frq (frq.finalizers.filter (· ≠ frameResourceQuotaFinalizer))
    else if frameResourceQuotaFinalizer ∈ frq.finalizers then (s.project frq).patchStatus frq
    else s.updateFinalizers frq (frq.finalizers ++ [frameResourceQuotaFinalizer])

end Cluster

/-- What happens: a pass, and what others change. -/
inductive Input where
  | pass (key : NamespacedName)
  | create (key : NamespacedName) (spec : FrameResourceQuotaSpec)
  | edit (key : NamespacedName) (spec : FrameResourceQuotaSpec)
  | delete (key : NamespacedName)
  | createNamespace (name : String) (serviceClass : Option String)
  | label (name : String) (serviceClass : Option String)

def Cluster.step (s : Cluster) : Input → Cluster
  | .pass key => s.reconcile key
  | .create key spec =>
    { s with frameResourceQuotas := s.frameResourceQuotas.insertNew { key := key, spec := spec }, applied := [] }
  | .edit key spec =>
    { s with
      frameResourceQuotas := s.frameResourceQuotas.modify key
        (fun frq => { frq with spec := spec, generation := frq.generation + 1 }) fun _ => rfl
      applied := [] }
  | .delete key =>
    match s.frameResourceQuotas.get? key with
    | some frq =>
      if frq.finalizers = [] then { s with frameResourceQuotas := s.frameResourceQuotas.erase key, applied := [] }
      else
        { s with
          frameResourceQuotas := s.frameResourceQuotas.modify key (fun frq => { frq with deleting := true }) fun _ => rfl
          applied := [] }
    | none => s
  | .createNamespace name serviceClass => { s with namespaces := s.namespaces.insertNew ⟨name, serviceClass⟩, applied := [] }
  | .label name serviceClass =>
    { s with
      namespaces := s.namespaces.modify name (fun ns => { ns with serviceClass := serviceClass }) fun _ => rfl
      applied := [] }

end FrameOperator.Quotas
