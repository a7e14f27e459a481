import FrameOperator.Api.Stash

/-!
# The conversion webhook

`convertFrom` makes a v1alpha1 object of a v1beta1 one and `convertTo` the way back; both leave the type of the destination alone.
Neither carries `status.phase`, and `FrameJob`'s `spec.namespace` is the object's own on the way down and dropped on the way up.
-/

namespace FrameOperator

namespace V1alpha1

def conditionTypeReady : String := "Ready"

def conditionTypeSubmitted : String := "Submitted"

def frameJobPhaseFromConditions (conditions : Slice Meta.Condition) : String :=
  match Meta.findStatusCondition conditions conditionTypeReady with
  | none => if (Meta.findStatusCondition conditions conditionTypeSubmitted).isSome then "Submitted" else "Pending"
  | some ready =>
    if ready.reason ∈ ["Submitted", "Running", "Suspended", "Completed", "Failed"] then ready.reason else "Submitted"

def frameNodePhaseFromConditions (conditions : Slice Meta.Condition) : String :=
  match Meta.findStatusCondition conditions conditionTypeReady with
  | none => ""
  | some ready =>
    if ready.reason ∈ ["Discovered", "Provisioning", "Online", "Degraded", "Offline"] then ready.reason else ""

def frameServicePhaseFromStatus (deleting : Bool) (conditions : Slice Meta.Condition) : String :=
  if deleting then "Deleting"
  else
    match Meta.findStatusCondition conditions conditionTypeReady with
    | none => "Pending"
    | some ready => if ready.status = "True" then "Ready" else "Degraded"

def toParameterValues (m : GoMap String String) : GoMap String V1beta1.ParameterValue := m.mapValues V1beta1.ParameterValue.mk

def fromParameterValues (m : GoMap String V1beta1.ParameterValue) : GoMap String String :=
  m.mapValues V1beta1.ParameterValue.value

def toBetaCredentials (s : Slice WebAuthnCredential) : Slice V1beta1.WebAuthnCredential :=
  s.map (List.map fun c =>
    { id := c.id, publicKey := c.publicKey, signCount := c.signCount, addedAt := c.addedAt, label := c.label })

def fromBetaCredentials (s : Slice V1beta1.WebAuthnCredential) : Slice WebAuthnCredential :=
  s.map (List.map fun c =>
    { id := c.id, publicKey := c.publicKey, signCount := c.signCount, addedAt := c.addedAt, label := c.label })

def toBetaProjected (s : Slice ProjectedSecretRef) : Slice V1beta1.ProjectedSecretRef :=
  s.map (List.map fun p => { namespaceName := p.namespaceName, name := p.name })

def fromBetaProjected (s : Slice V1beta1.ProjectedSecretRef) : Slice ProjectedSecretRef :=
  s.map (List.map fun p => { namespaceName := p.namespaceName, name := p.name })

def toBetaProvisioned (s : Slice ProvisionedRef) : Slice V1beta1.ProvisionedRef :=
  s.map (List.map fun p => { apiVersion := p.apiVersion, kind := p.kind, name := p.name, namespaceName := p.namespaceName })

def fromBetaProvisioned (s : Slice V1beta1.ProvisionedRef) : Slice ProvisionedRef :=
  s.map (List.map fun p => { apiVersion := p.apiVersion, kind := p.kind, name := p.name, namespaceName := p.namespaceName })

/-- The error of a converter that is handed another kind than its own. -/
def unexpected (method kind : String) (raw : Hub) : String := method ++ ": expected *v1beta1." ++ kind ++ ", got " ++ raw.goType

def FrameJob.convertTo (json : EncodingJson) (src : FrameJob) (dstRaw : Hub) : Except String Hub := do
  let .frameJob dst := dstRaw | throw (unexpected "ConvertTo" "FrameJob" dstRaw)
  let dst := { dst with
    objectMeta := src.objectMeta
    spec.pipeline := src.spec.pipeline
    spec.serviceClass := ⟨src.spec.serviceClass⟩
    spec.priority := src.spec.priority
    spec.gpuCount := src.spec.gpuCount
    spec.suspended := src.spec.suspended
    spec.parameters := toParameterValues src.spec.parameters }
  let dst ← restoreFrameJobContainer json dst src
  return .frameJob { dst with
    status.observedGeneration := src.status.observedGeneration
    status.conditions := src.status.conditions
    status.argoWorkflowName := src.status.argoWorkflowName
    status.startTime := src.status.startTime
    status.completionTime := src.status.completionTime
    status.message := src.status.message }

def FrameJob.convertFrom (json : EncodingJson) (dst : FrameJob) (srcRaw : Hub) : Except String FrameJob := do
  let .frameJob src := srcRaw | throw (unexpected "ConvertFrom" "FrameJob" srcRaw)
  let dst := { dst with objectMeta := src.objectMeta }
  let dst ← stashFrameJobContainer json dst src
  return { dst with
    spec.pipeline := src.spec.pipeline
    spec.serviceClass := src.spec.serviceClass.value
    spec.priority := src.spec.priority
    spec.gpuCount := src.spec.gpuCount
    spec.suspended := src.spec.suspended
    spec.parameters := fromParameterValues src.spec.parameters
    spec.namespaceName := src.objectMeta.namespaceName
    status.observedGeneration := src.status.observedGeneration
    status.conditions := src.status.conditions
    status.argoWorkflowName := src.status.argoWorkflowName
    status.startTime := src.status.startTime
    status.completionTime := src.status.completionTime
    status.message := src.status.message
    status.phase := frameJobPhaseFromConditions src.status.conditions }

def FrameNode.convertTo (src : FrameNode) (dstRaw : Hub) : Except String Hub := do
  let .frameNode dst := dstRaw | throw (unexpected "ConvertTo" "FrameNode" dstRaw)
  return .frameNode { dst with
    objectMeta := src.objectMeta
    spec.ip := src.spec.ip
    spec.role := src.spec.role
    spec.rdmaInterface := src.spec.rdmaInterface
    spec.hostname := src.spec.hostname
    spec.rack := src.spec.rack
    spec.zone := src.spec.zone
    spec.serviceClass := ⟨src.spec.serviceClass⟩
    spec.network :=
      { address := src.spec.network.address
        gateway := src.spec.network.gateway
        dns := src.spec.network.dns
        vlan := src.spec.network.vlan
        bond := src.spec.network.bond }
    status.observedGeneration := src.status.observedGeneration
    status.conditions := src.status.conditions
    status.kubeletVersion := src.status.kubeletVersion
    status.capacity := src.status.capacity
    status.allocatable := src.status.allocatable
    status.nodeName := src.status.nodeName }

def FrameNode.convertFrom (dst : FrameNode) (srcRaw : Hub) : Except String FrameNode := do
  let .frameNode src := srcRaw | throw (unexpected "ConvertFrom" "FrameNode" srcRaw)
  return { dst with
    objectMeta := src.objectMeta
    spec.ip := src.spec.ip
    spec.role := src.spec.role
    spec.rdmaInterface := src.spec.rdmaInterface
    spec.hostname := src.spec.hostname
    spec.rack := src.spec.rack
    spec.zone := src.spec.zone
    spec.serviceClass := src.spec.serviceClass.value
    spec.network :=
      { address := src.spec.network.address
        gateway := src.spec.network.gateway
        dns := src.spec.network.dns
        vlan := src.spec.network.vlan
        bond := src.spec.network.bond }
    status.observedGeneration := src.status.observedGeneration
    status.conditions := src.status.conditions
    status.kubeletVersion := src.status.kubeletVersion
    status.capacity := src.status.capacity
    status.allocatable := src.status.allocatable
    status.nodeName := src.status.nodeName
    status.phase := frameNodePhaseFromConditions src.status.conditions }

def FrameResourceQuota.convertTo (src : FrameResourceQuota) (dstRaw : Hub) : Except String Hub := do
  let .frameResourceQuota dst := dstRaw | throw (unexpected "ConvertTo" "FrameResourceQuota" dstRaw)
  return .frameResourceQuota { dst with
    objectMeta := src.objectMeta
    spec.serviceClass := ⟨src.spec.serviceClass⟩
    spec.maxGPUs := src.spec.maxGPUs
    spec.maxCPU := src.spec.maxCPU
    spec.maxMemory := src.spec.maxMemory
    spec.maxJobs := src.spec.maxJobs
    status.observedGeneration := src.status.observedGeneration
    status.used := src.status.used
    status.namespaces := src.status.namespaces
    status.conditions := src.status.conditions }

def FrameResourceQuota.convertFrom (dst : FrameResourceQuota) (srcRaw : Hub) : Except String FrameResourceQuota := do
  let .frameResourceQuota src := srcRaw | throw (unexpected "ConvertFrom" "FrameResourceQuota" srcRaw)
  return { dst with
    objectMeta := src.objectMeta
    spec.serviceClass := src.spec.serviceClass.value
    spec.maxGPUs := src.spec.maxGPUs
    spec.maxCPU := src.spec.maxCPU
    spec.maxMemory := src.spec.maxMemory
    spec.maxJobs := src.spec.maxJobs
    status.observedGeneration := src.status.observedGeneration
    status.used := src.status.used
    status.namespaces := src.status.namespaces
    status.conditions := src.status.conditions }

def SchedulingPolicy.convertTo (src : SchedulingPolicy) (dstRaw : Hub) : Except String Hub := do
  let .schedulingPolicy dst := dstRaw | throw (unexpected "ConvertTo" "SchedulingPolicy" dstRaw)
  return .schedulingPolicy { dst with
    objectMeta := src.objectMeta
    -- the Go conversion between the two spec types, field for field
    spec :=
      { scheduler := src.spec.scheduler
        queueName := src.spec.queueName
        priorityClass := src.spec.priorityClass
        preemption := src.spec.preemption
        priorityValue := src.spec.priorityValue
        queueWeight := src.spec.queueWeight }
    status :=
      { observedGeneration := src.status.observedGeneration
        ownedPriorityClass := src.status.ownedPriorityClass
        ownedQueue := src.status.ownedQueue
        ownedQueueScheduler := src.status.ownedQueueScheduler
        conditions := src.status.conditions } }

def SchedulingPolicy.convertFrom (dst : SchedulingPolicy) (srcRaw : Hub) : Except String SchedulingPolicy := do
  let .schedulingPolicy src := srcRaw | throw (unexpected "ConvertFrom" "SchedulingPolicy" srcRaw)
  return { dst with
    objectMeta := src.objectMeta
    spec :=
      { scheduler := src.spec.scheduler
        queueName := src.spec.queueName
        priorityClass := src.spec.priorityClass
        preemption := src.spec.preemption
        priorityValue := src.spec.priorityValue
        queueWeight := src.spec.queueWeight }
    status :=
      { observedGeneration := src.status.observedGeneration
        ownedPriorityClass := src.status.ownedPriorityClass
        ownedQueue := src.status.ownedQueue
        ownedQueueScheduler := src.status.ownedQueueScheduler
        conditions := src.status.conditions } }

def FrameUser.convertTo (src : FrameUser) (dstRaw : Hub) : Except String Hub := do
  let .frameUser dst := dstRaw | throw (unexpected "ConvertTo" "FrameUser" dstRaw)
  return .frameUser { dst with
    objectMeta := src.objectMeta
    spec.email := src.spec.email
    spec.role := src.spec.role
    spec.passwordAuth := src.spec.passwordAuth
    spec.state := src.spec.state
    status.observedGeneration := src.status.observedGeneration
    status.passwordHash := src.spec.passwordHash
    status.credentials := toBetaCredentials src.status.credentials }

def FrameUser.convertFrom (dst : FrameUser) (srcRaw : Hub) : Except String FrameUser := do
  let .frameUser src := srcRaw | throw (unexpected "ConvertFrom" "FrameUser" srcRaw)
  return { dst with
    objectMeta := src.objectMeta
    spec.email := src.spec.email
    spec.role := src.spec.role
    spec.passwordAuth := src.spec.passwordAuth
    spec.state := src.spec.state
    spec.passwordHash := src.status.passwordHash
    status.observedGeneration := src.status.observedGeneration
    status.credentials := fromBetaCredentials src.status.credentials }

def FrameService.convertTo (src : FrameService) (dstRaw : Hub) : Except String Hub := do
  let .frameService dst := dstRaw | throw (unexpected "ConvertTo" "FrameService" dstRaw)
  return .frameService { dst with
    objectMeta := src.objectMeta
    spec.type := src.spec.type
    spec.parameters := toParameterValues src.spec.parameters
    spec.serviceClass := ⟨src.spec.serviceClass⟩
    spec.binding := { secretName := src.spec.binding.secretName, projectTo := src.spec.binding.projectTo }
    spec.deletionPolicy := src.spec.deletionPolicy
    status.observedGeneration := src.status.observedGeneration
    status.conditions := src.status.conditions
    status.binding :=
      { secretRef := src.status.binding.secretRef
        endpoint := src.status.binding.endpoint
        projected := toBetaProjected src.status.binding.projected }
    status.sizing :=
      { gpu := src.status.sizing.gpu
        gpuMemory := src.status.sizing.gpuMemory
        cpu := src.status.sizing.cpu
        memory := src.status.sizing.memory }
    status.provisioned := toBetaProvisioned src.status.provisioned }

def FrameService.convertFrom (dst : FrameService) (srcRaw : Hub) : Except String FrameService := do
  let .frameService src := srcRaw | throw (unexpected "ConvertFrom" "FrameService" srcRaw)
  return { dst with
    objectMeta := src.objectMeta
    spec.type := src.spec.type
    spec.parameters := fromParameterValues src.spec.parameters
    spec.serviceClass := src.spec.serviceClass.value
    spec.binding := { secretName := src.spec.binding.secretName, projectTo := src.spec.binding.projectTo }
    spec.deletionPolicy := src.spec.deletionPolicy
    status.observedGeneration := src.status.observedGeneration
    status.conditions := src.status.conditions
    status.binding :=
      { secretRef := src.status.binding.secretRef
        endpoint := src.status.binding.endpoint
        projected := fromBetaProjected src.status.binding.projected }
    status.sizing :=
      { gpu := src.status.sizing.gpu
        gpuMemory := src.status.sizing.gpuMemory
        cpu := src.status.sizing.cpu
        memory := src.status.sizing.memory }
    status.provisioned := fromBetaProvisioned src.status.provisioned
    status.phase := frameServicePhaseFromStatus (!Meta.isZero src.objectMeta.deletionTimestamp) src.status.conditions }

end V1alpha1

/-- `ConvertTo` of any kind. -/
def Spoke.convertTo (json : V1alpha1.EncodingJson) (src : Spoke) (dst : Hub) : Except String Hub :=
  match src with
  | .frameJob src => src.convertTo json dst
  | .frameNode src => src.convertTo dst
  | .frameResourceQuota src => src.convertTo dst
  | .schedulingPolicy src => src.convertTo dst
  | .frameUser src => src.convertTo dst
  | .frameService src => src.convertTo dst

/-- `ConvertFrom` of any kind. -/
def Spoke.convertFrom (json : V1alpha1.EncodingJson) (dst : Spoke) (src : Hub) : Except String Spoke :=
  match dst with
  | .frameJob dst => .frameJob <$> dst.convertFrom json src
  | .frameNode dst => .frameNode <$> dst.convertFrom src
  | .frameResourceQuota dst => .frameResourceQuota <$> dst.convertFrom src
  | .schedulingPolicy dst => .schedulingPolicy <$> dst.convertFrom src
  | .frameUser dst => .frameUser <$> dst.convertFrom src
  | .frameService dst => .frameService <$> dst.convertFrom src

end FrameOperator
