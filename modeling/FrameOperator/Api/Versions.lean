import FrameOperator.Api.Meta

/-!
# The kinds served in two versions

`V1beta1` holds the kinds as they are stored, the hubs, and `V1alpha1` the kinds as they were, the spokes.
-/

namespace FrameOperator

namespace V1beta1

structure ServiceClass where
  value : String := ""
  deriving DecidableEq

/-- A value of a parameter map: a named string type. -/
structure ParameterValue where
  value : String := ""
  deriving DecidableEq

structure WorkloadType where
  value : String := ""

structure ContainerSpec where
  image : String := ""
  command : Slice String := none
  args : Slice String := none
  env : Slice Core.EnvVar := none
  resources : Core.ResourceRequirements := {}
  envFrom : Slice Core.EnvFromSource := none

structure FrameJobSpec where
  pipeline : String := ""
  container : Option ContainerSpec := none
  type : WorkloadType := {}
  serviceClass : ServiceClass := {}
  priority : String := ""
  gpuCount : Int32 := 0
  parameters : GoMap String ParameterValue := none
  suspended : Bool := false

structure FrameJobStatus where
  observedGeneration : Int64 := 0
  conditions : Slice Meta.Condition := none
  argoWorkflowName : String := ""
  containerJobName : String := ""
  containerJobKind : String := ""
  startTime : Option Time := none
  completionTime : Option Time := none
  message : String := ""

structure FrameJob where
  typeMeta : Meta.TypeMeta := {}
  objectMeta : Meta.ObjectMeta := {}
  spec : FrameJobSpec := {}
  status : FrameJobStatus := {}

structure NetworkSpec where
  address : String := ""
  gateway : String := ""
  dns : Slice String := none
  vlan : Option Int32 := none
  bond : Option String := none
  deriving DecidableEq

structure FrameNodeSpec where
  ip : String := ""
  role : String := ""
  network : NetworkSpec := {}
  rdmaInterface : String := ""
  hostname : String := ""
  rack : String := ""
  zone : String := ""
  serviceClass : ServiceClass := {}
  deriving DecidableEq

structure FrameNodeStatus where
  observedGeneration : Int64 := 0
  conditions : Slice Meta.Condition := none
  kubeletVersion : String := ""
  capacity : Core.ResourceList := none
  allocatable : Core.ResourceList := none
  nodeName : String := ""
  deriving DecidableEq

structure FrameNode where
  typeMeta : Meta.TypeMeta := {}
  objectMeta : Meta.ObjectMeta := {}
  spec : FrameNodeSpec := {}
  status : FrameNodeStatus := {}

structure FrameResourceQuotaSpec where
  serviceClass : ServiceClass := {}
  maxGPUs : Int32 := 0
  maxCPU : Option Core.Quantity := none
  maxMemory : Option Core.Quantity := none
  maxJobs : Int32 := 0

structure FrameResourceQuotaStatus where
  observedGeneration : Int64 := 0
  used : Core.ResourceList := none
  namespaces : Int32 := 0
  conditions : Slice Meta.Condition := none

structure FrameResourceQuota where
  typeMeta : Meta.TypeMeta := {}
  objectMeta : Meta.ObjectMeta := {}
  spec : FrameResourceQuotaSpec := {}
  status : FrameResourceQuotaStatus := {}

structure SchedulingPolicySpec where
  scheduler : String := ""
  queueName : String := ""
  priorityClass : String := ""
  preemption : Bool := false
  priorityValue : Option Int32 := none
  queueWeight : Option Int32 := none
  deriving DecidableEq

structure SchedulingPolicyStatus where
  observedGeneration : Int64 := 0
  conditions : Slice Meta.Condition := none
  ownedPriorityClass : String := ""
  ownedQueue : String := ""
  ownedQueueScheduler : String := ""
  deriving DecidableEq

structure SchedulingPolicy where
  typeMeta : Meta.TypeMeta := {}
  objectMeta : Meta.ObjectMeta := {}
  spec : SchedulingPolicySpec := {}
  status : SchedulingPolicyStatus := {}

structure WebAuthnCredential where
  id : String := ""
  publicKey : String := ""
  signCount : UInt32 := 0
  addedAt : Time := Meta.zeroTime
  label : String := ""
  deriving DecidableEq

structure FrameUserSpec where
  email : String := ""
  role : String := ""
  passwordAuth : String := ""
  state : String := ""
  deriving DecidableEq

structure FrameUserStatus where
  observedGeneration : Int64 := 0
  passwordHash : String := ""
  credentials : Slice WebAuthnCredential := none

structure FrameUser where
  typeMeta : Meta.TypeMeta := {}
  objectMeta : Meta.ObjectMeta := {}
  spec : FrameUserSpec := {}
  status : FrameUserStatus := {}

structure BindingSpec where
  secretName : String := ""
  projectTo : Slice String := none
  deriving DecidableEq

structure FrameServiceSpec where
  type : String := ""
  parameters : GoMap String ParameterValue := none
  serviceClass : ServiceClass := {}
  binding : BindingSpec := {}
  deletionPolicy : String := ""
  deriving DecidableEq

structure Sizing where
  gpu : String := ""
  gpuMemory : String := ""
  cpu : String := ""
  memory : String := ""
  deriving DecidableEq

structure ProjectedSecretRef where
  namespaceName : String := ""
  name : String := ""
  deriving DecidableEq

structure BindingStatus where
  secretRef : Option Core.LocalObjectReference := none
  endpoint : String := ""
  projected : Slice ProjectedSecretRef := none
  deriving DecidableEq

structure ProvisionedRef where
  apiVersion : String := ""
  kind : String := ""
  name : String := ""
  namespaceName : String := ""
  deriving DecidableEq

structure FrameServiceStatus where
  observedGeneration : Int64 := 0
  conditions : Slice Meta.Condition := none
  binding : BindingStatus := {}
  sizing : Sizing := {}
  provisioned : Slice ProvisionedRef := none
  deriving DecidableEq

structure FrameService where
  typeMeta : Meta.TypeMeta := {}
  objectMeta : Meta.ObjectMeta := {}
  spec : FrameServiceSpec := {}
  status : FrameServiceStatus := {}

end V1beta1

namespace V1alpha1

structure FrameJobSpec where
  pipeline : String := ""
  serviceClass : String := ""
  priority : String := ""
  namespaceName : String := ""
  gpuCount : Int32 := 0
  parameters : GoMap String String := none
  suspended : Bool := false

structure FrameJobStatus where
  observedGeneration : Int64 := 0
  phase : String := ""
  conditions : Slice Meta.Condition := none
  argoWorkflowName : String := ""
  startTime : Option Time := none
  completionTime : Option Time := none
  message : String := ""

structure FrameJob where
  typeMeta : Meta.TypeMeta := {}
  objectMeta : Meta.ObjectMeta := {}
  spec : FrameJobSpec := {}
  status : FrameJobStatus := {}

structure NetworkSpec where
  address : String := ""
  gateway : String := ""
  dns : Slice String := none
  vlan : Option Int32 := none
  bond : Option String := none

structure FrameNodeSpec where
  ip : String := ""
  role : String := ""
  network : NetworkSpec := {}
  rdmaInterface : String := ""
  hostname : String := ""
  rack : String := ""
  zone : String := ""
  serviceClass : String := ""

structure FrameNodeStatus where
  observedGeneration : Int64 := 0
  phase : String := ""
  conditions : Slice Meta.Condition := none
  kubeletVersion : String := ""
  capacity : Core.ResourceList := none
  allocatable : Core.ResourceList := none
  nodeName : String := ""

structure FrameNode where
  typeMeta : Meta.TypeMeta := {}
  objectMeta : Meta.ObjectMeta := {}
  spec : FrameNodeSpec := {}
  status : FrameNodeStatus := {}

structure FrameResourceQuotaSpec where
  serviceClass : String := ""
  maxGPUs : Int32 := 0
  maxCPU : Option Core.Quantity := none
  maxMemory : Option Core.Quantity := none
  maxJobs : Int32 := 0

structure FrameResourceQuotaStatus where
  observedGeneration : Int64 := 0
  used : Core.ResourceList := none
  namespaces : Int32 := 0
  conditions : Slice Meta.Condition := none

structure FrameResourceQuota where
  typeMeta : Meta.TypeMeta := {}
  objectMeta : Meta.ObjectMeta := {}
  spec : FrameResourceQuotaSpec := {}
  status : FrameResourceQuotaStatus := {}

structure SchedulingPolicySpec where
  scheduler : String := ""
  queueName : String := ""
  priorityClass : String := ""
  preemption : Bool := false
  priorityValue : Option Int32 := none
  queueWeight : Option Int32 := none

structure SchedulingPolicyStatus where
  observedGeneration : Int64 := 0
  ownedPriorityClass : String := ""
  ownedQueue : String := ""
  ownedQueueScheduler : String := ""
  conditions : Slice Meta.Condition := none

structure SchedulingPolicy where
  typeMeta : Meta.TypeMeta := {}
  objectMeta : Meta.ObjectMeta := {}
  spec : SchedulingPolicySpec := {}
  status : SchedulingPolicyStatus := {}

structure WebAuthnCredential where
  id : String := ""
  publicKey : String := ""
  signCount : UInt32 := 0
  addedAt : Time := Meta.zeroTime
  label : String := ""

structure FrameUserSpec where
  email : String := ""
  role : String := ""
  passwordAuth : String := ""
  state : String := ""
  passwordHash : String := ""

structure FrameUserStatus where
  observedGeneration : Int64 := 0
  credentials : Slice WebAuthnCredential := none

structure FrameUser where
  typeMeta : Meta.TypeMeta := {}
  objectMeta : Meta.ObjectMeta := {}
  spec : FrameUserSpec := {}
  status : FrameUserStatus := {}

structure BindingSpec where
  secretName : String := ""
  projectTo : Slice String := none

structure FrameServiceSpec where
  type : String := ""
  parameters : GoMap String String := none
  serviceClass : String := ""
  binding : BindingSpec := {}
  deletionPolicy : String := ""

structure Sizing where
  gpu : String := ""
  gpuMemory : String := ""
  cpu : String := ""
  memory : String := ""

structure ProjectedSecretRef where
  namespaceName : String := ""
  name : String := ""

structure BindingStatus where
  secretRef : Option Core.LocalObjectReference := none
  endpoint : String := ""
  projected : Slice ProjectedSecretRef := none

structure ProvisionedRef where
  apiVersion : String := ""
  kind : String := ""
  name : String := ""
  namespaceName : String := ""

structure FrameServiceStatus where
  phase : String := ""
  conditions : Slice Meta.Condition := none
  binding : BindingStatus := {}
  sizing : Sizing := {}
  provisioned : Slice ProvisionedRef := none
  observedGeneration : Int64 := 0

structure FrameService where
  typeMeta : Meta.TypeMeta := {}
  objectMeta : Meta.ObjectMeta := {}
  spec : FrameServiceSpec := {}
  status : FrameServiceStatus := {}

end V1alpha1

/-- An object in its hub version. -/
inductive Hub where
  | frameJob (o : V1beta1.FrameJob)
  | frameNode (o : V1beta1.FrameNode)
  | frameResourceQuota (o : V1beta1.FrameResourceQuota)
  | schedulingPolicy (o : V1beta1.SchedulingPolicy)
  | frameUser (o : V1beta1.FrameUser)
  | frameService (o : V1beta1.FrameService)

/-- An object in its spoke version. -/
inductive Spoke where
  | frameJob (o : V1alpha1.FrameJob)
  | frameNode (o : V1alpha1.FrameNode)
  | frameResourceQuota (o : V1alpha1.FrameResourceQuota)
  | schedulingPolicy (o : V1alpha1.SchedulingPolicy)
  | frameUser (o : V1alpha1.FrameUser)
  | frameService (o : V1alpha1.FrameService)

namespace Hub

/-- The Go type, as `%T` prints it. -/
def goType : Hub → String
  | frameJob _ => "*v1beta1.FrameJob"
  | frameNode _ => "*v1beta1.FrameNode"
  | frameResourceQuota _ => "*v1beta1.FrameResourceQuota"
  | schedulingPolicy _ => "*v1beta1.SchedulingPolicy"
  | frameUser _ => "*v1beta1.FrameUser"
  | frameService _ => "*v1beta1.FrameService"

def objectMeta : Hub → Meta.ObjectMeta
  | frameJob o => o.objectMeta
  | frameNode o => o.objectMeta
  | frameResourceQuota o => o.objectMeta
  | schedulingPolicy o => o.objectMeta
  | frameUser o => o.objectMeta
  | frameService o => o.objectMeta

/-- What the conversion handler allocates: nothing but the type is set. -/
def allocate : Hub → Hub
  | frameJob o => frameJob { typeMeta := o.typeMeta }
  | frameNode o => frameNode { typeMeta := o.typeMeta }
  | frameResourceQuota o => frameResourceQuota { typeMeta := o.typeMeta }
  | schedulingPolicy o => schedulingPolicy { typeMeta := o.typeMeta }
  | frameUser o => frameUser { typeMeta := o.typeMeta }
  | frameService o => frameService { typeMeta := o.typeMeta }

/-- A new object of the same kind in the spoke version. -/
def allocateSpoke (typeMeta : Meta.TypeMeta) : Hub → Spoke
  | frameJob _ => .frameJob { typeMeta := typeMeta }
  | frameNode _ => .frameNode { typeMeta := typeMeta }
  | frameResourceQuota _ => .frameResourceQuota { typeMeta := typeMeta }
  | schedulingPolicy _ => .schedulingPolicy { typeMeta := typeMeta }
  | frameUser _ => .frameUser { typeMeta := typeMeta }
  | frameService _ => .frameService { typeMeta := typeMeta }

end Hub

end FrameOperator
