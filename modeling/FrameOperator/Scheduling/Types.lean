import FrameOperator.Api.Versions
import FrameOperator.Lib.Merge
import FrameOperator.Lib.Requests

/-!
# Scheduling policies and what they own

A SchedulingPolicy and its PriorityClasses and Queues, as `internal/controller/frame/schedulingpolicy_controller.go` reads and
writes them, and the API server. The kind of Queue of a scheduler is installed or not.

The server keeps for each object that a pass created which policy the pass was for. Nothing reads it but statements.
-/

namespace FrameOperator.Scheduling

open Api
open V1beta1 (SchedulingPolicySpec SchedulingPolicyStatus)

structure SchedulingPolicy where
  key : NamespacedName
  generation : Int64 := 1
  deleting : Bool := false
  finalizers : List String := []
  spec : SchedulingPolicySpec
  status : SchedulingPolicyStatus := {}
  deriving DecidableEq

structure GroupVersionKind where
  group : String
  version : String
  kind : String
  deriving DecidableEq

def priorityClassGVK : GroupVersionKind := ⟨"scheduling.k8s.io", "v1", "PriorityClass"⟩

/-- What names a cluster-scoped object. -/
structure ObjectId where
  gvk : GroupVersionKind
  name : String
  deriving DecidableEq

/-- A value of an untyped field. -/
inductive AnyValue where
  | int (n : Int)
  | bool (b : Bool)
  | flags (members : List (String × Bool))
  | text (s : String)
  deriving DecidableEq

/-- A PriorityClass or a Queue; what belongs to the other kind is unset. -/
structure ClusterObject where
  id : ObjectId
  uid : Nat := 0
  labels : GoMap String String := none
  annotations : GoMap String String := none
  value : Int32 := 0
  globalDefault : Bool := false
  description : String := ""
  preemptionPolicy : Option String := none
  spec : GoMap String AnyValue := none
  deriving DecidableEq

def policyNamespaceLabel : String := "frame.plume-labs.io/policy-namespace"
def policyNameLabel : String := "frame.plume-labs.io/policy-name"
def policySchedulerLabel : String := "frame.plume-labs.io/scheduler"

/-- `markedBy`: the labels are those the controller writes for the policy. -/
def markedBy (labels : GoMap String String) (policy : NamespacedName) : Bool :=
  valueOf labels policyNamespaceLabel = policy.namespaceName && valueOf labels policyNameLabel = policy.name

/-- A status patch computed from `base`, on the status that is there. -/
def mergeStatus (base new cur : SchedulingPolicyStatus) : SchedulingPolicyStatus where
  observedGeneration := mergePart base.observedGeneration new.observedGeneration cur.observedGeneration
  conditions := mergePart base.conditions new.conditions cur.conditions
  ownedPriorityClass := mergePart base.ownedPriorityClass new.ownedPriorityClass cur.ownedPriorityClass
  ownedQueue := mergePart base.ownedQueue new.ownedQueue cur.ownedQueue
  ownedQueueScheduler := mergePart base.ownedQueueScheduler new.ownedQueueScheduler cur.ownedQueueScheduler

/-! ## The API server -/

theorem SchedulingPolicy.key_finalizers (finalizers : List String) (sp : SchedulingPolicy) :
    ({ sp with finalizers := finalizers } : SchedulingPolicy).key = sp.key := rfl

theorem SchedulingPolicy.key_status (base new : SchedulingPolicyStatus) (sp : SchedulingPolicy) :
    ({ sp with status := mergeStatus base new sp.status } : SchedulingPolicy).key = sp.key := rfl

theorem ClusterObject.id_overwrite (object o : ClusterObject) :
    ({ object with id := o.id, uid := o.uid } : ClusterObject).id = o.id := rfl

structure Cluster where
  policies : Versioned SchedulingPolicy SchedulingPolicy.key
  objects : Versioned ClusterObject ClusterObject.id
  installed : List GroupVersionKind
  nextUid : Nat
  created : List (NamespacedName × Nat)

/-- What a pass asks of the server. A create says for which policy the pass is. -/
inductive Request where
  | now
  | getPolicy (key : NamespacedName)
  | patchPolicyStatus (key : NamespacedName) (base new : SchedulingPolicyStatus)
  | updatePolicy (base : Stamped SchedulingPolicy) (finalizers : List String)
  | getObject (id : ObjectId)
  | createObject (policy : NamespacedName) (object : ClusterObject)
  | updateObject (base : Stamped ClusterObject) (object : ClusterObject)
  | deleteObject (id : ObjectId) (uid : Nat)

abbrev Request.Resp : Request → Type
  | now => Time
  | getPolicy _ | patchPolicyStatus _ _ _ | updatePolicy _ _ => Except Error (Stamped SchedulingPolicy)
  | getObject _ => Except Error (Stamped ClusterObject)
  | createObject _ _ | updateObject _ _ | deleteObject _ _ => Except Error Unit

/-- What becomes of a request, and when. -/
structure Answer where
  fate : Fate Fault := .served
  now : Time := 0

namespace Cluster

def hasKind (s : Cluster) (gvk : GroupVersionKind) : Bool := gvk = priorityClassGVK || s.installed.contains gvk

/-- An update of the finalizers; an object that is being deleted goes with the last of them. -/
def updatePolicy (s : Cluster) (base : Stamped SchedulingPolicy) (finalizers : List String) :
    Cluster × Except Error (Stamped SchedulingPolicy) :=
  match s.policies.get? base.val.key with
  | none => (s, .error .notFound)
  | some cur =>
    if cur.rev = base.rev then
      if cur.val.deleting && finalizers.isEmpty then ({ s with policies := s.policies.remove base.val.key }, .ok base)
      else
        let done := s.policies.patch base.val.key (fun sp => { sp with finalizers := finalizers })
          (SchedulingPolicy.key_finalizers finalizers)
        ({ s with policies := done.1 }, done.2)
    else (s, .error .conflict)

def getObject (s : Cluster) (id : ObjectId) : Except Error (Stamped ClusterObject) :=
  if s.hasKind id.gvk then s.objects.read id else .error .noMatch

def createObject (s : Cluster) (policy : Option NamespacedName) (object : ClusterObject) : Cluster × Except Error Unit :=
  if s.hasKind object.id.gvk then
    match (s.objects.add { object with uid := s.nextUid }).2 with
    | .error e => (s, .error e)
    | .ok _ =>
      ({ s with
          objects := (s.objects.add { object with uid := s.nextUid }).1
          nextUid := s.nextUid + 1
          created := policy.toList.map (·, s.nextUid) ++ s.created }, .ok ())
  else (s, .error .noMatch)

def updateObject (s : Cluster) (base : Stamped ClusterObject) (object : ClusterObject) : Cluster × Except Error Unit :=
  if s.hasKind base.val.id.gvk then
    let done := s.objects.put base (fun o => { object with id := o.id, uid := o.uid }) (ClusterObject.id_overwrite object)
    ({ s with objects := done.1 }, done.2.map fun _ => ())
  else (s, .error .noMatch)

def deleteObject (s : Cluster) (id : ObjectId) (uid : Nat) : Cluster × Except Error Unit :=
  if s.hasKind id.gvk then
    match s.objects.get? id with
    | none => (s, .error .notFound)
    | some o => if o.val.uid = uid then ({ s with objects := s.objects.remove id }, .ok ()) else (s, .error .conflict)
  else (s, .error .noMatch)

def exec (s : Cluster) : (r : Request) → Answer → Cluster × r.Resp
  | .now, a => (s, a.now)
  | .getPolicy key, a => a.fate.answer s (s, s.policies.read key)
  | .patchPolicyStatus key base new, a =>
    let done := s.policies.patch key (fun sp => { sp with status := mergeStatus base new sp.status })
      (SchedulingPolicy.key_status base new)
    a.fate.answer s ({ s with policies := done.1 }, done.2)
  | .updatePolicy base finalizers, a => a.fate.answer s (s.updatePolicy base finalizers)
  | .getObject id, a => a.fate.answer s (s, s.getObject id)
  | .createObject policy object, a => a.fate.answer s (s.createObject (some policy) object)
  | .updateObject base object, a => a.fate.answer s (s.updateObject base object)
  | .deleteObject id uid, a => a.fate.answer s (s.deleteObject id uid)

end Cluster

/-! ## What others do -/

/-- What users do to policies, and other principals to the objects and kinds of the cluster. -/
inductive Outside where
  | createPolicy (key : NamespacedName) (spec : SchedulingPolicySpec) (finalizers : List String)
  | editPolicy (key : NamespacedName) (spec : SchedulingPolicySpec)
  | deletePolicy (key : NamespacedName)
  | createObject (object : ClusterObject)
  | editObject (id : ObjectId) (object : ClusterObject)
  | deleteObject (id : ObjectId)
  | installKind (gvk : GroupVersionKind)
  | removeKind (gvk : GroupVersionKind)

def dropKind (gvk : GroupVersionKind) (objects : Versioned ClusterObject ClusterObject.id) :
    Versioned ClusterObject ClusterObject.id :=
  (objects.live.items.filter fun o => o.val.id.gvk = gvk).foldl (fun t o => t.remove o.val.id) objects

namespace Cluster

/-- A deletion: a policy with finalizers is marked, which counts as a generation of it. -/
def deletePolicy (s : Cluster) (key : NamespacedName) : Cluster :=
  match s.policies.value? key with
  | none => s
  | some sp =>
    if sp.finalizers = [] then { s with policies := s.policies.remove key }
    else if sp.deleting then s
    else { s with policies :=
      s.policies.modify key (fun sp => { sp with deleting := true, generation := sp.generation + 1 }) fun _ => rfl }

def outside (s : Cluster) : Outside → Cluster
  | .createPolicy key spec finalizers =>
      { s with policies := s.policies.create { key := key, spec := spec, finalizers := finalizers } }
  | .editPolicy key spec =>
    { s with policies := s.policies.modify key (fun sp => { sp with spec := spec, generation := sp.generation + 1 }) fun _ => rfl }
  | .deletePolicy key => s.deletePolicy key
  | .createObject object => (s.createObject none object).1
  | .editObject id object =>
    { s with
      objects := s.objects.modify id (fun o => { object with id := o.id, uid := o.uid })
        (ClusterObject.id_overwrite object) }
  | .deleteObject id => { s with objects := s.objects.remove id }
  | .installKind gvk => { s with installed := gvk :: s.installed }
  | .removeKind gvk => { s with installed := s.installed.filter (· ≠ gvk), objects := dropKind gvk s.objects }

end Cluster

end FrameOperator.Scheduling
