import FrameOperator.Lib.GoFormat
import FrameOperator.Lib.GoMap

/-!
# The API machinery's types

The metadata every object carries and the types of the core group in Frame's own. A pointer is an `Option`, a slice and a map keep
nil apart from empty, and `{}` is the zero value of a type.
-/

namespace FrameOperator

namespace Meta

/-- Go's zero instant, the start of year 1. -/
def zeroTime : Time := -62135596800 * Time.nanosPerSecond

/-- `IsZero` of a pointer to an instant: nil, or the zero instant. -/
def isZero (t : Option Time) : Bool :=
  match t with
  | none => true
  | some t => t = zeroTime

structure TypeMeta where
  kind : String := ""
  apiVersion : String := ""

structure OwnerReference where
  apiVersion : String := ""
  kind : String := ""
  name : String := ""
  uid : String := ""
  controller : Option Bool := none
  blockOwnerDeletion : Option Bool := none

structure ManagedFieldsEntry where
  manager : String := ""
  operation : String := ""
  apiVersion : String := ""
  time : Option Time := none
  fieldsType : String := ""
  fieldsV1 : Option String := none
  subresource : String := ""

structure ObjectMeta where
  name : String := ""
  generateName : String := ""
  namespaceName : String := ""
  selfLink : String := ""
  uid : String := ""
  resourceVersion : String := ""
  generation : Int64 := 0
  creationTimestamp : Time := zeroTime
  deletionTimestamp : Option Time := none
  deletionGracePeriodSeconds : Option Int64 := none
  labels : GoMap String String := none
  annotations : GoMap String String := none
  ownerReferences : Slice OwnerReference := none
  finalizers : Slice String := none
  managedFields : Slice ManagedFieldsEntry := none

structure Condition where
  type : String := ""
  status : String := ""
  observedGeneration : Int64 := 0
  lastTransitionTime : Time := zeroTime
  reason : String := ""
  message : String := ""
  deriving DecidableEq

/-- `meta.FindStatusCondition`: the first condition of the type. -/
def findStatusCondition (conditions : Slice Condition) (conditionType : String) : Option Condition :=
  (conditions.getD []).find? (fun c => c.type = conditionType)

/-- `meta.SetStatusCondition`: a condition that is there keeps its transition time unless its status changes. -/
def setStatusCondition (conditions : List Condition) (new : Condition) (now : Time) : List Condition :=
  let stamped := if new.lastTransitionTime = zeroTime then { new with lastTransitionTime := now } else new
  match conditions.findIdx? (fun c => c.type = new.type) with
  | none => conditions ++ [stamped]
  | some i => conditions.modify i fun c =>
    if c.status = new.status then { new with lastTransitionTime := c.lastTransitionTime } else stamped

/-- `meta.RemoveStatusCondition`. -/
def removeStatusCondition (conditions : List Condition) (conditionType : String) : List Condition :=
  conditions.filter (fun c => c.type ≠ conditionType)

end Meta

namespace Core

/-- A quantity, as the canonical text it is written as. -/
structure Quantity where
  text : String := "0"
  deriving DecidableEq

abbrev ResourceList : Type := GoMap String Quantity

structure LocalObjectReference where
  name : String := ""
  deriving DecidableEq

structure ObjectFieldSelector where
  apiVersion : String := ""
  fieldPath : String := ""

structure ResourceFieldSelector where
  containerName : String := ""
  resource : String := ""
  divisor : Quantity := {}

/-- `ConfigMapKeySelector` and `SecretKeySelector`: a key of a named object. -/
structure KeySelector extends LocalObjectReference where
  key : String := ""
  optional : Option Bool := none

structure FileKeySelector where
  volumeName : String := ""
  path : String := ""
  key : String := ""
  optional : Option Bool := none

structure EnvVarSource where
  fieldRef : Option ObjectFieldSelector := none
  resourceFieldRef : Option ResourceFieldSelector := none
  configMapKeyRef : Option KeySelector := none
  secretKeyRef : Option KeySelector := none
  fileKeyRef : Option FileKeySelector := none

structure EnvVar where
  name : String := ""
  value : String := ""
  valueFrom : Option EnvVarSource := none

/-- `ConfigMapEnvSource` and `SecretEnvSource`: all keys of a named object. -/
structure EnvSource extends LocalObjectReference where
  optional : Option Bool := none

structure EnvFromSource where
  keyPrefix : String := ""
  configMapRef : Option EnvSource := none
  secretRef : Option EnvSource := none

structure ResourceClaim where
  name : String := ""
  request : String := ""

structure ResourceRequirements where
  limits : ResourceList := none
  requests : ResourceList := none
  claims : Slice ResourceClaim := none

def ResourceRequirements.orNil (r : ResourceRequirements) : ResourceRequirements where
  limits := r.limits.orNil
  requests := r.requests.orNil
  claims := r.claims.orNil

end Core

end FrameOperator
