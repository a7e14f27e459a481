import FrameOperator.Lib.Keyed
import FrameOperator.Lib.GoFormat

/-!
# Nodes, pods and NodeTunings

The objects of `api/frame/v1beta1/nodetuning_types.go`, and of the core API what the controller and the node agent read or write.
The keys of the restart protocol are constructors. The value of an annotation is kept by what Go's `time.Parse` makes of it;
`AnnValue.raw` gives the text back.
-/

namespace FrameOperator

/-- The annotations the restart protocol lives in, and any other. -/
inductive AnnKey where
  | approval | rolloutStarted | rolloutOwner | rolloutFailed | restartBaseline | restartRequested | unit | unitActiveEnter
  | other (key : String)
  deriving DecidableEq

/-- The key as it stands on a Node. -/
def AnnKey.text : AnnKey → String
  | .approval => "frame.plume-labs.io/tuning-approved"
  | .rolloutStarted => "frame.plume-labs.io/tuning-rollout-started"
  | .rolloutOwner => "frame.plume-labs.io/tuning-rollout-owner"
  | .rolloutFailed => "frame.plume-labs.io/tuning-rollout-failed"
  | .restartBaseline => "frame.plume-labs.io/tuning-restart-baseline"
  | .restartRequested => "frame.plume-labs.io/tuning-restart-requested"
  | .unit => "frame.plume-labs.io/tuning-unit"
  | .unitActiveEnter => "frame.plume-labs.io/tuning-unit-active-enter"
  | .other key => key

/-- The value of an annotation: the instant an RFC3339Nano text names, or a text that names none. -/
inductive AnnValue where
  | stamp (t : Time)
  | text (s : String)
  deriving DecidableEq

/-- The text of the annotation. -/
def AnnValue.raw : AnnValue → String
  | .stamp t => t.rfc3339Nano
  | .text s => s

abbrev Annotations : Type := AnnKey → Option AnnValue

/-- What Go's map index gives: the text under the key, or the empty text. -/
def Annotations.raw (a : Annotations) (k : AnnKey) : String := (a k).elim "" AnnValue.raw

abbrev Labels : Type := String → Option String

inductive ConditionStatus where
  | isTrue | isFalse | unknown
  deriving DecidableEq

structure NodeCondition where
  type : String
  status : ConditionStatus
  deriving DecidableEq

/-- A Node: the API server lets none be created without a name. -/
structure Node where
  name : String
  labels : Labels
  annotations : Annotations
  unschedulable : Bool
  conditions : List NodeCondition
  named : name ≠ ""

inductive PodPhase where
  | pending | running | succeeded | failed | unknown
  deriving DecidableEq

/-- What drain and realization read of a pod, with the kinds of its owners. -/
structure Pod where
  name : String
  namespace_ : String
  phase : PodPhase
  annotations : List (String × String)
  ownerKinds : List String
  deletionTimestamp : Option Time
  startTime : Option Time
  deriving DecidableEq

structure LabelSelectorRequirement where
  key : String
  operator : String
  values : List String
  deriving DecidableEq

structure LabelSelector where
  matchLabels : List (String × String)
  matchExpressions : List LabelSelectorRequirement
  deriving DecidableEq

/-- The phase of a node; `unset` is an entry no controller has written yet. -/
inductive NodeTuningPhase where
  | unset | inSync | drifted | rebootPending | applying | failed
  deriving DecidableEq

/-- How far a setting has taken effect on a node. -/
inductive Realization where
  | unset | effective | fullyRealized | pending
  deriving DecidableEq

/-- What is asked of kernel same-page merging. -/
structure KSMSpec where
  enabled : Bool
  pagesToScan : Option Int
  sleepMillisecs : Option Int
  mergeAcrossNodes : Option Bool
  deriving DecidableEq

/-- The desired state of a NodeTuning. -/
structure NodeTuningSpec where
  nodeSelector : Option LabelSelector
  tunedProfile : String
  ksm : Option KSMSpec
  migProfile : String
  deriving DecidableEq

/-- What the agent read back from sysfs about KSM. -/
structure ObservedKSM where
  memoryKSM : Bool
  generalProfit : Int
  pagesSharing : Int
  deriving DecidableEq

/-- What the agent read back from the node. -/
structure ObservedTuning where
  ksm : Option ObservedKSM
  tunedProfile : String
  deriving DecidableEq

structure NodeTuningNodeStatus where
  name : String
  phase : NodeTuningPhase
  appliedGeneration : Nat
  realization : Realization
  observed : ObservedTuning
  restartedAt : Option Time
  restartedGeneration : Nat
  message : String
  deriving DecidableEq

def NodeTuningNodeStatus.zero (name : String) : NodeTuningNodeStatus where
  name := name
  phase := .unset
  appliedGeneration := 0
  realization := .unset
  observed := { ksm := none, tunedProfile := "" }
  restartedAt := none
  restartedGeneration := 0
  message := ""

/-- A condition of an object's status. -/
structure Condition where
  type : String
  status : ConditionStatus
  observedGeneration : Int
  lastTransitionTime : Time
  reason : String
  message : String
  deriving DecidableEq

structure NodeTuningStatus where
  observedGeneration : Nat
  nodes : List NodeTuningNodeStatus
  conditions : List Condition
  deriving DecidableEq

/-- A NodeTuning. Its resourceVersion is the revision it is stamped with in the server's table. -/
structure NodeTuning where
  name : String
  generation : Nat
  deletionTimestamp : Option Time
  finalizers : List String
  spec : NodeTuningSpec
  status : NodeTuningStatus
  deriving DecidableEq

end FrameOperator
