import FrameOperator.Lib.Optimistic
import FrameOperator.Tuning.Cluster

/-!
# The writers of a NodeTuning's status

`status.nodes` has two writers: `PatchObserved` (`internal/agent/status.go`) and `patchStatus`
(`internal/controller/frame/nodetuning_controller.go`). Both send a merge patch with the resourceVersion they read, and start over
on a conflict (`retry.RetryOnConflict`). The API server refuses a list with a name in it twice.
-/

namespace FrameOperator

/-- A call of one of the two writers. -/
inductive StatusCall where
  | patchObserved (nodeName : String) (observed : ObservedTuning)
  | patchStatus (generation : Nat) (nodes : List NodeTuningNodeStatus)
  deriving DecidableEq

/-- What the call makes of the object it read. -/
def StatusCall.apply : StatusCall → NodeTuning → NodeTuning
  | .patchObserved nodeName observed, fresh => fresh.withObserved nodeName observed
  | .patchStatus generation nodes, fresh => fresh.withComputed generation (nodes.map NodeTuningNodeStatus.wire)

/-- A merge patch of the status: what `base` and `new` differ in, written over `cur`, field by field. -/
def NodeTuning.mergeStatus (base new cur : NodeTuning) : NodeTuning :=
  { cur with
    status := {
      observedGeneration :=
        mergePart base.status.observedGeneration new.status.observedGeneration cur.status.observedGeneration
      nodes := mergePart base.status.nodes new.status.nodes cur.status.nodes
      conditions := mergePart base.status.conditions new.status.conditions cur.status.conditions } }

/-- What others write on a NodeTuning: its spec, its finalizers, its conditions. -/
inductive NodeTuningEdit where
  | setSpec (spec : NodeTuningSpec)
  | setFinalizers (finalizers : List String)
  | setConditions (conditions : List Condition)
  deriving DecidableEq

def NodeTuningEdit.apply : NodeTuningEdit → NodeTuning → NodeTuning
  | .setSpec spec, nt => nt.edited spec
  | .setFinalizers finalizers, nt => { nt with finalizers := finalizers }
  | .setConditions conditions, nt => { nt with status := { nt.status with conditions := conditions } }

/-- No two entries have one name (`listType=map`, `listMapKey=name`). -/
def NodeTuning.admitted (nt : NodeTuning) : Bool := decide (nt.status.nodes.map NodeTuningNodeStatus.name).Nodup

theorem StatusCall.mergeStatus_apply (c : StatusCall) (nt : NodeTuning) : nt.mergeStatus (c.apply nt) nt = c.apply nt := by
  cases c <;> simp [NodeTuning.mergeStatus, StatusCall.apply, NodeTuning.withObserved, NodeTuning.withComputed]

/-- The NodeTunings as its writers contend for them. -/
def statusResource : Resource NodeTuning NodeTuning.name StatusCall NodeTuningEdit where
  apply := StatusCall.apply
  patch := fun c base cur => base.mergeStatus (c.apply base) cur
  edit := NodeTuningEdit.apply
  valid := NodeTuning.admitted
  key_patch := fun _ _ _ => rfl
  key_edit := fun e _ => by cases e <;> rfl
  patch_base := StatusCall.mergeStatus_apply

/-- The tries of `retry.DefaultBackoff`. -/
def defaultBackoffSteps : Nat := 4

abbrev writersStep : Contended NodeTuning NodeTuning.name StatusCall Nat → Contend String StatusCall NodeTuningEdit Nat →
    Contended NodeTuning NodeTuning.name StatusCall Nat × List (Commit NodeTuning String StatusCall) :=
  contend statusResource defaultBackoffSteps

end FrameOperator
