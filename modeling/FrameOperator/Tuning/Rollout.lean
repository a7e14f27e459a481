import Mathlib.Data.List.Sort
import FrameOperator.Lib.Merge
import FrameOperator.Tuning.Types

/-!
# The disruptive half of a NodeTuning

`internal/controller/frame/nodetuning_rollout.go`. Each function of a rollout looks at the node as the pass read it and decides on
at most one write: `Move` is that decision, with the status entry it reports when the write is committed and when it is not.
`NodeOp` is the edit of the node a write stands for.
-/

namespace FrameOperator

/-! ## The edits of a node -/

/-- The edits of a Node the controller makes, each one closure handed to `patchNode`. -/
inductive NodeOp where
  | cordon (now : Time) (owner : String)
  | request (baseline now : Time)
  | fail (now : Time)
  | uncordon
  | release
  deriving DecidableEq

def setNodeAnnotation (k : AnnKey) (v : AnnValue) (n : Node) : Node :=
  { n with annotations := Function.update n.annotations k (some v) }

def deleteKey (k : AnnKey) (n : Node) : Node := { n with annotations := Function.update n.annotations k none }

/-- The annotations the controller owns. -/
def rolloutKeys : List AnnKey := [.rolloutStarted, .rolloutOwner, .rolloutFailed, .restartBaseline, .restartRequested]

/-- Remove every annotation the controller owns, leaving the agent's two alone. -/
def clearRolloutAnnotations (n : Node) : Node := rolloutKeys.foldl (fun n k => deleteKey k n) n

def NodeOp.mutate : NodeOp → Node → Node
  | .cordon now owner, n =>
    let n := { n with unschedulable := true }
    let n := setNodeAnnotation .rolloutStarted (.stamp now) n
    let n := setNodeAnnotation .rolloutOwner (.text owner) n
    let n := deleteKey .restartRequested n
    let n := deleteKey .restartBaseline n
    deleteKey .rolloutFailed n
  | .request baseline now, n =>
    let n := setNodeAnnotation .restartBaseline (.stamp baseline) n
    setNodeAnnotation .restartRequested (.stamp now) n
  | .fail now, n => setNodeAnnotation .rolloutFailed (.stamp now) n
  | .uncordon, n => clearRolloutAnnotations { n with unschedulable := false }
  | .release, n => clearRolloutAnnotations { n with unschedulable := false }

/-- A merge patch of a Node, of which the controller touches the unschedulable flag and the annotations. -/
def Node.mergeFrom (base new cur : Node) : Node :=
  { cur with
    unschedulable := mergePart base.unschedulable new.unschedulable cur.unschedulable
    annotations := mergeMap base.annotations new.annotations cur.annotations }

theorem Node.name_mergeFrom (base new cur : Node) : (base.mergeFrom new cur).name = cur.name := rfl

/-! ## The campaign lock -/

def rolloutInFlight (n : Node) : Bool := (n.annotations .rolloutStarted).isSome

def rolloutOwnedBy (n : Node) (ntName : String) : Bool :=
  rolloutInFlight n && n.annotations.raw .rolloutOwner == ntName

/-- The node's rollout gave up and waits for a human. -/
def rolloutHalted (n : Node) : Bool := (n.annotations .rolloutFailed).isSome

/-- The node that holds the lock: the first in flight, or the empty name. -/
def newCampaignLock (nodes : List Node) : String := ((nodes.find? rolloutInFlight).map Node.name).getD ""

/-- The holder of the lock when it is another node, or the empty name when `name` may proceed. -/
def heldByOther (holder name : String) : String := if holder ≠ "" ∧ holder ≠ name then holder else ""

/-- The lock after `name` gives it up. -/
def releaseLock (holder name : String) : String := if holder = name then "" else holder

/-! ## What the node reports -/

def nodeIsReady (n : Node) : Bool :=
  match n.conditions.find? (fun c => c.type == "Ready") with
  | some c => c.status == .isTrue
  | none => false

def notReadyNodes (nodes : List Node) : List String :=
  ((nodes.filter (fun n => !nodeIsReady n)).map Node.name).insertionSort (· ≤ ·)

/-- One of the protocol's timestamps, or the error of reading it. -/
def annotationTime (n : Node) (k : AnnKey) : Except String Time :=
  match n.annotations k with
  | none => .error ("node " ++ n.name ++ " has no " ++ k.text ++ " annotation")
  | some (.stamp t) => .ok t
  | some (.text s) =>
    .error ("node " ++ n.name ++ ": " ++ k.text ++ "=" ++ goQuote s ++ " is not an RFC3339 timestamp")

def restartedForGeneration (ns : NodeTuningNodeStatus) (generation : Nat) : Bool :=
  ns.restartedAt.isSome && ns.restartedGeneration == generation

/-- The units the agent may ever be told to restart (`internal/agent/apply.go`). -/
def restartableUnits : List String := ["k3s", "k3s-agent", "kubelet", "containerd"]

def isRestartable (unit : String) : Bool := restartableUnits.contains unit

/-! ## The drain -/

def mirrorPodAnnotationKey : String := "kubernetes.io/config.mirror"

def blocksDrain (pod : Pod) : Bool :=
  if pod.phase = .succeeded ∨ pod.phase = .failed then false
  else if (pod.annotations.lookup mirrorPodAnnotationKey).isSome then false
  else !pod.ownerKinds.contains "DaemonSet"

/-- How many pods still block the drain, and the ones an eviction is asked for on this pass. -/
def evictPods (pods : List Pod) : Nat × List Pod :=
  ((pods.filter blocksDrain).length, pods.filter (fun p => blocksDrain p && p.deletionTimestamp.isNone))

/-! ## The moves of a rollout -/

/-- An entry and no write; a patch, with the entry for each outcome; or the cordon. -/
inductive Move where
  | keep (ns : NodeTuningNodeStatus)
  | patch (op : NodeOp) (done : NodeTuningNodeStatus) (failed : String → NodeTuningNodeStatus)
  | cordon (now : Time) (done : NodeTuningNodeStatus) (failed unfinalized : String → NodeTuningNodeStatus)

/-- Two timeouts, with defaults, and the conversion of selectors, a library. -/
structure NodeTuningReconciler where
  drainTimeoutField : Duration
  restartTimeoutField : Duration
  labelSelectorAsSelector : LabelSelector → Except String (Labels → Bool)

namespace NodeTuningReconciler

def defaultDrainTimeout : Duration := 600000000000

def defaultRestartTimeout : Duration := 300000000000

def drainTimeout (r : NodeTuningReconciler) : Duration :=
  if r.drainTimeoutField > 0 then r.drainTimeoutField else defaultDrainTimeout

def restartTimeout (r : NodeTuningReconciler) : Duration :=
  if r.restartTimeoutField > 0 then r.restartTimeoutField else defaultRestartTimeout

end NodeTuningReconciler

def releaseHaltHint (nodeName : String) : String :=
  "release with `kubectl annotate node " ++ nodeName ++ " " ++ AnnKey.rolloutStarted.text ++ "-` to retry"

/-- Record the failure on the node and in its entry, and leave the node cordoned. -/
def failRollout (now : Time) (ns : NodeTuningNodeStatus) (msg : String) : Move :=
  let failed := { ns with phase := .failed, message := msg }
  .patch (.fail now) failed (fun _ => failed)

/-- What has to be true before a node is touched, and the entry if it is not. -/
def startRefusal (allNodes : List Node) (node : Node) (ns : NodeTuningNodeStatus) : Option NodeTuningNodeStatus :=
  let unit := node.annotations.raw .unit
  if notReadyNodes allNodes ≠ [] then
    some { ns with
      phase := .rebootPending
      message := "refusing to start: node(s) " ++ ", ".intercalate (notReadyNodes allNodes) ++
        " are not Ready; taking a second node down is an outage, not a rolling restart" }
  else if unit = "" then
    some { ns with
      phase := .rebootPending
      message := "waiting for the node agent to report " ++ AnnKey.unit.text }
  else if !isRestartable unit then
    some { ns with
      phase := .failed
      message := "refusing to restart unit " ++ goQuote unit ++ " on " ++ node.name ++
        ": not on the compile-time restart allowlist" }
  else
    match annotationTime node .unitActiveEnter with
    | .error e => some { ns with phase := .rebootPending, message := "waiting for a verifiable baseline: " ++ e }
    | .ok _ => none

def startRollout (now : Time) (lock : String) (allNodes : List Node) (node : Node) (ns : NodeTuningNodeStatus)
    (reason : String) : Move :=
  if heldByOther lock node.name ≠ "" then
    .keep { ns with
      phase := .rebootPending
      message := "waiting: node " ++ heldByOther lock node.name ++
        " is mid-rollout or left cordoned by a failed one (one node at a time; a failed node halts the campaign until " ++
        AnnKey.rolloutStarted.text ++ " is cleared from it)" }
  else
    match startRefusal allNodes node ns with
    | some ns => .keep ns
    | none =>
      .cordon now
        { ns with
          phase := .applying
          message := "cordoned; draining before restarting " ++ node.annotations.raw .unit ++ ".service (" ++ reason ++ ")" }
        (fun e => { ns with phase := .rebootPending, message := "cordoning " ++ node.name ++ ": " ++ e })
        (fun e => { ns with phase := .rebootPending, message := "preparing to cordon " ++ node.name ++ ": " ++ e })

/-- Evict what is left on the node and, once nothing blocks, ask the agent for the restart. -/
def drainAndRequest (r : NodeTuningReconciler) (now : Time) (pods : Except String (List Pod)) (node : Node)
    (ns : NodeTuningNodeStatus) (unit : String) : Move :=
  match pods with
  | .error e =>
    .keep { ns with
      phase := .applying
      message := "draining " ++ node.name ++ ": listing pods on " ++ node.name ++ ": " ++ e }
  | .ok pods =>
    let remaining := (evictPods pods).1
    if remaining > 0 then
      match annotationTime node .rolloutStarted with
      | .ok started =>
        if now - started > r.drainTimeout then
          failRollout now ns ("draining " ++ node.name ++ " did not finish within " ++ r.drainTimeout.print ++ " (" ++
            toString remaining ++ " pod(s) still there); leaving it cordoned and halting the rollout (" ++
            releaseHaltHint node.name ++ ")")
        else
          .keep { ns with
            phase := .applying
            message := "draining: " ++ toString remaining ++ " pod(s) still on " ++ node.name }
      | .error _ =>
        .keep { ns with
          phase := .applying
          message := "draining: " ++ toString remaining ++ " pod(s) still on " ++ node.name }
    else
      match annotationTime node .unitActiveEnter with
      | .error e =>
        .keep { ns with
          phase := .applying
          message := "drained; waiting for a verifiable baseline before requesting the restart: " ++ e }
      | .ok baseline =>
        .patch (.request baseline now)
          { ns with phase := .applying, message := "drained; restart of " ++ unit ++ ".service requested" }
          (fun e => { ns with phase := .applying, message := "requesting restart on " ++ node.name ++ ": " ++ e })

/-- Past the baseline and Ready: uncordon, and record the restart. -/
def verifyRestart (generation : Nat) (node : Node) (ns : NodeTuningNodeStatus) (unit : String) (current : Time) : Move :=
  .patch .uncordon
    { ns with
      restartedAt := some current
      restartedGeneration := generation
      appliedGeneration := generation
      phase := .applying
      message := unit ++ ".service restarted at " ++ current.rfc3339 ++ "; uncordoned, waiting for the agent to re-observe" }
    (fun e => { ns with phase := .applying, message := "uncordoning " ++ node.name ++ ": " ++ e })

/-- Drive a node that is already cordoned: drain, then ask, then wait. -/
def continueRollout (r : NodeTuningReconciler) (now : Time) (pods : Except String (List Pod)) (generation : Nat)
    (node : Node) (ns : NodeTuningNodeStatus) : Move :=
  let unit := node.annotations.raw .unit
  match annotationTime node .restartRequested with
  | .error _ => drainAndRequest r now pods node ns unit
  | .ok requested =>
    let baseline := annotationTime node .restartBaseline
    let current := annotationTime node .unitActiveEnter
    let waiting : Move :=
      if now - requested > r.restartTimeout then
        let detail := match current with
          | .error e => e
          | .ok _ => "its ActiveEnterTimestamp has not advanced"
        failRollout now ns (unit ++ ".service on " ++ node.name ++ " did not come back within " ++ r.restartTimeout.print ++
          " of the restart request: " ++ detail ++ "; leaving it cordoned and halting the rollout (" ++
          releaseHaltHint node.name ++ ")")
      else
        .keep { ns with
          phase := .applying
          message := "waiting for " ++ unit ++ ".service to restart (" ++
            (match current, baseline with
              | .error e, _ => "no readable timestamp yet: " ++ e
              | .ok _, .error e => "no readable baseline yet: " ++ e
              | .ok t, .ok _ => "still at " ++ t.rfc3339) ++ ")" }
    match baseline, current with
    | .ok b, .ok c =>
      if c > b then
        if !nodeIsReady node then
          if now - requested > r.restartTimeout then
            failRollout now ns (unit ++ ".service restarted at " ++ c.rfc3339 ++ " but " ++ node.name ++
              " never reported Ready within " ++ r.restartTimeout.print ++ "; leaving it cordoned (" ++
              releaseHaltHint node.name ++ ")")
          else
            .keep { ns with
              phase := .applying
              message := unit ++ ".service restarted at " ++ c.rfc3339 ++ "; waiting for " ++ node.name ++
                " to report Ready before uncordoning" }
        else verifyRestart generation node ns unit c
      else waiting
    | _, _ => waiting

end FrameOperator
