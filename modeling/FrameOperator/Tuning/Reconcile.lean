import FrameOperator.Lib.Versioned
import FrameOperator.Tuning.Status

/-!
# One pass of the NodeTuning controller

`NodeTuningReconciler.Reconcile` of `internal/controller/frame/nodetuning_controller.go`. `PassEnv` says how everything outside the
controller answers: the clock, the pods, and the fate of each write, which is committed, refused, or never made because the process
died. `Event` records each committed write of a Node, with the server as it was just before it.
-/

namespace FrameOperator

/-! ## The API server -/

/-- The Nodes and the NodeTunings of a cluster. -/
structure Server where
  nodes : Keyed Node Node.name
  tunings : Versioned NodeTuning NodeTuning.name

/-- How a write fares: it is committed, it fails without being committed, or the process dies before it. -/
inductive Outcome where
  | ok
  | err (message : String)
  | crash
  deriving DecidableEq

def Server.patchNode (s : Server) (base : Node) (op : NodeOp) : Server :=
  { s with nodes := s.nodes.modify base.name (base.mergeFrom (op.mutate base)) (base.name_mergeFrom _) }

def notFoundMessage (name : String) : String := "nodetunings.frame.plume-labs.io " ++ goQuote name ++ " not found"

def conflictMessage (name : String) : String :=
  "Operation cannot be fulfilled on nodetunings.frame.plume-labs.io " ++ goQuote name ++
    ": the object has been modified; please apply your changes to the latest version and try again"

/-- An update of the main resource: a changed spec is under a new generation, and the status stays. -/
def NodeTuning.updated (nt cur : NodeTuning) : NodeTuning :=
  { cur with
    finalizers := nt.finalizers
    spec := nt.spec
    generation := if nt.spec = cur.spec then cur.generation else cur.generation + 1 }

theorem NodeTuning.name_updated (nt cur : NodeTuning) : (nt.updated cur).name = cur.name := rfl

/-- A NodeTuning that is being deleted and that nothing holds any more. -/
def NodeTuning.gone (nt : NodeTuning) : Bool := nt.deletionTimestamp.isSome && nt.finalizers.isEmpty

/-- Only the live version is updated; what is being deleted goes with its last finalizer. -/
def Server.update (s : Server) (nt : Stamped NodeTuning) : Except String (Server × Stamped NodeTuning) :=
  match s.tunings.get? nt.val.name with
  | none => .error (notFoundMessage nt.val.name)
  | some cur =>
    if cur.rev ≠ nt.rev then .error (conflictMessage nt.val.name)
    else
      let written := s.tunings.modify nt.val.name nt.val.updated nt.val.name_updated
      if (nt.val.updated cur.val).gone then .ok ({ s with tunings := written.remove nt.val.name }, nt)
      else .ok ({ s with tunings := written }, (written.get? nt.val.name).getD nt)

/-- An entry as JSON carries it: an instant of the API is written to the second. -/
def NodeTuningNodeStatus.wire (ns : NodeTuningNodeStatus) : NodeTuningNodeStatus :=
  { ns with restartedAt := ns.restartedAt.map (fun t => t.unix * Time.nanosPerSecond) }

/-- The controller's status patch, and the version the server answers with. -/
def Server.patchStatus (s : Server) (name : String) (generation : Nat) (nodes : List NodeTuningNodeStatus) :
    Except String (Server × Stamped NodeTuning) :=
  match s.tunings.get? name with
  | none => .error (notFoundMessage name)
  | some cur =>
    let written := s.tunings.modify name (NodeTuning.withComputed generation (nodes.map NodeTuningNodeStatus.wire))
      (NodeTuning.name_withComputed generation _)
    .ok ({ s with tunings := written }, (written.get? name).getD cur)

/-! ## What a pass does to one node -/

/-- The clock, the pods of drain and realization, and the fates of the two writes. -/
structure NodeEnv where
  now : Time
  pods : Except String (List Pod)
  finalizer : Outcome
  patch : Outcome
  podsAfter : Except String (List Pod)

/-- Whether the lists are read, what each node meets, and the last writes' fates. -/
structure PassEnv where
  listNodes : Except String Unit
  listTunings : Except String (List NodeTuning)
  node : String → NodeEnv
  status : Outcome
  dropFinalizer : Outcome

/-- A committed write of a Node, with what the pass had and the server before it. -/
structure Event where
  op : NodeOp
  node : Node
  nt : NodeTuning
  entry : NodeTuningNodeStatus
  listed : List Node
  before : Server

/-- The state of a pass on its way through its nodes. -/
structure Pass where
  server : Server
  nt : Stamped NodeTuning
  lock : String
  rolloutActive : Bool
  ownsNode : Bool
  newNodes : List NodeTuningNodeStatus
  log : List Event
  alive : Bool

/-- The branches of the switch over a node. -/
inductive Branch where
  | halted
  | continues
  | foreign
  | overlap (others : List String)
  | inSync
  | unapproved (reason : String)
  | restarted (reason : String)
  | start (reason : String)
  | drifted (reason : String)
  deriving DecidableEq

def branch (nt : NodeTuning) (others : List String) (node : Node) (ns : NodeTuningNodeStatus) : Branch :=
  let reason := (diffTuning nt.spec ns.observed).1
  let needsRestart := (diffTuning nt.spec ns.observed).2
  if rolloutOwnedBy node nt.name && rolloutHalted node then .halted
  else if rolloutOwnedBy node nt.name then .continues
  else if rolloutInFlight node then .foreign
  else if others ≠ [] then .overlap others
  else if reason = "" then .inSync
  else if needsRestart && !approvedForGeneration node nt.generation then .unapproved reason
  else if needsRestart && restartedForGeneration ns nt.generation then .restarted reason
  else if needsRestart then .start reason
  else .drifted reason

def Branch.move (r : NodeTuningReconciler) (env : NodeEnv) (lock : String) (listed : List Node) (nt : NodeTuning) (node : Node)
    (ns : NodeTuningNodeStatus) : Branch → Move
  | .halted =>
    .keep { ns with
      phase := .failed
      message :=
        if ns.message = "" then
          "rollout halted on " ++ node.name ++ " and is waiting for a human (" ++ releaseHaltHint node.name ++ ")"
        else ns.message }
  | .continues => continueRollout r env.now env.pods nt.generation node ns
  | .foreign =>
    let owner := node.annotations.raw .rolloutOwner
    .keep { ns with
      phase := .rebootPending
      message := "waiting: " ++ node.name ++ " is mid-rollout under " ++ (if owner = "" then "an unknown owner" else owner) }
  | .overlap others =>
    .keep { ns with phase := .failed, message := "node also selected by NodeTuning " ++ ", ".intercalate others }
  | .inSync => .keep { ns with phase := .inSync, appliedGeneration := nt.generation, message := "" }
  | .unapproved reason =>
    .keep { ns with
      phase := .rebootPending
      message := "restart required to apply: " ++ reason ++ "; approve with `kubectl annotate node " ++ node.name ++ " " ++
        AnnKey.approval.text ++ "=" ++ toString nt.generation ++ " --overwrite`" }
  | .restarted reason =>
    .keep { ns with
      phase := .drifted
      appliedGeneration := nt.generation
      message := reason ++ "; restart already verified at " ++ (ns.restartedAt.elim "" Time.rfc3339) ++ " for generation " ++
        toString nt.generation ++ " — not restarting again (approve a new generation, or clear " ++
        "status.nodes[].restartedAt to retry)" }
  | .start reason => startRollout env.now lock listed node ns reason
  | .drifted reason => .keep { ns with phase := .drifted, appliedGeneration := nt.generation, message := reason }

/-- A node it was already driving, or one whose entry says it was just cordoned. -/
def Branch.owns (ns : NodeTuningNodeStatus) : Branch → Bool
  | .halted => true
  | .continues => true
  | .start _ => ns.phase == .applying
  | _ => false

namespace Pass

def lockAfter (holder : String) (node : Node) : NodeOp → String
  | .cordon _ _ => node.name
  | .uncordon => releaseLock holder node.name
  | _ => holder

def commit (p : Pass) (listed : List Node) (node : Node) (op : NodeOp) (entry : NodeTuningNodeStatus) : Pass :=
  { p with
    server := p.server.patchNode node op
    lock := lockAfter p.lock node op
    log := p.log ++ [⟨op, node, p.nt.val, entry, listed, p.server⟩] }

/-- `patchNode` and what follows it: the entry of a committed patch, or that of a failed one. -/
def patchNode (p : Pass) (listed : List Node) (node : Node) (op : NodeOp) (done : NodeTuningNodeStatus)
    (failed : String → NodeTuningNodeStatus) : Outcome → Pass × NodeTuningNodeStatus
  | .ok => (p.commit listed node op done, done)
  | .err e => (p, failed e)
  | .crash => ({ p with alive := false }, done)

end Pass

def nodeTuningFinalizer : String := "frame.plume-labs.io/nodetuning-rollout"

namespace Pass

/-- The finalizer is added if the copy lacks it, which keeps it even on failure. -/
def ensureFinalizer (p : Pass) (o : Outcome) : Pass × Except String Unit :=
  if p.nt.val.finalizers.contains nodeTuningFinalizer then (p, .ok ())
  else
    let p := { p with nt.val.finalizers := p.nt.val.finalizers ++ [nodeTuningFinalizer] }
    match o with
    | .crash => ({ p with alive := false }, .error "")
    | .err e => (p, .error e)
    | .ok =>
      match p.server.update p.nt with
      | .error e => (p, .error e)
      | .ok (server, nt) => ({ p with server := server, nt := nt }, .ok ())

/-- Carry out what a branch decided on, and give the entry it reports. -/
def perform (p : Pass) (env : NodeEnv) (listed : List Node) (node : Node) : Move → Pass × NodeTuningNodeStatus
  | .keep ns => (p, ns)
  | .patch op done failed => p.patchNode listed node op done failed env.patch
  | .cordon now done failed unfinalized =>
    match p.ensureFinalizer env.finalizer with
    | (p, .error e) => (p, unfinalized e)
    | (p, .ok ()) => p.patchNode listed node (.cordon now p.nt.val.name) done failed env.patch

def note (p : Pass) (owned : Bool) (entry : NodeTuningNodeStatus) : Pass :=
  { p with
    rolloutActive := p.rolloutActive || owned
    ownsNode := p.ownsNode || owned
    newNodes := p.newNodes ++ [entry] }

/-- Drop the finalizer if the object has it; the error of the update, if it fails. -/
def removeFinalizer (p : Pass) (o : Outcome) : Pass × Except String Unit :=
  if p.nt.val.finalizers.contains nodeTuningFinalizer then
    let p := { p with nt.val.finalizers := p.nt.val.finalizers.filter (· != nodeTuningFinalizer) }
    match o with
    | .crash => ({ p with alive := false }, .error "")
    | .err e => (p, .error e)
    | .ok =>
      match p.server.update p.nt with
      | .error e => (p, .error e)
      | .ok (server, nt) => ({ p with server := server, nt := nt }, .ok ())
  else (p, .ok ())

end Pass

/-! ## The pass -/

namespace NodeTuningReconciler

/-- One turn of the loop over the nodes. -/
def reconcileNode (r : NodeTuningReconciler) (env : PassEnv) (listed : List Node) (all : List NodeTuning) (p : Pass)
    (node : Node) : Pass :=
  if p.alive then
    let ns := existingNodeStatus p.nt.val.status.nodes node.name
    let b := branch p.nt.val (overlappingNodeTunings r all p.nt.val.name node) node ns
    let done := p.perform (env.node node.name) listed node (b.move r (env.node node.name) p.lock listed p.nt.val node ns)
    done.1.note (b.owns done.2) (realizeNode (env.node node.name).podsAfter done.2)
  else p

/-- One turn of the loop that releases the nodes of an object being deleted; the first failure ends the pass. -/
def releaseOwned (env : PassEnv) (listed : List Node) (p : Pass × Except String Unit) (node : Node) :
    Pass × Except String Unit :=
  match p with
  | (p, .error e) => (p, .error e)
  | (p, .ok ()) =>
    if rolloutOwnedBy node p.nt.val.name then
      match (env.node node.name).patch with
      | .ok => (p.commit listed node .release (existingNodeStatus p.nt.val.status.nodes node.name), .ok ())
      | .err e => (p, .error ("releasing " ++ node.name ++ " on NodeTuning deletion: " ++ e))
      | .crash => ({ p with alive := false }, .error "")
    else (p, .ok ())

/-- Release every node this object left cordoned, then let the deletion through. -/
def finishDeletion (env : PassEnv) (listed : List Node) (p : Pass) : Pass × Except String Unit :=
  match listed.foldl (releaseOwned env listed) (p, .ok ()) with
  | (p, .error e) => (p, .error e)
  | (p, .ok ()) => p.removeFinalizer env.dropFinalizer

def rolloutRequeueInterval : Duration := 10000000000

/-- The entries are written, and the finalizer is dropped with the last cordon. -/
def finishPass (env : PassEnv) (p : Pass) : Pass × Except String (Option Duration) :=
  let nodes := p.newNodes.insertionSort (fun a b => a.name ≤ b.name)
  match env.status with
  | .crash => ({ p with alive := false }, .error "")
  | .err e => (p, .error e)
  | .ok =>
    match p.server.patchStatus p.nt.val.name p.nt.val.generation nodes with
    | .error e => (p, .error e)
    | .ok (server, nt) =>
      let p := { p with server := server, nt := nt }
      let requeue := if p.rolloutActive then some rolloutRequeueInterval else none
      if p.ownsNode then (p, .ok requeue)
      else
        match p.removeFinalizer env.dropFinalizer with
        | (p, .error e) => (p, .error e)
        | (p, .ok ()) => (p, .ok requeue)

/-- A pass sets out; the lock is read off the nodes on the server. -/
def begin_ (s : Server) (nt : Stamped NodeTuning) : Pass where
  server := s
  nt := nt
  lock := newCampaignLock s.nodes.items
  rolloutActive := false
  ownsNode := false
  newNodes := []
  log := []
  alive := true

/-- The nodes a pass works on: those its selector matches, and those it cordoned that do not match any more. -/
def workOf (r : NodeTuningReconciler) (listed : List Node) (nt : NodeTuning) : Except String (List Node) :=
  match selectNodes r listed nt.spec.nodeSelector with
  | .error e => .error e
  | .ok matched => .ok (matched ++ adoptOwnedNodes listed matched nt.name)

/-- A pass on a version of a NodeTuning that the manager's cache gave it. -/
def reconcile (r : NodeTuningReconciler) (env : PassEnv) (s : Server) (nt : Stamped NodeTuning) :
    Pass × Except String (Option Duration) :=
  let listed := s.nodes.items
  let p := begin_ s nt
  match env.listNodes with
  | .error e => (p, .error ("listing nodes: " ++ e))
  | .ok () =>
    if nt.val.deletionTimestamp.isSome then
      match finishDeletion env listed p with
      | (p, .error e) => (p, .error e)
      | (p, .ok ()) => (p, .ok none)
    else
      match workOf r listed nt.val with
      | .error e => (p, .error ("listing nodes for selector: " ++ e))
      | .ok work =>
        match env.listTunings with
        | .error e => (p, .error ("listing NodeTunings: " ++ e))
        | .ok all =>
          let p := work.foldl (reconcileNode r env listed all) p
          if p.alive then finishPass env p else (p, .error "")

end NodeTuningReconciler

end FrameOperator
