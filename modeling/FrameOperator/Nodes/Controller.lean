import FrameOperator.Api.Versions
import FrameOperator.Lib.Merge
import FrameOperator.Lib.Serve

/-!
# The FrameNode controller

`FrameNodeReconciler` (`internal/controller/frame/framenode_controller.go`). Passes are serial and read from the manager's caches,
each of which holds what the server held when it was last brought up to date. A pass reads before it writes, so that what others do
during a pass is as if they did it before one whose caches are behind. A patch carries the difference to the object that was read,
and an update is let through on that object alone.

Events, log lines and the intervals of requeuing are left out. A Node has labels besides these, so that a patch never empties its
labels.
-/

namespace FrameOperator.Nodes

open Api
open V1beta1 (FrameNodeSpec FrameNodeStatus)

abbrev Labels : Type := String → Option String

structure Node where
  name : String
  labels : Labels := fun _ => none
  conditions : List (String × String) := []
  capacity : Core.ResourceList := none
  allocatable : Core.ResourceList := none
  kubeletVersion : String := ""

structure FrameNode where
  key : NamespacedName
  uid : Nat
  createdAt : Nat
  generation : Int64 := 1
  finalizers : List String := []
  deleting : Bool := false
  spec : FrameNodeSpec := {}
  status : FrameNodeStatus := {}
  deriving DecidableEq

/-- The Node that a spec names, under the name of its FrameNode. -/
def named (key : NamespacedName) (spec : FrameNodeSpec) : String := if spec.hostname = "" then key.name else spec.hostname

def FrameNode.nodeName (fn : FrameNode) : String := named fn.key fn.spec

/-- The server, the caches, and a ghost: which labels were projected, and by whom. -/
structure Cluster where
  frameNodes : Keyed FrameNode FrameNode.key := Keyed.empty
  nodes : Keyed Node Node.name := Keyed.empty
  seenFrameNodes : Keyed FrameNode FrameNode.key := Keyed.empty
  seenNodes : Keyed Node Node.name := Keyed.empty
  projected : List (Nat × String) := []
  nextUid : Nat := 0
  clock : Time := 0

/-! ## The API server -/

/-- What a pass asks for. A patch or an update names the object that was read. -/
inductive Request where
  | getFrameNode (key : NamespacedName)
  | listFrameNodes
  | updateFinalizers (fn : FrameNode) (finalizers : List String)
  | patchStatus (fn : FrameNode) (status : FrameNodeStatus)
  | getNode (name : String)
  | patchNode (base : Node) (labels : Labels) (projects : Option Nat)
  | now

abbrev Request.Resp : Request → Type
  | getFrameNode _ => Except Error FrameNode
  | listFrameNodes => Except Error (List FrameNode)
  | getNode _ | patchNode _ _ _ => Except Error Node
  | updateFinalizers _ _ | patchStatus _ _ => Except Error Unit
  | now => Time

abbrev Prog : Type → Type := Program Request.Resp

/-- A merge patch of the status. -/
def mergeStatus (base new cur : FrameNodeStatus) : FrameNodeStatus where
  observedGeneration := mergePart base.observedGeneration new.observedGeneration cur.observedGeneration
  conditions := mergePart base.conditions new.conditions cur.conditions
  kubeletVersion := mergePart base.kubeletVersion new.kubeletVersion cur.kubeletVersion
  capacity := mergePart base.capacity new.capacity cur.capacity
  allocatable := mergePart base.allocatable new.allocatable cur.allocatable
  nodeName := mergePart base.nodeName new.nodeName cur.nodeName

namespace Cluster

variable (s : Cluster)

/-- The caches brought up to date. -/
def sync : Cluster := { s with seenFrameNodes := s.frameNodes, seenNodes := s.nodes }

/-- The labels of a Node changed, on behalf of a FrameNode if they are projected. -/
def relabel (name : String) (f : Labels → Labels) (projects : Option Nat) : Cluster :=
  { s with
    nodes := s.nodes.modify name (fun n => { n with labels := f n.labels }) fun _ => rfl
    projected := s.projected ++ (projects.map (·, name)).toList }

/-- A merge patch of the labels of a Node. -/
def patchNode (base : Node) (labels : Labels) (projects : Option Nat) : Cluster :=
  match s.nodes.get? base.name with
  | none => s
  | some _ => s.relabel base.name (mergeMap base.labels labels) projects

/-- A FrameNode with other finalizers; one that is being deleted is gone with its last. -/
def refinalize (fn : FrameNode) (finalizers : List String) : Cluster :=
  if fn.deleting ∧ finalizers = [] then { s with frameNodes := s.frameNodes.erase fn.key }
  else { s with frameNodes := s.frameNodes.modify fn.key (fun fn => { fn with finalizers := finalizers }) fun _ => rfl }

def updateFinalizers (fn : FrameNode) (finalizers : List String) : Cluster × Except Error Unit :=
  match s.frameNodes.get? fn.key with
  | none => (s, .error .notFound)
  | some cur => if cur = fn then (s.refinalize fn finalizers, .ok ()) else (s, .error .conflict)

def patchStatus (fn : FrameNode) (status : FrameNodeStatus) : Cluster :=
  { s with
    frameNodes := s.frameNodes.modify fn.key (fun cur => { cur with status := mergeStatus fn.status status cur.status }) fun _ => rfl }

def exec : (r : Request) → Fate Fault → Cluster × r.Resp
  | .getFrameNode key, f => f.answer s (s, s.seenFrameNodes.read key)
  | .listFrameNodes, f => f.answer s (s, .ok s.seenFrameNodes.items)
  | .updateFinalizers fn finalizers, f => f.answer s (s.updateFinalizers fn finalizers)
  | .patchStatus fn status, f => f.answer s (s.patchStatus fn status, (s.frameNodes.read fn.key).map fun _ => ())
  | .getNode name, f => f.answer s (s, s.seenNodes.read name)
  | .patchNode base labels projects, f =>
    f.answer s (s.patchNode base labels projects, (s.patchNode base labels projects).nodes.read base.name)
  | .now, _ => (s, s.clock)

end Cluster

/-! ## The controller -/

def frameNodeFinalizer : String := "frame.plume-labs.io/framenode"

def nodePhaseAwaitingNode : String := "AwaitingNode"
def nodePhaseOnline : String := "Online"
def nodePhaseDegraded : String := "Degraded"
def nodePhaseUnclassified : String := "Unclassified"

def nodeLabelRack : String := "frame.plume-labs.io/rack"
def nodeLabelZone : String := "topology.kubernetes.io/zone"
def nodeLabelServiceClass : String := "frame.plume-labs.io/service-class"
def nodeLabelRole : String := "frame.plume-labs.io/role"
def nodeLabelRDMA : String := "frame.plume-labs.io/rdma"
def oldLabelRack : String := "topology.kubernetes.io/rack"

def frameNodeLabels : List String := [nodeLabelRack, nodeLabelZone, nodeLabelServiceClass, nodeLabelRole, nodeLabelRDMA]

def applyNodeLabel (labels : Labels) (key value : String) : Labels :=
  fun k => if k = key then (if value = "" then none else some value) else labels k

/-- The labels that `reconcileOnline` projects. -/
def project (spec : FrameNodeSpec) (labels : Labels) : Labels :=
  let labels := applyNodeLabel labels nodeLabelRack spec.rack
  let labels := applyNodeLabel labels nodeLabelZone spec.zone
  let labels := applyNodeLabel labels nodeLabelServiceClass spec.serviceClass.value
  let labels := applyNodeLabel labels nodeLabelRole spec.role
  let labels := applyNodeLabel labels nodeLabelRDMA (if spec.rdmaInterface ≠ "" then "true" else "")
  applyNodeLabel labels oldLabelRack ""

/-- The labels that `reconcileDelete` leaves. -/
def strip (labels : Labels) : Labels := fun k => if k ∈ frameNodeLabels ∨ k = oldLabelRack then none else labels k

def conditionStatus (b : Bool) : String := if b then "True" else "False"

def withReady (fn : FrameNode) (phase message : String) (now : Time) : FrameNodeStatus :=
  { fn.status with
    observedGeneration := fn.generation
    conditions := some (Meta.setStatusCondition (fn.status.conditions.getD [])
      { type := "Ready", status := conditionStatus (phase = nodePhaseOnline), reason := phase, message := message,
        observedGeneration := fn.generation } now) }

def ended (answer : Except Error Unit) : Except String Unit := answer.mapError Error.text

def setPhase (fn : FrameNode) (phase message : String) : Prog (Except String Unit) := do
  let t ← Program.ask Request.now
  return ended (← Program.ask (Request.patchStatus fn (withReady fn phase message t)))

def awaitNode (fn : FrameNode) (nodeName : String) : Prog (Except String Unit) :=
  setPhase fn nodePhaseAwaitingNode ("No Kubernetes Node named " ++ nodeName ++ "; waiting for it to join the cluster")

def classifiesNothing (spec : FrameNodeSpec) : Bool :=
  spec.rack = "" && spec.zone = "" && spec.role = "" && spec.serviceClass.value = "" && spec.rdmaInterface = ""

def claimant (list : List FrameNode) (fn : FrameNode) (nodeName : String) : Option FrameNode :=
  list.find? fun other => other.uid ≠ fn.uid && other.nodeName = nodeName && other.createdAt < fn.createdAt

/-- `mayClassify`: why a FrameNode may not write labels, or none. -/
def mayClassify (fn : FrameNode) (nodeName : String) : Prog (Option (String × String)) :=
  if classifiesNothing fn.spec then
    return some (nodePhaseUnclassified, "No classification to project; refusing to strip labels from node " ++ nodeName)
  else do
    match ← Program.ask Request.listFrameNodes with
    | .error e => return some (nodePhaseUnclassified, "Cannot verify node ownership: " ++ e.text)
    | .ok list =>
      match claimant list fn nodeName with
      | some other =>
        return some (nodePhaseUnclassified,
          "Node " ++ nodeName ++ " is already classified by FrameNode " ++ other.key.namespaceName ++ "/" ++ other.key.name)
      | none => return none

def nodePhase (node : Node) : String :=
  match node.conditions.find? fun c => c.1 = "Ready" && (c.2 = "True" || c.2 = "False") with
  | some c => if c.2 = "True" then nodePhaseOnline else nodePhaseDegraded
  | none => "Offline"

def reconcileOnline (fn : FrameNode) : Prog (Except String Unit) := do
  match ← Program.ask (Request.getNode fn.nodeName) with
  | .error e => if e = .notFound then awaitNode fn fn.nodeName else return .error e.text
  | .ok node =>
    match ← Program.ask (Request.patchNode node (project fn.spec node.labels) (some fn.uid)) with
    | .error e => return .error ("patching node labels: " ++ e.text)
    | .ok node =>
      let t ← Program.ask Request.now
      return ended (← Program.ask (Request.patchStatus fn
        { withReady fn (nodePhase node) "Synced from k8s Node" t with
          nodeName := node.name, capacity := node.capacity, allocatable := node.allocatable, kubeletVersion := node.kubeletVersion }))

/-- The end of `reconcileDelete`. -/
def release (fn : FrameNode) : Prog (Except String Unit) := do
  return ended (← Program.ask (Request.updateFinalizers fn (fn.finalizers.filter (· ≠ frameNodeFinalizer))))

def reconcileDelete (fn : FrameNode) : Prog (Except String Unit) := do
  match ← Program.ask (Request.getNode fn.nodeName) with
  | .error _ => release fn
  | .ok node =>
    match ← Program.ask (Request.patchNode node (strip node.labels) none) with
    | .error e => return .error e.text
    | .ok _ => release fn

def reconcile (key : NamespacedName) : Prog (Except String Unit) := do
  match ← Program.ask (Request.getFrameNode key) with
  | .error e => if e = .notFound then return .ok () else return .error e.text
  | .ok fn =>
    if fn.deleting then reconcileDelete fn
    else if frameNodeFinalizer ∈ fn.finalizers then
      match ← Program.ask (Request.getNode fn.nodeName) with
      | .error e => if e = .notFound then awaitNode fn fn.nodeName else return .error e.text
      | .ok _ =>
        match ← mayClassify fn fn.nodeName with
        | some (reason, msg) => setPhase fn reason msg
        | none => reconcileOnline fn
    else return ended (← Program.ask (Request.updateFinalizers fn (fn.finalizers ++ [frameNodeFinalizer])))

/-! ## Runs -/

/-- A pass, a cache that is brought up to date, or what others do, who write none of FrameNode's own labels. -/
inductive Input where
  | pass (key : NamespacedName) (fates : List (Fate Fault))
  | syncFrameNodes
  | syncNodes
  | create (key : NamespacedName) (createdAt : Nat) (spec : FrameNodeSpec)
  | edit (key : NamespacedName) (spec : FrameNodeSpec)
  | delete (key : NamespacedName)
  | join (name : String)
  | leave (name : String)
  | label (name key : String) (value : Option String)

/-- The labels that FrameNodes alone write. -/
def ownLabels : List String := [nodeLabelRole, nodeLabelRack, nodeLabelRDMA, nodeLabelServiceClass]

def Cluster.step (s : Cluster) : Input → Cluster
  | .pass key fates => (reconcile key).serve Cluster.exec s fates
  | .syncFrameNodes => { s with seenFrameNodes := s.frameNodes }
  | .syncNodes => { s with seenNodes := s.nodes }
  | .create key createdAt spec =>
    { s with
      frameNodes := s.frameNodes.insertNew { key := key, uid := s.nextUid, createdAt := createdAt, spec := spec }
      nextUid := s.nextUid + 1 }
  | .edit key spec =>
    { s with
      frameNodes := s.frameNodes.modify key (fun fn => { fn with spec := spec, generation := fn.generation + 1 }) fun _ => rfl }
  | .delete key =>
    match s.frameNodes.get? key with
    | some fn =>
      if fn.finalizers = [] then { s with frameNodes := s.frameNodes.erase key }
      else { s with frameNodes := s.frameNodes.modify key (fun fn => { fn with deleting := true }) fun _ => rfl }
    | none => s
  | .join name => { s with nodes := s.nodes.insertNew { name := name } }
  | .leave name => { s with nodes := s.nodes.erase name }
  | .label name key value =>
    if key ∈ ownLabels then s else s.relabel name (fun labels k => if k = key then value else labels k) none

/-- A step in which reads are of what the server holds. -/
def Cluster.current (s : Cluster) (i : Input) : Cluster := s.sync.step i

end FrameOperator.Nodes
