import FrameOperator.Lib.Runs
import FrameOperator.Tuning.Reconcile

/-!
# The cluster

Passes of the NodeTuning controller are serial, and everybody else acts between them: node agents, kubelets and operators. A pass
works on some version of its NodeTuning, which is what a lagging cache can hand it, and on the Nodes as they are.
-/

namespace FrameOperator

/-- A step of the cluster. -/
inductive Action where
  /-- A pass on the version of a NodeTuning that stands at this place of the history. -/
  | pass (version : Nat) (env : PassEnv)
  /-- The agent publishes its unit, the unit's timestamp if it has one, and its MIG profile if there is one. -/
  | publish (node unit : String) (activeEnter : Option Time) (migProfile : String)
  /-- The agent's status patch. -/
  | patchObserved (tuning node : String) (observed : ObservedTuning)
  /-- The kubelet's conditions of a Node. -/
  | setConditions (node : String) (conditions : List NodeCondition)
  | relabel (node : String) (labels : Labels)
  /-- An operator sets or removes the approval annotation. -/
  | approve (node : String) (value : Option AnnValue)
  /-- An operator removes the started annotation. -/
  | clearStarted (node : String)
  | create (name : String) (finalizers : List String) (spec : NodeTuningSpec)
  | editSpec (tuning : String) (spec : NodeTuningSpec)
  | delete (tuning : String) (now : Time)

def migConfigLabel : String := "nvidia.com/mig.config"

/-- A unit with no timestamp leaves the published one, and no profile the label. -/
def setNodeState (unit : String) (activeEnter : Option Time) (migProfile : String) (n : Node) : Node :=
  let n := setNodeAnnotation .unit (.text unit) n
  let n := match activeEnter with
    | some t => setNodeAnnotation .unitActiveEnter (.stamp t) n
    | none => n
  if migProfile = "" then n else { n with labels := Function.update n.labels migConfigLabel (some migProfile) }

namespace Server

/-- The server with one Node changed by somebody other than the controller. -/
def editNode (s : Server) (name : String) (f : Node → Node) (hf : ∀ n, (f n).name = n.name) : Server :=
  { s with nodes := s.nodes.modify name f hf }

/-- The server with one NodeTuning changed by somebody other than the controller. -/
def editTuning (s : Server) (name : String) (f : NodeTuning → NodeTuning) (hf : ∀ n, (f n).name = n.name) : Server :=
  { s with tunings := s.tunings.modify name f hf }

end Server

theorem name_deleteKey (k : AnnKey) (n : Node) : (deleteKey k n).name = n.name := rfl

theorem name_setNodeState (unit : String) (activeEnter : Option Time) (migProfile : String) (n : Node) :
    (setNodeState unit activeEnter migProfile n).name = n.name := by
  unfold setNodeState
  cases activeEnter <;> by_cases h : migProfile = "" <;> simp [h, setNodeAnnotation]

def NodeTuning.created (name : String) (finalizers : List String) (spec : NodeTuningSpec) : NodeTuning where
  name := name
  generation := 1
  deletionTimestamp := none
  finalizers := finalizers
  spec := spec
  status := { observedGeneration := 0, nodes := [], conditions := [] }

def NodeTuning.edited (spec : NodeTuningSpec) (nt : NodeTuning) : NodeTuning :=
  { nt with spec := spec, generation := if spec = nt.spec then nt.generation else nt.generation + 1 }

theorem NodeTuning.name_edited (spec : NodeTuningSpec) (nt : NodeTuning) : (nt.edited spec).name = nt.name := rfl

/-- A request to delete that finalizers hold up is a change of generation. -/
def NodeTuning.deleting (now : Time) (nt : NodeTuning) : NodeTuning :=
  if nt.deletionTimestamp.isSome then nt
  else { nt with deletionTimestamp := some now, generation := nt.generation + 1 }

theorem NodeTuning.name_deleting (now : Time) (nt : NodeTuning) : (nt.deleting now).name = nt.name := by
  unfold NodeTuning.deleting
  split <;> rfl

/-- A request to delete a NodeTuning: without finalizers it is gone at once. -/
def Server.delete (s : Server) (name : String) (now : Time) : Server :=
  match s.tunings.value? name with
  | none => s
  | some nt =>
    if nt.finalizers.isEmpty then { s with tunings := s.tunings.remove name }
    else s.editTuning name (NodeTuning.deleting now) (NodeTuning.name_deleting now)

variable (r : NodeTuningReconciler)

/-- A step of the cluster: what it leaves, and the writes of Nodes the controller committed in it. -/
def step (s : Server) : Action → Server × List Event
  | .pass version env =>
    match s.tunings.past[version]? with
    | none => (s, [])
    | some copy => ((r.reconcile env s copy).1.server, (r.reconcile env s copy).1.log)
  | .publish node unit activeEnter migProfile =>
    (s.editNode node (setNodeState unit activeEnter migProfile) (name_setNodeState unit activeEnter migProfile), [])
  | .patchObserved tuning node observed =>
    (s.editTuning tuning (NodeTuning.withObserved node observed) (NodeTuning.name_withObserved node observed), [])
  | .setConditions node conditions => (s.editNode node (fun n => { n with conditions := conditions }) (fun _ => rfl), [])
  | .relabel node labels => (s.editNode node (fun n => { n with labels := labels }) (fun _ => rfl), [])
  | .approve node value =>
    (s.editNode node (fun n => { n with annotations := Function.update n.annotations .approval value }) (fun _ => rfl), [])
  | .clearStarted node => (s.editNode node (deleteKey .rolloutStarted) (name_deleteKey _), [])
  | .create name finalizers spec => ({ s with tunings := s.tunings.create (.created name finalizers spec) }, [])
  | .editSpec tuning spec => (s.editTuning tuning (NodeTuning.edited spec) (NodeTuning.name_edited spec), [])
  | .delete tuning now => (s.delete tuning now, [])

end FrameOperator
