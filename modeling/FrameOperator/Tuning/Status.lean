import FrameOperator.Tuning.Rollout

/-!
# The status entries of a NodeTuning

The helpers of `internal/controller/frame/nodetuning_controller.go` that compute one node's entry, and the merges of its two
writers: `patchStatus` and the agent's `PatchObserved` (`internal/agent/status.go`).
-/

namespace FrameOperator

/-! ## Which nodes, and what they differ in -/

def selectNodes (r : NodeTuningReconciler) (nodes : List Node) (sel : Option LabelSelector) : Except String (List Node) :=
  match sel with
  | none => .ok []
  | some sel =>
    match r.labelSelectorAsSelector sel with
    | .error e => .error ("invalid nodeSelector: " ++ e)
    | .ok selector => .ok (nodes.filter (fun n => selector n.labels))

def adoptOwnedNodes (all matched : List Node) (ntName : String) : List Node :=
  all.filter (fun n => !(matched.map Node.name).contains n.name && rolloutOwnedBy n ntName)

/-- The prior entry of a node, or a fresh one. -/
def existingNodeStatus (nodes : List NodeTuningNodeStatus) (nodeName : String) : NodeTuningNodeStatus :=
  (nodes.find? (fun n => n.name == nodeName)).getD (.zero nodeName)

/-- A NodeTuning other than this one selects the node; a selector that does not convert selects nothing. -/
def overlaps (r : NodeTuningReconciler) (selfName : String) (node : Node) (other : NodeTuning) : Bool :=
  other.name ≠ selfName &&
    match other.spec.nodeSelector with
    | none => false
    | some sel =>
      match r.labelSelectorAsSelector sel with
      | .error _ => false
      | .ok selector => selector node.labels

def overlappingNodeTunings (r : NodeTuningReconciler) (all : List NodeTuning) (selfName : String) (node : Node) : List String :=
  ((all.filter (overlaps r selfName node)).map NodeTuning.name).insertionSort (· ≤ ·)

/-- What the spec asks for and the agent did not measure, and whether putting it right needs a restart. -/
def diffTuning (spec : NodeTuningSpec) (observed : ObservedTuning) : String × Bool :=
  let tuned :=
    if spec.tunedProfile ≠ "" ∧ spec.tunedProfile ≠ observed.tunedProfile then
      ["tunedProfile: want " ++ goQuote spec.tunedProfile ++ ", observed " ++ goQuote observed.tunedProfile]
    else []
  match spec.ksm with
  | none => ("; ".intercalate tuned, false)
  | some ksm =>
    let gotEnabled := (observed.ksm.map ObservedKSM.memoryKSM).getD false
    if ksm.enabled ≠ gotEnabled then
      ("; ".intercalate (tuned ++ ["ksm.enabled: want " ++ toString ksm.enabled ++ ", observed " ++ toString gotEnabled]), true)
    else ("; ".intercalate tuned, false)

def approvedForGeneration (node : Node) (generation : Nat) : Bool :=
  match node.annotations .approval with
  | none => false
  | some raw =>
    match parseInt64 raw.raw with
    | none => false
    | some approved => decide (0 ≤ approved) && approved == (generation : Int)

/-! ## How far a setting has taken effect -/

/-- A pod not finished, and not known to have started after the restart. -/
def outlives (restartedAt : Time) (pod : Pod) : Bool :=
  pod.phase ≠ .succeeded && pod.phase ≠ .failed &&
    match pod.startTime with
    | none => true
    | some t => !(t > restartedAt)

def realizeNode (pods : Except String (List Pod)) (ns : NodeTuningNodeStatus) : NodeTuningNodeStatus :=
  match ns.restartedAt with
  | none => { ns with realization := .pending }
  | some restartedAt =>
    match pods with
    | .error _ => { ns with realization := .effective }
    | .ok pods =>
      if pods.any (outlives restartedAt) then { ns with realization := .effective }
      else { ns with realization := .fullyRealized }

/-! ## The two writers -/

/-- The observation under a name in a list of entries; of two entries with one name the later one counts. -/
def observedOf (current : List NodeTuningNodeStatus) (name : String) : Option ObservedTuning :=
  (current.reverse.find? (fun ns => ns.name == name)).map NodeTuningNodeStatus.observed

def preserveObserved (computed current : List NodeTuningNodeStatus) : List NodeTuningNodeStatus :=
  computed.map (fun ns => { ns with observed := (observedOf current ns.name).getD ns.observed })

/-- The status the controller's patch makes of the object it re-read. -/
def NodeTuning.withComputed (generation : Nat) (nodes : List NodeTuningNodeStatus) (fresh : NodeTuning) : NodeTuning :=
  { fresh with
    status := { fresh.status with
      observedGeneration := generation
      nodes := preserveObserved nodes fresh.status.nodes } }

theorem NodeTuning.name_withComputed (generation : Nat) (nodes : List NodeTuningNodeStatus) (fresh : NodeTuning) :
    (fresh.withComputed generation nodes).name = fresh.name := rfl

/-- One node's observation set: in the first entry of its name, or in a new one. -/
def upsertObserved (nodeName : String) (observed : ObservedTuning) : List NodeTuningNodeStatus → List NodeTuningNodeStatus
  | [] => [{ NodeTuningNodeStatus.zero nodeName with observed := observed }]
  | ns :: rest =>
    if ns.name = nodeName then { ns with observed := observed } :: rest
    else ns :: upsertObserved nodeName observed rest

/-- The status the agent's patch makes of the object it re-read. -/
def NodeTuning.withObserved (nodeName : String) (observed : ObservedTuning) (fresh : NodeTuning) : NodeTuning :=
  { fresh with status := { fresh.status with nodes := upsertObserved nodeName observed fresh.status.nodes } }

theorem NodeTuning.name_withObserved (nodeName : String) (observed : ObservedTuning) (fresh : NodeTuning) :
    (fresh.withObserved nodeName observed).name = fresh.name := rfl

end FrameOperator
