import FrameOperator.Scheduling.Types

/-!
# The SchedulingPolicy controller

`SchedulingPolicyReconciler` (`internal/controller/frame/schedulingpolicy_controller.go`), one definition for each of its functions.
Events, metrics and log lines are left out.
-/

namespace FrameOperator.Scheduling

open Api
open V1beta1 (SchedulingPolicySpec SchedulingPolicyStatus)

/-- A part of a pass. -/
abbrev Prog : Type → Type := Program Request.Resp

abbrev now : Prog Time := Program.ask Request.now

abbrev getPolicy (key : NamespacedName) : Prog (Except Error (Stamped SchedulingPolicy)) := Program.ask (Request.getPolicy key)

abbrev patchPolicyStatus (key : NamespacedName) (base new : SchedulingPolicyStatus) : Prog (Except Error (Stamped SchedulingPolicy)) :=
  Program.ask (Request.patchPolicyStatus key base new)

abbrev updatePolicy (base : Stamped SchedulingPolicy) (finalizers : List String) : Prog (Except Error (Stamped SchedulingPolicy)) :=
  Program.ask (Request.updatePolicy base finalizers)

abbrev getObject (id : ObjectId) : Prog (Except Error (Stamped ClusterObject)) := Program.ask (Request.getObject id)

abbrev createObject (policy : NamespacedName) (object : ClusterObject) : Prog (Except Error Unit) :=
  Program.ask (Request.createObject policy object)

abbrev updateObject (base : Stamped ClusterObject) (object : ClusterObject) : Prog (Except Error Unit) :=
  Program.ask (Request.updateObject base object)

abbrev deleteObject (id : ObjectId) (uid : Nat) : Prog (Except Error Unit) := Program.ask (Request.deleteObject id uid)

def schedulingPolicyFinalizer : String := "frame.plume-labs.io/schedulingpolicy"

def reservedPriorityClassPrefix : String := "system-"

def schedulerVolcano : String := "volcano"
def schedulerYunikorn : String := "yunikorn"
def schedulerDefault : String := "default"

def reservedQueueNames : List String := ["default", "root"]

def reasonPriorityClassNotOwned : String := "PriorityClassNotOwned"
def reasonPriorityClassReserved : String := "PriorityClassReserved"
def reasonQueueNotOwned : String := "QueueNotOwned"
def reasonQueueReserved : String := "QueueReserved"

def conditionTypeReady : String := "Ready"

/-- Why a name is not claimed: `ownershipRefusal`, `queueKindUnavailable`, or a failure. -/
inductive ClaimError where
  | refusal (reason message : String)
  | unavailable (message : String)
  | failed (message : String)

def reservedPriorityClassName (name : String) : Bool := reservedPriorityClassPrefix.toList.isPrefixOf name.toList

def reservedQueueName (name : String) : Bool := reservedQueueNames.contains name

/-- `describeManager`: whom an object that is in the way looks like it belongs to. -/
def describeManager (labels annotations : GoMap String String) : String :=
  let rel := valueOf annotations "meta.helm.sh/release-name"
  let ns := valueOf annotations "meta.helm.sh/release-namespace"
  let manager := valueOf labels "app.kubernetes.io/managed-by"
  if rel ≠ "" then
    if ns ≠ "" then "it belongs to Helm release " ++ ns ++ "/" ++ rel else "it belongs to Helm release " ++ rel
  else if manager ≠ "" then "it is managed by " ++ goQuote manager
  else if (annotations.get? "kubectl.kubernetes.io/last-applied-configuration").isSome then "it was created with kubectl apply"
  else "it predates this SchedulingPolicy"

/-- `queueGVKFor`. -/
def queueGVKFor (scheduler : String) : Option GroupVersionKind :=
  if scheduler = schedulerVolcano then some ⟨"scheduling.volcano.sh", "v1beta1", "Queue"⟩
  else if scheduler = schedulerYunikorn then some ⟨"yunikorn.apache.org", "v1alpha1", "Queue"⟩
  else none

def SchedulingPolicy.title (sp : SchedulingPolicy) : String := sp.key.namespaceName ++ "/" ++ sp.key.name

/-! ## Releasing what a policy recorded as its own -/

/-- The delete of an object that still carries the policy's marks, as it was looked at. -/
def releaseObject (sp : SchedulingPolicy) (id : ObjectId) (what : String) (gone : Error → Bool) : Prog (Except String Unit) := do
  match ← getObject id with
  | .error e => if gone e then return .ok () else return .error ("reading " ++ what ++ " before deleting it: " ++ e.text)
  | .ok o =>
    if markedBy o.val.labels sp.key then
      match ← deleteObject id o.val.uid with
      | .ok () => return .ok ()
      | .error e => if e = .notFound then return .ok () else return .error ("deleting " ++ what ++ ": " ++ e.text)
    else return .ok ()

def releasePriorityClass (sp : SchedulingPolicy) (name : String) : Prog (Except String Unit) :=
  if reservedPriorityClassName name then return .ok ()
  else releaseObject sp ⟨priorityClassGVK, name⟩ ("PriorityClass " ++ goQuote name) (· = .notFound)

/-- `releaseQueue`: an object of a kind that is not installed is gone. -/
def releaseQueue (sp : SchedulingPolicy) (scheduler name : String) : Prog (Except String Unit) :=
  if reservedQueueName name then return .ok ()
  else
    match queueGVKFor scheduler with
    | none => return .ok ()
    | some gvk => releaseObject sp ⟨gvk, name⟩ (scheduler ++ " Queue " ++ goQuote name) fun e => e = .notFound || e = .noMatch

/-! ## Claiming a name -/

/-- The end of a claim: the new name is free, the old one is released, and then the record moves. -/
def claim (sp : Stamped SchedulingPolicy) (free : Prog (Except ClaimError Unit)) (release : Prog (Except String Unit))
    (record : SchedulingPolicyStatus) (what : String) : Prog (Except ClaimError (Stamped SchedulingPolicy)) := do
  match ← free with
  | .error e => return .error e
  | .ok () =>
    match ← release with
    | .error e => return .error (.failed e)
    | .ok () =>
      match ← patchPolicyStatus sp.val.key sp.val.status record with
      | .error e => return .error (.failed ("recording ownership of " ++ what ++ ": " ++ e.text))
      | .ok sp => return .ok sp

/-- The check that nothing sits at a PriorityClass's name. -/
def priorityClassFree (sp : SchedulingPolicy) (want : String) : Prog (Except ClaimError Unit) :=
  if want = "" then return .ok ()
  else if reservedPriorityClassName want then
    return .error (.refusal reasonPriorityClassReserved ("PriorityClass " ++ goQuote want ++
      " is reserved: Kubernetes reserves the " ++
      goQuote reservedPriorityClassPrefix ++ " prefix, and this controller will neither create, adopt nor delete a name under it"))
  else do
    match ← getObject ⟨priorityClassGVK, want⟩ with
    | .ok o =>
      return .error (.refusal reasonPriorityClassNotOwned ("PriorityClass " ++ goQuote want ++
        " already exists and was not created by SchedulingPolicy " ++ sp.title ++ " (" ++
        describeManager o.val.labels o.val.annotations ++ "); refusing to adopt it"))
    | .error e =>
      if e = .notFound then return .ok ()
      else return .error (.failed ("checking whether PriorityClass " ++ goQuote want ++ " is free: " ++ e.text))

def claimPriorityClass (sp : Stamped SchedulingPolicy) : Prog (Except ClaimError (Stamped SchedulingPolicy)) :=
  let want := sp.val.spec.priorityClass
  let owned := sp.val.status.ownedPriorityClass
  if want = owned then return .ok sp
  else
    claim sp (priorityClassFree sp.val want) (if owned ≠ "" then releasePriorityClass sp.val owned else return .ok ())
      { sp.val.status with ownedPriorityClass := want } ("PriorityClass " ++ goQuote want)

def wantedQueue (spec : SchedulingPolicySpec) : String × String :=
  if spec.queueName ≠ "" && spec.scheduler ≠ schedulerDefault then (spec.queueName, spec.scheduler) else ("", "")

/-- The check that nothing sits at a Queue's name. -/
def queueFree (sp : SchedulingPolicy) (wantName wantScheduler : String) : Prog (Except ClaimError Unit) :=
  if wantName = "" then return .ok ()
  else if reservedQueueName wantName then
    return .error (.refusal reasonQueueReserved ("Queue " ++ goQuote wantName ++
      " is reserved by the scheduler itself, and this controller will neither create, adopt nor delete it"))
  else
    match queueGVKFor wantScheduler with
    | none => return .error (.failed ("no Queue kind is known for scheduler " ++ goQuote wantScheduler))
    | some gvk => do
      match ← getObject ⟨gvk, wantName⟩ with
      | .ok o =>
        return .error (.refusal reasonQueueNotOwned (wantScheduler ++ " Queue " ++ goQuote wantName ++
          " already exists and was not created by SchedulingPolicy " ++ sp.title ++ " (" ++
          describeManager o.val.labels o.val.annotations ++ "); refusing to adopt it"))
      | .error e =>
        if e = .noMatch then
          return .error (.unavailable ("the " ++ wantScheduler ++ " Queue kind is not installed on this cluster: " ++ e.text))
        else if e = .notFound then return .ok ()
        else return .error (.failed ("checking whether " ++ wantScheduler ++ " Queue " ++ goQuote wantName ++ " is free: " ++ e.text))

def claimQueue (sp : Stamped SchedulingPolicy) : Prog (Except ClaimError (Stamped SchedulingPolicy)) :=
  let want := wantedQueue sp.val.spec
  let owned := (sp.val.status.ownedQueue, sp.val.status.ownedQueueScheduler)
  if want = owned then return .ok sp
  else
    claim sp (queueFree sp.val want.1 want.2) (if owned.1 ≠ "" then releaseQueue sp.val owned.2 owned.1 else return .ok ())
      { sp.val.status with ownedQueue := want.1, ownedQueueScheduler := want.2 } (want.2 ++ " Queue " ++ goQuote want.1)

/-! ## Writing what a policy claimed -/

/-- `controllerutil.CreateOrUpdate`. -/
def createOrUpdate (policy : NamespacedName) (id : ObjectId) (mutate : ClusterObject → ClusterObject) : Prog (Except Error Unit) := do
  match ← getObject id with
  | .error e => if e = .notFound then createObject policy (mutate { id := id }) else return .error e
  | .ok o => if mutate o.val = o.val then return .ok () else updateObject o (mutate o.val)

def withMarks (policy : NamespacedName) (labels : GoMap String String) : GoMap String String :=
  (labels.copySet policyNamespaceLabel policy.namespaceName).copySet policyNameLabel policy.name

def priorityClassOf (sp : SchedulingPolicy) (pc : ClusterObject) : ClusterObject :=
  { pc with
    value := sp.spec.priorityValue.getD 0
    globalDefault := false
    description := "Managed by SchedulingPolicy " ++ sp.title
    labels := (withMarks sp.key pc.labels).copySet policySchedulerLabel sp.spec.scheduler
    preemptionPolicy := some (if sp.spec.preemption then "PreemptLowerPriority" else "Never") }

def reconcilePriorityClass (sp : SchedulingPolicy) : Prog (Except String Unit) :=
  if sp.status.ownedPriorityClass ≠ sp.spec.priorityClass then
    return .error ("refusing to write PriorityClass " ++ goQuote sp.spec.priorityClass ++
      ": SchedulingPolicy " ++ sp.title ++ " owns " ++
      goQuote sp.status.ownedPriorityClass)
  else if reservedPriorityClassName sp.spec.priorityClass then
    return .error ("refusing to write reserved PriorityClass " ++ goQuote sp.spec.priorityClass)
  else do
    let done ← createOrUpdate sp.key ⟨priorityClassGVK, sp.spec.priorityClass⟩ (priorityClassOf sp)
    return done.mapError Error.text

/-- `queueGVKAndSpec`. -/
def queueGVKAndSpec (spec : SchedulingPolicySpec) : Option GroupVersionKind × List (String × AnyValue) :=
  match queueGVKFor spec.scheduler with
  | none => (none, [])
  | some gvk =>
    let weight := AnyValue.int ((spec.queueWeight.map Int32.toInt).getD 1)
    if spec.scheduler = schedulerYunikorn then
      (some gvk, [("weight", weight), ("preemption", .flags [("allowPreemptSelf", spec.preemption)])])
    else (some gvk, [("weight", weight), ("reclaimable", .bool spec.preemption)])

def queueOf (sp : SchedulingPolicy) (spec : List (String × AnyValue)) (q : ClusterObject) : ClusterObject :=
  { q with
    spec := spec.foldl (fun m kv => m.copySet kv.1 kv.2) (some q.spec.entries)
    labels := withMarks sp.key q.labels }

def reconcileQueue (sp : SchedulingPolicy) : Prog (Except String Unit) :=
  if sp.status.ownedQueue ≠ sp.spec.queueName || sp.status.ownedQueueScheduler ≠ sp.spec.scheduler then
    return .error ("refusing to write " ++ sp.spec.scheduler ++ " Queue " ++ goQuote sp.spec.queueName ++ ": SchedulingPolicy " ++
      sp.title ++ " owns " ++ goQuote sp.status.ownedQueue ++ " (" ++ sp.status.ownedQueueScheduler ++ ")")
  else if reservedQueueName sp.spec.queueName then
    return .error ("refusing to write reserved Queue " ++ goQuote sp.spec.queueName)
  else
    match queueGVKAndSpec sp.spec with
    | (none, _) => return .error "Object 'Kind' is missing"
    | (some gvk, spec) => do
      let done ← createOrUpdate sp.key ⟨gvk, sp.spec.queueName⟩ (queueOf sp spec)
      return done.mapError Error.text

/-! ## A pass -/

def withReady (sp : SchedulingPolicy) (status reason message : String) (now : Time) : SchedulingPolicyStatus :=
  { sp.status with
    observedGeneration := sp.generation
    conditions := some (Meta.setStatusCondition (sp.status.conditions.getD [])
      { type := conditionTypeReady, status := status, reason := reason, message := message,
        observedGeneration := sp.generation } now) }

/-- `refuse`: the refusal is recorded, and the pass ends without an error. -/
def refuse (sp : SchedulingPolicy) (reason message : String) : Prog (Except String Unit) := do
  let t ← now
  match ← patchPolicyStatus sp.key sp.status (withReady sp "False" reason message t) with
  | .ok _ => return .ok ()
  | .error e => return .error ("recording " ++ reason ++ " on SchedulingPolicy " ++ sp.title ++ ": " ++ e.text)

def appliedMsg (sp : SchedulingPolicy) : String :=
  "scheduler=" ++ sp.spec.scheduler ++ (if sp.spec.priorityClass ≠ "" then " priorityClass=" ++ sp.spec.priorityClass else "") ++
    (if sp.spec.queueName ≠ "" then " queue=" ++ sp.spec.queueName else "")

/-- The Queue of a policy is written, unless its claim found no such kind. -/
def reconcileWantedQueue (sp : SchedulingPolicy) (queueClaimErr : Option String) : Prog (Except String Unit) :=
  if sp.spec.queueName ≠ "" && sp.spec.scheduler ≠ schedulerDefault then
    match queueClaimErr with
    | some err => return .error err
    | none => reconcileQueue sp
  else return .ok ()

/-- The end of a pass: what became of the Queue is recorded. -/
def report (sp : SchedulingPolicy) (queue : Except String Unit) : Prog (Except String Unit) := do
  let t ← now
  let status :=
    match queue with
    | .error err => withReady sp "False" "ReconcileError" ("[Queue: " ++ err ++ "]") t
    | .ok () => withReady sp "True" "Applied" (appliedMsg sp) t
  match ← patchPolicyStatus sp.key sp.status status with
  | .ok _ => return .ok ()
  | .error e => return .error e.text

/-- The finalizer goes on first, and what is owned is written by a later pass. -/
def reconcileClaimed (sp : Stamped SchedulingPolicy) (queueClaimErr : Option String) : Prog (Except String Unit) := do
  if schedulingPolicyFinalizer ∈ sp.val.finalizers then
    match ← (if sp.val.spec.priorityClass ≠ "" then reconcilePriorityClass sp.val else return .ok ()) with
    | .error e => return .error ("reconciling PriorityClass: " ++ e)
    | .ok () =>
      let queue ← reconcileWantedQueue sp.val queueClaimErr
      report sp.val queue
  else
    match ← updatePolicy sp (sp.val.finalizers ++ [schedulingPolicyFinalizer]) with
    | .ok _ => return .ok ()
    | .error e => return .error e.text

def reconcileDelete (sp : Stamped SchedulingPolicy) : Prog (Except String Unit) := do
  match ← (if sp.val.status.ownedPriorityClass ≠ "" then releasePriorityClass sp.val sp.val.status.ownedPriorityClass
      else return .ok ()) with
  | .error e => return .error e
  | .ok () =>
    match ← (if sp.val.status.ownedQueue ≠ "" then releaseQueue sp.val sp.val.status.ownedQueueScheduler sp.val.status.ownedQueue
        else return .ok ()) with
    | .error e => return .error e
    | .ok () =>
      match ← updatePolicy sp (sp.val.finalizers.filter (· ≠ schedulingPolicyFinalizer)) with
      | .ok _ => return .ok ()
      | .error e => return .error e.text

/-- `Reconcile`. -/
def reconcile (key : NamespacedName) : Prog (Except String Unit) := do
  match ← getPolicy key with
  | .error e => if e = .notFound then return .ok () else return .error e.text
  | .ok sp =>
    if sp.val.deleting then reconcileDelete sp
    else
      match ← claimPriorityClass sp with
      | .error (.refusal reason message) => refuse sp.val reason message
      | .error (.unavailable message) => return .error ("claiming PriorityClass: " ++ message)
      | .error (.failed message) => return .error ("claiming PriorityClass: " ++ message)
      | .ok sp =>
        match ← claimQueue sp with
        | .error (.refusal reason message) => refuse sp.val reason message
        | .error (.unavailable message) => reconcileClaimed sp (some message)
        | .error (.failed message) => return .error ("claiming Queue: " ++ message)
        | .ok sp => reconcileClaimed sp none

/-- The controller: one pass after the other, each for one policy. -/
def schedulingPolicyReconciler : Runner NamespacedName Cluster Answer Outside Request.Resp (Except String Unit) where
  pass := reconcile
  exec := Cluster.exec
  outside := Cluster.outside

end FrameOperator.Scheduling
