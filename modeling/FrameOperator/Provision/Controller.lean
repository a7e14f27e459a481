import FrameOperator.Lib.Keyed
import FrameOperator.Lib.Merge
import FrameOperator.Lib.Runs
import FrameOperator.Provision.Install

/-!
# The FrameInstall controller

`FrameInstallReconciler` (`internal/controller/frame/frameinstall_controller.go`) and the API server, one step at a time: between
any two steps of a pass or a goroutine anything else may happen, the end of the process included.

There is at most one pass on an object at a time. The audit entries, the events and the InstallerResponding condition are left out.
-/

namespace FrameOperator.Provision

structure ObjectKey where
  namespaceName : String
  name : String
  deriving DecidableEq

structure InstallCluster where
  mode : String
  serverURL : String
  joinTokenRef : String
  k3sVersion : String

structure FrameInstallSpec where
  machineRef : String
  confirmSerial : String
  hostname : String
  network : Network
  layout : Layout
  cluster : InstallCluster
  bootMode : String
  sshKeyRef : String

/-- The status of a FrameInstall; an absent phase is the empty string. -/
structure FrameInstallStatus where
  phase : Option Phase := none
  failedPhase : Option Phase := none
  message : String := ""
  hostKey : String := ""
  nodeName : String := ""
  kubeconfigSecret : String := ""
  observedGeneration : Nat := 0

structure FrameInstall where
  key : ObjectKey
  uid : Nat
  resourceVersion : Nat
  generation : Nat
  deleting : Bool
  finalizers : List String
  spec : FrameInstallSpec
  status : FrameInstallStatus

/-- The installation is over: nothing is started on the object any more. -/
def FrameInstall.terminal (fi : FrameInstall) : Bool := fi.status.phase == some .ready || fi.status.phase == some .failed

/-- The object after a write, with its next resourceVersion. -/
def FrameInstall.written (f : FrameInstall → FrameInstall) (fi : FrameInstall) : FrameInstall :=
  { f fi with resourceVersion := fi.resourceVersion + 1 }

def FrameInstallStatus.merge (base new cur : FrameInstallStatus) : FrameInstallStatus where
  phase := mergePart base.phase new.phase cur.phase
  failedPhase := mergePart base.failedPhase new.failedPhase cur.failedPhase
  message := mergePart base.message new.message cur.message
  hostKey := mergePart base.hostKey new.hostKey cur.hostKey
  nodeName := mergePart base.nodeName new.nodeName cur.nodeName
  kubeconfigSecret := mergePart base.kubeconfigSecret new.kubeconfigSecret cur.kubeconfigSecret
  observedGeneration := mergePart base.observedGeneration new.observedGeneration cur.observedGeneration

def frameInstallFinalizer : String := "frame.plume-labs.io/frameinstall"

def frameInstallSSHUser : String := "frame"

structure ClusterNode where
  name : String
  ready : Bool
  addresses : List String

/-- Its media URL, its namespace, its budgets, and the check of a spec's shape. -/
structure FrameInstallReconciler where
  mediaURLError : Option String
  operatorNamespace : String
  phaseTimeout : Option (Phase → Duration)
  poll : Duration
  validatePendingSpec : Spec → String → Option String

def second : Duration := 1000000000

def defaultPhaseTimeouts : Phase → Duration
  | .pending => 30 * second
  | .preparing => 1800 * second
  | .mediaAttached => 120 * second
  | .installing => 5400 * second
  | .joining => 300 * second
  | .ready => 300 * second
  | .installed | .failed => 0

def defaultPoll : Duration := 5 * second

/-- Whether a write is committed, and the outcome of each read. -/
structure PassAnswers where
  committed : Bool := true
  machine : Option String := none
  nodes : Except String (List ClusterNode) := .ok []
  nodeNamed : Except String Bool := .ok false
  installs : Option String := none
  newBMC : Option String := none
  sshKey : Except String (String × String) := .ok ("", "")
  joinToken : Except String String := .ok ""
  installUID : Except String String := .ok ""
  ejectMedia : Option String := none
  clearBootOverride : Option String := none

/-- What the API server and the collaborators answer to a goroutine at one moment. -/
structure GoAnswers extends Answers where
  readable : Bool := true
  committed : Bool := true
  createSecret : Option String := none

/-- The secrets a pass has read for the installation. -/
structure Secrets where
  sshPublicKey : String
  sshKey : String
  joinToken : String

/-- How far a pass is, with the copy of its object; once the generation is stamped, that is what the server answered. -/
inductive Pass where
  | got (fi : FrameInstall)
  | finalizing (fi : FrameInstall)
  | removing (fi : FrameInstall)
  | failing (fi : FrameInstall) (status : FrameInstallStatus)
  | cleared (fi : FrameInstall)
  | claimed (fi : FrameInstall) (secrets : Secrets)
  | stamped (machine : String) (fi : FrameInstall) (secrets : Secrets)

/-- In `Install`; at a report's read or patch; past it; at the result; at its slot. -/
inductive Stage where
  | installing
  | reporting (fi : FrameInstall)
  | returned
  | recording (fi : FrameInstall) (status : FrameInstallStatus)
  | recorded

/-- The machine it was given, and the slot, the UID and the key it was started with. -/
structure Goroutine where
  id : Nat
  machine : String
  machineRef : String
  uid : Nat
  key : ObjectKey
  install : Install
  stage : Stage

/-- The objects, and in memory the machines claimed, the passes and the goroutines. -/
structure World where
  objects : Keyed FrameInstall FrameInstall.key
  nextUid : Nat
  inFlight : String → Option Nat
  passes : ObjectKey → Option Pass
  goroutines : Keyed Goroutine Goroutine.id
  nextId : Nat

/-- What is seen of a run: calls of `Install`, of a BMC and of the image store, and kubeconfig Secrets. -/
inductive InstallEvent where
  | installCalled (uid : Nat) (machine : String)
  | called (uid : Nat) (call : Call) (ok : Bool)
  | secretCreated (uid : Nat)
  deriving DecidableEq

/-- What can happen next. -/
inductive InstallAction where
  | create (key : ObjectKey) (spec : FrameInstallSpec)
  | edit (key : ObjectKey) (spec : FrameInstallSpec)
  | delete (key : ObjectKey)
  | reconcile (key : ObjectKey) (answers : PassAnswers)
  | drive (id : Nat) (answers : GoAnswers)
  | crash

/-! ## What is read and computed -/

/-- `truncateString`: at most `n` characters. -/
def truncateString (s : String) (n : Nat) : String := String.ofList (s.toList.take n)

def addressWithoutCIDR (s : String) : String := String.ofList (s.toList.takeWhile (· ≠ '/'))

def checkNotALiveClusterMember (nodes : Except String (List ClusterNode)) (hostname cidrAddress : String) : Option String :=
  let address := addressWithoutCIDR cidrAddress
  match nodes with
  | .error err => some ("listing nodes: " ++ err)
  | .ok nodes => (nodes.filter ClusterNode.ready).findSome? fun n =>
      if n.name = hostname then
        some ("a Node named " ++ goQuote hostname ++ " is Ready in this cluster; remove it from the cluster before reinstalling it")
      else if address ∈ n.addresses then
        some ("a Ready Node (" ++ goQuote n.name ++ ") already carries address " ++ address ++
          "; remove it from the cluster before reinstalling it")
      else none

def checkHostnameNotTaken (a : PassAnswers) (installs : List FrameInstall) (fi : FrameInstall) : Option String :=
  match a.nodeNamed with
  | .ok true => some ("a Node named " ++ goQuote fi.spec.hostname ++ " already exists")
  | .error err => some ("checking for a Node named " ++ goQuote fi.spec.hostname ++ ": " ++ err)
  | .ok false =>
    match a.installs with
    | some err => some ("listing FrameInstalls: " ++ err)
    | none =>
      (installs.find? fun other => other.uid ≠ fi.uid ∧ other.spec.hostname = fi.spec.hostname ∧ ¬other.terminal).map fun other =>
        "FrameInstall " ++ goQuote (other.key.namespaceName ++ "/" ++ other.key.name) ++ " already targets hostname " ++
          goQuote fi.spec.hostname ++ " and has not reached a terminal phase"

/-- The first guard that refuses to start, and its message. -/
def refusal (r : FrameInstallReconciler) (a : PassAnswers) (installs : List FrameInstall) (fi : FrameInstall) : Option String :=
  (a.machine.map fun err => "machine " ++ goQuote fi.spec.machineRef ++ ": " ++ err) <|>
  (r.mediaURLError.map fun err =>
    "frame-provisiond's media URL (the manager's -provisiond-media-url flag, the chart's provisiond.media.url) " ++ err ++
      " -- this cluster is not configured to provision machines: expose the frame-provisiond-media Service (ClusterIP, closed, " ++
      "by default) to the BMCs' network and set this URL to the address they reach it at") <|>
  checkNotALiveClusterMember a.nodes fi.spec.hostname fi.spec.network.address <|>
  checkHostnameNotTaken a installs fi <|>
  (a.newBMC.map fun err => "building a BMC client for machine " ++ fi.spec.machineRef ++ ": " ++ err) <|>
  (match a.sshKey with
    | .error err => some ("reading SSH key " ++ fi.spec.sshKeyRef ++ ": " ++ err)
    | .ok _ => none) <|>
  (match a.joinToken with
    | .error err =>
      if fi.spec.cluster.mode = clusterJoin then some ("reading join token " ++ fi.spec.cluster.joinTokenRef ++ ": " ++ err) else none
    | .ok _ => none)

/-- The secrets read where no guard refused. -/
def PassAnswers.secrets (a : PassAnswers) (fi : FrameInstall) : Secrets where
  sshPublicKey := (a.sshKey.toOption.map Prod.fst).getD ""
  sshKey := (a.sshKey.toOption.map Prod.snd).getD ""
  joinToken := if fi.spec.cluster.mode = clusterJoin then a.joinToken.toOption.getD "" else ""

def toProvisionSpec (fi : FrameInstall) (installUID : String) (secrets : Secrets) : Spec where
  uid := installUID
  hostname := fi.spec.hostname
  network := fi.spec.network
  layout := fi.spec.layout
  sshPublicKey := secrets.sshPublicKey
  cluster :=
    { mode := fi.spec.cluster.mode
      serverURL := fi.spec.cluster.serverURL
      joinToken := secrets.joinToken
      k3sVersion := fi.spec.cluster.k3sVersion }

def FrameInstallReconciler.options (r : FrameInstallReconciler) (fi : FrameInstall) (secrets : Secrets) : Options where
  bootMode := fi.spec.bootMode
  sshUser := frameInstallSSHUser
  sshKey := secrets.sshKey
  nodeAddress := addressWithoutCIDR fi.spec.network.address
  confirmSerial := fi.spec.confirmSerial
  phaseTimeout := r.phaseTimeout.getD defaultPhaseTimeouts
  poll := if r.poll ≤ 0 then defaultPoll else r.poll

/-- The status `failPending` records. -/
def failPending (fi : FrameInstall) (msg : String) : FrameInstallStatus :=
  { fi.status with phase := some .failed, failedPhase := some .pending, message := truncateString msg 512 }

/-- The calls of a BMC that take media and boot override away, if there is one. -/
def ejectAndClear (uid : Nat) (a : PassAnswers) : List InstallEvent :=
  if a.machine = none ∧ a.newBMC = none then
    [.called uid .ejectMedia a.ejectMedia.isNone, .called uid .clearBootOverride a.clearBootOverride.isNone]
  else []

/-- One of those calls was made and failed. -/
def cleanupFailed (a : PassAnswers) : Bool :=
  a.machine == none && a.newBMC == none && (a.ejectMedia.isSome || a.clearBootOverride.isSome)

/-- The status `failRestarted` records: the phase it was in is Pending when it had reported none. -/
def failRestarted (fi : FrameInstall) (a : PassAnswers) : FrameInstallStatus :=
  let prevPhase := fi.status.phase.getD .pending
  let msg := "the controller restarted mid-install (was in phase " ++ prevPhase.name ++ "); a mid-install restart cannot be " ++
    "resumed safely and is not retried automatically -- the machine may still have installer media attached and a one-time " ++
    "boot override set"
  let msg := if cleanupFailed a then
    msg ++ " (cleanup also failed: eject=" ++ a.ejectMedia.getD "<nil>" ++ " clear=" ++ a.clearBootOverride.getD "<nil>" ++ ")"
  else msg
  { fi.status with phase := some .failed, failedPhase := some prevPhase, message := truncateString msg 512 }

/-- The status `finishStatus` records on the object it read, and whether it created the kubeconfig Secret. -/
def finishStatus (r : FrameInstallReconciler) (fi : FrameInstall) (res : Result) (err : Option String)
    (createSecret : Option String) : FrameInstallStatus × Bool :=
  let status : FrameInstallStatus :=
    { fi.status with
      phase := some res.phase
      failedPhase := res.failedPhase
      message := (err.map fun e => truncateString e 512).getD ""
      hostKey := res.hostKey
      nodeName := res.nodeName }
  if fi.spec.cluster.mode = clusterInit ∧ res.kubeconfig ≠ "" then
    let ns := if r.operatorNamespace = "" then fi.key.namespaceName else r.operatorNamespace
    match createSecret with
    | some err =>
      let msg := "the cluster was created but saving kubeconfig Secret " ++ ns ++ "/" ++ fi.key.name ++
        "-kubeconfig failed, so nobody can talk to it: " ++ err
      ({ status with
        phase := some .failed
        failedPhase := status.failedPhase.orElse fun _ => some .ready
        message := truncateString (if status.message = "" then msg else status.message ++ "; additionally, " ++ msg) 512 }, false)
    | none => ({ status with kubeconfigSecret := fi.key.name ++ "-kubeconfig" }, true)
  else (status, false)

/-! ## What changes -/

namespace World

/-- No object, and a manager that has just started. -/
def init : World where
  objects := Keyed.empty
  nextUid := 1
  inFlight := fun _ => none
  passes := fun _ => none
  goroutines := Keyed.empty
  nextId := 0

def write (w : World) (k : ObjectKey) (f : FrameInstall → FrameInstall) (hf : ∀ fi, (f fi).key = fi.key) : World :=
  { w with objects := w.objects.modify k (FrameInstall.written f) hf }

/-- A status patch computed from `base`, committed on the object that is there. -/
def patchStatus (w : World) (k : ObjectKey) (base new : FrameInstallStatus) : World :=
  w.write k (fun fi => { fi with status := base.merge new fi.status }) (fun _ => rfl)

def setPass (w : World) (k : ObjectKey) (p : Option Pass) : World := { w with passes := Function.update w.passes k p }

/-- `running`. -/
def running (w : World) (machineRef : String) : Bool := (w.inFlight machineRef).isSome

/-- `startInstall`, where the machine is free. -/
def claim (w : World) (machineRef : String) (uid : Nat) : World :=
  { w with inFlight := Function.update w.inFlight machineRef (some uid) }

/-- `finishInstall`. -/
def release (w : World) (machineRef : String) : World := { w with inFlight := Function.update w.inFlight machineRef none }

def create (w : World) (k : ObjectKey) (spec : FrameInstallSpec) : World :=
  if (w.objects.get? k).isSome then w
  else
    { w with
      objects := w.objects.insertNew
        { key := k, uid := w.nextUid, resourceVersion := 1, generation := 1, deleting := false, finalizers := [], spec := spec,
          status := {} }
      nextUid := w.nextUid + 1 }

def edit (w : World) (k : ObjectKey) (spec : FrameInstallSpec) : World :=
  w.write k (fun fi => { fi with spec := spec, generation := fi.generation + 1 }) (fun _ => rfl)

/-- A deletion: an object with finalizers is marked, which counts as a generation of it. -/
def delete (w : World) (k : ObjectKey) : World :=
  match w.objects.get? k with
  | none => w
  | some fi =>
    if fi.finalizers = [] then { w with objects := w.objects.erase k }
    else if fi.deleting then w
    else w.write k (fun fi => { fi with deleting := true, generation := fi.generation + 1 }) (fun _ => rfl)

/-- The end of the process, and a new one. -/
def crash (w : World) : World :=
  { w with inFlight := fun _ => none, passes := fun _ => none, goroutines := Keyed.empty }

/-- A pass reads its object, and adds the finalizer if the object is as it read it. -/
def beginPass (w : World) (k : ObjectKey) (a : PassAnswers) : World :=
  match w.objects.get? k with
  | none => w
  | some fi =>
    if fi.deleting then
      if frameInstallFinalizer ∈ fi.finalizers then w.setPass k (some (.finalizing fi)) else w
    else if frameInstallFinalizer ∉ fi.finalizers then
      if a.committed then w.write k (fun fi => { fi with finalizers := fi.finalizers ++ [frameInstallFinalizer] }) (fun _ => rfl)
      else w
    else if fi.terminal then w
    else w.setPass k (some (.got fi))

/-- The finalizer is taken off, unless the object changed since; it may be the last. -/
def removeFinalizer (w : World) (k : ObjectKey) (copy : FrameInstall) : World :=
  match w.objects.get? k with
  | none => w
  | some fi =>
    if fi.uid = copy.uid ∧ fi.resourceVersion = copy.resourceVersion then
      if fi.finalizers.filter (· ≠ frameInstallFinalizer) = [] then { w with objects := w.objects.erase k }
      else w.write k (fun fi => { fi with finalizers := fi.finalizers.filter (· ≠ frameInstallFinalizer) }) (fun _ => rfl)
    else w

/-- The goroutine of an installation is started. -/
def spawn (w : World) (r : FrameInstallReconciler) (k : ObjectKey) (machine : String) (fi : FrameInstall) (secrets : Secrets)
    (installUID : String) : World :=
  { w with
    goroutines := w.goroutines.insertNew
      { id := w.nextId
        machine := machine
        machineRef := fi.spec.machineRef
        uid := fi.uid
        key := k
        install := Install.start (toProvisionSpec fi installUID secrets) (r.options fi secrets)
        stage := .installing }
    nextId := w.nextId + 1 }

def reconcile (r : FrameInstallReconciler) (w : World) (k : ObjectKey) (a : PassAnswers) : World × List InstallEvent :=
  match w.passes k with
  | none => (w.beginPass k a, [])
  | some (.got fi) =>
    if w.running fi.spec.machineRef then (w.setPass k none, [])
    else if fi.status.observedGeneration = fi.generation then
      (w.setPass k (some (.failing fi (failRestarted fi a))), ejectAndClear fi.uid a)
    else (w.setPass k (some (.cleared fi)), [])
  | some (.finalizing fi) =>
    if w.running fi.spec.machineRef then (w.setPass k none, [])
    else (w.setPass k (if cleanupFailed a then none else some (.removing fi)), ejectAndClear fi.uid a)
  | some (.removing fi) => ((if a.committed then w.removeFinalizer k fi else w).setPass k none, [])
  | some (.failing fi status) => ((if a.committed then w.patchStatus k fi.status status else w).setPass k none, [])
  | some (.cleared fi) =>
    match refusal r a w.objects.items fi with
    | some msg => (w.setPass k (some (.failing fi (failPending fi msg))), [])
    | none =>
      if w.running fi.spec.machineRef then (w.setPass k none, [])
      else ((w.claim fi.spec.machineRef fi.uid).setPass k (some (.claimed fi (a.secrets fi))), [])
  | some (.claimed fi secrets) =>
    let patched := w.patchStatus k fi.status { fi.status with observedGeneration := fi.generation }
    match (if a.committed then patched.objects.get? k else none) with
    -- the answer to the patch is the object as it is now, spec included
    | some answer => (patched.setPass k (some (.stamped fi.spec.machineRef answer secrets)), [])
    | none => ((w.release fi.spec.machineRef).setPass k none, [])
  | some (.stamped machine fi secrets) =>
    match a.installUID with
    | .error err =>
      ((w.release fi.spec.machineRef).setPass k (some (.failing fi (failPending fi ("generating an install UID: " ++ err)))), [])
    | .ok installUID => ((w.spawn r k machine fi secrets installUID).setPass k none, [.installCalled fi.uid machine])

/-- The goroutine with an id, changed. -/
def setGoroutine (w : World) (g : Goroutine) (install : Install) (stage : Stage) : World :=
  { w with goroutines := w.goroutines.modify g.id (fun g => { g with install := install, stage := stage }) (fun _ => rfl) }

def drive (r : FrameInstallReconciler) (w : World) (g : Goroutine) (a : GoAnswers) : World × List InstallEvent :=
  let read := if a.readable then w.objects.get? g.key else none
  match g.stage with
  | .installing =>
    match g.install.pc with
    | .report _ =>
      match read with
      | none => (w.setGoroutine g g.install.reported .installing, [])
      | some fi => (w.setGoroutine g g.install (.reporting fi), [])
    | .returned => (w.setGoroutine g g.install .returned, [])
    | _ =>
      (w.setGoroutine g (g.install.next r.validatePendingSpec a.toAnswers) .installing,
        (g.install.call a.toAnswers).map fun c => .called g.uid c.1 c.2)
  | .reporting fi =>
    let status := { fi.status with phase := some g.install.res.phase }
    ((if a.committed then w.patchStatus g.key fi.status status else w).setGoroutine g g.install.reported .installing, [])
  | .returned =>
    match read with
    | none => (w.setGoroutine g g.install .recorded, [])
    | some fi =>
      let (status, created) := finishStatus r fi g.install.res g.install.err a.createSecret
      (w.setGoroutine g g.install (.recording fi status), if created then [.secretCreated g.uid] else [])
  | .recording fi status =>
    ((if a.committed then w.patchStatus g.key fi.status status else w).setGoroutine g g.install .recorded, [])
  | .recorded => ({ w.release g.machineRef with goroutines := w.goroutines.erase g.id }, [])

end World

def installStep (r : FrameInstallReconciler) (w : World) : InstallAction → World × List InstallEvent
  | .create k spec => (w.create k spec, [])
  | .edit k spec => (w.edit k spec, [])
  | .delete k => (w.delete k, [])
  | .reconcile k a => w.reconcile r k a
  | .drive id a =>
    match w.goroutines.get? id with
    | none => (w, [])
    | some g => w.drive r g a
  | .crash => (w.crash, [])

end FrameOperator.Provision
