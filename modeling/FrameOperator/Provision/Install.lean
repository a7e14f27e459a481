import FrameOperator.Lib.GoFormat
import FrameOperator.Lib.Http

/-!
# `provision.Install`

One installation from end to end (`internal/provision/install.go`). `Pc` is where it is: about to report a phase, about to call a
collaborator, or returned. `Install.next` is one call and what follows from its answer, out of those in `Answers`.

The deferred cleanup begins wherever the function returns once an image was built, and may turn a success into a failure.
-/

namespace FrameOperator.Provision

/-- Where an installation stands. -/
inductive Phase where
  | pending
  | preparing
  | mediaAttached
  | installing
  | installed
  | joining
  | ready
  | failed
  deriving DecidableEq

def Phase.name : Phase → String
  | pending => "Pending"
  | preparing => "Preparing"
  | mediaAttached => "MediaAttached"
  | installing => "Installing"
  | installed => "Installed"
  | joining => "Joining"
  | ready => "Ready"
  | failed => "Failed"

structure Network where
  address : String
  gateway : String
  dns : List String

structure Disk where
  byID : String
  sizeBytes : Int64

structure Layout where
  kind : String
  disks : List Disk

structure ClusterTarget where
  mode : String
  serverURL : String
  joinToken : String
  k3sVersion : String

def clusterInit : String := "init"

def clusterJoin : String := "join"

/-- What to install. -/
structure Spec where
  uid : String
  hostname : String
  network : Network
  layout : Layout
  sshPublicKey : String
  cluster : ClusterTarget
  bootMode : String := ""

/-- How to install it. -/
structure Options where
  bootMode : String
  sshUser : String
  sshKey : String
  nodeAddress : String
  confirmSerial : String
  phaseTimeout : Phase → Duration
  poll : Duration

/-- What an installation produces: an absent phase is the empty one, an empty kubeconfig none. -/
structure Result where
  phase : Phase
  failedPhase : Option Phase := none
  hostKey : String := ""
  kubeconfig : String := ""
  nodeName : String := ""

/-- An admin kubeconfig as `RewriteKubeconfigServer` writes it: the YAML of a document with clusters, so never empty. -/
structure Kubeconfig where
  text : String
  nonempty : text ≠ ""

/-- Why a phase's context is over. -/
inductive ContextErr where
  | deadlineExceeded
  | canceled

/-- One attempt of `WaitForOurSystem` to read the marker of the machine at the address. -/
inductive Attempt where
  | dialErr (err : String)
  | readErr
  | marker (content hostKey : String)

/-- What the collaborators answer at one moment, and the state of the phase's context after the answer. -/
structure Answers where
  context : Option ContextErr := none
  serial : Except String String := .ok ""
  build : Except String (String × String) := .ok ("", "")
  beforeMediaAttached : Option String := none
  insertMedia : Option String := none
  mediaInserted : Except String Bool := .ok true
  setBootOnce : Option String := none
  reset : Option String := none
  attempt : Attempt := .readErr
  dial : Option String := none
  joinInit : Except String Kubeconfig := .error ""
  joinAgent : Option String := none
  nodeReady : Except String Bool := .ok true
  ejectMedia : Option String := none
  clearBootOverride : Option String := none
  removeImage : Option String := none

/-- What an installation is about to do. -/
inductive Pc where
  | report (p : Phase)
  | validate
  | serial
  | build
  | beforeMediaAttached
  | insertMedia
  | mediaInserted
  | setBootOnce
  | reset
  | waitForOurSystem
  | dial
  | join
  | nodeReady
  | ejectMedia
  | clearBootOverride
  | removeImage
  | returned
  deriving DecidableEq

/-- A call that `Install` makes of the machine's BMC or of the image store. -/
inductive Call where
  | serial
  | build
  | insertMedia
  | mediaInserted
  | setBootOnce
  | reset
  | ejectMedia
  | clearBootOverride
  | removeImage
  deriving DecidableEq

/-- `built` once there is an image, `cleaned` after the cleanup, `last` a loop's error. -/
structure Install where
  spec : Spec
  opts : Options
  pc : Pc
  res : Result
  err : Option String := none
  built : Bool := false
  cleaned : Bool := false
  last : Option String := none
  ejectErr : Option String := none
  clearErr : Option String := none

/-- Every phase that is waited on has its own budget. -/
def requiredPhaseTimeouts : List Phase := [.pending, .preparing, .mediaAttached, .installing, .joining, .ready]

def validateOptions (o : Options) : Option String :=
  if o.bootMode ≠ "UEFI" ∧ o.bootMode ≠ "Legacy" then
    some ("boot mode " ++ goQuote o.bootMode ++ ": must be exactly \"UEFI\" or \"Legacy\", never inherited from the machine")
  else
    (requiredPhaseTimeouts.find? fun p => o.phaseTimeout p ≤ 0).map fun p => "phase " ++ p.name ++ " has no configured timeout"

/-- `phaseErr`: an error, with the state of the phase's context if that is what ended it. -/
def phaseErr (context : Option ContextErr) (underlying : String) : String :=
  match context with
  | some .deadlineExceeded => "this phase's own timeout expired: " ++ underlying
  | some .canceled => "the request was canceled: " ++ underlying
  | none => underlying

def checkConfirmedSerial (serial confirmed : String) : Option String :=
  if confirmed = "" then
    some ("no serial was confirmed for this install: refusing, because an empty confirmation proves nothing about which machine " ++
      "this is")
  else if serial = "" then
    some ("the machine reports an empty serial: refusing, because it cannot be compared against the confirmed serial " ++
      goQuote confirmed)
  else if serial ≠ confirmed then
    some ("this machine reports serial " ++ goQuote serial ++ " and the request confirmed " ++ goQuote confirmed ++
      ": refusing, because the cost of being wrong here is a wiped disk on the wrong machine")
  else none

/-- Go's `strings.TrimSpace`. -/
def trimSpace (s : String) : String := String.ofList (Http.trim Http.isSpace s.toList)

/-- Go's `net.JoinHostPort`. -/
def joinHostPort (host port : String) : String :=
  if ':' ∈ host.toList then "[" ++ host ++ "]:" ++ port else host ++ ":" ++ port

def markerPath : String := "/etc/frame-install-uid"

/-- What one attempt of `WaitForOurSystem` comes to: the host key of our system, or why it is not. -/
def ourSystem (addr uid : String) : Attempt → Except String String
  | .dialErr err => .error err
  | .readErr => .error (addr ++ " has no " ++ markerPath ++ ": this is a system we did not install")
  | .marker content hostKey =>
    if trimSpace content ≠ uid then
      .error (addr ++ " carries install UID " ++ goQuote (trimSpace content) ++ ", not " ++ goQuote uid ++
        ": this is a different system at that address")
    else .ok (trimSpace hostKey)

def ContextErr.text : ContextErr → String
  | deadlineExceeded => "context deadline exceeded"
  | canceled => "context canceled"

/-- `Join`: a new cluster gives its kubeconfig, an agent gives none. -/
def join (target : ClusterTarget) (a : Answers) : Except String String :=
  if target.mode = clusterInit then a.joinInit.map Kubeconfig.text
  else if target.mode = clusterJoin then
    match a.joinAgent with
    | some err => .error err
    | none => .ok ""
  else .error ("cluster: unknown mode " ++ goQuote target.mode)

/-- The installation as it is called: the boot mode is copied onto the spec. -/
def Install.start (s : Spec) (o : Options) : Install where
  spec := { s with bootMode := o.bootMode }
  opts := o
  pc := .report .pending
  res := { phase := .pending }

namespace Install

def enter (i : Install) (p : Phase) : Install := { i with pc := .report p, res.phase := p }

def fail (i : Install) (p : Phase) (e : String) : Install := { i with err := some e, res.failedPhase := some p }.enter .failed

/-- A report of the end returns: into the cleanup, if one is due. -/
def reported (i : Install) : Install :=
  match i.pc with
  | .report .pending => { i with pc := .validate }
  | .report .preparing => { i with pc := .build }
  | .report .mediaAttached => { i with pc := .insertMedia }
  | .report .installing => { i with pc := .waitForOurSystem }
  | .report .installed => i.enter .joining
  | .report .joining => { i with pc := .dial }
  | .report .ready => { i with pc := .ejectMedia }
  | .report .failed => { i with pc := if i.built && !i.cleaned then .ejectMedia else .returned }
  | _ => i

/-- An error of the cleanup fails the installation, unless it had failed before. -/
def cleanedUp (i : Install) (removeErr : Option String) : Install :=
  if i.ejectErr = none ∧ i.clearErr = none ∧ removeErr = none then { i with cleaned := true, pc := .returned }
  else
    let shown := fun e : Option String => e.getD "<nil>"
    let cleanupErr := "cleanup failed and the machine needs attention -- it may still have installer media attached and a " ++
      "one-time boot override set (eject: " ++ shown i.ejectErr ++ ", clear boot override: " ++ shown i.clearErr ++
      ", remove image: " ++ shown removeErr ++ ")"
    { i with
      cleaned := true
      res.failedPhase := i.res.failedPhase.orElse fun _ => some i.res.phase
      err := some (match i.err with
        | some err => err ++ "; additionally, " ++ cleanupErr
        | none => cleanupErr) }.enter .failed

/-- The call that is about to be made and whether it succeeds, for a call of the BMC or of the image store. -/
def call (i : Install) (a : Answers) : List (Call × Bool) :=
  match i.pc with
  | .serial => [(.serial, a.serial.isOk)]
  | .build => [(.build, a.build.isOk)]
  | .insertMedia => [(.insertMedia, a.insertMedia.isNone)]
  | .mediaInserted => [(.mediaInserted, a.mediaInserted.isOk)]
  | .setBootOnce => [(.setBootOnce, a.setBootOnce.isNone)]
  | .reset => [(.reset, a.reset.isNone)]
  | .ejectMedia => [(.ejectMedia, a.ejectMedia.isNone)]
  | .clearBootOverride => [(.clearBootOverride, a.clearBootOverride.isNone)]
  | .removeImage => [(.removeImage, a.removeImage.isNone)]
  | _ => []

/-- One step that is not a report: the call that is due, and what follows from its answer. -/
def next (validatePendingSpec : Spec → String → Option String) (i : Install) (a : Answers) : Install :=
  let addr := joinHostPort i.opts.nodeAddress "22"
  match i.pc with
  | .validate =>
    match validateOptions i.opts with
    | some err => i.fail .pending err
    | none =>
      match validatePendingSpec i.spec i.opts.nodeAddress with
      | some err => i.fail .pending err
      | none => { i with pc := .serial }
  | .serial =>
    match a.serial with
    | .error err => i.fail .pending (phaseErr a.context ("reading the machine's serial: " ++ err))
    | .ok serial =>
      match checkConfirmedSerial serial i.opts.confirmSerial with
      | some err => i.fail .pending err
      | none => i.enter .preparing
  | .build =>
    match a.build with
    | .error err => i.fail .preparing (phaseErr a.context ("building the installer image: " ++ err))
    | .ok _ => { i with built := true, pc := .beforeMediaAttached }
  | .beforeMediaAttached =>
    match a.beforeMediaAttached with
    | some err => i.fail .preparing (phaseErr a.context ("the last check before media is attached refused: " ++ err))
    | none => i.enter .mediaAttached
  | .insertMedia =>
    match a.insertMedia with
    | some err => i.fail .mediaAttached (phaseErr a.context ("inserting installer media: " ++ err))
    | none => { i with pc := .mediaInserted }
  | .mediaInserted =>
    match a.mediaInserted with
    | .error err => i.fail .mediaAttached (phaseErr a.context ("reading media-inserted status: " ++ err))
    | .ok false => i.fail .mediaAttached "the BMC accepted the insert but reports no media attached"
    | .ok true => { i with pc := .setBootOnce }
  | .setBootOnce =>
    match a.setBootOnce with
    | some err => i.fail .mediaAttached (phaseErr a.context ("setting the one-time boot override: " ++ err))
    | none => { i with pc := .reset }
  | .reset =>
    match a.reset with
    | some err => i.fail .mediaAttached (phaseErr a.context ("power-cycling the machine: " ++ err))
    | none => i.enter .installing
  | .waitForOurSystem =>
    if trimSpace i.spec.uid = "" then
      i.fail .installing ("waiting for " ++ addr ++
        ": no install UID to check against, so no machine could be told apart from any other at that address")
    else
      -- the context is asked before every attempt, and an attempt that is not our system is made again
      match a.context with
      | some ctx =>
        match i.last with
        | none => i.fail .installing ("waiting for " ++ addr ++ " to come up as our system: " ++ ctx.text ++
            ", and no attempt had completed before it")
        | some last => i.fail .installing ("waiting for " ++ addr ++ " to come up as our system: " ++ ctx.text ++
            " (last attempt: " ++ last ++ ")")
      | none =>
        match ourSystem addr (trimSpace i.spec.uid) a.attempt with
        | .error err => { i with last := some err }
        | .ok hostKey => { i with res.hostKey := hostKey, last := none }.enter .installed
  | .dial =>
    match a.dial with
    | some err => i.fail .joining (phaseErr a.context err)
    | none => { i with pc := .join }
  | .join =>
    match join i.spec.cluster a with
    | .error err => i.fail .joining (phaseErr a.context err)
    | .ok kubeconfig => { i with res.kubeconfig := kubeconfig, res.nodeName := i.spec.hostname, pc := .nodeReady }
  | .nodeReady =>
    match a.nodeReady with
    | .ok true => i.enter .ready
    | answer =>
      let last := match answer with
        | .error err => some err
        | .ok _ => i.last
      match a.context with
      | some _ => i.fail .ready (phaseErr a.context ("node " ++ i.spec.hostname ++ " never became Ready" ++
          (match last with
          | some err => ": " ++ err
          | none => "")))
      | none => { i with last := last }
  | .ejectMedia => { i with ejectErr := a.ejectMedia, pc := .clearBootOverride }
  | .clearBootOverride =>
    let i := { i with clearErr := a.clearBootOverride }
    if i.ejectErr = none then { i with pc := .removeImage } else i.cleanedUp none
  | .removeImage => i.cleanedUp a.removeImage
  | .report _ | .returned => i

end Install

end FrameOperator.Provision
