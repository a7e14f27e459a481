import FrameOperator.Lib.Stamped
import FrameOperator.Provision.Controller

/-!
# Actions asked of a machine

`spec.powerRequest` and `spec.alertRelease` of a FrameMachine carry their moment, and a pass of its controller
(`internal/controller/frame/framemachine_controller.go`, `framemachine_storagehealth.go`) acts on one that is later than the moment
its status records.

A pass records its own clock, in whole seconds; a request is read back with its fraction. What the assessment says of each open
alert is an input, as are the answers of the BMC and of the API server.
-/

namespace FrameOperator.Machine

inductive PowerAction where
  | on
  | gracefulShutdown
  | forceOff
  | forceRestart
  | clearSEL
  | indicatorLedOn
  | indicatorLedOff
  | other (name : String)
  deriving DecidableEq

def PowerAction.name : PowerAction → String
  | on => "On"
  | gracefulShutdown => "GracefulShutdown"
  | forceOff => "ForceOff"
  | forceRestart => "ForceRestart"
  | clearSEL => "ClearSEL"
  | indicatorLedOn => "IndicatorLedOn"
  | indicatorLedOff => "IndicatorLedOff"
  | other name => name

structure PowerRequestSpec where
  action : PowerAction
  requestedAt : Time
  deriving DecidableEq

structure AlertReleaseRequest where
  device : String
  requestedAt : Time
  deriving DecidableEq

structure FrameMachineSpec where
  powerRequest : Option PowerRequestSpec := none
  alertRelease : Option AlertReleaseRequest := none

structure FrameMachineStatus where
  lastPowerAction : String := ""
  lastPowerActionAt : Option Time := none
  lastPowerActionError : String := ""
  lastAlertReleaseAt : Option Time := none
  lastAlertRelease : String := ""

structure FrameMachine where
  spec : FrameMachineSpec
  status : FrameMachineStatus

/-- A call of the BMC that changes something. -/
inductive RedfishAction where
  | reset (resetType : String)
  | clearLog
  | setIndicatorLED (on : Bool)

/-- An open alert, what the assessment of this pass says of it, and the outcome of closing it. -/
structure OpenAlert where
  check : String
  device : String
  firing : Bool
  keeps : Bool
  resolve : Option String := none

/-- The client, the action, the probe, the reads of the assessment, and the clocks. -/
structure ProbeAnswers where
  newClient : Option String := none
  action : Option String := none
  probe : Option String := none
  policy : Option String := none
  openAlerts : Except String (List OpenAlert) := .ok []
  actionNow : Time
  releaseNow : Time

/-- An action asked of the BMC, an alert closed, and a release carried out or given up. -/
inductive MachineEvent where
  | acted (request : PowerRequestSpec) (action : RedfishAction)
  | closed (check device : String)
  | released (request : AlertReleaseRequest)
  | releaseFailed (request : AlertReleaseRequest)

def PowerAction.call : PowerAction → Option RedfishAction
  | on => some (.reset "On")
  | gracefulShutdown => some (.reset "GracefulShutdown")
  | forceOff => some (.reset "ForceOff")
  | forceRestart => some (.reset "ForceRestart")
  | clearSEL => some .clearLog
  | indicatorLedOn => some (.setIndicatorLED true)
  | indicatorLedOff => some (.setIndicatorLED false)
  | other _ => none

/-- `runPowerRequest`: the moment is recorded whether or not the action succeeded. -/
def runPowerRequest (fm : FrameMachine) (a : ProbeAnswers) : FrameMachine × List MachineEvent :=
  match fm.spec.powerRequest with
  | none => (fm, [])
  | some req =>
    if due fm.status.lastPowerActionAt req.requestedAt then
      let err :=
        match req.action.call with
        | some _ => a.action
        | none => some ("unknown power action " ++ goQuote req.action.name)
      ({ fm with
          status.lastPowerAction := req.action.name
          status.lastPowerActionAt := some a.actionNow
          status.lastPowerActionError := (err.map fun e => Provision.truncateString e 256).getD "" },
        req.action.call.toList.map (.acted req))
    else (fm, [])

/-- How many alerts were closed and kept, what was closed, and the error that ended it. -/
structure Releasing where
  closed : Nat := 0
  kept : Nat := 0
  events : List MachineEvent := []
  err : Option String := none

def releaseLoop (device : String) : List OpenAlert → Releasing → Releasing
  | [], r => r
  | alert :: alerts, r =>
    if alert.device ≠ device then releaseLoop device alerts r
    else if alert.firing then releaseLoop device alerts { r with kept := r.kept + 1 }
    else if alert.keeps then
      match alert.resolve with
      | some err => { r with err := some err }
      | none =>
        releaseLoop device alerts { r with closed := r.closed + 1, events := r.events ++ [.closed alert.check alert.device] }
    else releaseLoop device alerts r

/-- `releaseStorageAlerts`: nothing is recorded if an alert could not be closed, and the next pass tries again. -/
def releaseStorageAlerts (fm : FrameMachine) (alerts : List OpenAlert) (now : Time) : FrameMachine × List MachineEvent :=
  match fm.spec.alertRelease with
  | none => (fm, [])
  | some req =>
    if due fm.status.lastAlertReleaseAt req.requestedAt then
      let r := releaseLoop req.device alerts {}
      match r.err with
      | some _ => (fm, r.events ++ [.releaseFailed req])
      | none =>
        ({ fm with
            status.lastAlertReleaseAt := some now
            status.lastAlertRelease := Provision.truncateString (req.device ++ ": " ++ toString r.closed ++ " alert(s) closed, " ++
              toString r.kept ++ " kept because a read still shows them") 256 },
          r.events ++ [.released req])
    else (fm, [])

/-- `assessStorage`; `hasAlerts` is whether the controller has somewhere to record alerts. -/
def assessStorage (hasAlerts : Bool) (fm : FrameMachine) (a : ProbeAnswers) : FrameMachine × List MachineEvent :=
  match a.policy, a.openAlerts with
  | none, .ok alerts => if hasAlerts then releaseStorageAlerts fm alerts a.releaseNow else (fm, [])
  | _, _ => (fm, [])

/-- An instant as a status is written with it: its whole second. -/
def stored (t : Time) : Time := t.unix * Time.nanosPerSecond

def FrameMachineStatus.patched (base new : FrameMachineStatus) : FrameMachineStatus where
  lastPowerAction := new.lastPowerAction
  lastPowerActionAt :=
    mergePart (base.lastPowerActionAt.map stored) (new.lastPowerActionAt.map stored) base.lastPowerActionAt
  lastPowerActionError := new.lastPowerActionError
  lastAlertReleaseAt :=
    mergePart (base.lastAlertReleaseAt.map stored) (new.lastAlertReleaseAt.map stored) base.lastAlertReleaseAt
  lastAlertRelease := new.lastAlertRelease

/-- One pass of `Reconcile`; the probe comes after the action, and changes nothing here. -/
def reconcile (hasAlerts : Bool) (fm : FrameMachine) (a : ProbeAnswers) : FrameMachine × List MachineEvent :=
  let (acted, powered) := if a.newClient.isSome then (fm, []) else runPowerRequest fm a
  let (assessed, released) := assessStorage hasAlerts acted a
  ({ fm with status := fm.status.patched assessed.status }, powered ++ released)

inductive MachineAction where
  | edit (spec : FrameMachineSpec)
  | reconcile (answers : ProbeAnswers)

def machineStep (hasAlerts : Bool) (fm : FrameMachine) : MachineAction → FrameMachine × List MachineEvent
  | .edit spec => ({ fm with spec := spec }, [])
  | .reconcile a => reconcile hasAlerts fm a

end FrameOperator.Machine
