import FrameOperator.Api.Meta
import FrameOperator.Provision.Controller

/-!
# The InstallerResponding condition

While an installation is Installing, every pass writes down what the installer has reported (`reportInstallerLiveness`); the
goroutine takes the condition away with the result, and a pass that finds it gone with the failure. A patch of the conditions
replaces the whole list.

Here one FrameInstall is on the server. Whether a pass finds the machine claimed is left open, and a goroutine may start whenever
there is none.
-/

namespace FrameOperator.Provision

/-- What an installation has reported to frame-provisiond; an instant that was not recorded is Go's zero. -/
structure BeaconState where
  lastCheckpoint : String := ""
  lastSeen : Time := Meta.zeroTime
  failedAt : Time := Meta.zeroTime

def checkpointLate : String := "late"

def checkpointFailed : String := "failed"

def beaconLostAfter : Duration := 60 * second

def reasonInstallerUnavailable : String := "Unavailable"

def installerResponding : String := "InstallerResponding"

def installerRespondingCondition (st : BeaconState) (known everKnown : Bool) (err : Option String) (now : Time) : Meta.Condition :=
  let silent := now - st.lastSeen
  let ago := (Duration.round silent second).print
  let cond := fun (status reason message : String) =>
    ({ type := installerResponding, status := status, reason := reason, message := message } : Meta.Condition)
  match err with
  | some err => cond "Unknown" reasonInstallerUnavailable ("could not read installer progress: " ++ err)
  | none =>
    if !known && everKnown then
      cond "Unknown" reasonInstallerUnavailable ("beacon history was lost (frame-provisiond likely restarted); this says nothing " ++
        "about whether the installer is still running")
    else if !known then
      cond "False" "NeverSeen" ("nothing has been heard from the installer: it may not have booted the media, or the network may " ++
        "never have come up")
    -- a failure is told before anything about how fresh the report is: the heartbeat goes on after it
    else if st.lastCheckpoint = checkpointFailed then
      if st.failedAt = Meta.zeroTime then
        cond "False" "InstallerFailed" "the installer reported that the install failed; the cause is on the machine's console"
      else
        cond "False" "InstallerFailed" ("the installer reported that the install failed at " ++ Time.rfc3339 st.failedAt ++ ", " ++
          (Duration.round (now - st.failedAt) second).print ++ " ago; the cause is on the machine's console")
    else if silent > beaconLostAfter ∧ st.lastCheckpoint = checkpointLate then
      cond "False" "Rebooting" ("base system installed " ++ ago ++ " ago; the machine is rebooting into it")
    else if silent > beaconLostAfter then
      cond "False" "HeartbeatLost" ("last reached " ++ st.lastCheckpoint ++ ", " ++ ago ++ " ago, and has not reported since")
    else
      cond "True" "Heartbeat" ("at " ++ st.lastCheckpoint ++ ", last reported " ++ ago ++
        " ago; an installer that stays here is waiting on a question")

/-- A FrameInstall with its conditions. -/
structure Watched where
  install : FrameInstall
  conditions : List Meta.Condition

namespace Watched

def responding (o : Watched) : Bool := o.conditions.any fun c => c.type = installerResponding

/-- A merge patch of the status that was computed from a copy: field by field, the conditions as one. -/
def patched (cur copy : Watched) (status : FrameInstallStatus) (conditions : List Meta.Condition) : Watched where
  install := cur.install.written fun fi => { fi with status := copy.install.status.merge status fi.status }
  conditions := mergePart copy.conditions conditions cur.conditions

def silenced (o : Watched) : List Meta.Condition := Meta.removeStatusCondition o.conditions installerResponding

end Watched

/-- How far a pass is, up to recording that the controller restarted. -/
inductive Watch where
  | got (fi : Watched)
  | polled (cond : Meta.Condition)
  | setting (latest : Watched) (cond : Meta.Condition)
  | failing (fi : Watched) (status : FrameInstallStatus)

/-- How far the goroutine is, with the copy it holds. -/
inductive DriverStage where
  | installing
  | reporting (fi : Watched)
  | returned
  | recording (fi : Watched) (status : FrameInstallStatus)

structure Driver where
  install : Install
  stage : DriverStage

/-- The object on the server, and what the manager has in memory for it. -/
structure Scene where
  object : Watched
  pass : Option Watch
  driver : Option Driver
  token : Option String
  seenBeacon : Bool

/-- Whether the machine is claimed, the read succeeds, and what frame-provisiond knows. -/
structure WatchAnswers extends PassAnswers where
  running : Bool := true
  readable : Bool := true
  progress : Except String (Option BeaconState) := .ok none
  now : Time := 0

inductive SceneAction where
  | reconcile (answers : WatchAnswers)
  | start (spec : Spec) (opts : Options)
  | drive (answers : GoAnswers)
  | edit (spec : FrameInstallSpec)
  | crash

namespace Scene

/-- `reportInstallerLiveness`, up to the condition it has to write. -/
def poll (w : Scene) (fi : Watched) (a : WatchAnswers) : Scene :=
  if fi.install.status.phase ≠ some .installing then { w with pass := none }
  else
    match w.token with
    | none =>
      let err := "this manager holds no image token for this installation -- another FrameInstall now owns machine " ++
        goQuote fi.install.spec.machineRef
      { w with pass := some (.polled (installerRespondingCondition {} false w.seenBeacon (some err) a.now)) }
    | some _ =>
      match a.progress with
      | .error err => { w with pass := some (.polled (installerRespondingCondition {} false w.seenBeacon (some err) a.now)) }
      | .ok none => { w with pass := some (.polled (installerRespondingCondition {} false w.seenBeacon none a.now)) }
      | .ok (some st) =>
        { w with seenBeacon := true, pass := some (.polled (installerRespondingCondition st true true none a.now)) }

/-- One step of a pass; `progress` is whether there is a frame-provisiond to ask. -/
def reconcile (progress : Bool) (w : Scene) (a : WatchAnswers) : Scene :=
  match w.pass with
  | none => if a.readable && !w.object.install.terminal then { w with pass := some (.got w.object) } else w
  | some (.got fi) =>
    if a.running then if progress then w.poll fi a else { w with pass := none }
    else if fi.install.status.observedGeneration = fi.install.generation then
      { w with pass := some (.failing fi (failRestarted fi.install a.toPassAnswers)) }
    else { w with pass := none }
  -- `setCondition`: the phase is asked of the object as it is now
  | some (.polled cond) =>
    if a.readable ∧ w.object.install.status.phase = some .installing then
      { w with pass := some (.setting w.object { cond with observedGeneration := Int64.ofNat w.object.install.generation }) }
    else { w with pass := none }
  | some (.setting latest cond) =>
    { w with
      object := if a.committed then
        w.object.patched latest latest.install.status (Meta.setStatusCondition latest.conditions cond a.now) else w.object
      pass := none }
  | some (.failing fi status) =>
    { w with object := if a.committed then w.object.patched fi status fi.silenced else w.object, pass := none }

/-- The image token is remembered once there is one. -/
def remember (w : Scene) (i : Install) (a : Answers) : Option String :=
  match i.pc, a.build with
  | .build, .ok (_, token) => some token
  | _, _ => w.token

/-- The goroutine is over: `finishInstall` forgets the installation. -/
def finished (w : Scene) (object : Watched) : Scene :=
  { w with object := object, driver := none, token := none, seenBeacon := false }

/-- One step of the goroutine. -/
def drive (r : FrameInstallReconciler) (w : Scene) (d : Driver) (a : GoAnswers) : Scene :=
  match d.stage with
  | .installing =>
    match d.install.pc with
    | .report _ =>
      if a.readable then { w with driver := some { d with stage := .reporting w.object } }
      else { w with driver := some { d with install := d.install.reported } }
    | .returned => { w with driver := some { d with stage := .returned } }
    | _ =>
      { w with
        driver := some { d with install := d.install.next r.validatePendingSpec a.toAnswers }
        token := w.remember d.install a.toAnswers }
  | .reporting fi =>
    { w with
      object := if a.committed then
        w.object.patched fi { fi.install.status with phase := some d.install.res.phase } fi.conditions else w.object
      driver := some { install := d.install.reported, stage := .installing } }
  | .returned =>
    if a.readable then
      let status := (finishStatus r w.object.install d.install.res d.install.err a.createSecret).1
      { w with driver := some { d with stage := .recording w.object status } }
    else w.finished w.object
  | .recording fi status => w.finished (if a.committed then w.object.patched fi status fi.silenced else w.object)

end Scene

def sceneStep (r : FrameInstallReconciler) (progress : Bool) (w : Scene) : SceneAction → Scene
  | .reconcile a => w.reconcile progress a
  | .start s o =>
    match w.driver with
    | none => { w with driver := some ⟨Install.start s o, .installing⟩ }
    | some _ => w
  | .drive a =>
    match w.driver with
    | none => w
    | some d => w.drive r d a
  | .edit spec =>
    { w with
      object.install := w.object.install.written fun fi => { fi with spec := spec, generation := fi.generation + 1 } }
  | .crash => { w with pass := none, driver := none, token := none, seenBeacon := false }

end FrameOperator.Provision
