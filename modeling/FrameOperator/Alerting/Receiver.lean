import FrameOperator.Alerting.Types

/-!
# The receiver

`Receiver.Record` and `patchStatus` of `internal/alerting/receiver.go`, and the API server's side of them. Both writes are merge
patches of what the receiver read.
-/

namespace FrameOperator.Alerting

open Api

abbrev Alerts : Type := Versioned FrameAlert FrameAlert.key

namespace Receiver

/-- What a receiver asks. A patch is of the difference to the object that was read. -/
inductive Request where
  | getAlert (key : NamespacedName)
  | createAlert (fa : FrameAlert)
  | patchSpec (base : FrameAlert) (spec : FrameAlertSpec)
  | patchStatus (base : FrameAlert) (state : AlertState) (now : Time)

abbrev Request.Resp : Request → Type
  | getAlert _ | createAlert _ | patchSpec _ _ => Except Error (Stamped FrameAlert)
  | patchStatus _ _ _ => Except Error Unit

abbrev Prog : Type → Type := Program Request.Resp

def lastReceivedRefresh : Duration := seconds 900

def stateOf (a : Alert) : AlertState := if a.status = statusResolved then .resolved else .firing

def specOf (a : Alert) : FrameAlertSpec :=
  let label := fun name => (a.labels.get? (utf8 name)).getD []
  { fingerprint := a.fingerprint
    alertName := truncate (label "alertname") 256
    severity := truncate (label "severity") 64
    namespaceName := truncate (label "namespace") 63
    labels := boundMap a.labels
    annotations := boundMap a.annotations
    startsAt := wholeSecond a.startsAt
    endsAt := if a.status = statusResolved then some (wholeSecond a.endsAt) else none
    generatorURL := truncate a.generatorURL 2048 }

/-- `equality.Semantic.DeepEqual` of two specs: nil and empty maps are equal. -/
def sameSpec (a b : FrameAlertSpec) : Bool :=
  decide ({ a with labels := a.labels.orNil, annotations := a.annotations.orNil } =
    { b with labels := b.labels.orNil, annotations := b.annotations.orNil })

def patchStatus (fa : FrameAlert) (state : AlertState) (now : Time) : Prog (Except Error Unit) :=
  Program.ask (Request.patchStatus fa state now)

/-- `now.Sub(LastReceivedAt) >= lastReceivedRefresh`, or nothing was received. -/
def stale (fa : FrameAlert) (now : Time) : Bool :=
  match fa.lastReceivedAt with
  | none => true
  | some last => lastReceivedRefresh ≤ now - last

def recordStatus (fa : FrameAlert) (state : AlertState) (now : Time) : Prog (Except Error Unit) :=
  if fa.state ≠ some state || stale fa now then patchStatus fa state now else return .ok ()

/-- `Record`. -/
def record (namespaceName : String) (a : Alert) (now : Time) : Prog (Except Error Unit) := do
  let key : NamespacedName := ⟨namespaceName, alertObjectName a.fingerprint⟩
  match ← Program.ask (Request.getAlert key) with
  | .error .notFound =>
    -- the server sets the creation time
    match ← Program.ask (Request.createAlert { key := key, creationTimestamp := Meta.zeroTime, spec := specOf a }) with
    | .error e => return .error e
    | .ok fa => patchStatus fa.val (stateOf a) now
  | .error e => return .error e
  | .ok fa =>
    if sameSpec fa.val.spec (specOf a) then recordStatus fa.val (stateOf a) now
    else
      match ← Program.ask (Request.patchSpec fa.val (specOf a)) with
      | .error e => return .error e
      | .ok fa => recordStatus fa.val (stateOf a) now

end Receiver

/-! ## The API server's side -/

def FrameAlertSpec.merge (base new cur : FrameAlertSpec) : FrameAlertSpec where
  fingerprint := mergePart base.fingerprint new.fingerprint cur.fingerprint
  alertName := mergePart base.alertName new.alertName cur.alertName
  severity := mergePart base.severity new.severity cur.severity
  namespaceName := mergePart base.namespaceName new.namespaceName cur.namespaceName
  labels := GoMap.merge base.labels new.labels cur.labels
  annotations := GoMap.merge base.annotations new.annotations cur.annotations
  startsAt := mergePart base.startsAt new.startsAt cur.startsAt
  endsAt := mergePart base.endsAt new.endsAt cur.endsAt
  generatorURL := mergePart base.generatorURL new.generatorURL cur.generatorURL

def FrameAlert.created (fa : FrameAlert) (clock : Time) : FrameAlert :=
  { key := fa.key, creationTimestamp := wholeSecond clock, spec := fa.spec }

def FrameAlert.withSpec (base : FrameAlert) (spec : FrameAlertSpec) (cur : FrameAlert) : FrameAlert :=
  { cur with spec := base.spec.merge spec cur.spec }

def FrameAlert.withState (base : FrameAlert) (state : AlertState) (now : Time) (cur : FrameAlert) : FrameAlert :=
  { cur with
    state := mergePart base.state (some state) cur.state
    lastReceivedAt := mergePart base.lastReceivedAt (some (wholeSecond now)) cur.lastReceivedAt }

theorem FrameAlert.key_withSpec (base : FrameAlert) (spec : FrameAlertSpec) (cur : FrameAlert) :
    (base.withSpec spec cur).key = cur.key := rfl

theorem FrameAlert.key_withState (base : FrameAlert) (state : AlertState) (now : Time) (cur : FrameAlert) :
    (base.withState state now cur).key = cur.key := rfl

def Alerts.receive (alerts : Alerts) (clock : Time) : (r : Receiver.Request) → Alerts × r.Resp
  | .getAlert key => (alerts, alerts.read key)
  | .createAlert fa => alerts.add (fa.created clock)
  | .patchSpec base spec => alerts.patch base.key (base.withSpec spec) (base.key_withSpec spec)
  | .patchStatus base state now =>
    let done := alerts.patch base.key (base.withState state now) (base.key_withState state now)
    (done.1, done.2.map fun _ => ())

/-- The same, under what becomes of the request. -/
def Alerts.exec (alerts : Alerts) (fate : Fate Fault) (clock : Time) : (r : Receiver.Request) → Alerts × r.Resp
  | .getAlert key => fate.answer alerts (alerts.receive clock (.getAlert key))
  | .createAlert fa => fate.answer alerts (alerts.receive clock (.createAlert fa))
  | .patchSpec base spec => fate.answer alerts (alerts.receive clock (.patchSpec base spec))
  | .patchStatus base state now => fate.answer alerts (alerts.receive clock (.patchStatus base state now))

end FrameOperator.Alerting
