import FrameOperator.Api.Meta
import FrameOperator.Lib.Bytes
import FrameOperator.Lib.Merge
import FrameOperator.Lib.Requests
import Mathlib.Data.Finset.Sort

/-!
# Alerts, subscriptions and notifications

`FrameAlert` and `FrameAlertSubscription` of `api/frame/v1beta1`, and `payload.go`, `filter.go` and `sender.go` of
`internal/alerting`. A text that comes from an alert is any bytes. Metadata that nothing here reads and the API server's defaults
are left out.
-/

namespace FrameOperator.Alerting

open Api

inductive AlertState where
  | firing
  | resolved
  deriving DecidableEq

structure FrameAlertSpec where
  fingerprint : String
  alertName : Bytes := []
  severity : Bytes := []
  namespaceName : Bytes := []
  labels : GoMap Bytes Bytes := none
  annotations : GoMap Bytes Bytes := none
  startsAt : Time
  endsAt : Option Time := none
  generatorURL : Bytes := []
  deriving DecidableEq

/-- The relay's record of one subscription for one alert. An empty state is `none`. -/
structure AlertDelivery where
  subscription : String
  deliveredState : Option AlertState := none
  attempts : Int32 := 0
  lastError : Bytes := []
  lastAttemptAt : Option Time := none
  lastDeliveredAt : Option Time := none
  permanentFailure : Bool := false
  failedState : Option AlertState := none
  subscriptionGeneration : Int := 0
  excluded : Bool := false
  deriving DecidableEq

structure FrameAlert where
  key : NamespacedName
  creationTimestamp : Time
  spec : FrameAlertSpec
  state : Option AlertState := none
  lastReceivedAt : Option Time := none
  deliveries : List AlertDelivery := []
  deriving DecidableEq

structure AlertTokenRef where
  name : String
  key : String
  deriving DecidableEq

structure AlertFilter where
  excludeAlertNames : List Bytes := []
  severities : List Bytes := []
  namespaces : List Bytes := []
  deriving DecidableEq

structure FrameAlertSubscriptionSpec where
  url : String
  tokenSecretRef : AlertTokenRef
  filter : AlertFilter := {}
  paused : Bool := false
  deriving DecidableEq

structure FrameAlertSubscription where
  name : String
  creationTimestamp : Time
  generation : Int := 1
  spec : FrameAlertSubscriptionSpec
  deriving DecidableEq

def wholeSecond (t : Time) : Time := t.unix * Time.nanosPerSecond

/-- A record as it is read back. -/
def AlertDelivery.stored (d : AlertDelivery) : AlertDelivery :=
  { d with lastAttemptAt := d.lastAttemptAt.map wholeSecond, lastDeliveredAt := d.lastDeliveredAt.map wholeSecond }

/-! ## Payloads -/

def statusFiring : String := "firing"
def statusResolved : String := "resolved"

structure Alert where
  status : String
  labels : GoMap Bytes Bytes := none
  annotations : GoMap Bytes Bytes := none
  startsAt : Time
  endsAt : Time
  generatorURL : Bytes := []
  fingerprint : String

structure Payload where
  version : String
  status : String := ""
  receiver : String := ""
  alerts : List Alert

def alertObjectName (fingerprint : String) : String := "fa-" ++ fingerprint

/-- The longest text left when bytes are taken off the end, given from its end. -/
def backOff : Bytes → Bytes
  | [] => []
  | b :: rest => if validUTF8 (b :: rest).reverse then (b :: rest).reverse else backOff rest

def truncate (s : Bytes) (max : Nat) : Bytes :=
  let s := toValidUTF8 [0xEF, 0xBF, 0xBD] s
  if s.length ≤ max then s else backOff (s.take max).reverse

/-- `BoundMap`: the 64 smallest keys, and of two keys that truncate to one the first. -/
def boundMap (m : GoMap Bytes Bytes) : GoMap Bytes Bytes :=
  m.map fun s =>
    ((s.keys.sort Bytes.le).take 64).foldl (fun out k =>
      let key := truncate k 256
      if (out.lookup key).isSome then out else out.insert key (truncate ((s.lookup k).getD []) 4096)) ∅

/-! ## Filters -/

/-- `Matches`. -/
def filterMatches (f : AlertFilter) (fa : FrameAlert) : Bool :=
  !f.excludeAlertNames.contains fa.spec.alertName && (f.severities.isEmpty || f.severities.contains fa.spec.severity) &&
    (f.namespaces.isEmpty || f.namespaces.contains fa.spec.namespaceName)

/-! ## Sending -/

inductive Outcome where
  | delivered
  | retry
  | permanent
  deriving DecidableEq

/-- The request could not be made, there was no response, or a status. -/
inductive Reply where
  | unmade (text : Bytes)
  | none (text : Bytes)
  | status (code : Nat)

/-- What `Send` makes of the answer: the outcome, and the error's text. -/
def Reply.outcome : Reply → Outcome × Option Bytes
  | unmade text => (.permanent, some text)
  | none text => (.retry, some text)
  | status c =>
    if 200 ≤ c ∧ c < 300 then (.delivered, Option.none)
    else if 500 ≤ c ∨ c = 408 ∨ c = 429 then (.retry, some (utf8 ("HTTP " ++ toString c)))
    else (.permanent, some (utf8 ("HTTP " ++ toString c)))

def buildPayload (receiver : String) (fa : FrameAlert) (state : AlertState) : Payload :=
  let status := if state = .resolved then statusResolved else statusFiring
  { version := "4"
    status := status
    receiver := receiver
    alerts := [{
      status := status
      fingerprint := fa.spec.fingerprint
      labels := some fa.spec.labels.entries
      annotations := some fa.spec.annotations.entries
      startsAt := fa.spec.startsAt
      endsAt := if state = .resolved then fa.spec.endsAt.getD Meta.zeroTime else Meta.zeroTime
      generatorURL := fa.spec.generatorURL }] }

/-- The state a notification tells of. -/
def Payload.state (p : Payload) : AlertState := if p.status = statusResolved then .resolved else .firing

@[simp] theorem state_buildPayload (receiver : String) (fa : FrameAlert) (state : AlertState) :
    (buildPayload receiver fa state).state = state := by
  cases state <;> simp [buildPayload, Payload.state, statusFiring, statusResolved]

@[simp] theorem receiver_buildPayload (receiver : String) (fa : FrameAlert) (state : AlertState) :
    (buildPayload receiver fa state).receiver = receiver := rfl

def seconds (n : Int) : Duration := n * Time.nanosPerSecond

/-- A wait doubled up to `n` times, until it is ten minutes. -/
def doubled : Nat → Duration → Duration
  | 0, d => d
  | n + 1, d => if d < seconds 600 then doubled n (d * 2) else d

/-- `Backoff`. -/
def backoff (attempts : Int32) : Duration :=
  if attempts < 1 then 0 else min (doubled (attempts.toInt.toNat - 1) (seconds 5)) (seconds 600)

end FrameOperator.Alerting
