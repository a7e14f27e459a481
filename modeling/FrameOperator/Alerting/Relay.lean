import FrameOperator.Alerting.Receiver

/-!
# The relay

`RelayReconciler.Reconcile` of `internal/alerting/relay_controller.go` and the functions it calls. The metrics are left out.
-/

namespace FrameOperator.Alerting

open Api

structure TokenSecret where
  labels : GoMap String String := none
  data : GoMap String Bytes := none

namespace Relay

structure Env where
  namespaceName : String
  retention : Duration
  -- a client leaves a field of the object it decodes into as it is where the answer lacks the field
  keepsAbsent : Bool

/-- What a pass asks: a patch of the difference to what was read, a deletion under its revision. -/
inductive Request where
  | getAlert (key : NamespacedName)
  | listSubscriptions
  | getSecret (key : NamespacedName)
  | post (url : String) (token : Bytes) (payload : Payload)
  | patchDeliveries (base : FrameAlert) (deliveries : List AlertDelivery)
  | deleteAlert (key : NamespacedName) (rev : Nat)

abbrev Request.Resp : Request → Type
  | getAlert _ | patchDeliveries _ _ => Except Error (Stamped FrameAlert)
  | listSubscriptions => Except Error (List FrameAlertSubscription)
  | getSecret _ => Except Error TokenSecret
  | post _ _ _ => Reply
  | deleteAlert _ _ => Except Error Unit

abbrev Prog : Type → Type := Program Request.Resp

/-! ## Tokens -/

def alertTokenLabel : String := "frame.plume-labs.io/alert-token"

inductive TokenError where
  | unlabelled (secret : String)
  | missing (name : String)
  | api (e : Error)

def TokenError.text : TokenError → Bytes
  | unlabelled secret => utf8 ("token Secret " ++ secret ++ " is not labelled " ++ alertTokenLabel ++ "=true")
  | missing name => utf8 ("secrets " ++ goQuote name ++ " not found")
  | api e => utf8 e.text

def tokenKey (env : Env) (sub : FrameAlertSubscription) : NamespacedName := ⟨env.namespaceName, sub.spec.tokenSecretRef.name⟩

def readToken (sub : FrameAlertSubscription) : Except Error TokenSecret → Except TokenError Bytes
  | .error e => .error (.api e)
  | .ok s =>
    if s.labels.get? alertTokenLabel ≠ some "true" then .error (.unlabelled sub.spec.tokenSecretRef.name)
    else
      let v := (s.data.get? sub.spec.tokenSecretRef.key).getD []
      if v.isEmpty then .error (.missing (sub.spec.tokenSecretRef.name ++ "/" ++ sub.spec.tokenSecretRef.key)) else .ok v

def token (env : Env) (sub : FrameAlertSubscription) : Prog (Except TokenError Bytes) := do
  return readToken sub (← Program.ask (Request.getSecret (tokenKey env sub)))

/-! ## One subscription -/

/-- `existing`: of two records of a subscription the later one. -/
def existing (deliveries : List AlertDelivery) (sub : String) : Option AlertDelivery :=
  deliveries.foldl (fun found d => if d.subscription = sub then some d else found) none

/-- `keepDriving`: the tenant was told that the alert fires, and waits for the resolution. -/
def keepDriving (d : Option AlertDelivery) : Bool :=
  match d with
  | none => false
  | some d => d.deliveredState = some .firing && !d.excluded

def unmatchedDelivery (sub : String) (d : Option AlertDelivery) (state : AlertState) : Option AlertDelivery :=
  match state, d with
  | .firing, _ => none
  | .resolved, none => some { subscription := sub, excluded := true, deliveredState := some .resolved }
  | .resolved, some d =>
    if d.excluded || d.deliveredState = some .resolved then some d
    else some { subscription := sub, excluded := true, deliveredState := some .resolved }

def lifted (sub : FrameAlertSubscription) (state : AlertState) (d : AlertDelivery) : AlertDelivery :=
  let d :=
    if d.subscriptionGeneration ≠ sub.generation then
      { d with subscriptionGeneration := sub.generation, permanentFailure := false, failedState := none }
    else d
  if d.permanentFailure && d.failedState ≠ some state then { d with permanentFailure := false, failedState := none } else d

def fail (d : AlertDelivery) (out : Outcome) (err : Option Bytes) (state : AlertState) (now : Time) : AlertDelivery × Duration :=
  let lastError := (err.map fun text => truncate text 1024).getD d.lastError
  if out = .permanent then
    ({ d with lastAttemptAt := some now, lastError := lastError, permanentFailure := true, failedState := some state }, 0)
  else
    ({ d with lastAttemptAt := some now, lastError := lastError, attempts := d.attempts + 1 }, backoff (d.attempts + 1))

/-- The record of a notification that was accepted. -/
def delivered (d : AlertDelivery) (state : AlertState) (now : Time) : AlertDelivery :=
  { d with
    deliveredState := some state
    attempts := 0
    lastError := []
    lastAttemptAt := some now
    lastDeliveredAt := some now
    excluded := false }

/-- The loop of `deliver` over the states to tell. -/
def sendAll (sub : FrameAlertSubscription) (fa : FrameAlert) (token : Bytes) (state : AlertState) (now : Time) :
    List AlertState → AlertDelivery → Prog (AlertDelivery × Duration)
  | [], d => return (d, 0)
  | st :: rest, d => do
    if d.deliveredState = some st then sendAll sub fa token state now rest d
    else
      let (out, err) := Reply.outcome (← Program.ask (Request.post sub.spec.url token (buildPayload sub.name fa st)))
      if out ≠ .delivered then return fail d out err state now
      else sendAll sub fa token state now rest (delivered d st now)

/-- Otherwise the tenant gets a resolution for a fingerprint it never saw. -/
def sendSequence (d : AlertDelivery) (state : AlertState) : List AlertState :=
  if d.deliveredState = none && state = .resolved then [.firing, state] else [state]

/-- What is left to wait before the next attempt, while there is. -/
def backoffLeft (d : AlertDelivery) (now : Time) : Option Duration :=
  match d.lastAttemptAt with
  | none => none
  | some last => if d.attempts > 0 && now < last + backoff d.attempts then some (last + backoff d.attempts - now) else none

/-- `deliver`: the record after the attempt, and how long to wait before the next. -/
def deliver (env : Env) (sub : FrameAlertSubscription) (fa : FrameAlert) (d : AlertDelivery) (state : AlertState) (now : Time) :
    Prog (AlertDelivery × Duration) := do
  if sub.spec.paused || d.permanentFailure || d.deliveredState = some state then return (d, 0)
  else
    match backoffLeft d now with
    | some wait => return (d, wait)
    | none =>
      match ← token env sub with
      | .error (.unlabelled secret) => return fail d .permanent (some (TokenError.unlabelled secret).text) state now
      | .error e => return fail d .retry (some e.text) state now
      | .ok token => sendAll sub fa token state now (sendSequence d state) d

def cameLate (sub : FrameAlertSubscription) (fa : FrameAlert) (d : Option AlertDelivery) (state : AlertState) : Bool :=
  d.isNone && state = .resolved && fa.creationTimestamp < sub.creationTimestamp

/-- The body of the loop: the record of the subscription, if any, and how long to wait. -/
def relay (env : Env) (fa : FrameAlert) (state : AlertState) (now : Time) (sub : FrameAlertSubscription) :
    Prog (Option AlertDelivery × Duration) := do
  let d := existing fa.deliveries sub.name
  if !filterMatches sub.spec.filter fa && !keepDriving d then return (unmatchedDelivery sub.name d state, 0)
  else
    let record := lifted sub state (d.getD { subscription := sub.name })
    if cameLate sub fa d state then return (some { record with deliveredState := some state }, 0)
    else
      let (record, wait) ← deliver env sub fa record state now
      return (some record, wait)

/-! ## A pass -/

/-- The shorter of two waits, of which 0 is none. -/
def sooner (requeue wait : Duration) : Duration := if wait > 0 && (requeue = 0 || wait < requeue) then wait else requeue

def relayAll (env : Env) (fa : FrameAlert) (state : AlertState) (now : Time) :
    List FrameAlertSubscription → List AlertDelivery → Duration → Prog (List AlertDelivery × Duration)
  | [], next, requeue => return (next, requeue)
  | sub :: subs, next, requeue => do
    let (record, wait) ← relay env fa state now sub
    relayAll env fa state now subs (next ++ record.toList) (sooner requeue wait)

def allDelivered (deliveries : List AlertDelivery) (state : AlertState) : Bool := deliveries.all (·.deliveredState = some state)

/-- The object of a pass after its patch was answered. -/
def refreshed (env : Env) (fa answer : Stamped FrameAlert) : Stamped FrameAlert :=
  let endsAt := answer.val.spec.endsAt.or (if env.keepsAbsent then fa.val.spec.endsAt else none)
  { answer with val := { answer.val with spec := { answer.val.spec with endsAt := endsAt } } }

/-- The end of a pass: the deletion of an alert that is past retention, or the time until then. -/
def purge (env : Env) (fa : Stamped FrameAlert) (next : List AlertDelivery) (state : AlertState) (now : Time) (requeue : Duration) :
    Prog (Except Error Duration) := do
  match fa.val.spec.endsAt with
  | none => return .ok requeue
  | some endsAt =>
    if state = .resolved && allDelivered next state then
      let purgeAt := endsAt + env.retention
      if now < purgeAt then return .ok (if requeue = 0 || purgeAt - now < requeue then purgeAt - now else requeue)
      else
        match ← Program.ask (Request.deleteAlert fa.val.key fa.rev) with
        | .error .conflict => return .ok (seconds 1)
        | .error .notFound => return .ok 0
        | .error e => return .error e
        | .ok _ => return .ok 0
    else return .ok requeue

/-- The write of the records, where they changed, and the end of the pass. -/
def writeDeliveries (env : Env) (fa : Stamped FrameAlert) (next : List AlertDelivery) (state : AlertState) (now : Time)
    (requeue : Duration) : Prog (Except Error Duration) := do
  if next = fa.val.deliveries then purge env fa next state now requeue
  else
    match ← Program.ask (Request.patchDeliveries fa.val next) with
    | .error e => return .error e
    | .ok answer => purge env (refreshed env fa answer) next state now requeue

def settleAlert (env : Env) (fa : Stamped FrameAlert) (state : AlertState) (subs : List FrameAlertSubscription) (now : Time) :
    Prog (Except Error Duration) := do
  let (next, requeue) ← relayAll env fa.val state now subs [] 0
  writeDeliveries env fa (next.insertionSort fun a b => a.subscription ≤ b.subscription) state now requeue

/-- `Reconcile`: how long to wait before the next pass, where 0 is no wait of its own. -/
def reconcile (env : Env) (key : NamespacedName) (now : Time) : Prog (Except Error Duration) := do
  match ← Program.ask (Request.getAlert key) with
  | .error .notFound => return .ok 0
  | .error e => return .error e
  | .ok fa =>
    match fa.val.state with
    | none => return .ok 0
    | some state =>
      match ← Program.ask Request.listSubscriptions with
      | .error e => return .error e
      | .ok subs => settleAlert env fa state subs now

end Relay

end FrameOperator.Alerting
