import FrameOperator.Alerting.Relay

/-!
# Receivers, the relay and the tenants

What goes on around one alert: passes of the relay one after the other, any number of receivers, each in its own time, and
subscriptions that come, change and go. What the tenants accepted is kept beside what the API server holds.
-/

namespace FrameOperator.Alerting

open Api

structure World where
  alerts : Alerts
  subscriptions : Versioned FrameAlertSubscription FrameAlertSubscription.name
  secrets : NamespacedName → Option TokenSecret
  -- the notifications that were accepted, in order
  told : List Payload
  -- the calls of `Record` under way
  recording : List (Receiver.Prog (Except Error Unit))

/-- What becomes of a request, and how a notification is answered. -/
structure Answer where
  fate : Fate Fault := .served
  reply : Reply := .status 200

def Reply.accepts (r : Reply) : Bool := r.outcome.1 = .delivered

def FrameAlert.withDeliveries (base : FrameAlert) (next : List AlertDelivery) (cur : FrameAlert) : FrameAlert :=
  { cur with
    deliveries := mergePart (base.deliveries.map AlertDelivery.stored) (next.map AlertDelivery.stored) cur.deliveries }

theorem FrameAlert.key_withDeliveries (base : FrameAlert) (next : List AlertDelivery) (cur : FrameAlert) :
    (base.withDeliveries next cur).key = cur.key := rfl

namespace World

def patchDeliveries (w : World) (base : FrameAlert) (next : List AlertDelivery) : World × Except Error (Stamped FrameAlert) :=
  let done := w.alerts.patch base.key (base.withDeliveries next) (base.key_withDeliveries next)
  ({ w with alerts := done.1 }, done.2)

/-- A deletion under the precondition of a revision. -/
def deleteAlert (w : World) (key : NamespacedName) (rev : Nat) : World × Except Error Unit :=
  match w.alerts.get? key with
  | none => (w, .error .notFound)
  | some cur => if cur.rev = rev then ({ w with alerts := w.alerts.remove key }, .ok ()) else (w, .error .conflict)

def readSecret (w : World) (key : NamespacedName) : Except Error TokenSecret :=
  match w.secrets key with
  | none => .error .notFound
  | some s => .ok s

def exec (w : World) : (r : Relay.Request) → Answer → World × r.Resp
  | .getAlert key, a => a.fate.answer w (w, w.alerts.read key)
  | .listSubscriptions, a => a.fate.answer w (w, .ok (w.subscriptions.live.items.map Stamped.val))
  | .getSecret key, a => a.fate.answer w (w, w.readSecret key)
  | .post _ _ payload, a => (if a.reply.accepts then { w with told := w.told ++ [payload] } else w, a.reply)
  | .patchDeliveries base next, a => a.fate.answer w (w.patchDeliveries base next)
  | .deleteAlert key rev, a => a.fate.answer w (w.deleteAlert key rev)

end World

/-! ## What others do -/

/-- Receivers are given alerts, and subscriptions and token Secrets are written. -/
inductive Outside where
  | report (a : Alert) (now : Time)
  | receive (i : Nat) (fate : Fate Fault) (clock : Time)
  | subscribe (sub : FrameAlertSubscription)
  | edit (name : String) (spec : FrameAlertSubscriptionSpec)
  | unsubscribe (name : String)
  | setSecret (key : NamespacedName) (secret : Option TokenSecret)

def FrameAlertSubscription.withSpec (spec : FrameAlertSubscriptionSpec) (sub : FrameAlertSubscription) : FrameAlertSubscription :=
  { sub with spec := spec, generation := if sub.spec = spec then sub.generation else sub.generation + 1 }

theorem FrameAlertSubscription.name_withSpec (spec : FrameAlertSubscriptionSpec) (sub : FrameAlertSubscription) :
    (sub.withSpec spec).name = sub.name := rfl

namespace World

/-- The request that a call of `Record` waits at is answered. -/
def receive (w : World) (i : Nat) (fate : Fate Fault) (clock : Time) : World :=
  match w.recording[i]? with
  | some (.call r next) =>
    let done := w.alerts.exec fate clock r
    { w with alerts := done.1, recording := w.recording.set i (next done.2) }
  | _ => w

def outside (namespaceName : String) (w : World) : Outside → World
  | .report a now => { w with recording := w.recording ++ [Receiver.record namespaceName a now] }
  | .receive i fate clock => w.receive i fate clock
  | .subscribe sub => { w with subscriptions := w.subscriptions.create sub }
  | .edit name spec =>
    { w with
      subscriptions :=
        w.subscriptions.modify name (FrameAlertSubscription.withSpec spec) (FrameAlertSubscription.name_withSpec spec) }
  | .unsubscribe name => { w with subscriptions := w.subscriptions.remove name }
  | .setSecret key secret => { w with secrets := fun k => if k = key then secret else w.secrets k }

/-- The world with no objects, in which nothing was told. -/
def empty : World := ⟨.empty, .empty, fun _ => none, [], []⟩

end World

/-- What a tenant is told by some notifications, by the name of its subscription. -/
def heardBy (told : List Payload) (sub : String) : List AlertState := (told.filter (·.receiver = sub)).map Payload.state

def World.heard (w : World) (sub : String) : List AlertState := heardBy w.told sub

/-- The relay over one alert: a pass is begun at a time. -/
def relayRunner (env : Relay.Env) (key : NamespacedName) :
    Runner Time World Answer Outside Relay.Request.Resp (Except Error Duration) where
  pass now := Relay.reconcile env key now
  exec := World.exec
  outside := World.outside env.namespaceName

end FrameOperator.Alerting
