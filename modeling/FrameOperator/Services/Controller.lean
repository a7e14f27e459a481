import FrameOperator.Services.Binding

/-!
# The FrameService controller

`FrameServiceReconciler` (`internal/controller/services/frameservice_controller.go`), one definition for each of its functions, over
any registry of providers. Events, metrics and log lines are left out.
-/

namespace FrameOperator.Services

open Api
open V1beta1 (FrameServiceStatus Sizing ProvisionedRef)

variable {π : Type} {B : π → Type}

def frameServiceFinalizer : String := "services.plume-labs.io/finalizer"

/-- When a FrameService is looked at again: on its next event, or after a while. -/
inductive Requeue where
  | none
  | degraded
  | ready

structure Manager (B : π → Type) where
  registry : Registry B
  isDNS1123Label : String → List String

/-- The status that `setStatus` writes over the one it fetched. -/
def statusOf (svc fresh : FrameService) (status reason message : String) (sizing : Option Sizing) (provisioned : Slice ProvisionedRef)
    (now : Time) : FrameServiceStatus :=
  { fresh.status with
    binding := svc.status.binding
    provisioned := if provisioned.isSome then provisioned else fresh.status.provisioned
    observedGeneration := fresh.generation
    sizing := sizing.getD fresh.status.sizing
    conditions := some (Meta.setStatusCondition (fresh.status.conditions.getD [])
      { type := "Ready", status := status, reason := reason, message := message, observedGeneration := fresh.generation } now) }

/-- `setStatus`. -/
def setStatus (svc : FrameService) (status reason message : String) (sizing : Option Sizing) (provisioned : Slice ProvisionedRef) :
    Prog B (Except String Unit) := do
  match ← getService svc.key true with
  | .error e => if e = .notFound then return .ok () else return .error e.text
  | .ok fresh =>
    let t ← now
    match ← updateStatus fresh (statusOf svc fresh.val status reason message sizing provisioned t) with
    | .ok () => return .ok ()
    | .error e => return .error e.text

/-- The end of a pass: the status, and when to look again. -/
def finish (after : Requeue) (svc : FrameService) (status reason message : String) (sizing : Option Sizing)
    (provisioned : Slice ProvisionedRef) : Prog B (Except String Requeue) := do
  return (← setStatus svc status reason message sizing provisioned).map fun _ => after

/-- The objects of a provider that `deletionPolicy: Delete` reaches. -/
def deleteProvisioned : List ProvisionedRef → Prog B (Except String Unit)
  | [] => return .ok ()
  | ref :: rest => do
    match ← (Program.ask (Call.drop ref) : Prog B (Except Error Unit)) with
    | .ok () => deleteProvisioned rest
    | .error e =>
      if e = .notFound then deleteProvisioned rest
      else return .error ("deleting " ++ ref.kind ++ " " ++ ref.namespaceName ++ "/" ++ ref.name ++ ": " ++ e.text)

/-- `reconcileDelete`. -/
def reconcileDelete (svc : Stamped FrameService) : Prog B (Except String Requeue) := do
  match ← deleteAllProjections svc.val with
  | .error (.degradation reason message) =>
    finish .degraded svc.val "False" reason (message ++ "; deletion waits (finalizer kept) until then") none none
  | .error (.failed message) => return .error ("deleting projected Secrets for " ++ svc.val.title ++ ": " ++ message)
  | .ok () =>
    match ← (if svc.val.spec.deletionPolicy = "Delete" then deleteProvisioned (svc.val.status.provisioned.getD [])
        else return .ok ()) with
    | .error e => return .error e
    | .ok () =>
      match ← updateService svc (svc.val.finalizers.filter (· ≠ frameServiceFinalizer)) with
      | .ok () => return .ok .none
      | .error e => return .error e.text

/-- `Reconcile` once the instance is up: what consumers need is published. -/
def reconcileReady (M : Manager B) (svc : FrameService) (sizing : Sizing) (result : Result) (binding : Binding) :
    Prog B (Except String Requeue) := do
  if binding.none then
    let bound := { svc with status := { svc.status with binding := { svc.status.binding with endpoint := binding.endpoint } } }
    finish .ready bound "True" result.reason result.message (some sizing) result.provisioned
  else
    match ← reconcileBinding M.isDNS1123Label svc binding with
    | (svc, .error (.degradation reason message)) => finish .degraded svc "False" reason message (some sizing) result.provisioned
    | (_, .error (.failed message)) => return .error ("reconciling binding for " ++ svc.key.name ++ ": " ++ message)
    | (svc, .ok name) =>
      let bound :=
        { svc with
          status := { svc.status with
            binding := { svc.status.binding with endpoint := binding.endpoint, secretRef := some { name := name } } } }
      finish .ready bound "True" result.reason result.message (some sizing) result.provisioned

/-- `Reconcile` once the provider is known and the instance has a size. -/
def reconcileSized (M : Manager B) (p : Provisioner B) (svc : FrameService) (sizing : Sizing) : Prog B (Except String Requeue) := do
  match ← Prog.side (p.reconcile svc) with
  | .error e => return .error ("provisioning " ++ svc.spec.type ++ ": " ++ e)
  | .ok result =>
    if !result.ready then finish .degraded svc "False" result.reason result.message (some sizing) result.provisioned
    else
      match ← Prog.side (p.bind svc) with
      | .error (.forbidden e) => finish .degraded svc "False" reasonSecretAccessForbidden e.text (some sizing) result.provisioned
      | .error (.failed e) => return .error ("binding " ++ svc.key.name ++ ": " ++ e)
      | .ok binding => reconcileReady M svc sizing result binding

/-- `Reconcile` of a FrameService with the finalizer. -/
def reconcileInstance (M : Manager B) (svc : FrameService) : Prog B (Except String Requeue) :=
  match M.registry.get svc.spec.type with
  | .error e => finish .none svc "False" "UnknownType" e none none
  | .ok .validates =>
    finish .none svc "False" "NotProvisionable" ("provider " ++ goQuote svc.spec.type ++
      " can validate but cannot provision") none none
  | .ok (.provisions p) => do
    match ← Prog.side (p.size svc.params) with
    | .error (.unread e) => return .error e
    | .error (.refused e) => finish .degraded svc "False" "SizeRefused" e none none
    | .ok sizing => reconcileSized M p svc sizing

/-- `Reconcile`. -/
def reconcile (M : Manager B) (key : NamespacedName) : Prog B (Except String Requeue) := do
  match ← getService key false with
  | .error e => if e = .notFound then return .ok .none else return .error e.text
  | .ok svc =>
    if svc.val.deleting then reconcileDelete svc
    else if frameServiceFinalizer ∈ svc.val.finalizers then reconcileInstance M svc.val
    else
      -- the finalizer lands before the provider runs
      match ← updateService svc (svc.val.finalizers ++ [frameServiceFinalizer]) with
      | .ok () => return .ok .none
      | .error e => return .error e.text

/-- The controller: one pass after the other, each for one FrameService. -/
def frameServiceReconciler {τ χ ω : Type} (M : Manager B) (S : Side τ χ ω B) :
    Runner NamespacedName (Cluster × τ) (Answer × χ) (Outside ⊕ ω) (Call.Resp B) (Except String Requeue) where
  pass := reconcile M
  exec := S.serve
  outside := S.happens

end FrameOperator.Services
