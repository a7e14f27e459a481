import FrameOperator.Services.Types

/-!
# Providers

The seam between the FrameService controller and the service types (`internal/services/provider`): a provider makes calls of its own
kind, to objects of its own.
-/

namespace FrameOperator.Services

open Api
open V1beta1 (Sizing ProvisionedRef ParameterValue)

/-- `provider.Params`. -/
def FrameService.params (svc : FrameService) : GoMap String String := svc.spec.parameters.mapValues ParameterValue.value

/-- What one pass of a provider achieved. -/
structure Result where
  ready : Bool := false
  reason : String := ""
  message : String := ""
  provisioned : Slice ProvisionedRef := none

/-- What a consumer needs to reach an instance; `none` says that there is no credentials Secret to write. -/
structure Binding where
  data : GoMap String Bytes := Option.none
  endpoint : String := ""
  none : Bool := false

/-- Why an instance has no size: what it is read from could not be read, or the parameters are refused. -/
inductive SizeError where
  | unread (text : String)
  | refused (text : String)

/-- `provider.SecretAccessForbidden`. -/
structure SecretAccessForbidden where
  namespaceName : String
  action : String

def SecretAccessForbidden.text (e : SecretAccessForbidden) : String :=
  "the manager may not " ++ e.action ++ " Secrets in namespace " ++ goQuote e.namespaceName ++
    ": bind ClusterRole frame-manager-secret-writer there (Helm: rbac.managerSecretAccess.write; " ++
    "kustomize: config/overlays/production)"

def reasonSecretAccessForbidden : String := "SecretAccessForbidden"

inductive BindError where
  | forbidden (e : SecretAccessForbidden)
  | failed (text : String)

/-- `provider.Provisioner`, over calls that are answered in `B`. -/
structure Provisioner {π : Type} (B : π → Type) where
  size : GoMap String String → Program B (Except SizeError Sizing)
  reconcile : FrameService → Program B (Except String Result)
  bind : FrameService → Program B (Except BindError Binding)

inductive Provider {π : Type} (B : π → Type) where
  | validates
  | provisions (p : Provisioner B)

/-- `provider.Registry`. -/
abbrev Registry {π : Type} (B : π → Type) : Type := List (String × Provider B)

/-- `Registry.Get`. -/
def Registry.get {π : Type} {B : π → Type} (registry : Registry B) (type : String) : Except String (Provider B) :=
  match registry.find? (·.1 = type) with
  | some entry => .ok entry.2
  | none => .error ("unknown service type " ++ goQuote type ++ ": valid types are " ++
      String.intercalate ", " ((registry.map Prod.fst).mergeSort fun a b => decide (a ≤ b)))

/-! ## Calls of the controller and of a provider -/

/-- A request of the controller's, the delete of a provider's object, or a provider's call. -/
inductive Call (π : Type) where
  | own (r : Request)
  | drop (ref : ProvisionedRef)
  | side (r : π)

abbrev Call.Resp {π : Type} (B : π → Type) : Call π → Type
  | own r => r.Resp
  | drop _ => Except Error Unit
  | side r => B r

/-- A part of a pass. -/
abbrev Prog {π : Type} (B : π → Type) : Type → Type := Program (Call.Resp B)

/-- A provider's part of a pass. -/
abbrev Prog.side {π α : Type} {B : π → Type} (p : Program B α) : Prog B α := p.embed Call.side fun _ a => a

/-- What the providers' calls do, what a delete by name does, and what else happens. -/
structure Side {π : Type} (τ χ ω : Type) (B : π → Type) where
  exec : τ → (r : π) → χ → τ × B r
  drop : τ → ProvisionedRef → χ → τ × Except Error Unit
  outside : τ → ω → τ

section World

variable {π τ χ ω : Type} {B : π → Type}

def Side.serve (S : Side τ χ ω B) (w : Cluster × τ) : (r : Call π) → Answer × χ → (Cluster × τ) × Call.Resp B r
  | .own r, a =>
    let done := w.1.exec r a.1
    ((done.1, w.2), done.2)
  | .drop ref, a =>
    let done := S.drop w.2 ref a.2
    ((w.1, done.1), done.2)
  | .side r, a =>
    let done := S.exec w.2 r a.2
    ((w.1, done.1), done.2)

def Side.happens (S : Side τ χ ω B) (w : Cluster × τ) : Outside ⊕ ω → Cluster × τ
  | .inl o => (w.1.outside o, w.2)
  | .inr o => (w.1, S.outside w.2 o)

end World

end FrameOperator.Services
