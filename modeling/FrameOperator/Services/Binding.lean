import FrameOperator.Services.Provider

/-!
# The credentials Secrets of a FrameService

`internal/controller/services/binding.go`, one definition for each of its functions. Which coordinates are a FrameService's is
decided by its record in `status.binding.projected`.
-/

namespace FrameOperator.Services

open Api
open V1beta1 (ProjectedSecretRef BindingStatus)

variable {π : Type} {B : π → Type}

abbrev now : Prog B Time := Program.ask (Call.own .now)

abbrev getService (key : NamespacedName) (again : Bool) : Prog B (Except Error (Stamped FrameService)) :=
  Program.ask (Call.own (.getService key again))

abbrev updateService (base : Stamped FrameService) (finalizers : List String) : Prog B (Except Error Unit) :=
  Program.ask (Call.own (.updateService base finalizers))

abbrev updateStatus (base : Stamped FrameService) (status : V1beta1.FrameServiceStatus) : Prog B (Except Error Unit) :=
  Program.ask (Call.own (.updateStatus base status))

abbrev getNamespace (name : String) : Prog B (Except Error Unit) := Program.ask (Call.own (.getNamespace name))

abbrev getSecret (coord : ProjectedSecretRef) : Prog B (Except Error (Stamped Secret)) := Program.ask (Call.own (.getSecret coord))

abbrev createSecret (service : NamespacedName) (secret : Secret) : Prog B (Except Error Unit) :=
  Program.ask (Call.own (.createSecret service secret))

abbrev updateSecret (service : NamespacedName) (base : Stamped Secret) (secret : Secret) : Prog B (Except Error Unit) :=
  Program.ask (Call.own (.updateSecret service base secret))

abbrev deleteSecret (service : NamespacedName) (coord : ProjectedSecretRef) : Prog B (Except Error Unit) :=
  Program.ask (Call.own (.deleteSecret service coord))

/-- Why a binding is not reconciled: `bindingDegradation`, or a failure. -/
inductive BindingError where
  | degradation (reason message : String)
  | failed (message : String)

def ownedByLabel : String := "frame.plume-labs.io/owned-by"

def ownedByValue (svc : FrameService) : String := svc.key.namespaceName ++ "." ++ svc.key.name

def secretName (svc : FrameService) : String :=
  if svc.spec.binding.secretName ≠ "" then svc.spec.binding.secretName else svc.key.name

def coordText (coord : ProjectedSecretRef) : String := coord.namespaceName ++ "/" ++ coord.name

def FrameService.title (svc : FrameService) : String := svc.key.namespaceName ++ "/" ++ svc.key.name

def isForbidden : Error → Bool
  | .fault (.forbidden _) => true
  | _ => false

def secretAccessForbidden (ns : String) : BindingError :=
  .degradation reasonSecretAccessForbidden (SecretAccessForbidden.text ⟨ns, "write"⟩)

/-- `coordsMissingFrom`: the entries of `coords` not present in `other`. -/
def coordsMissingFrom (coords other : List ProjectedSecretRef) : List ProjectedSecretRef := coords.filter (· ∉ other)

def FrameService.withProjected (svc : FrameService) (coords : List ProjectedSecretRef) : FrameService :=
  { svc with status := { svc.status with binding := { svc.status.binding with projected := some coords } } }

/-- `checkNamespaceExists`; `isDNS1123Label` lists what is wrong with a name. -/
def checkNamespaceExists (isDNS1123Label : String → List String) (ns : String) : Prog B (Except BindingError Unit) :=
  if isDNS1123Label ns ≠ [] then
    return .error (.degradation "ProjectedNamespaceInvalid" ("namespace " ++ goQuote ns ++
      " listed in spec.binding.projectTo is not a valid namespace name: " ++ String.intercalate "; " (isDNS1123Label ns)))
  else do
    match ← getNamespace ns with
    | .ok () => return .ok ()
    | .error e =>
      if e = .notFound then
        return .error (.degradation "ProjectedNamespaceMissing" ("namespace " ++ goQuote ns ++
          " listed in spec.binding.projectTo does not exist"))
      else return .error (.failed ("checking namespace " ++ goQuote ns ++ ": " ++ e.text))

/-- The coordinates in the namespaces that a FrameService projects to; its own namespace is left out. -/
def projectedCoords (isDNS1123Label : String → List String) (own name : String) :
    List String → Prog B (Except BindingError (List ProjectedSecretRef))
  | [] => return .ok []
  | ns :: rest =>
    if ns = own then projectedCoords isDNS1123Label own name rest
    else do
      match ← checkNamespaceExists isDNS1123Label ns with
      | .error e => return .error e
      | .ok () =>
        match ← projectedCoords isDNS1123Label own name rest with
        | .error e => return .error e
        | .ok coords => return .ok (⟨ns, name⟩ :: coords)

/-- `claimNewCoordinates`. -/
def claimNewCoordinates (svc : FrameService) : List ProjectedSecretRef → Prog B (Except BindingError Unit)
  | [] => return .ok ()
  | coord :: rest => do
    match ← getSecret coord with
    | .ok _ =>
      return .error (.degradation "BindingConflict" ("Secret " ++ coordText coord ++
        " already exists and was not written by FrameService " ++
        svc.title))
    | .error e =>
      if e = .notFound then claimNewCoordinates svc rest
      else if isForbidden e then return .error (secretAccessForbidden coord.namespaceName)
      else return .error (.failed ("checking Secret " ++ coordText coord ++ ": " ++ e.text))

/-- `persistBindingStatus`. -/
def persistBindingStatus (svc : FrameService) : Prog B (Except BindingError Unit) := do
  match ← getService svc.key true with
  | .error e => return .error (.failed ("re-fetching FrameService " ++ svc.title ++ " before recording binding: " ++ e.text))
  | .ok fresh =>
    match ← updateStatus fresh
        { fresh.val.status with binding := { fresh.val.status.binding with projected := svc.status.binding.projected } } with
    | .ok () => return .ok ()
    | .error e => return .error (.failed ("recording projected Secrets for " ++ svc.title ++ ": " ++ e.text))

/-! ## Writing and deleting -/

def servicesGroup : String := "services.plume-labs.io"

/-- `controllerutil.SetControllerReference`: an object has one controller, which is told by its kind and name. -/
def setControllerReference (svc : FrameService) (secret : Secret) : Except String Secret :=
  let owned := { secret with controller := some ⟨servicesGroup, "FrameService", svc.key.name, svc.uid⟩ }
  match secret.controller with
  | none => .ok owned
  | some owner =>
    if owner.group = servicesGroup && owner.kind = "FrameService" && owner.name = svc.key.name then .ok owned
    else .error ("Object " ++ coordText secret.coord ++ " is already owned by another " ++ owner.kind ++ " controller " ++ owner.name)

def secretOf (svc : FrameService) (data : GoMap String Bytes) (secret : Secret) : Except String Secret :=
  let filled := { secret with labels := secret.labels.copySet ownedByLabel (ownedByValue svc), data := data }
  if secret.coord.namespaceName = svc.key.namespaceName then setControllerReference svc filled else .ok filled

/-- Why a Secret is not written. -/
inductive WriteError where
  | api (e : Error)
  | mutate (text : String)

def WriteError.toBinding (coord : ProjectedSecretRef) : WriteError → BindingError
  | .api e =>
    if isForbidden e then secretAccessForbidden coord.namespaceName
    else .degradation "SecretWriteFailed" ("writing Secret " ++ coordText coord ++ ": " ++ e.text)
  | .mutate text => .degradation "SecretWriteFailed" ("writing Secret " ++ coordText coord ++ ": " ++ text)

/-- `controllerutil.CreateOrUpdate`. -/
def createOrUpdate (svc : FrameService) (coord : ProjectedSecretRef) (data : GoMap String Bytes) :
    Prog B (Except WriteError Unit) := do
  match ← getSecret coord with
  | .error e =>
    if e = .notFound then
      match secretOf svc data { coord := coord } with
      | .error text => return .error (.mutate text)
      | .ok secret => return (← createSecret svc.key secret).mapError WriteError.api
    else return .error (.api e)
  | .ok existing =>
    match secretOf svc data existing.val with
    | .error text => return .error (.mutate text)
    | .ok secret =>
      if secret = existing.val then return .ok ()
      else return (← updateSecret svc.key existing secret).mapError WriteError.api

/-- `writeSecret`. -/
def writeSecret (svc : FrameService) (coord : ProjectedSecretRef) (data : GoMap String Bytes) : Prog B (Except BindingError Unit) := do
  return (← createOrUpdate svc coord data).mapError (WriteError.toBinding coord)

def writeSecrets (svc : FrameService) (data : GoMap String Bytes) : List ProjectedSecretRef → Prog B (Except BindingError Unit)
  | [] => return .ok ()
  | coord :: rest => do
    match ← writeSecret svc coord data with
    | .error e => return .error e
    | .ok () => writeSecrets svc data rest

/-- `deleteSecrets`. -/
def deleteSecrets (service : NamespacedName) : List ProjectedSecretRef → Prog B (Except BindingError Unit)
  | [] => return .ok ()
  | coord :: rest => do
    match ← deleteSecret service coord with
    | .ok () => deleteSecrets service rest
    | .error e =>
      if isForbidden e then
        return .error (.degradation reasonSecretAccessForbidden ("cannot delete Secret " ++ coordText coord ++ ": " ++
          SecretAccessForbidden.text ⟨coord.namespaceName, "delete"⟩))
      else if e = .notFound then deleteSecrets service rest
      else return .error (.failed ("deleting Secret " ++ coordText coord ++ ": " ++ e.text))

def FrameService.outsideOwn (svc : FrameService) : List ProjectedSecretRef :=
  svc.projected.filter (·.namespaceName ≠ svc.key.namespaceName)

/-- `deleteAllProjections`. -/
def deleteAllProjections (svc : FrameService) : Prog B (Except BindingError Unit) := deleteSecrets svc.key svc.outsideOwn

/-! ## The binding -/

/-- New coordinates are checked and recorded, on the pass's copy whether or not it was persisted. -/
def recordNew (svc : FrameService) (toAdd : List ProjectedSecretRef) : Prog B (FrameService × Except BindingError Unit) :=
  if toAdd = [] then return (svc, .ok ())
  else do
    match ← claimNewCoordinates svc toAdd with
    | .error e => return (svc, .error e)
    | .ok () =>
      let recorded := svc.withProjected (svc.projected ++ toAdd)
      return (recorded, ← persistBindingStatus recorded)

/-- `reconcileBinding`: the pass's copy of the FrameService, and the name to publish as `status.binding.secretRef`. -/
def reconcileBinding (isDNS1123Label : String → List String) (svc : FrameService) (binding : Binding) :
    Prog B (FrameService × Except BindingError String) := do
  let name := secretName svc
  match ← projectedCoords isDNS1123Label svc.key.namespaceName name (svc.spec.binding.projectTo.getD []) with
  | .error e => return (svc, .error e)
  | .ok others =>
    let desired := ⟨svc.key.namespaceName, name⟩ :: others
    match ← recordNew svc (coordsMissingFrom desired svc.projected) with
    | (recorded, .error e) => return (recorded, .error e)
    | (recorded, .ok ()) =>
      match ← writeSecrets recorded binding.data desired with
      | .error e => return (recorded, .error e)
      | .ok () =>
        match ← deleteSecrets svc.key (coordsMissingFrom svc.projected desired) with
        | .error e => return (recorded, .error e)
        | .ok () => return (recorded.withProjected desired, .ok name)

end FrameOperator.Services
