import FrameOperator.Services.CacheObjects
import FrameOperator.Services.Postgres

/-!
# The cache provider

`internal/services/provider/cache`, one definition for each of its functions. How quantities and names are read, how a template is
hashed and a password digested and quoted are parameters. The schema of the parameters is left out.
-/

namespace FrameOperator.Services

open Api
open V1beta1 (Sizing)

namespace Cache

/-- What the provider takes from its libraries. -/
structure Env where
  parseQuantity : String → Except String Int
  isDNS1035Label : String → List String
  -- the SHA-256 sum of a template's JSON, in hexadecimal
  hashOf : Template → Except String String
  -- the HMAC of a password under a salt, in hexadecimal
  hmac : Bytes → Bytes → String
  -- a Go string literal
  quote : Bytes → Bytes

/-- A part of the provider's work. -/
abbrev Prog : Type → Type := Program Request.Resp

/-- Why a pass fails: what the API server said, where that is the reason. -/
structure Failure where
  text : String
  cause : Option Error := none

/-- What a part of a pass comes to: the pass stops with a result, or goes on. -/
inductive Step (α : Type) where
  | stop (result : Result)
  | go (a : α)

abbrev Outcome (α : Type) : Type := Except Failure (Step α)

/-- A part of a pass, and the rest of it. -/
def andThen {α β : Type} (p : Prog (Outcome α)) (f : α → Prog (Outcome β)) : Prog (Outcome β) := do
  match ← p with
  | .error e => return .error e
  | .ok (.stop result) => return .ok (.stop result)
  | .ok (.go a) => f a

def profileQueue : String := "queue"

def ownerLabel : String := "services.plume-labs.io/frameservice"
def profileAnnotation : String := "services.plume-labs.io/cache-profile"
def volumeUIDAnnotation : String := "services.plume-labs.io/volume-uid"
def templateHashAnnotation : String := "services.plume-labs.io/template-hash"

def passwordKey : String := "password"
def saltKey : String := "digest-salt"
def authConfKey : String := "auth.conf"

def reasonNotOwned : String := "NotOwned"
def reasonSpecDrift : String := "SpecDrift"
def reasonInstanceLost : String := "InstanceLost"
def reasonProvisioning : String := "Provisioning"

def degraded (reason message : String) : Result := { reason := reason, message := message }

def failed (what : String) (e : Error) : Failure := ⟨what ++ ": " ++ e.text, some e⟩

def authSecretName (svc : String) : String := svc ++ "-valkey-auth"

/-- `volumeName`: the claim the StatefulSet controller makes for its one pod. -/
def volumeName (svc : String) : String := "data-" ++ svc ++ "-0"

def volumeKey (key : NamespacedName) : NamespacedName := ⟨key.namespaceName, volumeName key.name⟩

/-- `metav1.IsControlledBy`. -/
def isControlledBy (controller : Option OwnerRef) (svc : FrameService) : Bool := (controller.map OwnerRef.uid) = some svc.uid

/-- What a new object has for `controllerutil.SetControllerReference`. -/
def controllerOf (svc : FrameService) : OwnerRef := ⟨servicesGroup, "FrameService", svc.key.name, svc.uid⟩

/-- `hex.EncodeToString`. -/
def hexEncode (bs : Bytes) : Bytes :=
  let digit := fun n : UInt8 => if n < 10 then n + 48 else n + 87
  bs.flatMap fun b => [digit (b / 16), digit (b % 16)]

/-- `Size`. -/
def size (env : Env) (params : GoMap String String) : Except String Sizing :=
  match env.parseQuantity (valueOf params "maxMemory") with
  | .error e => .error ("maxMemory: " ++ e)
  | .ok maxMemory =>
    let mib := maxMemory / 1048576
    if valueOf params "profile" = profileQueue then
      if valueOf params "volumeSize" = "" then .error "a queue needs volumeSize"
      else
        match env.parseQuantity (valueOf params "volumeSize") with
        | .error e => .error ("volumeSize: " ++ e)
        | .ok volume =>
          if volume < 3 * maxMemory then
            .error ("volumeSize " ++ valueOf params "volumeSize" ++ " is under three times maxMemory " ++ valueOf params "maxMemory" ++
              ": an AOF rewrite holds the old base, its log and the new base at once")
          else .ok { cpu := "100m", memory := toString (2 * mib + 64) ++ "Mi" }
    else if valueOf params "volumeSize" ≠ "" || valueOf params "storageClass" ≠ "" || valueOf params "restoredVolumeUID" ≠ "" then
      .error "volumeSize, storageClass and restoredVolumeUID belong to the queue profile: a cache has no volume"
    else .ok { cpu := "100m", memory := toString (mib + mib / 4 + 64) ++ "Mi" }

/-! ## What is there -/

/-- `findOwned`: the object named after the instance, if it is the FrameService's. -/
def findOwned {α : Type} (get : Prog (Except Error α)) (controller : α → Option OwnerRef) (svc : FrameService) (kind : String) :
    Prog (Outcome (Option α)) := do
  match ← get with
  | .error e => if e = .notFound then return .ok (.go none) else return .error (failed ("reading the " ++ kind) e)
  | .ok o =>
    if !isControlledBy (controller o) svc then
      return .ok (.stop (degraded reasonNotOwned ("a " ++ kind ++ " " ++ svc.key.name ++
        " exists and this FrameService did not create it: nothing written")))
    else return .ok (.go (some o))

/-- `driftOf`. -/
def driftOf (sts : StatefulSet) (params : GoMap String String) : String :=
  let profile := valueOf params "profile"
  let live := valueOf sts.annotations profileAnnotation
  if live ≠ profile then "profile is " ++ goQuote profile ++ ", the instance was created as " ++ goQuote live
  else if profile ≠ profileQueue then ""
  else
    match sts.claimTemplates with
    | [] => ""
    | claim :: _ =>
      let class' := claim.storageClassName.getD ""
      if valueOf params "storageClass" ≠ class' then
        "storageClass is " ++ goQuote (valueOf params "storageClass") ++ ", the instance has " ++ goQuote class'
      else ""

/-- `checkVolume`: the volume of a queue, or none where there is none yet and none was expected. -/
def checkVolume (env : Env) (svc : FrameService) (params : GoMap String String) : Prog (Outcome (Option Volume)) := do
  match ← Program.ask (Request.getVolume (volumeKey svc.key)) with
  | .error e =>
    if e = .notFound then
      if svc.status.binding.endpoint ≠ "" then
        return .ok (.stop (degraded reasonInstanceLost ("queue " ++ svc.key.name ++ " was serving and its volume " ++
          volumeName svc.key.name ++ " has disappeared: not started on an empty one; restore it under that name, labelled " ++
          ownerLabel ++ "=" ++ svc.key.name)))
      else return .ok (.go none)
    else return .error (failed "reading the volume" e)
  | .ok pvc =>
    let class' := valueOf params "storageClass"
    if valueOf pvc.labels ownerLabel ≠ svc.key.name then
      return .ok (.stop (degraded reasonNotOwned ("a volume " ++ pvc.key.name ++
        " exists and is not labelled as this FrameService's: nothing written")))
    else if class' ≠ "" && pvc.storageClassName.isSome && pvc.storageClassName ≠ some class' then
      return .ok (.stop (degraded reasonSpecDrift ("nothing written: storageClass is " ++ goQuote class' ++ ", the volume " ++
        pvc.key.name ++ " has " ++ goQuote (pvc.storageClassName.getD ""))))
    else
      match Postgres.mustParse env.parseQuantity (valueOf params "volumeSize") with
      | .error e => return .error ⟨e, none⟩
      | .ok want =>
        if want < pvc.request.value then
          return .ok (.stop (degraded "VolumeShrinkRefused" ("volumeSize " ++
            valueOf params "volumeSize" ++ " is under the volume's " ++
            pvc.request.text ++ ": a volume cannot shrink")))
        else return .ok (.go (some pvc))

def StatefulSet.recorded (sts : StatefulSet) : String := valueOf sts.annotations volumeUIDAnnotation

/-- `checkVolumeIdentity`, and the StatefulSet as it is then. -/
def checkVolumeIdentity (sts : Stamped StatefulSet) (volume : Volume) (params : GoMap String String) :
    Prog (Outcome (Stamped StatefulSet)) :=
  if sts.val.recorded = volume.uid then return .ok (.go sts)
  else if sts.val.recorded ≠ "" && valueOf params "restoredVolumeUID" ≠ volume.uid then
    return .ok (.stop (degraded reasonInstanceLost ("the volume of queue " ++ sts.val.key.name ++
      " is no longer the one it ran on (UID " ++ sts.val.recorded ++ ", now " ++ volume.uid ++
      "): its data may be gone; restore what is needed, then set restoredVolumeUID to the volume's UID. " ++
      "Deleting the StatefulSet would forget this record")))
  else do
    let recording := { sts.val with annotations := sts.val.annotations.copySet volumeUIDAnnotation volume.uid }
    match ← Program.ask (Request.updateStatefulSet ⟨sts.rev, recording⟩) with
    | .error e => return .error (failed "recording the volume's UID" e)
    | .ok sts => return .ok (.go sts)

/-- `growVolume`: the pass stops while a growth is under way, or refused. -/
def growVolume (env : Env) (pvc : Volume) (size : String) : Prog (Outcome Unit) :=
  match Postgres.mustParse env.parseQuantity size with
  | .error e => return .error ⟨e, none⟩
  | .ok want =>
    if want = pvc.request.value || !pvc.bound then return .ok (.go ())
    else do
      match ← Program.ask (Request.patchVolume pvc ⟨want, size⟩) with
      | .ok () => return .ok (.stop (degraded reasonProvisioning ("volume " ++ pvc.key.name ++ " growing to " ++ size)))
      | .error e =>
        if isForbidden e || e = .invalid then
          return .ok (.stop (degraded "VolumeGrowRefused" ("volume " ++ pvc.key.name ++ " cannot grow to " ++ size ++ ": " ++ e.text)))
        else return .error (failed "growing the volume" e)

/-! ## The auth Secret -/

def authConf (env : Env) (password : Bytes) : Bytes := utf8 "requirepass " ++ env.quote password ++ utf8 "\n"

def authForbidden (svc : FrameService) (action : String) : Outcome String :=
  .ok (.stop (degraded reasonSecretAccessForbidden (SecretAccessForbidden.text ⟨svc.key.namespaceName, action⟩)))

/-- `ensureAuth` where there is no Secret yet. -/
def createAuth (env : Env) (svc : FrameService) : Prog (Outcome String) := do
  match ← Program.ask Request.random with
  | .error e => return .error ⟨e, none⟩
  | .ok raw =>
    match ← Program.ask Request.random with
    | .error e => return .error ⟨e, none⟩
    | .ok salt =>
      let password := hexEncode raw
      let secret : AuthSecret :=
        { key := ⟨svc.key.namespaceName, authSecretName svc.key.name⟩
          controller := some (controllerOf svc)
          data := [(passwordKey, password), (authConfKey, authConf env password), (saltKey, salt)].foldl
            (fun m e => m.copySet e.1 e.2) none }
      match ← Program.ask (Request.createSecret secret) with
      | .ok () => return .ok (.go (env.hmac salt password))
      | .error e => if isForbidden e then return authForbidden svc "write" else return .error (failed "creating the auth Secret" e)

def completeAuth (env : Env) (svc : FrameService) (secret : Stamped AuthSecret) (password : Bytes) (salt : Bytes) :
    Prog (Outcome String) := do
  let data := (secret.val.data.copySet authConfKey (authConf env password)).copySet saltKey salt
  match ← Program.ask (Request.updateSecret ⟨secret.rev, { secret.val with data := data }⟩) with
  | .ok () => return .ok (.go (env.hmac salt password))
  | .error e => if isForbidden e then return authForbidden svc "write" else return .error (failed "updating the auth Secret" e)

/-- `ensureAuth`: the digest of the instance's password. -/
def ensureAuth (env : Env) (svc : FrameService) : Prog (Outcome String) := do
  let name := authSecretName svc.key.name
  match ← Program.ask (Request.getSecret ⟨svc.key.namespaceName, name⟩) with
  | .error e =>
    if isForbidden e then return authForbidden svc "read"
    else if e ≠ .notFound then return .error (failed "reading the auth Secret" e)
    else createAuth env svc
  | .ok secret =>
    let password := (secret.val.data.get? passwordKey).getD []
    let salt := (secret.val.data.get? saltKey).getD []
    if !isControlledBy secret.val.controller svc then
      return .ok (.stop (degraded reasonNotOwned ("a Secret " ++ name ++
        " exists and this FrameService did not create it: nothing written")))
    else if password = [] then
      return .ok (.stop (degraded "AuthSecretInvalid" ("Secret " ++ name ++ " has no " ++ goQuote passwordKey ++
        " key: delete it for a new password")))
    else if salt = [] then
      match ← Program.ask Request.random with
      | .error e => return .error ⟨e, none⟩
      | .ok fresh => completeAuth env svc secret password fresh
    else if (secret.val.data.get? authConfKey).getD [] ≠ authConf env password then completeAuth env svc secret password salt
    else return .ok (.go (env.hmac salt password))

/-! ## The StatefulSet -/

/-- `createService`, of a Service that is missing. -/
def ensureService (svc : FrameService) (exists' : Bool) : Prog (Outcome Unit) :=
  if exists' then return .ok (.go ())
  else do
    match ← Program.ask (Request.createService { key := svc.key, controller := some (controllerOf svc) }) with
    | .ok () => return .ok (.go ())
    | .error e => return .error (failed "creating the Service" e)

/-- `serverArgs`. -/
def serverArgs (env : Env) (params : GoMap String String) : Except String (List String) :=
  match env.parseQuantity (valueOf params "maxMemory") with
  | .error e => .error ("maxMemory: " ++ e)
  | .ok maxMemory =>
    let args := ["valkey-server", "/etc/valkey-auth/" ++ authConfKey, "--dir", "/data",
      "--maxmemory", toString maxMemory, "--save", ""]
    if valueOf params "profile" = profileQueue then
      .ok (args ++ ["--maxmemory-policy", "noeviction", "--appendonly", "yes", "--appendfsync", "everysec"])
    else .ok (args ++ ["--maxmemory-policy", "allkeys-lru", "--appendonly", "no"])

/-- `podTemplate`. -/
def podTemplate (env : Env) (svc : FrameService) (params : GoMap String String) (sizing : Sizing) (digest : String) :
    Except String Template :=
  (serverArgs env params).map fun args =>
    { owner := svc.key.name
      authDigest := digest
      serviceClass := svc.spec.serviceClass.value
      priorityClassName := Postgres.priorityClassForServiceClass svc.spec.serviceClass.value
      authSecret := authSecretName svc.key.name
      emptyDir := valueOf params "profile" ≠ profileQueue
      args := args
      cpu := sizing.cpu
      memory := sizing.memory }

/-- `createStatefulSet`. -/
def createStatefulSet (env : Env) (svc : FrameService) (params : GoMap String String) (template : Template) (hash : String) :
    Prog (Outcome Result) := do
  let claims : Except String (List ClaimTemplate) :=
    if valueOf params "profile" = profileQueue then
      let class' := valueOf params "storageClass"
      (Postgres.mustParse env.parseQuantity (valueOf params "volumeSize")).map fun want =>
        [{ storageClassName := if class' ≠ "" then some class' else none, request := ⟨want, valueOf params "volumeSize"⟩ }]
    else .ok []
  match claims with
  | .error e => return .error ⟨e, none⟩
  | .ok claims =>
    let sts : StatefulSet :=
      { key := svc.key
        controller := some (controllerOf svc)
        annotations := (GoMap.copySet none profileAnnotation (valueOf params "profile")).copySet templateHashAnnotation hash
        replicas := some 1
        template := template
        claimTemplates := claims }
    match ← Program.ask (Request.createStatefulSet sts) with
    | .error e => return .error (failed "creating the StatefulSet" e)
    | .ok () => return .ok (.go (degraded reasonProvisioning ("StatefulSet " ++ svc.key.name ++ " created, waiting for its pod")))

/-- `readiness`. -/
def readiness (sts : StatefulSet) (svc : FrameService) (params : GoMap String String) : Result :=
  if sts.status.observedGeneration ≥ sts.generation ∧ sts.status.readyReplicas ≥ 1 ∧ sts.status.updatedReplicas ≥ 1 then
    { ready := true, reason := "Running", message := svc.key.name ++ " running, profile " ++ valueOf params "profile" }
  else
    degraded reasonProvisioning ("waiting for the pod of " ++ svc.key.name ++
      "; if none appears, kubectl describe statefulset says why")

/-- `rollOut`. -/
def rollOut (sts : Stamped StatefulSet) (svc : FrameService) (params : GoMap String String) (template : Template) (hash : String) :
    Prog (Outcome Result) :=
  if valueOf sts.val.annotations templateHashAnnotation = hash && sts.val.replicas = some 1 then
    return .ok (.go (readiness sts.val svc params))
  else do
    let moved :=
      { sts.val with
        template := template, replicas := some 1, annotations := sts.val.annotations.copySet templateHashAnnotation hash }
    match ← Program.ask (Request.updateStatefulSet ⟨sts.rev, moved⟩) with
    | .error e => return .error (failed "updating the StatefulSet" e)
    | .ok _ => return .ok (.go (degraded reasonProvisioning ("StatefulSet " ++ svc.key.name ++ " updated, the server restarts")))

/-! ## The pass -/

/-- The queue's guard on its data; a cache has no volume. -/
def findVolume (env : Env) (svc : FrameService) (params : GoMap String String) : Prog (Outcome (Option Volume)) :=
  if valueOf params "profile" = profileQueue then checkVolume env svc params else return .ok (.go none)

def identify (sts : Option (Stamped StatefulSet)) (volume : Option Volume) (params : GoMap String String) :
    Prog (Outcome (Option (Stamped StatefulSet))) :=
  match volume, sts with
  | some volume, some sts => andThen (checkVolumeIdentity sts volume params) fun sts => return .ok (.go (some sts))
  | _, sts => return .ok (.go sts)

/-- `converge` on the instance's own: what is missing is made, what moved rolled out. -/
def provision (env : Env) (svc : FrameService) (params : GoMap String String) (sizing : Sizing) (sts : Option (Stamped StatefulSet))
    (serviceExists : Bool) (volume : Option Volume) : Prog (Outcome Result) :=
  andThen (ensureAuth env svc) fun digest =>
    andThen (ensureService svc serviceExists) fun _ =>
      -- before the template: a refused growth must not restart the server for the other half of the same edit
      andThen (match volume with
        | some pvc => growVolume env pvc (valueOf params "volumeSize")
        | none => return .ok (.go ())) fun _ =>
        match podTemplate env svc params sizing digest with
        | .error e => return .error ⟨e, none⟩
        | .ok template =>
          match env.hashOf template with
          | .error e => return .error ⟨e, none⟩
          | .ok hash =>
            match sts with
            | none => createStatefulSet env svc params template hash
            | some sts => rollOut sts svc params template hash

def checkDrift (sts : Option (Stamped StatefulSet)) (params : GoMap String String) : Outcome Unit :=
  match sts.map fun sts => driftOf sts.val params with
  | some drift => if drift ≠ "" then .ok (.stop (degraded reasonSpecDrift ("nothing written: " ++ drift))) else .ok (.go ())
  | none => .ok (.go ())

/-- `converge`. -/
def converge (env : Env) (svc : FrameService) : Prog (Outcome Result) :=
  if env.isDNS1035Label svc.key.name ≠ [] ∨ svc.key.name.utf8ByteSize > 52 then
    return .ok (.stop (degraded "InvalidName" (goQuote svc.key.name ++
      " cannot name this instance: at most 52 characters, a DNS label starting with a letter")))
  else
    match size env svc.params with
    | .error e => return .error ⟨e, none⟩
    | .ok sizing =>
      andThen (findOwned (Program.ask (Request.getStatefulSet svc.key)) (fun sts => sts.val.controller) svc "StatefulSet") fun sts =>
        andThen (return checkDrift sts svc.params) fun _ =>
          andThen (findOwned (Program.ask (Request.getService svc.key))
            (fun service => service.controller) svc "Service") fun service =>
            andThen (findVolume env svc svc.params) fun volume =>
              andThen (identify sts volume svc.params) fun sts =>
                provision env svc svc.params sizing sts service.isSome volume

/-- `Reconcile`: a write that lost to the cached read it was based on is no failure. -/
def reconcile (env : Env) (svc : FrameService) : Prog (Except String Result) := do
  match ← converge env svc with
  | .ok (.stop result) | .ok (.go result) => return .ok result
  | .error e =>
    if e.cause = some .alreadyExists ∨ e.cause = some .conflict then
      return .ok (degraded reasonProvisioning (svc.key.name ++ " changed during this pass, reading it again"))
    else return .error e.text

/-- The passes of the provider, each for a FrameService as the controller has it. -/
def reconciler (env : Env) : Runner FrameService Objects Answer Outside Request.Resp (Except String Result) where
  pass := reconcile env
  exec := Objects.exec
  outside := Objects.outside

end Cache

end FrameOperator.Services
