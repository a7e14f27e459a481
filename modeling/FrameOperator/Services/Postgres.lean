import FrameOperator.Services.Controller
import FrameOperator.Services.PostgresObjects

/-!
# The Postgres provider

`internal/services/provider/postgres`, one definition for each of its functions. How a quantity is read is a parameter: its value,
in units that all quantities are multiples of. The schema of the parameters is left out.
-/

namespace FrameOperator.Services

open Api

namespace Postgres

/-- A part of the provider's work. -/
abbrev Prog : Type → Type := Program Request.Resp

abbrev get (kind : Kind) (key : NamespacedName) : Prog (Except Error Object) := Program.ask (Request.get kind key)

abbrev create (object : Object) : Prog (Except Error Object) := Program.ask (Request.create object)

abbrev patch (kind : Kind) (key : NamespacedName) (body : Patch) : Prog (Except Error Object) :=
  Program.ask (Request.patch kind key body)

abbrev getVolume (key : NamespacedName) : Prog (Except Error Unit) := Program.ask (Request.getVolume key)

abbrev getCredentials (key : NamespacedName) : Prog (Except Error (GoMap String Bytes)) := Program.ask (Request.getCredentials key)

/-! ## Settings -/

def ownerLabel : String := "services.plume-labs.io/frameservice"
def claimedUIDAnnotation : String := "services.plume-labs.io/claimed-uid"
def keepAnnotation : String := "helm.sh/resource-policy"
def keepValue : String := "keep"
def hostnameLabel : String := "kubernetes.io/hostname"
def clusterNameLabel : String := "cluster-name"

def reasonNotOwned : String := "ClusterNotOwned"

/-- The parameters with their defaults resolved. -/
structure Settings where
  team : String
  version : String
  database : String
  owner : String
  storageClass : String
  instances : Int
  volumeSize : String
  nodes : List String
  walClaim : String
  walEndpoint : String
  walRetention : String
  adoptUID : String
  create : Bool
  noBinding : Bool
  deriving DecidableEq

/-- `strings.Split(nodes, ",")`. -/
def splitNodes (nodes : String) : List String := (nodes.toList.splitOn ',').map String.ofList

/-- `strconv.Atoi` without its error: zero, or the nearest number in range. -/
def atoi (s : String) : Int :=
  match parseInt64 s with
  | some n => n
  | none =>
    match s.toList with
    | '-' :: ds => if (parseDigits ds).isSome then -9223372036854775808 else 0
    | '+' :: ds => if (parseDigits ds).isSome then 9223372036854775807 else 0
    | ds => if (parseDigits ds).isSome then 9223372036854775807 else 0

/-- `Size`. -/
def size (params : GoMap String String) : Prog (Except SizeError V1beta1.Sizing) :=
  if valueOf params "walBucketClaim" ≠ "" && valueOf params "walEndpoint" = "" then
    return .error (.refused "walBucketClaim needs walEndpoint")
  else if valueOf params "adoptUID" ≠ "" && valueOf params "create" ≠ "" then
    return .error (.refused "adoptUID and create exclude each other")
  else if valueOf params "nodes" ≠ "" &&
      atoi (valueOf params "instances") > ((splitNodes (valueOf params "nodes")).length : Int) then
    return .error (.refused (valueOf params "instances" ++ " instances spread one per node cannot fit on the " ++
      toString (splitNodes (valueOf params "nodes")).length ++ " listed"))
  else return .ok {}

/-- The team of a cluster: its name before the first dash. -/
def teamOf (name : String) : Option String :=
  if '-' ∈ name.toList then some (String.ofList (name.toList.takeWhile (· ≠ '-'))) else none

/-- `settingsOf`. -/
def settingsOf (svc : FrameService) : Option Settings :=
  let params := svc.params
  let or := fun key fallback => if valueOf params key ≠ "" then valueOf params key else fallback
  (teamOf svc.key.name).bind fun team =>
    (parseInt64 (valueOf params "instances")).bind fun n =>
      if n < 1 then none
      else some {
        team := team
        version := or "postgresVersion" "18"
        database := or "database" team
        owner := or "owner" team
        storageClass := valueOf params "storageClass"
        instances := n
        volumeSize := valueOf params "volumeSize"
        nodes := if valueOf params "nodes" ≠ "" then splitNodes (valueOf params "nodes") else []
        walClaim := valueOf params "walBucketClaim"
        walEndpoint := valueOf params "walEndpoint"
        walRetention := or "walRetentionDays" "14"
        adoptUID := valueOf params "adoptUID"
        create := valueOf params "create" = "true"
        noBinding := valueOf params "binding" = "none" }

def degraded (reason message : String) : Result := { reason := reason, message := message }

/-! ## The spec of a cluster -/

/-- `scheduling.PriorityClassForServiceClass`. -/
def priorityClassForServiceClass (serviceClass : String) : String :=
  if serviceClass = "HIGH" then "frame-high"
  else if serviceClass = "MEDIUM" then "frame-medium"
  else if serviceClass = "LOW" then "frame-low"
  else ""

open Unstructured in
def nodeAffinity (nodes : List String) : Unstructured :=
  ofMembers [("requiredDuringSchedulingIgnoredDuringExecution", ofMembers [("nodeSelectorTerms", list [
    ofMembers [("matchExpressions", list [
      ofMembers [("key", str hostnameLabel), ("operator", str "In"), ("values", list (nodes.map str))]])]])])]

open Unstructured in
def topologySpreadConstraints (cluster : String) : Unstructured :=
  list [ofMembers [("maxSkew", int 1), ("topologyKey", str hostnameLabel), ("whenUnsatisfiable", str "DoNotSchedule"),
    ("labelSelector", ofMembers [("matchLabels", ofMembers [(clusterNameLabel, str cluster)])])]]

/-- `placement`: the part of the spec that the nodes and instances parameters own. -/
def placement (cluster : String) (s : Settings) : List (String × Unstructured) :=
  (if s.nodes ≠ [] then [("nodeAffinity", nodeAffinity s.nodes)] else []) ++
    if s.instances > 1 then [("topologySpreadConstraints", topologySpreadConstraints cluster)] else []

open Unstructured in
/-- `walEnv`. -/
def walEnv (s : Settings) : Unstructured :=
  let fromSecret := fun key => ofMembers [("name", str key), ("valueFrom", ofMembers [("secretKeyRef",
    ofMembers [("name", str s.walClaim), ("key", str key)])])]
  let plain := fun name value => ofMembers [("name", str name), ("value", str value)]
  list [
    ofMembers [("name", str "WAL_S3_BUCKET"), ("valueFrom", ofMembers [("configMapKeyRef",
      ofMembers [("name", str s.walClaim), ("key", str "BUCKET_NAME")])])],
    fromSecret "AWS_ACCESS_KEY_ID",
    fromSecret "AWS_SECRET_ACCESS_KEY",
    plain "AWS_ENDPOINT" s.walEndpoint,
    plain "AWS_REGION" "us-east-1",
    plain "WALG_DISABLE_S3_SSE" "true",
    plain "BACKUP_NUM_TO_RETAIN" s.walRetention]

open Unstructured in
/-- `newSpec`. -/
def newSpec (svc : FrameService) (s : Settings) : Unstructured :=
  let volume := ("size", str s.volumeSize) :: if s.storageClass ≠ "" then [("storageClass", str s.storageClass)] else []
  let priorityClass := priorityClassForServiceClass svc.spec.serviceClass.value
  ofMembers ([
    ("teamId", str s.team),
    ("numberOfInstances", int s.instances),
    ("postgresql", ofMembers [("version", str s.version)]),
    ("volume", ofMembers volume),
    ("users", ofMembers [(s.owner, list [str "createdb"])]),
    ("databases", ofMembers [(s.database, str s.owner)])] ++
    (if priorityClass ≠ "" then [("podPriorityClassName", str priorityClass)] else []) ++
    placement svc.key.name s ++
    if s.walClaim ≠ "" then [("env", walEnv s)] else [])

/-- `newObject`. -/
def newObject (kind : Kind) (key : NamespacedName) : Object := { kind := kind, key := key }

/-! ## What the parameters say of a cluster -/

/-- What a cluster archives with: the last of each name in its environment. -/
def liveWAL (cr : Object) : String × String × String :=
  (cr.spec.nestedSlice ["env"]).foldl
    (fun (claim, endpoint, retention) e =>
      let value := e.nestedString ["value"]
      if e.nestedField ["name"] = some (.str "WAL_S3_BUCKET") then
        (e.nestedString ["valueFrom", "configMapKeyRef", "name"], endpoint, retention)
      else if e.nestedField ["name"] = some (.str "AWS_ENDPOINT") then (claim, value, retention)
      else if e.nestedField ["name"] = some (.str "BACKUP_NUM_TO_RETAIN") then (claim, endpoint, value)
      else (claim, endpoint, retention))
    ("", "", "")

/-- One setting compared with the cluster's. -/
def check (name want live : String) : List String :=
  if want ≠ live then [name ++ " is " ++ goQuote want ++ ", the cluster has " ++ goQuote live] else []

/-- `driftOf`: every fixed setting that the parameters state differently from the cluster. -/
def driftOf (cr : Object) (s : Settings) : List String :=
  let wal := liveWAL cr
  check "team" s.team (cr.spec.nestedString ["teamId"]) ++
    check "postgresVersion" s.version (cr.spec.nestedString ["postgresql", "version"]) ++
    check "storageClass" s.storageClass (cr.spec.nestedString ["volume", "storageClass"]) ++
    check "database owner" s.owner (cr.spec.nestedString ["databases", s.database]) ++
    (if (cr.spec.nestedField ["users", s.owner]).getD .null = .null then
      ["owner " ++ goQuote s.owner ++ " is not a user of the cluster"] else []) ++
    check "walBucketClaim" s.walClaim wal.1 ++
    if s.walClaim ≠ "" then check "walEndpoint" s.walEndpoint wal.2.1 ++ check "walRetentionDays" s.walRetention wal.2.2 else []

section Quantity

-- how `resource.ParseQuantity` reads a quantity
variable (parseQuantity : String → Except String Int)

/-- `resource.MustParse`, whose panic the controller recovers as an error of the pass. -/
def mustParse (text : String) : Except String Int :=
  (parseQuantity text).mapError fun e => "panic: cannot parse '" ++ text ++ "': " ++ e ++ " [recovered]"

/-- Whether the parameters have the size of the cluster's volume. -/
def sameSize (cr : Object) (s : Settings) : Except String Bool :=
  match parseQuantity (cr.spec.nestedString ["volume", "size"]) with
  | .error _ => .ok false
  | .ok live => (mustParse parseQuantity s.volumeSize).map fun want => decide (live = want)

/-- `movedOf`: the settings that may move later but not on the pass that adopts. -/
def movedOf (cr : Object) (s : Settings) : Except String (List String) :=
  let instances := cr.spec.nestedInt64 ["numberOfInstances"]
  (sameSize parseQuantity cr s).map fun same =>
    (if instances ≠ s.instances then
      ["instances is " ++ toString s.instances ++ ", the cluster has " ++ toString instances] else []) ++
    (if !same then
      ["volumeSize is " ++ s.volumeSize ++ ", the cluster has " ++ goQuote (cr.spec.nestedString ["volume", "size"])] else []) ++
    if s.nodes ≠ [] then ["nodes is set: placement moves after the adoption, not with it"] else []

/-- The members of the spec that `converge` writes: what may move and differs. -/
def moves (cr : Object) (s : Settings) (grows : Bool) : List (String × Unstructured) :=
  let placed := (placement cr.key.name s).filter fun m => (cr.spec.nestedField [m.1]).getD .null ≠ m.2
  placed.filter (·.1 = "nodeAffinity") ++
    (if cr.spec.nestedInt64 ["numberOfInstances"] ≠ s.instances then [("numberOfInstances", .int s.instances)] else []) ++
    placed.filter (·.1 ≠ "nodeAffinity") ++
    if grows then [("volume", .obj [("size", .str s.volumeSize)])] else []

/-- `converge`: the result that ends the pass, if there is one. -/
def converge (cr : Object) (s : Settings) : Prog (Except String (Option Result)) :=
  let liveSize := cr.spec.nestedString ["volume", "size"]
  match parseQuantity liveSize with
  | .error e => return .error ("the cluster's volume size " ++ goQuote liveSize ++ ": " ++ e)
  | .ok live =>
    match mustParse parseQuantity s.volumeSize with
    | .error e => return .error e
    | .ok want =>
      if want < live then
        return .ok (some (degraded "VolumeShrinkRefused" ("volumeSize " ++ s.volumeSize ++ " is under the cluster's " ++ liveSize ++
          ": a volume cannot shrink")))
      else
        let spec := moves cr s (live < want)
        if spec = [] then return .ok none
        else do
          match ← patch .cluster cr.key { spec := some spec } with
          | .error e => return .error ("updating the cluster: " ++ e.text)
          | .ok _ =>
            return .ok (some (degraded "Provisioning" ("cluster " ++ cr.key.name ++ " updated (" ++
              String.intercalate ", " (spec.map Prod.fst) ++ "), waiting for the operator")))

/-! ## Claims -/

/-- What `claim` writes. -/
def claimBody (cr : Object) (svc : FrameService) : Patch :=
  { labels := [(ownerLabel, svc.key.name)], annotations := [.mk keepAnnotation keepValue, .mk claimedUIDAnnotation cr.uid] }

/-- `claim`, and the cluster as it is then. -/
def claim (cr : Object) (svc : FrameService) : Prog (Except String Object) := do
  return (← patch .cluster cr.key (claimBody cr svc)).mapError fun e => "claiming the cluster: " ++ e.text

/-- Whether a FrameService has claimed a cluster: by its label, and by its UID. -/
def isClaimed (cr : Object) (svc : FrameService) : Bool :=
  valueOf cr.labels ownerLabel = svc.key.name && valueOf cr.annotations claimedUIDAnnotation = cr.uid

/-- Whether a cluster is a FrameService's: adopted by its UID, or created and claimed. -/
def isOwned (cr : Object) (svc : FrameService) (s : Settings) : Bool :=
  s.adoptUID = cr.uid || (s.adoptUID = "" && s.create && isClaimed cr svc)

/-- What is said of a cluster that is not the FrameService's. -/
def notOwned (cr : Object) : Result :=
  degraded reasonNotOwned ("a cluster " ++ cr.key.name ++ " exists (UID " ++ cr.uid ++
    ") and this FrameService does not claim it: set adoptUID to take it over")

/-- `ensureBucket`. -/
def ensureBucket (svc : FrameService) (name : String) : Prog (Except String Unit) := do
  match ← get .bucket ⟨svc.key.namespaceName, name⟩ with
  | .ok _ => return .ok ()
  | .error e =>
    if e = .notFound then
      let obc := { newObject .bucket ⟨svc.key.namespaceName, name⟩ with
        labels := setAll none [(ownerLabel, svc.key.name)]
        annotations := setAll none [.mk keepAnnotation keepValue]
        spec := Unstructured.ofMembers [("generateBucketName", .str name), ("storageClassName", .str "ceph-bucket")] }
      return ((← create obc).map fun _ => ()).mapError Error.text
    else return .error e.text

/-- `keepBucket`: the result that ends the pass, if there is one. -/
def keepBucket (svc : FrameService) (name : String) : Prog (Except String (Option Result)) := do
  match ← get .bucket ⟨svc.key.namespaceName, name⟩ with
  | .error e => return .error ("reading the WAL bucket claim: " ++ e.text)
  | .ok obc =>
    let owner := valueOf obc.labels ownerLabel
    if owner ≠ "" && owner ≠ svc.key.name then
      return .ok (some (degraded reasonNotOwned ("WAL bucket claim " ++ name ++ " belongs to FrameService " ++ owner)))
    else if valueOf obc.annotations keepAnnotation = keepValue && owner = svc.key.name then return .ok none
    else
      let body := { labels := [(ownerLabel, svc.key.name)], annotations := [.mk keepAnnotation keepValue] }
      return ((← patch .bucket ⟨svc.key.namespaceName, name⟩ body).map fun _ => none).mapError Error.text

/-- The bucket claim that a cluster's archive needs is made. -/
def ensureArchive (svc : FrameService) (s : Settings) : Prog (Except String Unit) :=
  if s.walClaim ≠ "" then ensureBucket svc s.walClaim else return .ok ()

/-- The bucket claim behind a cluster's archive is kept. -/
def keepArchive (svc : FrameService) (s : Settings) : Prog (Except String (Option Result)) :=
  if s.walClaim ≠ "" then keepBucket svc s.walClaim else return .ok none

/-! ## The passes -/

/-- The CR that `reconcileAbsent` creates. -/
def newCluster (svc : FrameService) (s : Settings) : Object :=
  { newObject .cluster svc.key with
    labels := setAll none [(ownerLabel, svc.key.name)]
    annotations := setAll none [.mk keepAnnotation keepValue]
    spec := newSpec svc s }

/-- `reconcileAbsent` once nothing is left under the name. -/
def createCluster (svc : FrameService) (s : Settings) : Prog (Except String Result) := do
  match ← ensureArchive svc s with
  | .error e => return .error e
  | .ok () =>
    match ← create (newCluster svc s) with
    | .error e => return .error ("creating the cluster: " ++ e.text)
    | .ok cr =>
      match ← claim cr svc with
      | .error e => return .error e
      | .ok cr => return .ok (degraded "Provisioning" ("cluster " ++ cr.key.name ++ " created, waiting for the operator"))

/-- `reconcileAbsent`. -/
def reconcileAbsent (svc : FrameService) (s : Settings) : Prog (Except String Result) :=
  if s.adoptUID ≠ "" then
    return .ok (degraded "AdoptionTargetMissing" ("cluster " ++ svc.key.name ++ " (UID " ++ s.adoptUID ++
      ") does not exist: nothing created"))
  else if !s.create then
    return .ok (degraded "ClusterMissing" ("cluster " ++ svc.key.name ++ " does not exist, and create is not set: nothing created"))
  else if svc.status.binding.endpoint ≠ "" then
    return .ok (degraded "InstanceLost" ("cluster " ++ svc.key.name ++
      " was serving and has disappeared: not recreated, a new one would be empty; restore it"))
  else do
    match ← getVolume ⟨svc.key.namespaceName, "pgdata-" ++ svc.key.name ++ "-0"⟩ with
    | .ok () =>
      return .ok (degraded "InstanceLost" ("the volume of a cluster " ++ svc.key.name ++ " is still there: not recreated; restore it"))
    | .error e =>
      if e = .notFound then createCluster svc s
      else return .error ("checking for a leftover volume: " ++ e.text)

/-- `Reconcile` of a cluster that is the FrameService's and is marked as such. -/
def reconcileClaimed (svc : FrameService) (s : Settings) (cr : Object) : Prog (Except String Result) := do
  match ← keepArchive svc s with
  | .error e => return .error e
  | .ok (some result) => return .ok result
  | .ok none =>
    match ← converge parseQuantity cr s with
    | .error e => return .error e
    | .ok (some result) => return .ok result
    | .ok none =>
      let status := cr.status.nestedString ["PostgresClusterStatus"]
      if status ≠ "Running" then
        return .ok (degraded "ClusterNotRunning" ("the operator reports cluster " ++ cr.key.name ++ " as " ++ goQuote status))
      else
        return .ok { ready := true, reason := "Running", message := "cluster " ++ cr.key.name ++ " running" }

/-- What the parameters say differently of a cluster that is the FrameService's. -/
def differences (svc : FrameService) (s : Settings) (cr : Object) : Except String (List String) :=
  if isClaimed cr svc then .ok (driftOf cr s) else (movedOf parseQuantity cr s).map (driftOf cr s ++ ·)

/-- `Reconcile` of a cluster that is there. -/
def reconcilePresent (svc : FrameService) (s : Settings) (cr : Object) : Prog (Except String Result) :=
  if !isOwned cr svc s then return .ok (notOwned cr)
  else
    match differences parseQuantity svc s cr with
    | .error e => return .error e
    | .ok drift =>
      if drift ≠ [] then
        return .ok (degraded "SpecDrift" ("nothing written: the parameters do not describe the cluster: " ++
          String.intercalate "; " drift))
      else if !isClaimed cr svc || valueOf cr.annotations keepAnnotation ≠ keepValue then do
        match ← claim cr svc with
        | .error e => return .error e
        | .ok cr => reconcileClaimed parseQuantity svc s cr
      else reconcileClaimed parseQuantity svc s cr

/-- `Reconcile`. -/
def reconcile (svc : FrameService) : Prog (Except String Result) :=
  match settingsOf svc with
  | none =>
    return .ok (degraded "InvalidName" ("the operator needs a name of the form <team>-<cluster> and at least one instance: " ++
      goQuote svc.key.name ++ " does not give them"))
  | some s => do
    match ← get .cluster svc.key with
    | .ok cr => reconcilePresent parseQuantity svc s cr
    | .error e =>
      if e = .noMatch then
        return .ok (degraded "OperatorMissing" "the postgresql CRD is not installed: no operator to run this cluster")
      else if e = .notFound then reconcileAbsent svc s
      else return .error ("reading the cluster: " ++ e.text)

end Quantity

/-- `Bind`. -/
def bind (svc : FrameService) : Prog (Except BindError Binding) :=
  match settingsOf svc with
  | none => return .error (.failed ("invalid name " ++ goQuote svc.key.name))
  | some s =>
    let host := svc.key.name ++ "." ++ svc.key.namespaceName ++ ".svc"
    let endpoint := host ++ ":5432"
    if s.noBinding then return .ok { endpoint := endpoint, none := true }
    else do
      let name := s.owner ++ "." ++ svc.key.name ++ ".credentials.postgresql.acid.zalan.do"
      match ← getCredentials ⟨svc.key.namespaceName, name⟩ with
      | .error e =>
        if isForbidden e then return .error (.forbidden ⟨svc.key.namespaceName, "read"⟩)
        else return .error (.failed ("reading the operator's credentials: " ++ e.text))
      | .ok data =>
        let entries := [("host", utf8 host), ("port", utf8 "5432"), ("database", utf8 s.database),
          ("username", (data.get? "username").getD []), ("password", (data.get? "password").getD [])]
        return .ok { endpoint := endpoint, data := entries.foldl (fun m e => m.copySet e.1 e.2) Option.none }

/-- The passes of the provider, each for a FrameService as the controller has it. -/
def reconciler (parseQuantity : String → Except String Int) :
    Runner FrameService Objects Answer Outside Request.Resp (Except String Result) where
  pass := reconcile parseQuantity
  exec := Objects.exec
  outside := Objects.outside

/-- `Provider`. -/
def provisioner (parseQuantity : String → Except String Int) : Provisioner Request.Resp where
  size := size
  reconcile := reconcile parseQuantity
  bind := bind

/-- Where the provider's objects are, for the controller. -/
def side : Side Objects Answer Outside Request.Resp where
  exec := Objects.exec
  drop s ref a := a.fate.answer s (s.drop ref)
  outside := Objects.outside

def manager (parseQuantity : String → Except String Int) (isDNS1123Label : String → List String) : Manager Request.Resp where
  registry := [("postgres", .provisions (provisioner parseQuantity))]
  isDNS1123Label := isDNS1123Label

end Postgres

end FrameOperator.Services
