import FrameOperator.Lib.Unstructured
import FrameOperator.Services.Binding

/-!
# What the Postgres provider reads and writes

The operator's CRs and the bucket claims, the data volumes and the credentials Secrets, and the API server. CRs and bucket claims
are unstructured and are read live.
-/

namespace FrameOperator.Services

open Api

namespace Postgres

inductive Kind where
  | cluster
  | bucket
  deriving DecidableEq

/-- A CR of the operator or a bucket claim. -/
structure Object where
  kind : Kind
  key : NamespacedName
  uid : String := ""
  labels : GoMap String String := none
  annotations : GoMap String String := none
  spec : Unstructured := .null
  status : Unstructured := .null
  deriving DecidableEq

def Object.id (o : Object) : Kind × NamespacedName := (o.kind, o.key)

/-- The body of a merge patch: what it sets in the metadata, and the members of `spec` that it has. -/
structure Patch where
  labels : List (String × String) := []
  annotations : List (String × String) := []
  spec : Option (List (String × Unstructured)) := none
  deriving DecidableEq

def setAll (m : GoMap String String) (entries : List (String × String)) : GoMap String String :=
  entries.foldl (fun m e => m.copySet e.1 e.2) m

def Patch.apply (p : Patch) (o : Object) : Object :=
  { o with
    labels := setAll o.labels p.labels
    annotations := setAll o.annotations p.annotations
    spec := match p.spec with
      | none => o.spec
      | some members => o.spec.merge (.obj members) }

theorem Patch.id_apply (p : Patch) (o : Object) : (p.apply o).id = o.id := rfl

inductive Request where
  | get (kind : Kind) (key : NamespacedName)
  | create (object : Object)
  | patch (kind : Kind) (key : NamespacedName) (body : Patch)
  | getVolume (key : NamespacedName)
  | getCredentials (key : NamespacedName)

abbrev Request.Resp : Request → Type
  | get _ _ | create _ | patch _ _ _ => Except Error Object
  | getVolume _ => Except Error Unit
  | getCredentials _ => Except Error (GoMap String Bytes)

/-! ## The API server -/

structure Objects where
  objects : Keyed Object Object.id
  volumes : List NamespacedName
  credentials : NamespacedName → Option (GoMap String Bytes)
  -- the kinds whose definition is installed
  installed : List Kind

/-- What becomes of a request, and the UID that a new object gets. -/
structure Answer where
  fate : Fate Fault := .served
  uid : String := ""

namespace Objects

def get? (s : Objects) (kind : Kind) (key : NamespacedName) : Option Object := s.objects.get? (kind, key)

def read (s : Objects) (kind : Kind) (key : NamespacedName) : Except Error Object :=
  if kind ∈ s.installed then
    match s.get? kind key with
    | none => .error .notFound
    | some o => .ok o
  else .error .noMatch

def create (s : Objects) (o : Object) : Objects × Except Error Object :=
  if o.kind ∈ s.installed then
    match s.get? o.kind o.key with
    | some _ => (s, .error .alreadyExists)
    | none => ({ s with objects := s.objects.insertNew o }, .ok o)
  else (s, .error .noMatch)

def patch (s : Objects) (kind : Kind) (key : NamespacedName) (body : Patch) : Objects × Except Error Object :=
  match s.read kind key with
  | .error e => (s, .error e)
  | .ok o => ({ s with objects := s.objects.modify (kind, key) body.apply body.id_apply }, .ok (body.apply o))

def delete (s : Objects) (kind : Kind) (key : NamespacedName) : Objects × Except Error Unit :=
  match s.get? kind key with
  | none => (s, .error .notFound)
  | some _ => ({ s with objects := s.objects.erase (kind, key) }, .ok ())

/-- A delete of what a FrameService lists. -/
def drop (s : Objects) (ref : V1beta1.ProvisionedRef) : Objects × Except Error Unit :=
  let key := ⟨ref.namespaceName, ref.name⟩
  if ref.kind = "postgresql" then s.delete .cluster key
  else if ref.kind = "ObjectBucketClaim" then s.delete .bucket key
  else if ref.kind = "PersistentVolumeClaim" then ({ s with volumes := s.volumes.filter (· ≠ key) }, .ok ())
  else (s, .error .noMatch)

def exec (s : Objects) : (r : Request) → Answer → Objects × r.Resp
  | .get kind key, a => a.fate.answer s (s, s.read kind key)
  | .create o, a => a.fate.answer s (s.create { o with uid := a.uid })
  | .patch kind key body, a => a.fate.answer s (s.patch kind key body)
  | .getVolume key, a => a.fate.answer s (s, if key ∈ s.volumes then .ok () else .error .notFound)
  | .getCredentials key, a =>
    a.fate.answer s (s, match s.credentials key with
      | none => .error .notFound
      | some data => .ok data)

end Objects

/-! ## What others do -/

/-- What the operators and other principals do. -/
inductive Outside where
  | deleteCluster (key : NamespacedName)
  | setStatus (key : NamespacedName) (status : Unstructured)
  | createBucket (key : NamespacedName) (object : Object)
  | editBucket (key : NamespacedName) (object : Object)
  | deleteBucket (key : NamespacedName)
  | createVolume (key : NamespacedName)
  | deleteVolume (key : NamespacedName)
  | setCredentials (key : NamespacedName) (data : Option (GoMap String Bytes))
  | install (kind : Kind)
  deriving DecidableEq

namespace Objects

def outside (s : Objects) : Outside → Objects
  | .deleteCluster key => { s with objects := s.objects.erase (.cluster, key) }
  | .setStatus key status =>
    { s with objects := s.objects.modify (.cluster, key) (fun o => { o with status := status }) fun _ => rfl }
  | .createBucket key object => { s with objects := s.objects.insertNew { object with kind := .bucket, key := key } }
  | .editBucket key object =>
    { s with
      objects := s.objects.modify (.bucket, key)
        (fun o => { object with kind := o.kind, key := o.key, uid := o.uid }) fun _ => rfl }
  | .deleteBucket key => { s with objects := s.objects.erase (.bucket, key) }
  | .createVolume key => { s with volumes := key :: s.volumes }
  | .deleteVolume key => { s with volumes := s.volumes.filter (· ≠ key) }
  | .setCredentials key data => { s with credentials := fun k => if k = key then data else s.credentials k }
  | .install kind => { s with installed := kind :: s.installed }

end Objects

end Postgres

end FrameOperator.Services
