import FrameOperator.Api.Versions
import FrameOperator.Lib.Bytes
import FrameOperator.Lib.Requests

/-!
# FrameServices and the Secrets they write

A FrameService and the Secrets that `internal/controller/services` reads and writes for it, and the API server. FrameServices are
read through a cache, which may be behind but never goes back; Secrets and Namespaces are read live.

The server keeps which FrameService's pass created a Secret and wrote it last. Nothing reads that but statements.
-/

namespace FrameOperator.Services

open Api
open V1beta1 (FrameServiceSpec FrameServiceStatus ProjectedSecretRef ProvisionedRef)

structure FrameService where
  key : NamespacedName
  uid : Nat := 0
  generation : Int64 := 1
  deleting : Bool := false
  finalizers : List String := []
  spec : FrameServiceSpec := {}
  status : FrameServiceStatus := {}
  deriving DecidableEq

/-- The coordinates of Secrets that a FrameService has recorded as its own: `status.binding.projected`. -/
def FrameService.projected (svc : FrameService) : List ProjectedSecretRef := svc.status.binding.projected.getD []

/-- A reference to the object that controls another one. -/
structure OwnerRef where
  group : String
  kind : String
  name : String
  uid : Nat
  deriving DecidableEq

structure Secret where
  coord : ProjectedSecretRef
  labels : GoMap String String := none
  data : GoMap String Bytes := none
  controller : Option OwnerRef := none
  createdBy : Option NamespacedName := none
  writtenBy : Option NamespacedName := none
  deriving DecidableEq

/-! ## The API server -/

theorem FrameService.key_finalizers (finalizers : List String) (svc : FrameService) :
    ({ svc with finalizers := finalizers } : FrameService).key = svc.key := rfl

theorem FrameService.key_status (status : FrameServiceStatus) (svc : FrameService) :
    ({ svc with status := status } : FrameService).key = svc.key := rfl

theorem Secret.coord_overwrite (secret : Secret) (service : Option NamespacedName) (o : Secret) :
    ({ secret with coord := o.coord, createdBy := o.createdBy, writtenBy := service } : Secret).coord = o.coord := rfl

structure Cluster where
  services : Versioned FrameService FrameService.key
  secrets : Versioned Secret Secret.coord
  namespaces : List String
  nextUid : Nat
  -- the version of a FrameService that the manager's cache has shown last
  seen : NamespacedName → Nat

/-- What a pass asks of the server. The server looks neither at `again` nor at `service`. -/
inductive Request where
  | now
  | getService (key : NamespacedName) (again : Bool)
  | updateService (base : Stamped FrameService) (finalizers : List String)
  | updateStatus (base : Stamped FrameService) (status : FrameServiceStatus)
  | getNamespace (name : String)
  | getSecret (coord : ProjectedSecretRef)
  | createSecret (service : NamespacedName) (secret : Secret)
  | updateSecret (service : NamespacedName) (base : Stamped Secret) (secret : Secret)
  | deleteSecret (service : NamespacedName) (coord : ProjectedSecretRef)

abbrev Request.Resp : Request → Type
  | now => Time
  | getService _ _ => Except Error (Stamped FrameService)
  | getSecret _ => Except Error (Stamped Secret)
  | updateService _ _ | updateStatus _ _ | getNamespace _ | createSecret _ _ | updateSecret _ _ _ | deleteSecret _ _ =>
      Except Error Unit

/-- What the cache shows of a FrameService: the live version, one that was committed earlier, or nothing yet. -/
inductive Age where
  | current
  | version (rev : Nat)
  | unseen
  deriving DecidableEq

/-- What becomes of a request, when, and how far the cache is behind. -/
structure Answer where
  fate : Fate Fault := .served
  now : Time := 0
  age : Age := .current

namespace Cluster

/-- What the cache shows; what it cannot show, it shows the live version for. -/
def shown (s : Cluster) (key : NamespacedName) : Age → Option (Stamped FrameService)
  | .current => s.services.get? key
  | .version rev =>
    match s.services.past.find? fun v => v.val.key = key && v.rev = rev && s.seen key ≤ v.rev with
    | some v => some v
    | none => s.services.get? key
  | .unseen => if s.seen key = 0 then none else s.services.get? key

def readService (s : Cluster) (key : NamespacedName) (age : Age) : Cluster × Except Error (Stamped FrameService) :=
  match s.shown key age with
  | none => (s, .error .notFound)
  | some v => ({ s with seen := fun k => if k = key then v.rev else s.seen k }, .ok v)

/-- An update of the finalizers; an object that is being deleted goes with the last of them. -/
def updateService (s : Cluster) (base : Stamped FrameService) (finalizers : List String) : Cluster × Except Error Unit :=
  match s.services.get? base.val.key with
  | none => (s, .error .notFound)
  | some cur =>
    if cur.rev = base.rev then
      if cur.val.deleting && finalizers.isEmpty then ({ s with services := s.services.remove base.val.key }, .ok ())
      else
        ({ s with
          services := s.services.modify base.val.key (fun svc => { svc with finalizers := finalizers })
            (FrameService.key_finalizers finalizers) }, .ok ())
    else (s, .error .conflict)

def updateStatus (s : Cluster) (base : Stamped FrameService) (status : FrameServiceStatus) : Cluster × Except Error Unit :=
  let done := s.services.put base (fun svc => { svc with status := status }) (FrameService.key_status status)
  ({ s with services := done.1 }, done.2.map fun _ => ())

def createSecret (s : Cluster) (service : Option NamespacedName) (secret : Secret) : Cluster × Except Error Unit :=
  if secret.coord.namespaceName ∈ s.namespaces then
    let done := s.secrets.add { secret with createdBy := service, writtenBy := service }
    ({ s with secrets := done.1 }, done.2.map fun _ => ())
  else (s, .error .notFound)

/-- An update of a Secret: neither its name nor where it comes from is the writer's. -/
def updateSecret (s : Cluster) (service : NamespacedName) (base : Stamped Secret) (secret : Secret) : Cluster × Except Error Unit :=
  let done := s.secrets.put base
    (fun o => { secret with coord := o.coord, createdBy := o.createdBy, writtenBy := some service })
    (Secret.coord_overwrite secret (some service))
  ({ s with secrets := done.1 }, done.2.map fun _ => ())

def deleteSecret (s : Cluster) (coord : ProjectedSecretRef) : Cluster × Except Error Unit :=
  match s.secrets.get? coord with
  | none => (s, .error .notFound)
  | some _ => ({ s with secrets := s.secrets.remove coord }, .ok ())

def exec (s : Cluster) : (r : Request) → Answer → Cluster × r.Resp
  | .now, a => (s, a.now)
  | .getService key _, a => a.fate.answer s (s.readService key a.age)
  | .updateService base finalizers, a => a.fate.answer s (s.updateService base finalizers)
  | .updateStatus base status, a => a.fate.answer s (s.updateStatus base status)
  | .getNamespace name, a => a.fate.answer s (s, if name ∈ s.namespaces then .ok () else .error .notFound)
  | .getSecret coord, a => a.fate.answer s (s, s.secrets.read coord)
  | .createSecret service secret, a => a.fate.answer s (s.createSecret (some service) secret)
  | .updateSecret service base secret, a => a.fate.answer s (s.updateSecret service base secret)
  | .deleteSecret _ coord, a => a.fate.answer s (s.deleteSecret coord)

end Cluster

/-! ## What others do -/

/-- What users do to FrameServices, and other principals to Secrets and Namespaces. -/
inductive Outside where
  | createService (key : NamespacedName) (spec : FrameServiceSpec) (finalizers : List String)
  | editService (key : NamespacedName) (spec : FrameServiceSpec)
  | deleteService (key : NamespacedName)
  | createSecret (secret : Secret)
  | editSecret (coord : ProjectedSecretRef) (secret : Secret)
  | deleteSecret (coord : ProjectedSecretRef)
  | createNamespace (name : String)
  | deleteNamespace (name : String)

namespace Cluster

/-- A deletion: a FrameService with finalizers is marked, which counts as a generation of it. -/
def deleteService (s : Cluster) (key : NamespacedName) : Cluster :=
  match s.services.value? key with
  | none => s
  | some svc =>
    if svc.finalizers = [] then { s with services := s.services.remove key }
    else if svc.deleting then s
    else
      { s with services :=
        s.services.modify key (fun svc => { svc with deleting := true, generation := svc.generation + 1 }) fun _ => rfl }

def outside (s : Cluster) : Outside → Cluster
  | .createService key spec finalizers =>
    { s with
      services := s.services.create { key := key, uid := s.nextUid, spec := spec, finalizers := finalizers }
      nextUid := s.nextUid + 1 }
  | .editService key spec =>
    { s with services := s.services.modify key (fun svc => { svc with spec := spec, generation := svc.generation + 1 }) fun _ => rfl }
  | .deleteService key => s.deleteService key
  | .createSecret secret => (s.createSecret none secret).1
  | .editSecret coord secret =>
    { s with
      secrets := s.secrets.modify coord (fun o => { secret with coord := o.coord, createdBy := o.createdBy, writtenBy := none })
        (Secret.coord_overwrite secret none) }
  | .deleteSecret coord => { s with secrets := s.secrets.remove coord }
  | .createNamespace name => { s with namespaces := name :: s.namespaces }
  | .deleteNamespace name => { s with namespaces := s.namespaces.filter (· ≠ name) }

end Cluster

end FrameOperator.Services
