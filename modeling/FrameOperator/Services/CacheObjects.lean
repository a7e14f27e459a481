import FrameOperator.Services.Binding

/-!
# What the cache provider reads and writes

StatefulSets, Services, auth Secrets and the volumes of queues, and the API server. StatefulSets and Services are read through the
manager's cache, which may be behind but never goes back. Of a pod template only what differs between passes is kept.
-/

namespace FrameOperator.Services

open Api

namespace Cache

/-- A quantity of storage: its value, and how it was written. -/
structure Quantity where
  value : Int
  text : String
  deriving DecidableEq

structure Template where
  owner : String
  authDigest : String
  serviceClass : String
  priorityClassName : String
  authSecret : String
  -- the data is on an emptyDir, or on the volume of the claim template
  emptyDir : Bool
  args : List String
  cpu : String
  memory : String
  deriving DecidableEq

structure ClaimTemplate where
  storageClassName : Option String := none
  request : Quantity
  deriving DecidableEq

structure StatefulSetStatus where
  observedGeneration : Int := 0
  readyReplicas : Int := 0
  updatedReplicas : Int := 0
  deriving DecidableEq

structure StatefulSet where
  key : NamespacedName
  controller : Option OwnerRef := none
  annotations : GoMap String String := none
  generation : Int := 1
  replicas : Option Int := none
  template : Template
  claimTemplates : List ClaimTemplate := []
  status : StatefulSetStatus := {}
  deriving DecidableEq

structure Service where
  key : NamespacedName
  controller : Option OwnerRef := none

structure AuthSecret where
  key : NamespacedName
  controller : Option OwnerRef := none
  data : GoMap String Bytes := none
  deriving DecidableEq

/-- A PersistentVolumeClaim: what it asks for, and once it is bound, what it has. -/
structure Volume where
  key : NamespacedName
  uid : String
  labels : GoMap String String := none
  storageClassName : Option String := none
  request : Quantity
  capacity : Int := 0
  bound : Bool := false

/-! ## Volumes -/

structure Volumes where
  live : Keyed Volume Volume.key
  used : List String
  live_used : ∀ v ∈ live.items, v.uid ∈ used
  used_ne : "" ∉ used

namespace Volumes

def empty : Volumes := ⟨.empty, [], nofun, List.not_mem_nil⟩

def get? (s : Volumes) (key : NamespacedName) : Option Volume := s.live.get? key

/-- A new volume gets a UID that none has had. -/
def create (s : Volumes) (v : Volume) : Volumes :=
  if h : v.uid ∉ s.used ∧ v.uid ≠ "" then
    { live := s.live.insertNew { v with bound := false, capacity := 0 }
      used := v.uid :: s.used
      live_used := by
        intro w hw
        have hg := Keyed.get?_of_mem hw
        rw [Keyed.get?_insertNew] at hg
        split at hg
        · cases hg
          exact List.mem_cons_self
        · exact List.mem_cons_of_mem _ (s.live_used w (Keyed.mem_of_get? hg))
      used_ne := by
        intro hmem
        rcases List.mem_cons.mp hmem with heq | hmem
        · exact h.2 heq.symm
        · exact s.used_ne hmem }
  else s

def modify (s : Volumes) (key : NamespacedName) (f : Volume → Volume) (hkey : ∀ v, (f v).key = v.key) (huid : ∀ v, (f v).uid = v.uid) :
    Volumes where
  live := s.live.modify key f hkey
  used := s.used
  live_used := by
    intro w hw
    rcases Keyed.mem_modify_cases hw with ⟨hold, -⟩ | ⟨v, hv, rfl⟩
    · exact s.live_used w hold
    · rw [huid]
      exact s.live_used v (Keyed.mem_of_get? hv)
  used_ne := s.used_ne

def delete (s : Volumes) (key : NamespacedName) : Volumes where
  live := s.live.erase key
  used := s.used
  live_used v hv := s.live_used v (List.mem_of_mem_filter hv)
  used_ne := s.used_ne

end Volumes

/-! ## Requests -/

/-- An update is of the object as it is to be, under the revision it was made from. -/
inductive Request where
  | random
  | getStatefulSet (key : NamespacedName)
  | createStatefulSet (sts : StatefulSet)
  | updateStatefulSet (sts : Stamped StatefulSet)
  | getService (key : NamespacedName)
  | createService (service : Service)
  | getSecret (key : NamespacedName)
  | createSecret (secret : AuthSecret)
  | updateSecret (secret : Stamped AuthSecret)
  | getVolume (key : NamespacedName)
  | patchVolume (volume : Volume) (size : Quantity)

abbrev Request.Resp : Request → Type
  | random => Except String Bytes
  | getStatefulSet _ | updateStatefulSet _ => Except Error (Stamped StatefulSet)
  | getService _ => Except Error Service
  | getSecret _ => Except Error (Stamped AuthSecret)
  | getVolume _ => Except Error Volume
  | createStatefulSet _ | createService _ | createSecret _ | updateSecret _ | patchVolume _ _ => Except Error Unit

structure Objects where
  statefulSets : Versioned StatefulSet StatefulSet.key
  services : NamespacedName → Option Service
  secrets : Versioned AuthSecret AuthSecret.key
  volumes : Volumes
  -- the version of a StatefulSet that the manager's cache has shown last
  seen : NamespacedName → Option Nat

/-- What becomes of a request, how far the cache is behind, and what is random. -/
structure Answer where
  fate : Fate Fault := .served
  age : Age := .current
  -- a Service that is there is not in the cache yet
  unseen : Bool := false
  random : Except String Bytes := .ok []

/-- An update leaves claim templates and status; a new template is a generation. -/
def StatefulSet.accepted (new cur : StatefulSet) : StatefulSet :=
  { cur with
    controller := new.controller
    annotations := new.annotations
    generation := if new.replicas = cur.replicas ∧ new.template = cur.template then cur.generation else cur.generation + 1
    replicas := new.replicas
    template := new.template }

theorem StatefulSet.key_accepted (new : Stamped StatefulSet) (cur : StatefulSet) : (new.val.accepted cur).key = cur.key := rfl

theorem Volume.key_request (size : Quantity) (v : Volume) : ({ v with request := size } : Volume).key = v.key := rfl

theorem Volume.uid_request (size : Quantity) (v : Volume) : ({ v with request := size } : Volume).uid = v.uid := rfl

/-- One that is bound may grow, or be given no less than it has. -/
def Volume.resizable (v : Volume) (size : Quantity) : Bool :=
  v.bound && (decide (v.request.value ≤ size.value) || decide (v.capacity ≤ size.value))

namespace Objects

/-- What the cache shows; what it cannot show, it shows the live version for. -/
def shown (s : Objects) (key : NamespacedName) : Age → Option (Stamped StatefulSet)
  | .current => s.statefulSets.get? key
  | .version rev =>
    match s.statefulSets.past.find? fun v => v.val.key = key && v.rev = rev && (s.seen key).all (· ≤ v.rev) with
    | some v => some v
    | none => s.statefulSets.get? key
  | .unseen => if s.seen key = none then none else s.statefulSets.get? key

def readStatefulSet (s : Objects) (key : NamespacedName) (age : Age) : Objects × Except Error (Stamped StatefulSet) :=
  match s.shown key age with
  | none => (s, .error .notFound)
  | some v => ({ s with seen := fun k => if k = key then some v.rev else s.seen k }, .ok v)

def createStatefulSet (s : Objects) (sts : StatefulSet) : Objects × Except Error Unit :=
  let done := s.statefulSets.add sts
  ({ s with statefulSets := done.1 }, done.2.map fun _ => ())

def updateStatefulSet (s : Objects) (sts : Stamped StatefulSet) : Objects × Except Error (Stamped StatefulSet) :=
  let done := s.statefulSets.put sts sts.val.accepted (StatefulSet.key_accepted sts)
  ({ s with statefulSets := done.1 }, done.2)

def readService (s : Objects) (key : NamespacedName) (unseen : Bool) : Except Error Service :=
  match s.services key with
  | some service => if unseen then .error .notFound else .ok service
  | none => .error .notFound

def createService (s : Objects) (service : Service) : Objects × Except Error Unit :=
  match s.services service.key with
  | some _ => (s, .error .alreadyExists)
  | none => ({ s with services := fun k => if k = service.key then some service else s.services k }, .ok ())

def createSecret (s : Objects) (secret : AuthSecret) : Objects × Except Error Unit :=
  let done := s.secrets.add secret
  ({ s with secrets := done.1 }, done.2.map fun _ => ())

def updateSecret (s : Objects) (secret : Stamped AuthSecret) : Objects × Except Error Unit :=
  let done := s.secrets.put secret (fun o => { o with data := secret.val.data }) fun _ => rfl
  ({ s with secrets := done.1 }, done.2.map fun _ => ())

def readVolume (s : Objects) (key : NamespacedName) : Except Error Volume :=
  match s.volumes.get? key with
  | none => .error .notFound
  | some v => .ok v

def patchVolume (s : Objects) (key : NamespacedName) (size : Quantity) : Objects × Except Error Unit :=
  match s.volumes.get? key with
  | none => (s, .error .notFound)
  | some v =>
    if v.resizable size then
      ({ s with
        volumes := s.volumes.modify key (fun v => { v with request := size }) (Volume.key_request size) (Volume.uid_request size) },
          .ok ())
    else (s, .error .invalid)

def exec (s : Objects) : (r : Request) → Answer → Objects × r.Resp
  | .random, a => (s, a.random)
  | .getStatefulSet key, a => a.fate.answer s (s.readStatefulSet key a.age)
  | .createStatefulSet sts, a => a.fate.answer s (s.createStatefulSet sts)
  | .updateStatefulSet sts, a => a.fate.answer s (s.updateStatefulSet sts)
  | .getService key, a => a.fate.answer s (s, s.readService key a.unseen)
  | .createService service, a => a.fate.answer s (s.createService service)
  | .getSecret key, a => a.fate.answer s (s, s.secrets.read key)
  | .createSecret secret, a => a.fate.answer s (s.createSecret secret)
  | .updateSecret secret, a => a.fate.answer s (s.updateSecret secret)
  | .getVolume key, a => a.fate.answer s (s, s.readVolume key)
  | .patchVolume volume size, a => a.fate.answer s (s.patchVolume volume.key size)

end Objects

/-! ## What others do -/

/-- What the StatefulSet controller, storage and other principals do. -/
inductive Outside where
  | setStatus (key : NamespacedName) (status : StatefulSetStatus)
  | createVolume (volume : Volume)
  | bindVolume (key : NamespacedName) (capacity : Int)
  | expandVolume (key : NamespacedName) (capacity : Int)
  | labelVolume (key : NamespacedName) (labels : GoMap String String)
  | deleteVolume (key : NamespacedName)
  | setService (key : NamespacedName) (service : Option Service)
  | createSecret (secret : AuthSecret)
  | editSecret (key : NamespacedName) (secret : AuthSecret)
  | deleteSecret (key : NamespacedName)

/-- A volume that gets bound has what it asks for. -/
def Volume.bind (capacity : Int) (v : Volume) : Volume :=
  if !v.bound ∧ v.request.value ≤ capacity then { v with bound := true, capacity := capacity } else v

def Volume.expand (capacity : Int) (v : Volume) : Volume :=
  if v.bound ∧ v.capacity ≤ capacity then { v with capacity := capacity } else v

theorem Volume.bind_same (capacity : Int) (v : Volume) :
    (v.bind capacity).key = v.key ∧ (v.bind capacity).uid = v.uid ∧ (v.bind capacity).request = v.request := by
  unfold Volume.bind
  split <;> exact ⟨rfl, rfl, rfl⟩

theorem Volume.expand_same (capacity : Int) (v : Volume) :
    (v.expand capacity).key = v.key ∧ (v.expand capacity).uid = v.uid ∧ (v.expand capacity).request = v.request := by
  unfold Volume.expand
  split <;> exact ⟨rfl, rfl, rfl⟩

namespace Objects

def outside (s : Objects) : Outside → Objects
  | .setStatus key status =>
    { s with statefulSets := s.statefulSets.modify key (fun sts => { sts with status := status }) fun _ => rfl }
  | .createVolume volume => { s with volumes := s.volumes.create volume }
  | .bindVolume key capacity =>
    { s with
      volumes := s.volumes.modify key (Volume.bind capacity) (fun v => (v.bind_same capacity).1) fun v => (v.bind_same capacity).2.1 }
  | .expandVolume key capacity =>
    { s with
      volumes := s.volumes.modify key (Volume.expand capacity)
        (fun v => (v.expand_same capacity).1) fun v => (v.expand_same capacity).2.1 }
  | .labelVolume key labels =>
    { s with volumes := s.volumes.modify key (fun v => { v with labels := labels }) (fun _ => rfl) fun _ => rfl }
  | .deleteVolume key => { s with volumes := s.volumes.delete key }
  | .setService key service =>
    { s with services := fun k => if k = key then service.map ({ · with key := key }) else s.services k }
  | .createSecret secret => (s.createSecret secret).1
  | .editSecret key secret =>
    { s with secrets := s.secrets.modify key (fun o => { secret with key := o.key }) fun _ => rfl }
  | .deleteSecret key => { s with secrets := s.secrets.remove key }

end Objects

end Cache

end FrameOperator.Services
