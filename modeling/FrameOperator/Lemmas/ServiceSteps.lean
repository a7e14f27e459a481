import FrameOperator.Services.Controller

/-!
# What a request about FrameServices and Secrets leaves

Everything a request can do to the cluster (`Changed`), whatever becomes of it, and what its answer says.
-/

namespace FrameOperator.Services

open Fate Versioned Api
open V1beta1 (FrameServiceStatus FrameServiceSpec ProjectedSecretRef)

namespace Cluster

variable {key : NamespacedName} {v : Stamped FrameService} {a : Answer} {coord : ProjectedSecretRef}

def sees (s : Cluster) (key : NamespacedName) (rev : Nat) : Cluster :=
  { s with seen := fun k => if k = key then rev else s.seen k }

def withFinalizers (s : Cluster) (key : NamespacedName) (finalizers : List String) : Cluster :=
  { s with
    services := s.services.modify key (fun svc => { svc with finalizers := finalizers })
      (FrameService.key_finalizers finalizers) }

def withStatus (s : Cluster) (key : NamespacedName) (status : FrameServiceStatus) : Cluster :=
  { s with services := s.services.modify key (fun svc => { svc with status := status }) (FrameService.key_status status) }

def withSecret (s : Cluster) (service : Option NamespacedName) (secret : Secret) : Cluster :=
  { s with secrets := s.secrets.create { secret with createdBy := service, writtenBy := service } }

def overwritten (s : Cluster) (service : Option NamespacedName) (coord : ProjectedSecretRef) (secret : Secret) : Cluster :=
  { s with
    secrets := s.secrets.modify coord (fun o => { secret with coord := o.coord, createdBy := o.createdBy, writtenBy := service })
      (Secret.coord_overwrite secret service) }

def withoutSecret (s : Cluster) (coord : ProjectedSecretRef) : Cluster := { s with secrets := s.secrets.remove coord }

end Cluster

def Live (s : Cluster) (base : Stamped FrameService) : Prop := ∃ cur, s.services.get? base.val.key = some cur ∧ cur.rev = base.rev

inductive Changed (s : Cluster) : Request → Cluster → Prop where
  | nothing {r : Request} : Changed s r s
  | shown {key : NamespacedName} {again : Bool} {rev : Nat} : Changed s (.getService key again) (s.sees key rev)
  | ended {base : Stamped FrameService} (hlive : Live s base) :
      Changed s (.updateService base []) { s with services := s.services.remove base.val.key }
  | finalized {base : Stamped FrameService} {finalizers : List String} (hlive : Live s base)
      (hleft : ∀ svc, s.services.value? base.val.key = some svc → svc.deleting = true → finalizers ≠ []) :
      Changed s (.updateService base finalizers) (s.withFinalizers base.val.key finalizers)
  | stated {base : Stamped FrameService} {status : FrameServiceStatus} (hlive : Live s base) :
      Changed s (.updateStatus base status) (s.withStatus base.val.key status)
  | created {service : NamespacedName} {secret : Secret} (hfree : s.secrets.value? secret.coord = none) :
      Changed s (.createSecret service secret) (s.withSecret (some service) secret)
  | updated {service : NamespacedName} {base : Stamped Secret} {secret : Secret} :
      Changed s (.updateSecret service base secret) (s.overwritten (some service) base.val.coord secret)
  | deleted {service : NamespacedName} {coord : ProjectedSecretRef} : Changed s (.deleteSecret service coord) (s.withoutSecret coord)

variable {s : Cluster}

theorem readService_cases (s : Cluster) (key : NamespacedName) (age : Age) :
    s.readService key age = (s, .error .notFound) ∨ ∃ v, s.shown key age = some v ∧
      s.readService key age = (s.sees key v.rev, .ok v) := by
  unfold Cluster.readService
  split
  · exact .inl rfl
  · rename_i v hv
    exact .inr ⟨v, hv, rfl⟩

theorem updateService_cases (s : Cluster) (base : Stamped FrameService) (finalizers : List String) :
    (∃ e, s.updateService base finalizers = (s, .error e)) ∨ (Live s base ∧
      ((finalizers = [] ∧ s.updateService base finalizers = ({ s with services := s.services.remove base.val.key }, .ok ())) ∨
        (s.updateService base finalizers = (s.withFinalizers base.val.key finalizers, .ok ()) ∧
          ∀ svc, s.services.value? base.val.key = some svc → svc.deleting = true → finalizers ≠ []))) := by
  unfold Cluster.updateService
  split
  · exact .inl ⟨_, rfl⟩
  rename_i cur hcur
  split
  · rename_i hrev
    refine .inr ⟨⟨cur, hcur, hrev⟩, ?_⟩
    split
    · rename_i h
      rw [Bool.and_eq_true, List.isEmpty_iff] at h
      exact .inl ⟨h.2, rfl⟩
    · rename_i h
      refine .inr ⟨rfl, fun svc hsvc hdel hnil => h ?_⟩
      rw [value?_of_get? hcur] at hsvc
      cases hsvc
      rw [hdel, hnil]
      rfl
  · exact .inl ⟨_, rfl⟩

theorem updateStatus_cases (s : Cluster) (base : Stamped FrameService) (status : FrameServiceStatus) :
    (∃ e, s.updateStatus base status = (s, .error e)) ∨
      (Live s base ∧ (s.updateStatus base status).1 = s.withStatus base.val.key status) := by
  simp only [Cluster.updateStatus, put]
  split
  · exact .inl ⟨_, rfl⟩
  rename_i cur hcur
  split
  · rename_i hrev
    exact .inr ⟨⟨cur, hcur, hrev⟩, rfl⟩
  · exact .inl ⟨_, rfl⟩

theorem createSecret_cases (s : Cluster) (service : Option NamespacedName) (secret : Secret) :
    (∃ e, s.createSecret service secret = (s, .error e)) ∨
      (s.secrets.value? secret.coord = none ∧ (s.createSecret service secret).1 = s.withSecret service secret) := by
  unfold Cluster.createSecret
  split
  · rcases add_cases s.secrets { secret with createdBy := service, writtenBy := service } with ⟨hfree, h1, -⟩ | ⟨-, h1, h2⟩
    · exact .inr ⟨hfree, by simp only [h1]; rfl⟩
    · exact .inl ⟨.alreadyExists, by simp only [h1, h2]; rfl⟩
  · exact .inl ⟨_, rfl⟩

theorem updateSecret_cases (s : Cluster) (service : NamespacedName) (base : Stamped Secret) (secret : Secret) :
    (∃ e, s.updateSecret service base secret = (s, .error e)) ∨
      (s.updateSecret service base secret).1 = s.overwritten (some service) base.val.coord secret := by
  simp only [Cluster.updateSecret, put]
  split
  · exact .inl ⟨_, rfl⟩
  split
  · exact .inr rfl
  · exact .inl ⟨_, rfl⟩

theorem deleteSecret_cases (s : Cluster) (coord : ProjectedSecretRef) :
    (s.deleteSecret coord = (s, .error .notFound) ∧ s.secrets.value? coord = none) ∨
      s.deleteSecret coord = (s.withoutSecret coord, .ok ()) := by
  unfold Cluster.deleteSecret
  split
  · rename_i h
    exact .inl ⟨rfl, by rw [value?, h, Option.map_none]⟩
  · exact .inr rfl

/-- Every request does one of `Changed`. -/
theorem exec_changed (s : Cluster) (r : Request) (a : Answer) : Changed s r (s.exec r a).1 := by
  -- a request that is not carried out changes nothing
  have hfate : ∀ {α : Type} {call : Cluster × Except Error α}, Changed s r call.1 → Changed s r (a.fate.answer s call).1 :=
    answer_state a.fate .nothing
  cases r with
  | now => exact .nothing
  | getService key again =>
    refine hfate ?_
    rcases readService_cases s key a.age with h | ⟨v, -, h⟩ <;> rw [h]
    · exact .nothing
    · exact .shown
  | updateService base finalizers =>
    refine hfate ?_
    rcases updateService_cases s base finalizers with ⟨e, h⟩ | ⟨hlive, ⟨rfl, h⟩ | ⟨h, hleft⟩⟩ <;> rw [h]
    · exact .nothing
    · exact .ended hlive
    · exact .finalized hlive hleft
  | updateStatus base status =>
    refine hfate ?_
    rcases updateStatus_cases s base status with ⟨e, h⟩ | ⟨hlive, h⟩ <;> rw [h]
    · exact .nothing
    · exact .stated hlive
  | getNamespace | getSecret => exact hfate .nothing
  | createSecret service secret =>
    refine hfate ?_
    rcases createSecret_cases s (some service) secret with ⟨e, h⟩ | ⟨hfree, h⟩ <;> rw [h]
    · exact .nothing
    · exact .created hfree
  | updateSecret service base secret =>
    refine hfate ?_
    rcases updateSecret_cases s service base secret with ⟨e, h⟩ | h <;> rw [h]
    · exact .nothing
    · exact .updated
  | deleteSecret service coord =>
    refine hfate ?_
    rcases deleteSecret_cases s coord with ⟨h, -⟩ | h <;> rw [h]
    · exact .nothing
    · exact .deleted

/-! ## What the answers say -/

/-- What a cache shows was committed under the key. -/
theorem shown_past {age : Age} (h : s.shown key age = some v) :
    v ∈ s.services.past ∧ v.val.key = key := by
  cases age with
  | current => exact past_of_get? h
  | version rev =>
    simp only [Cluster.shown] at h
    split at h
    · rename_i hfind
      cases h
      refine ⟨List.mem_of_find?_eq_some hfind, ?_⟩
      have hp := List.find?_some hfind
      simp only [Bool.and_eq_true, decide_eq_true_eq] at hp
      exact hp.1.1
    · exact past_of_get? h
  | unseen =>
    simp only [Cluster.shown] at h
    split at h
    · cases h
    · exact past_of_get? h

theorem exec_getService {again : Bool} (h : (s.exec (.getService key again) a).2 = .ok v) : s.shown key a.age = some v := by
  rw [show s.exec (.getService key again) a = s.readService key a.age from answer_ok h] at h
  rcases readService_cases s key a.age with hr | ⟨v', hv, hr⟩ <;> rw [hr] at h <;> cases h
  exact hv

theorem exec_getService_services (s : Cluster) (key : NamespacedName) (again : Bool) (a : Answer) :
    (s.exec (.getService key again) a).1.services = s.services ∧ (s.exec (.getService key again) a).1.secrets = s.secrets ∧
      (s.exec (.getService key again) a).1.nextUid = s.nextUid := by
  have hc := exec_changed s (.getService key again) a
  generalize (s.exec (.getService key again) a).1 = t at hc
  cases hc <;> exact ⟨rfl, rfl, rfl⟩

@[simp] theorem exec_getSecret_state (s : Cluster) (coord : ProjectedSecretRef) (a : Answer) : (s.exec (.getSecret coord) a).1 = s :=
  answer_read _

@[simp] theorem exec_getNamespace_state (s : Cluster) (name : String) (a : Answer) : (s.exec (.getNamespace name) a).1 = s :=
  answer_read _

theorem exec_getSecret {o : Stamped Secret} (h : (s.exec (.getSecret coord) a).2 = .ok o) :
    s.secrets.get? coord = some o := by
  rw [show s.exec (.getSecret coord) a = _ from answer_ok h] at h
  exact read_ok h

theorem exec_getSecret_gone (h : (s.exec (.getSecret coord) a).2 = .error .notFound) :
    s.secrets.value? coord = none := by
  rw [show s.exec (.getSecret coord) a = _ from answer_notFound h] at h
  exact (read_error h).2

/-- After a delete that is answered so, there is no Secret. -/
theorem exec_deleteSecret_gone {service : NamespacedName}
    (h : (s.exec (.deleteSecret service coord) a).2 = .ok () ∨ (s.exec (.deleteSecret service coord) a).2 = .error .notFound) :
    (s.exec (.deleteSecret service coord) a).1.secrets.value? coord = none := by
  rw [show s.exec (.deleteSecret service coord) a = s.deleteSecret coord from h.elim answer_ok answer_notFound]
  rcases deleteSecret_cases s coord with ⟨hd, hnone⟩ | hd <;> rw [hd]
  · exact hnone
  · simp only [Cluster.withoutSecret, value?_remove, if_pos]

variable {base : Stamped FrameService}

theorem exec_updateStatus_ok {status : FrameServiceStatus} (h : (s.exec (.updateStatus base status) a).2 = .ok ()) :
    Live s base ∧ (s.exec (.updateStatus base status) a).1 = s.withStatus base.val.key status := by
  have hcall : s.exec (.updateStatus base status) a = s.updateStatus base status := answer_ok h
  rw [hcall] at h ⊢
  rcases updateStatus_cases s base status with ⟨e, hu⟩ | hu
  · rw [hu] at h
    cases h
  · exact hu

theorem Live.get? (h : Live s base) (hp : base ∈ s.services.past) :
    s.services.get? base.val.key = some base := get?_of_current hp h

/-! ## The tables after a change -/

theorem Cluster.value?_withFinalizers (key j : NamespacedName) (finalizers : List String) :
    (s.withFinalizers key finalizers).services.value? j =
      if j = key then (s.services.value? j).map (fun svc => { svc with finalizers := finalizers }) else s.services.value? j :=
  value?_modify s.services key _ _ j

theorem Cluster.value?_withStatus (s : Cluster) (key j : NamespacedName) (status : FrameServiceStatus) :
    (s.withStatus key status).services.value? j =
      if j = key then (s.services.value? j).map (fun svc => { svc with status := status }) else s.services.value? j :=
  value?_modify s.services key _ _ j

theorem Cluster.value?_withSecret (service : Option NamespacedName) (secret : Secret) (coord : ProjectedSecretRef) :
    (s.withSecret service secret).secrets.value? coord =
      if s.secrets.value? secret.coord = none ∧ coord = secret.coord then
        some { secret with createdBy := service, writtenBy := service }
      else s.secrets.value? coord :=
  value?_create s.secrets { secret with createdBy := service, writtenBy := service } coord

theorem Cluster.value?_overwritten (service : Option NamespacedName) (coord j : ProjectedSecretRef) (secret : Secret) :
    (s.overwritten service coord secret).secrets.value? j =
      if j = coord then
        (s.secrets.value? j).map (fun o => { secret with coord := o.coord, createdBy := o.createdBy, writtenBy := service })
      else s.secrets.value? j :=
  value?_modify s.secrets coord _ _ j

theorem Cluster.value?_withoutSecret (coord j : ProjectedSecretRef) :
    (s.withoutSecret coord).secrets.value? j = if j = coord then none else s.secrets.value? j :=
  value?_remove s.secrets coord j

/-- Only two requests change FrameServices. -/
theorem Changed.services {r : Request} {t : Cluster} (h : Changed s r t) (hr : ∀ base finalizers, r ≠ .updateService base finalizers)
    (hr' : ∀ base status, r ≠ .updateStatus base status) : t.services = s.services := by
  cases h with
  | ended | finalized => exact absurd rfl (hr _ _)
  | stated => exact absurd rfl (hr' _ _)
  | nothing | shown | created | updated | deleted => rfl

/-! ## What others leave -/

/-- What others make of the FrameServices: one comes, is edited, or goes that has no finalizer. -/
inductive Touched (s t : Cluster) : Prop where
  | same (h : t.services = s.services)
  | created {svc : FrameService} (h : t.services = s.services.create svc)
      (hnew : svc.status = {} ∧ svc.uid = s.nextUid ∧ svc.deleting = false)
      (hnext : t.nextUid = s.nextUid + 1)
  | edited {k : NamespacedName} {f : FrameService → FrameService} {hf : ∀ svc, (f svc).key = svc.key}
      (h : t.services = s.services.modify k f hf)
      (hkept : ∀ svc, (f svc).status = svc.status ∧ (f svc).finalizers = svc.finalizers ∧ (f svc).uid = svc.uid)
      (hdel : ∀ svc, s.services.value? k = some svc → (f svc).deleting = true → svc.deleting = true ∨ svc.finalizers ≠ [])
  | removed {k : NamespacedName} (h : t.services = s.services.remove k)
      (hgone : ∀ svc, s.services.value? k = some svc → svc.finalizers = [])

theorem touched_outside (s : Cluster) (o : Outside) : Touched s (s.outside o) := by
  cases o with
  | createService => exact .created rfl ⟨rfl, rfl, rfl⟩ rfl
  | editService => exact .edited rfl (fun _ => ⟨rfl, rfl, rfl⟩) fun _ _ => .inl
  | deleteService k =>
    simp only [Cluster.outside, Cluster.deleteService]
    split
    · exact .same rfl
    rename_i svc hsvc
    have honly : ∀ svc', s.services.value? k = some svc' → svc' = svc := fun _ h => Option.some.inj (h.symm.trans hsvc)
    split
    · rename_i hempty
      exact .removed rfl fun svc' h => honly svc' h ▸ hempty
    rename_i hfin
    split
    · exact .same rfl
    · exact .edited rfl (fun _ => ⟨rfl, rfl, rfl⟩) fun svc' h _ => .inr (honly svc' h ▸ hfin)
  | createSecret secret =>
    simp only [Cluster.outside]
    rcases createSecret_cases s none secret with ⟨e, h⟩ | ⟨-, h⟩ <;> rw [h] <;> exact .same rfl
  | editSecret | deleteSecret | createNamespace | deleteNamespace => exact .same rfl

theorem outside_past (s : Cluster) (o : Outside) (hv : v ∈ s.services.past) :
    v ∈ (s.outside o).services.past := by
  cases touched_outside s o with
  | same h | removed h =>
    rw [h]
    exact hv
  | created h =>
    rw [h]
    exact mem_past_create _ hv
  | edited h =>
    rw [h]
    exact mem_past_modify _ _ _ hv

theorem outside_service (s : Cluster) (o : Outside) {svc : FrameService} (hsvc : s.services.value? key = some svc)
    (hfin : svc.finalizers ≠ []) :
    ∃ svc', (s.outside o).services.value? key = some svc' ∧ svc'.status = svc.status ∧ svc'.finalizers = svc.finalizers ∧
      svc'.uid = svc.uid := by
  cases touched_outside s o with
  | same h => exact ⟨svc, by rw [h, hsvc], rfl, rfl, rfl⟩
  | created h => exact ⟨svc, by rw [h, value?_create_of_some hsvc], rfl, rfl, rfl⟩
  | edited h hkept =>
    rw [h]
    exact exists_value?_modify hsvc ⟨rfl, rfl, rfl⟩ (hkept svc)
  | removed h hgone =>
    refine ⟨svc, ?_, rfl, rfl, rfl⟩
    rw [h, value?_remove, if_neg, hsvc]
    rintro rfl
    exact hfin (hgone svc hsvc)

theorem outside_origin (s : Cluster) (o : Outside) {svc : FrameService} (h : (s.outside o).services.value? key = some svc) :
    (∃ svc', s.services.value? key = some svc' ∧ svc'.status = svc.status ∧ svc'.finalizers = svc.finalizers ∧ svc'.uid = svc.uid ∧
        (svc.deleting = true → svc'.deleting = true ∨ svc'.finalizers ≠ [])) ∨
      (svc.status = {} ∧ svc.uid = s.nextUid ∧ svc.deleting = false) := by
  cases touched_outside s o with
  | same ht =>
    rw [ht] at h
    exact .inl ⟨svc, h, rfl, rfl, rfl, .inl⟩
  | created ht hnew =>
    rw [ht, value?_create] at h
    split at h
    · cases h
      exact .inr hnew
    · exact .inl ⟨svc, h, rfl, rfl, rfl, .inl⟩
  | edited ht hkept hdel =>
    rw [ht, value?_modify] at h
    split at h
    · rename_i hj
      subst hj
      obtain ⟨svc', hsvc', rfl⟩ := Option.map_eq_some_iff.mp h
      obtain ⟨hst, hfs, huid⟩ := hkept svc'
      exact .inl ⟨svc', hsvc', hst.symm, hfs.symm, huid.symm, hdel svc' hsvc'⟩
    · exact .inl ⟨svc, h, rfl, rfl, rfl, .inl⟩
  | removed ht =>
    rw [ht, value?_remove] at h
    split at h
    · cases h
    · exact .inl ⟨svc, h, rfl, rfl, rfl, .inl⟩

theorem outside_versions (s : Cluster) (o : Outside) (h : v ∈ (s.outside o).services.past) :
    (∃ v' ∈ s.services.past, v'.val.key = v.val.key ∧ v'.val.uid = v.val.uid ∧ v'.val.status = v.val.status) ∨
      (v.val.status = {} ∧ v.val.uid = s.nextUid ∧ (s.outside o).nextUid = s.nextUid + 1) := by
  cases touched_outside s o with
  | same ht | removed ht =>
    rw [ht] at h
    exact .inl ⟨v, h, rfl, rfl, rfl⟩
  | created ht hnew hnext =>
    rw [ht] at h
    rcases past_create h with hold | ⟨rfl, -⟩
    · exact .inl ⟨v, hold, rfl, rfl, rfl⟩
    · exact .inr ⟨hnew.1, hnew.2.1, hnext⟩
  | @edited _ _ hf ht hkept =>
    rw [ht] at h
    rcases past_modify h with hold | ⟨b, hb, rfl⟩
    · exact .inl ⟨v, hold, rfl, rfl, rfl⟩
    · obtain ⟨hst, -, huid⟩ := hkept b.val
      exact .inl ⟨b, (past_of_get? hb).1, (hf b.val).symm, huid.symm, hst.symm⟩

/-- Others write no Secret as a pass does. -/
theorem outside_secret (s : Cluster) (o : Outside) {secret : Secret} (h : (s.outside o).secrets.value? coord = some secret) :
    s.secrets.value? coord = some secret ∨ (secret.writtenBy = none ∧
      ((∃ old, s.secrets.value? coord = some old ∧ old.createdBy = secret.createdBy) ∨ secret.createdBy = none)) := by
  cases o with
  | createService | editService | createNamespace | deleteNamespace => exact .inl h
  | deleteService j =>
    simp only [Cluster.outside, Cluster.deleteService] at h
    split at h
    · exact .inl h
    split at h
    · exact .inl h
    · split at h <;> exact .inl h
  | createSecret new =>
    simp only [Cluster.outside] at h
    rcases createSecret_cases s none new with ⟨e, hc⟩ | ⟨-, hc⟩ <;> rw [hc] at h
    · exact .inl h
    rw [Cluster.value?_withSecret] at h
    split at h
    · cases h
      exact .inr ⟨rfl, .inr rfl⟩
    · exact .inl h
  | editSecret j new =>
    rw [show s.outside (.editSecret j new) = s.overwritten none j new from rfl, Cluster.value?_overwritten] at h
    split at h
    · obtain ⟨old, hold, rfl⟩ := Option.map_eq_some_iff.mp h
      exact .inr ⟨rfl, .inl ⟨old, hold, rfl⟩⟩
    · exact .inl h
  | deleteSecret j =>
    rw [show s.outside (.deleteSecret j) = s.withoutSecret j from rfl, Cluster.value?_withoutSecret] at h
    split at h
    · cases h
    · exact .inl h

end FrameOperator.Services
