import FrameOperator.Lemmas.ServicePass

/-!
# A pass whose reads are current

Nobody but a pass touches the status of a FrameService, or the finalizers of one that has any (`Steady`). So a copy that was live
when it was read agrees with the server for the whole of the pass (`Agrees`).
-/

namespace FrameOperator.Services

open Versioned Api
open V1beta1 (FrameServiceStatus ProjectedSecretRef)

variable {key : NamespacedName} {s t : Cluster} {svc : FrameService}

def Finalized (s : Cluster) : Prop := ∀ k svc, s.services.value? k = some svc → svc.deleting = true → svc.finalizers ≠ []

/-- What is being deleted keeps a finalizer, whatever is asked. -/
theorem Finalized.changed {r : Request} (h : Finalized s) (hc : Changed s r t) : Finalized t := by
  intro k svc hsvc hdel
  cases hc with
  | nothing | shown | created | updated | deleted => exact h k svc hsvc hdel
  | ended =>
    exact h k svc (value?_of_remove hsvc) hdel
  | finalized hlive hleft =>
    rw [Cluster.value?_withFinalizers] at hsvc
    split at hsvc
    · rename_i hk
      subst hk
      obtain ⟨old, hold, rfl⟩ := Option.map_eq_some_iff.mp hsvc
      exact hleft old hold hdel
    · exact h k svc hsvc hdel
  | stated =>
    rw [Cluster.value?_withStatus] at hsvc
    split at hsvc
    · obtain ⟨old, hold, rfl⟩ := Option.map_eq_some_iff.mp hsvc
      exact h k old hold hdel
    · exact h k svc hsvc hdel

theorem Finalized.outside (h : Finalized s) (o : Outside) : Finalized (s.outside o) := by
  intro k svc hsvc hdel
  rcases outside_origin s o hsvc with ⟨old, hold, -, hfins, -, hdel'⟩ | ⟨-, -, hnot⟩
  · rw [← hfins]
    rcases hdel' hdel with hold' | hne
    · exact h k old hold hold'
    · exact hne
  · rw [hdel] at hnot
    cases hnot

/-- Between two calls a FrameService stays while it has a finalizer, and no FrameService gets another status. -/
structure Steady (key : NamespacedName) (s t : Cluster) : Prop where
  past : ∀ v ∈ s.services.past, v ∈ t.services.past
  uids : s.nextUid ≤ t.nextUid
  service : ∀ svc, s.services.value? key = some svc → svc.finalizers ≠ [] →
    ∃ svc', t.services.value? key = some svc' ∧ svc'.status = svc.status ∧ svc'.finalizers = svc.finalizers ∧ svc'.uid = svc.uid
  origin : ∀ k svc, t.services.value? k = some svc →
    (∃ svc', s.services.value? k = some svc' ∧ svc'.status = svc.status ∧ svc'.uid = svc.uid) ∨ (svc.status = {} ∧ s.nextUid ≤ svc.uid)

theorem Steady.of_eq (hs : t.services = s.services) (hu : t.nextUid = s.nextUid) : Steady key s t where
  past := by
    rw [hs]
    exact fun _ h => h
  uids := by rw [hu]
  service svc h _ := ⟨svc, by rw [hs]; exact h, rfl, rfl, rfl⟩
  origin k svc h := .inl ⟨svc, by rw [← hs]; exact h, rfl, rfl⟩

theorem Steady.refl (key : NamespacedName) (s : Cluster) : Steady key s s := .of_eq rfl rfl

theorem Steady.trans {u : Cluster} (h : Steady key s t) (h' : Steady key t u) : Steady key s u where
  past v hv := h'.past v (h.past v hv)
  uids := h.uids.trans h'.uids
  service := by
    intro svc hsvc hfin
    obtain ⟨svc', hsvc', hst, hfs, huid⟩ := h.service svc hsvc hfin
    obtain ⟨svc'', hsvc'', hst', hfs', huid'⟩ := h'.service svc' hsvc' (by rwa [hfs])
    exact ⟨svc'', hsvc'', hst'.trans hst, hfs'.trans hfs, huid'.trans huid⟩
  origin := by
    intro k svc hsvc
    rcases h'.origin k svc hsvc with ⟨svc', hsvc', hst, huid⟩ | ⟨hst, huid⟩
    · rw [← hst, ← huid]
      exact h.origin k svc' hsvc'
    · exact .inr ⟨hst, h.uids.trans huid⟩

/-- Others leave what passes record. -/
theorem steady_outside (s : Cluster) (o : Outside) : Steady key s (s.outside o) where
  past _ hv := outside_past s o hv
  uids := by
    cases o with
    | createService => exact Nat.le_succ _
    | deleteService k =>
      simp only [Cluster.outside, Cluster.deleteService]
      split
      · exact Nat.le_refl _
      split
      · exact Nat.le_refl _
      · split <;> exact Nat.le_refl _
    | createSecret secret =>
      simp only [Cluster.outside]
      rcases createSecret_cases s none secret with ⟨e, h⟩ | ⟨-, h⟩
      · rw [h]
      · rw [h]
        exact Nat.le_refl _
    | editService | editSecret | deleteSecret | createNamespace | deleteNamespace => exact Nat.le_refl _
  service _ hsvc hfin := outside_service s o hsvc hfin
  origin := by
    intro k svc hsvc
    rcases outside_origin s o hsvc with ⟨old, hold, hst, -, huid, -⟩ | ⟨hst, huid, -⟩
    · exact .inl ⟨old, hold, hst, huid⟩
    · exact .inr ⟨hst, Nat.le_of_eq huid.symm⟩

theorem steady_read (s : Cluster) (k : NamespacedName) (again : Bool) (a : Answer) :
    Steady key s (s.exec (.getService k again) a).1 :=
  .of_eq (exec_getService_services s k again a).1 (exec_getService_services s k again a).2.2

theorem steady_secret {r : Request} (hr : ∀ base finalizers, r ≠ .updateService base finalizers)
    (hr' : ∀ base status, r ≠ .updateStatus base status) (s : Cluster) (a : Answer) : Steady key s (s.exec r a).1 := by
  have hc := exec_changed s r a
  refine .of_eq (hc.services hr hr') ?_
  generalize (s.exec r a).1 = t at hc
  cases hc <;> rfl

def Agrees (key : NamespacedName) (s : Cluster) (svc : FrameService) : Prop :=
  svc.key = key ∧ (Bound svc → svc.finalizers ≠ [] ∧ ∃ cur, s.services.value? key = some cur ∧
    cur.status.binding = svc.status.binding ∧
    cur.status.provisioned = svc.status.provisioned ∧ cur.finalizers = svc.finalizers ∧ cur.uid = svc.uid)

/-- What agrees with the server goes on to. -/
theorem Agrees.steady (h : Agrees key s svc) (hst : Steady key s t) : Agrees key t svc := by
  refine ⟨h.1, fun hb => ?_⟩
  obtain ⟨hne, cur, hcur, hbind, hprov, hfins, huid⟩ := h.2 hb
  obtain ⟨cur', hcur', hst', hfs', huid'⟩ := hst.service cur hcur (by rwa [hfins])
  exact ⟨hne, cur', hcur', by rw [hst', hbind], by rw [hst', hprov], hfs'.trans hfins, huid'.trans huid⟩

theorem Agrees.congr (h : Agrees key s svc) (hs : t.services = s.services) : Agrees key t svc := by
  unfold Agrees
  rw [hs]
  exact h

/-- A current read agrees with the server. -/
theorem agrees_read (hs : Finalized s) {a : Answer} {v : Stamped FrameService} (hage : a.age = .current)
    (ha : (s.exec (.getService key false) a).2 = .ok v) : Agrees key (s.exec (.getService key false) a).1 v.val := by
  have h := exec_getService ha
  rw [hage] at h
  have hv := value?_of_get? h
  refine Agrees.congr ⟨(past_of_get? h).2, fun hb => ⟨?_, v.val, hv, rfl, rfl, rfl, rfl⟩⟩ (exec_getService_services s key false a).1
  rcases hb with hdel | hfin
  · exact hs key v.val hv hdel
  · exact List.ne_nil_of_mem hfin

variable {fresh : Stamped FrameService}

theorem Agrees.live (h : Agrees key s svc) (hb : Bound svc) (hp : fresh ∈ s.services.past)
    (hk : fresh.val.key = key) (hlive : Live s fresh) :
    s.services.value? key = some fresh.val ∧ fresh.val.status.binding = svc.status.binding ∧
      fresh.val.status.provisioned = svc.status.provisioned ∧ fresh.val.finalizers = svc.finalizers ∧ fresh.val.uid = svc.uid := by
  obtain ⟨-, cur, hcur, hbind, hprov, hfins, huid⟩ := h.2 hb
  have hget := hlive.get? hp
  rw [hk] at hget
  have hv := value?_of_get? hget
  rw [hcur] at hv
  cases hv
  exact ⟨hcur, hbind, hprov, hfins, huid⟩

theorem Agrees.record (h : Agrees key s svc) (hfin : frameServiceFinalizer ∈ svc.finalizers)
    (hp : fresh ∈ s.services.past) (hk : fresh.val.key = key) (hlive : Live s fresh) (coords : List ProjectedSecretRef) :
    Agrees key (s.withStatus key
      { fresh.val.status with binding := { fresh.val.status.binding with projected := some coords } }) (svc.withProjected coords) := by
  obtain ⟨hcur, hbind, hprov, hfins, huid⟩ := h.live (.inr hfin) hp hk hlive
  have hset := Cluster.value?_withStatus s key key
    { fresh.val.status with binding := { fresh.val.status.binding with projected := some coords } }
  rw [if_pos rfl, hcur, Option.map_some] at hset
  exact ⟨h.1, fun _ => ⟨List.ne_nil_of_mem hfin, _, hset, by simp [FrameService.withProjected, hbind], hprov, hfins, huid⟩⟩

section Side

variable {π τ χ ω α : Type} {B : π → Type} {S : Side τ χ ω B}

/-- A provider's calls leave what stays true meanwhile. -/
theorem side_safe (inv : Cluster → Prop) (meanwhile : Cluster → Cluster → Prop) (K : Cluster → Prop)
    {allow : Cluster × τ → Call π → Answer × χ → Prop} {guar : Cluster × τ → Call π → Prop} (hguar : ∀ w r, guar w (.side r))
    (hK : ∀ s t, K s → meanwhile s t → K t) (p : Program B α) {w : Cluster × τ} (hinv : inv w.1) (hw : K w.1) :
    (Prog.side p).Safe S.serve ⟨fun w => inv w.1, fun w w' => meanwhile w.1 w'.1, allow, guar⟩ (fun _ w => K w.1) w := by
  have htriv : p.Safe S.exec ⟨fun _ => True, fun _ _ => True, fun _ _ _ => True, fun _ _ => True⟩ (fun _ _ => True) w.2 :=
    Program.safe_of_trivial (fun _ => trivial) (fun _ _ => trivial) p w.2
  have hembed : (Prog.side p).Safe S.serve ⟨fun w => inv w.1, fun w w' => meanwhile w.1 w'.1, allow, guar⟩
      (fun _ w => True ∧ K w.1) w :=
    Program.Safe.embed Prod.snd Prod.snd (fun _ _ _ => ⟨rfl, rfl⟩) (fun _ _ => trivial) (fun _ _ _ => trivial)
      (fun _ _ _ _ => trivial) (fun w r _ _ _ => hguar w r) (fun _ _ _ h hK' _ _ => ⟨h, hK'⟩) (fun w w' => hK w.1 w'.1) htriv hw
  exact hembed.imp hinv fun _ _ _ h => h.2

end Side

end FrameOperator.Services
