import FrameOperator.Lemmas.ServiceSteps

/-!
# A pass of the FrameService controller

What a pass keeps is proved once for a discipline: what its calls have to be like, what it may count on meanwhile, what it knows of
its copy of the FrameService, when a coordinate is free, and when it is clear of the FrameService's own.
-/

namespace FrameOperator.Services

open List Api
open V1beta1 (FrameServiceStatus Sizing ProjectedSecretRef ProvisionedRef)

variable {π τ χ ω : Type} {B : π → Type}

def Bound (svc : FrameService) : Prop := svc.deleting = true ∨ frameServiceFinalizer ∈ svc.finalizers

/-- What a copy carries over: coordinates, less what is clear, and an endpoint. -/
structure Carries (clear : ProjectedSecretRef → Prop) (published : String → Prop) (svc svc' : FrameService) : Prop where
  key : svc'.key = svc.key
  projected : ∀ c ∈ svc'.projected, c ∈ svc.projected
  kept : ∀ c ∈ svc.projected, c ∈ svc'.projected ∨ clear c
  endpoint : svc'.status.binding.endpoint = svc.status.binding.endpoint ∨ published svc'.status.binding.endpoint

variable {published : String → Prop}

theorem Carries.refl {clear : ProjectedSecretRef → Prop} (svc : FrameService) :
    Carries clear published svc svc := ⟨rfl, fun _ h => h, fun _ h => .inl h, .inl rfl⟩

theorem Carries.imp {clear clear' : ProjectedSecretRef → Prop} {svc svc' : FrameService}
    (h : Carries clear published svc svc') (hc : ∀ c, clear c → clear' c) : Carries clear' published svc svc' :=
  ⟨h.key, h.projected, fun c hm => (h.kept c hm).imp_right (hc c), h.endpoint⟩

structure Discipline (M : Manager B) (S : Side τ χ ω B) (key : NamespacedName) where
  inv : Cluster × τ → Prop
  allow : Cluster × τ → Call π → Answer × χ → Prop
  guar : Cluster × τ → Call π → Prop
  meanwhile : Cluster × τ → Cluster × τ → Prop
  -- the copy of the FrameService that the pass has is good
  know : Cluster × τ → FrameService → Prop
  -- nobody else has a claim on a coordinate, and nothing of the FrameService's own is there
  free : Cluster × τ → ProjectedSecretRef → Prop
  clear : Cluster × τ → ProjectedSecretRef → Prop
  -- what a provider may publish and list
  published : String → Prop
  made : Slice ProvisionedRef → Prop
  keeps : ∀ {w r c}, inv w → guar w r → allow w r c → inv (S.serve w r c).1
  refl : ∀ w, meanwhile w w
  trans : ∀ {w w' w''}, meanwhile w w' → meanwhile w' w'' → meanwhile w w''
  past : ∀ {w w' v}, meanwhile w w' → v ∈ w.1.services.past → v ∈ w'.1.services.past
  know_key : ∀ {w svc}, know w svc → svc.key = key
  know_read : ∀ {w c v}, inv w → allow w (.own (.getService key false)) c → (w.1.exec (.getService key false) c.1).2 = .ok v →
    know (S.serve w (.own (.getService key false)) c).1 v.val
  know_meanwhile : ∀ {w w' svc}, know w svc → inv w → meanwhile w w' → know w' svc
  free_meanwhile : ∀ {w w' coord}, free w coord → meanwhile w w' → free w' coord
  clear_meanwhile : ∀ {w w' coord}, clear w coord → meanwhile w w' → clear w' coord
  free_of_gone : ∀ {w coord c}, inv w → allow w (.own (.getSecret coord)) c → w.1.secrets.value? coord = none → free w coord
  clear_of_gone : ∀ {w coord}, w.1.secrets.value? coord = none → clear w coord
  read_meanwhile : ∀ w again c, meanwhile w (S.serve w (.own (.getService key again)) c).1
  delete_meanwhile : ∀ w coord c, meanwhile w (S.serve w (.own (.deleteSecret key coord)) c).1
  drop_meanwhile : ∀ w ref c, meanwhile w (S.serve w (.drop ref) c).1
  now : ∀ w, guar w (.own .now)
  getService : ∀ w again, guar w (.own (.getService key again))
  getNamespace : ∀ w name, guar w (.own (.getNamespace name))
  getSecret : ∀ w coord, guar w (.own (.getSecret coord))
  deleteSecret : ∀ {w svc coord}, inv w → know w svc → Bound svc → coord ∈ svc.projected → guar w (.own (.deleteSecret svc.key coord))
  drop : ∀ {w svc ref}, inv w → know w svc → Bound svc → ref ∈ svc.status.provisioned.getD [] → guar w (.drop ref)
  record : ∀ {w svc toAdd} {fresh : Stamped FrameService}, inv w → know w svc → frameServiceFinalizer ∈ svc.finalizers →
    (∀ coord ∈ toAdd, free w coord) → fresh ∈ w.1.services.past → fresh.val.key = key →
    guar w (.own (.updateStatus fresh
      { fresh.val.status with binding := { fresh.val.status.binding with projected := some (svc.projected ++ toAdd) } }))
  know_record : ∀ {w svc toAdd} {fresh : Stamped FrameService}, inv w → know w svc → frameServiceFinalizer ∈ svc.finalizers →
    fresh ∈ w.1.services.past → fresh.val.key = key → Live w.1 fresh →
    know (w.1.withStatus key
      { fresh.val.status with binding := { fresh.val.status.binding with projected := some (svc.projected ++ toAdd) } }, w.2)
      (svc.withProjected (svc.projected ++ toAdd))
  createSecret : ∀ {w svc} {secret : Secret}, inv w → know w svc → frameServiceFinalizer ∈ svc.finalizers →
    secret.coord ∈ svc.projected → guar w (.own (.createSecret svc.key secret))
  updateSecret : ∀ {w svc secret} {base : Stamped Secret}, inv w → know w svc → frameServiceFinalizer ∈ svc.finalizers →
    base.val.coord ∈ svc.projected → guar w (.own (.updateSecret svc.key base secret))
  know_write : ∀ {w svc r c}, inv w → know w svc → frameServiceFinalizer ∈ svc.finalizers →
    ((∃ secret : Secret, r = .createSecret svc.key secret ∧ secret.coord ∈ svc.projected) ∨
      ∃ base secret, r = .updateSecret svc.key base secret) → know (S.serve w (.own r) c).1 svc
  report : ∀ {w svc svc' status reason message sizing provisioned t} {fresh : Stamped FrameService}, inv w → know w svc → Bound svc →
    Carries (clear w) published svc svc' → (provisioned.isSome = true → made provisioned) → fresh ∈ w.1.services.past →
    fresh.val.key = key → guar w (.own (.updateStatus fresh (statusOf svc' fresh.val status reason message sizing provisioned t)))
  addFinalizer : ∀ {w} {svc : Stamped FrameService}, inv w → know w svc.val → svc ∈ w.1.services.past →
    guar w (.own (.updateService svc (svc.val.finalizers ++ [frameServiceFinalizer])))
  dropFinalizer : ∀ {w} {svc : Stamped FrameService}, inv w → know w svc.val → svc.val.deleting = true → svc ∈ w.1.services.past →
    (∀ coord ∈ svc.val.outsideOwn, clear w coord) →
    guar w (.own (.updateService svc (svc.val.finalizers.filter (· ≠ frameServiceFinalizer))))
  size : ∀ {w svc p}, M.registry.get svc.spec.type = .ok (.provisions p) → inv w → know w svc →
    frameServiceFinalizer ∈ svc.finalizers →
    (Prog.side (p.size svc.params)).Safe S.serve ⟨inv, meanwhile, allow, guar⟩ (fun _ w => know w svc) w
  reconcile : ∀ {w svc p}, M.registry.get svc.spec.type = .ok (.provisions p) → inv w → know w svc →
    frameServiceFinalizer ∈ svc.finalizers →
    (Prog.side (p.reconcile svc)).Safe S.serve ⟨inv, meanwhile, allow, guar⟩
      (fun r w => know w svc ∧ ∀ result, r = .ok result → result.provisioned.isSome = true → made result.provisioned) w
  bind : ∀ {w svc p}, M.registry.get svc.spec.type = .ok (.provisions p) → inv w → know w svc →
    frameServiceFinalizer ∈ svc.finalizers →
    (Prog.side (p.bind svc)).Safe S.serve ⟨inv, meanwhile, allow, guar⟩
      (fun r w => know w svc ∧ ∀ binding, r = .ok binding → published binding.endpoint) w

namespace Discipline

variable {M : Manager B} {S : Side τ χ ω B} {key : NamespacedName} (D : Discipline M S key) {w : Cluster × τ} {svc : FrameService}
  {α : Type}

def terms : Terms (Cluster × τ) (Answer × χ) (Call π) := ⟨D.inv, D.meanwhile, D.allow, D.guar⟩

def Safe (p : Prog B α) (post : α → Cluster × τ → Prop) (w : Cluster × τ) : Prop := p.Safe S.serve D.terms post w

variable {D}

theorem ask {r : Call π} {f : Call.Resp B r → Prog B α} {post : α → Cluster × τ → Prop}
    (h : ∀ t, D.inv t → D.meanwhile w t → D.guar t r ∧ ∀ c, D.allow t r c → D.inv (S.serve t r c).1 →
      D.Safe (f (S.serve t r c).2) post (S.serve t r c).1) : D.Safe (Program.ask r >>= f) post w :=
  safe_ask (fun _ _ ht hg hc => D.keeps ht hg hc) h

theorem Safe.bind {β : Type} {p : Prog B α} {f : α → Prog B β} {mid : α → Cluster × τ → Prop} {post : β → Cluster × τ → Prop}
    (h : D.Safe p mid w) (hw : D.inv w) (hf : ∀ a t, D.inv t → mid a t → D.Safe (f a) post t) : D.Safe (p >>= f) post w :=
  Program.Safe.bind h hw hf

theorem Safe.imp {p : Prog B α} {mid post : α → Cluster × τ → Prop} (h : D.Safe p mid w) (hw : D.inv w)
    (hp : ∀ a t, D.inv t → mid a t → post a t) : D.Safe p post w :=
  Program.Safe.imp h hw hp

theorem serve_getService {again : Bool} {c : Answer × χ} {v : Stamped FrameService}
    (h : (S.serve w (.own (.getService key again)) c).2 = .ok v) :
    v ∈ (S.serve w (.own (.getService key again)) c).1.1.services.past ∧ v.val.key = key := by
  rw [show (S.serve w (.own (.getService key again)) c).1.1.services =
    w.1.services from (exec_getService_services w.1 key again c.1).1]
  exact shown_past (exec_getService h)

/-! ## Deleting -/

variable {coords : List ProjectedSecretRef}

theorem deleteSecrets_safe (hw : D.inv w) (hk : D.know w svc) (hb : Bound svc)
    (hsub : ∀ coord ∈ coords, coord ∈ svc.projected) :
    D.Safe (deleteSecrets svc.key coords) (fun r t => D.meanwhile w t ∧ (r = .ok () → ∀ coord ∈ coords, D.clear t coord)) w := by
  induction coords generalizing w with
  | nil => exact ⟨D.refl w, nofun⟩
  | cons coord rest ih =>
    unfold deleteSecrets
    refine ask fun t ht hwt => ⟨?_, fun c _ hinv => ?_⟩
    · exact D.deleteSecret ht (D.know_meanwhile hk hw hwt) hb (hsub coord mem_cons_self)
    have hkey := D.know_key hk
    have hdel : D.meanwhile t (S.serve t (.own (.deleteSecret svc.key coord)) c).1 := by
      rw [hkey]
      exact D.delete_meanwhile t coord c
    have hwd := D.trans hwt hdel
    -- what is gone is clear, and stays so while the rest is deleted
    have hrest : D.clear (S.serve t (.own (.deleteSecret svc.key coord)) c).1 coord →
        D.Safe (deleteSecrets svc.key rest)
          (fun r t => D.meanwhile w t ∧ (r = .ok () → ∀ coord' ∈ coord :: rest, D.clear t coord'))
          (S.serve t (.own (.deleteSecret svc.key coord)) c).1 := by
      intro hclear
      refine (ih hinv (D.know_meanwhile hk hw hwd) fun coord' h => hsub coord' (mem_cons_of_mem _ h)).imp hinv ?_
      intro r u _ h
      refine ⟨D.trans hwd h.1, fun hr coord' hmem => ?_⟩
      rcases mem_cons.mp hmem with rfl | hmem
      · exact D.clear_meanwhile hclear h.1
      · exact h.2 hr coord' hmem
    cases ha : (S.serve t (.own (.deleteSecret svc.key coord)) c).2 with
    | ok => exact hrest (D.clear_of_gone (exec_deleteSecret_gone (.inl ha)))
    | error e =>
      simp only
      split
      · exact ⟨hwd, nofun⟩
      split
      · rename_i he
        subst he
        exact hrest (D.clear_of_gone (exec_deleteSecret_gone (.inr ha)))
      · exact ⟨hwd, nofun⟩

theorem deleteProvisioned_safe (hw : D.inv w) (hk : D.know w svc) (hb : Bound svc) {refs : List ProvisionedRef}
    (hsub : ∀ ref ∈ refs, ref ∈ svc.status.provisioned.getD []) :
    D.Safe (deleteProvisioned refs) (fun _ t => D.meanwhile w t) w := by
  induction refs generalizing w with
  | nil => exact D.refl w
  | cons ref rest ih =>
    unfold deleteProvisioned
    refine ask fun t ht hwt => ⟨D.drop ht (D.know_meanwhile hk hw hwt) hb (hsub ref mem_cons_self), fun c _ hinv => ?_⟩
    have hwd := D.trans hwt (D.drop_meanwhile t ref c)
    have hrest : D.Safe (deleteProvisioned rest) (fun _ t => D.meanwhile w t) (S.serve t (.drop ref) c).1 :=
      (ih hinv (D.know_meanwhile hk hw hwd) fun ref' h => hsub ref' (mem_cons_of_mem _ h)).imp hinv
        fun _ _ _ h => D.trans hwd h
    cases ha : (S.serve t (.drop ref) c).2 with
    | ok => exact hrest
    | error e =>
      simp only
      split
      · exact hrest
      · exact hwd

/-! ## The status -/

variable {provisioned : Slice ProvisionedRef} {svc' : FrameService}

theorem setStatus_safe (hw : D.inv w) (hk : D.know w svc) (hb : Bound svc) (hc : Carries (D.clear w) D.published svc svc')
    (hp : provisioned.isSome = true → D.made provisioned) (status reason message : String) (sizing : Option Sizing) :
    D.Safe (setStatus svc' status reason message sizing provisioned) (fun _ _ => True) w := by
  have hkey : svc'.key = key := by rw [hc.key]; exact D.know_key hk
  unfold setStatus
  rw [hkey]
  refine ask fun t ht hwt => ⟨D.getService t true, fun c _ hinv => ?_⟩
  have hwr := D.trans hwt (D.read_meanwhile t true c)
  cases ha : (S.serve t (.own (.getService key true)) c).2 with
  | error e =>
    simp only
    split <;> trivial
  | ok fresh =>
    obtain ⟨hpast, hkeyed⟩ := serve_getService ha
    simp only
    refine ask fun u hu hru => ⟨D.now u, fun c' _ hinv' => ask fun v hv huv => ⟨?_, fun c'' _ _ => ?_⟩⟩
    · have hrv : D.meanwhile (S.serve t (.own (.getService key true)) c).1 v := D.trans hru huv
      have hwv := D.trans hwr hrv
      refine D.report hv (D.know_meanwhile hk hw hwv) hb (hc.imp fun coord h => D.clear_meanwhile h hwv) hp (D.past hrv hpast) hkeyed
    · split <;> trivial

/-- The report at the end of a pass honours its duties. -/
theorem finish_safe (hw : D.inv w) (hk : D.know w svc) (hb : Bound svc) (hc : Carries (D.clear w) D.published svc svc')
    (hp : provisioned.isSome = true → D.made provisioned) (after : Requeue) (status reason message : String) (sizing : Option Sizing) :
    D.Safe (finish after svc' status reason message sizing provisioned) (fun _ _ => True) w :=
  (setStatus_safe hw hk hb hc hp status reason message sizing).bind hw fun _ _ _ _ => trivial

theorem not_made : (none : Slice ProvisionedRef).isSome = true → D.made none := nofun

theorem reconcileDelete_safe {svc : Stamped FrameService} (hw : D.inv w) (hk : D.know w svc.val) (hdel : svc.val.deleting = true)
    (hpast : svc ∈ w.1.services.past) : D.Safe (reconcileDelete svc) (fun _ _ => True) w := by
  unfold reconcileDelete deleteAllProjections
  have hsub : ∀ coord ∈ svc.val.outsideOwn, coord ∈ svc.val.projected := fun coord h => (mem_filter.mp h).1
  refine (deleteSecrets_safe hw hk (.inl hdel) hsub).bind hw fun r t ht h => ?_
  have hkt := D.know_meanwhile hk hw h.1
  match r, h with
  | .error (.degradation reason message), h => exact finish_safe ht hkt (.inl hdel) (.refl _) not_made _ _ _ _ _
  | .error (.failed message), h => trivial
  | .ok (), h =>
    have hprov : D.Safe (if svc.val.spec.deletionPolicy = "Delete" then deleteProvisioned (svc.val.status.provisioned.getD [])
        else pure (.ok ())) (fun _ u => D.meanwhile t u) t := by
      split
      · exact deleteProvisioned_safe ht hkt (.inl hdel) fun _ h => h
      · exact D.refl t
    refine hprov.bind ht fun r u hu htu => ?_
    cases r with
    | error e => trivial
    | ok =>
      refine ask fun v hv huv => ⟨?_, fun c _ _ => ?_⟩
      · have htv := D.trans htu huv
        refine D.dropFinalizer hv (D.know_meanwhile hkt ht htv) hdel (D.past (D.trans h.1 htv) hpast) fun coord hmem => ?_
        exact D.clear_meanwhile (h.2 rfl coord hmem) htv
      · split <;> trivial

/-! ## The binding -/

theorem checkNamespaceExists_safe (isDNS1123Label : String → List String) (ns : String) :
    D.Safe (checkNamespaceExists isDNS1123Label ns) (fun _ t => D.meanwhile w t) w := by
  unfold checkNamespaceExists
  split
  · exact D.refl w
  refine ask fun t ht hwt => ⟨D.getNamespace t ns, fun c _ _ => ?_⟩
  have hread : (S.serve t (.own (.getNamespace ns)) c).1 = t := Prod.ext (exec_getNamespace_state t.1 ns c.1) rfl
  rw [hread]
  cases (S.serve t (.own (.getNamespace ns)) c).2 with
  | ok => exact hwt
  | error e =>
    simp only
    split <;> exact hwt

theorem projectedCoords_safe (hw : D.inv w) (isDNS1123Label : String → List String) (own name : String) (nss : List String) :
    D.Safe (projectedCoords isDNS1123Label own name nss) (fun _ t => D.meanwhile w t) w := by
  induction nss generalizing w with
  | nil => exact D.refl w
  | cons ns rest ih =>
    unfold projectedCoords
    split
    · exact ih hw
    refine (checkNamespaceExists_safe isDNS1123Label ns).bind hw fun r t ht hwt => ?_
    cases r with
    | error e => exact hwt
    | ok =>
      refine (ih ht).bind ht fun r u hu htu => ?_
      have hwu := D.trans hwt htu
      cases r <;> exact hwu

theorem claimNewCoordinates_safe (svc : FrameService) (toAdd : List ProjectedSecretRef) :
    D.Safe (claimNewCoordinates svc toAdd) (fun r t => D.meanwhile w t ∧ (r = .ok () → ∀ coord ∈ toAdd, D.free t coord)) w := by
  induction toAdd generalizing w with
  | nil => exact ⟨D.refl w, nofun⟩
  | cons coord rest ih =>
    unfold claimNewCoordinates
    refine ask fun t ht hwt => ⟨D.getSecret t coord, fun c hc hinv => ?_⟩
    have hread : (S.serve t (.own (.getSecret coord)) c).1 = t := Prod.ext (exec_getSecret_state t.1 coord c.1) rfl
    rw [hread]
    cases ha : (S.serve t (.own (.getSecret coord)) c).2 with
    | ok o => exact ⟨hwt, nofun⟩
    | error e =>
      simp only
      split
      · rename_i he
        subst he
        have hfree := D.free_of_gone ht hc (exec_getSecret_gone ha)
        refine (ih (w := t)).imp ht fun r u _ h => ⟨D.trans hwt h.1, fun hr coord' hmem => ?_⟩
        rcases mem_cons.mp hmem with rfl | hmem
        · exact D.free_meanwhile hfree h.1
        · exact h.2 hr coord' hmem
      · split <;> exact ⟨hwt, nofun⟩

variable {coord : ProjectedSecretRef}

theorem mem_coordsMissingFrom {coords other : List ProjectedSecretRef} :
    coord ∈ coordsMissingFrom coords other ↔ coord ∈ coords ∧ coord ∉ other := by
  simp [coordsMissingFrom]

variable (hw : D.inv w) (hk : D.know w svc) (hfin : frameServiceFinalizer ∈ svc.finalizers)

include hw hk hfin

theorem persistBindingStatus_safe {toAdd : List ProjectedSecretRef} (hfree : ∀ coord ∈ toAdd, D.free w coord) :
    D.Safe (persistBindingStatus (svc.withProjected (svc.projected ++ toAdd)))
      (fun r t => (∃ message, r = .error (.failed message)) ∨
        (r = .ok () ∧ D.know t (svc.withProjected (svc.projected ++ toAdd)))) w := by
  have hkey : svc.key = key := D.know_key hk
  unfold persistBindingStatus
  rw [show (svc.withProjected (svc.projected ++ toAdd)).key = key from hkey]
  refine ask fun u hu hwu => ⟨D.getService u true, fun c _ _ => ?_⟩
  have hwr := D.trans hwu (D.read_meanwhile u true c)
  cases ha : (S.serve u (.own (.getService key true)) c).2 with
  | error e => exact .inl ⟨_, rfl⟩
  | ok fresh =>
    obtain ⟨hpast, hkeyed⟩ := serve_getService ha
    refine ask fun v hv hrv => ?_
    have hwv := D.trans hwr hrv
    have hkv := D.know_meanwhile hk hw hwv
    have hpv := D.past hrv hpast
    refine ⟨D.record hv hkv hfin (fun coord hm => D.free_meanwhile (hfree coord hm) hwv) hpv hkeyed, fun c' _ _ => ?_⟩
    generalize hst : ({ fresh.val.status with
      binding := { fresh.val.status.binding with
        projected := (svc.withProjected (svc.projected ++ toAdd)).status.binding.projected } } : FrameServiceStatus) = st
    cases hu : (S.serve v (.own (.updateStatus fresh st)) c').2 with
    | error e => exact .inl ⟨_, rfl⟩
    | ok =>
      obtain ⟨hlive, hset⟩ := exec_updateStatus_ok (show (v.1.exec (.updateStatus fresh st) c'.1).2 = .ok () from hu)
      have hstate : (S.serve v (.own (.updateStatus fresh st)) c').1 = (v.1.withStatus key st, v.2) := by
        rw [← hkeyed]
        exact Prod.ext hset rfl
      rw [hstate, ← hst]
      exact .inr ⟨rfl, D.know_record hv hkv hfin hpv hkeyed hlive⟩

/-- A known copy with the old coordinates and, if nothing is in the way, the new ones. -/
structure Recorded (D : Discipline M S key) (svc : FrameService) (toAdd : List ProjectedSecretRef)
    (r : FrameService × Except BindingError Unit) (t : Cluster × τ) : Prop where
  finalizers : r.1.finalizers = svc.finalizers
  known : (∃ message, r.2 = .error (.failed message)) ∨ D.know t r.1
  old : ∀ coord ∈ svc.projected, coord ∈ r.1.projected
  new : r.2 = .ok () → ∀ coord ∈ toAdd, coord ∈ r.1.projected
  only : ∀ coord ∈ r.1.projected, coord ∈ svc.projected ∨ coord ∈ toAdd

theorem recordNew_safe (toAdd : List ProjectedSecretRef) : D.Safe (recordNew svc toAdd) (D.Recorded svc toAdd) w := by
  unfold recordNew
  split
  · rename_i hnil
    subst hnil
    exact ⟨rfl, .inr hk, fun _ h => h, fun _ _ h => (by cases h), fun _ h => .inl h⟩
  · refine (claimNewCoordinates_safe svc toAdd).bind hw fun r t ht h => ?_
    have hkt := D.know_meanwhile hk hw h.1
    cases r with
    | error e => exact ⟨rfl, .inr hkt, fun _ h => h, fun h => (by cases h), fun _ h => .inl h⟩
    | ok =>
      refine (persistBindingStatus_safe ht hkt hfin (h.2 rfl)).bind ht fun r u hu hr => ?_
      refine ⟨rfl, ?_, fun _ h => mem_append_left _ h, fun _ _ h => mem_append_right _ h, fun _ h => mem_append.mp h⟩
      exact hr.imp_right And.right

theorem createOrUpdate_safe (hmem : coord ∈ svc.projected) (data : GoMap String Bytes) :
    D.Safe (createOrUpdate svc coord data) (fun _ t => D.know t svc) w := by
  have hsame : ∀ {secret secret' : Secret}, secretOf svc data secret = .ok secret' → secret'.coord = secret.coord := by
    intro secret secret' h
    simp only [secretOf, setControllerReference] at h
    split at h
    · split at h
      · cases h
        rfl
      · split at h
        · cases h
          rfl
        · cases h
    · cases h
      rfl
  unfold createOrUpdate
  refine ask fun t ht hwt => ⟨D.getSecret t coord, fun c _ hinv => ?_⟩
  have hkt := D.know_meanwhile hk hw hwt
  have hread : (S.serve t (.own (.getSecret coord)) c).1 = t := Prod.ext (exec_getSecret_state t.1 coord c.1) rfl
  rw [hread]
  cases ha : (S.serve t (.own (.getSecret coord)) c).2 with
  | error e =>
    simp only
    split
    · cases hs : secretOf svc data { coord := coord } with
      | error text => exact hkt
      | ok secret =>
        have hcoord : secret.coord ∈ svc.projected := by rw [hsame hs]; exact hmem
        refine ask fun u hu htu => ?_
        have hku := D.know_meanwhile hkt ht htu
        exact ⟨D.createSecret hu hku hfin hcoord, fun c' _ _ => D.know_write hu hku hfin (.inl ⟨secret, rfl, hcoord⟩)⟩
    · exact hkt
  | ok existing =>
    have hcoord := (Versioned.past_of_get? (exec_getSecret (show (t.1.exec (.getSecret coord) c.1).2 = .ok existing from ha))).2
    simp only
    cases hs : secretOf svc data existing.val with
    | error text => exact hkt
    | ok secret =>
      simp only
      split
      · exact hkt
      refine ask fun u hu htu => ?_
      have hku := D.know_meanwhile hkt ht htu
      exact ⟨D.updateSecret hu hku hfin (by rw [hcoord]; exact hmem),
        fun c' _ _ => D.know_write hu hku hfin (.inr ⟨existing, secret, rfl⟩)⟩

theorem writeSecrets_safe (hsub : ∀ coord ∈ coords, coord ∈ svc.projected) (data : GoMap String Bytes) :
    D.Safe (writeSecrets svc data coords) (fun _ t => D.know t svc) w := by
  induction coords generalizing w with
  | nil => exact hk
  | cons coord rest ih =>
    unfold writeSecrets writeSecret
    have hwrite : D.Safe (do return (← createOrUpdate svc coord data).mapError (WriteError.toBinding coord))
        (fun _ t => D.know t svc) w :=
      (createOrUpdate_safe hw hk hfin (hsub coord mem_cons_self) data).bind hw fun _ _ _ h => h
    refine hwrite.bind hw fun r t ht hkt => ?_
    cases r with
    | error e => exact hkt
    | ok => exact ih ht hkt fun coord' h => hsub coord' (mem_cons_of_mem _ h)

theorem reconcileBinding_safe (isDNS1123Label : String → List String) (binding : Binding) :
    D.Safe (reconcileBinding isDNS1123Label svc binding) (fun r t => (∃ message, r.2 = .error (.failed message)) ∨
      ∃ known, D.know t known ∧ Bound known ∧ Carries (D.clear t) D.published known r.1) w := by
  unfold reconcileBinding
  refine (projectedCoords_safe hw isDNS1123Label _ _ _).bind hw fun r t ht hwt => ?_
  have hkt := D.know_meanwhile hk hw hwt
  cases r with
  | error e => exact .inr ⟨svc, hkt, .inr hfin, .refl svc⟩
  | ok others =>
    simp only
    generalize hdesired : (⟨svc.key.namespaceName, secretName svc⟩ :: others : List ProjectedSecretRef) = desired
    refine (recordNew_safe ht hkt hfin (coordsMissingFrom desired svc.projected)).bind ht fun r u hu hr => ?_
    obtain ⟨recorded, r⟩ := r
    have hfin' : frameServiceFinalizer ∈ recorded.finalizers := by rw [hr.finalizers]; exact hfin
    cases r with
    | error e =>
      rcases hr.known with ⟨message, he⟩ | hku
      · cases he
        exact .inl ⟨message, rfl⟩
      · exact .inr ⟨recorded, hku, .inr hfin', .refl _⟩
    | ok =>
      rcases hr.known with ⟨message, he⟩ | hku
      · cases he
      have hold := hr.old
      have hadded := hr.new rfl
      have hrec : ∀ coord ∈ desired, coord ∈ recorded.projected := by
        intro coord hm
        by_cases hmem : coord ∈ svc.projected
        · exact hold coord hmem
        · exact hadded coord (mem_coordsMissingFrom.mpr ⟨hm, hmem⟩)
      refine (writeSecrets_safe hu hku hfin' hrec binding.data).bind hu fun r v hv hkv => ?_
      cases r with
      | error e => exact .inr ⟨recorded, hkv, .inr hfin', .refl _⟩
      | ok =>
        have hkeys : svc.key = recorded.key := by rw [D.know_key hk, D.know_key hku]
        have hstale : ∀ coord ∈ coordsMissingFrom svc.projected desired, coord ∈ recorded.projected :=
          fun coord hm => hold coord (mem_coordsMissingFrom.mp hm).1
        rw [hkeys]
        refine (deleteSecrets_safe hv hkv (.inr hfin') hstale).bind hv fun r x hx h => ?_
        have hkx := D.know_meanwhile hkv hv h.1
        cases r with
        | error e => exact .inr ⟨recorded, hkx, .inr hfin', .refl _⟩
        | ok =>
          refine .inr ⟨recorded, hkx, .inr hfin', ⟨rfl, fun coord hm => hrec coord hm, fun coord hm => ?_, .inl rfl⟩⟩
          -- what is recorded and not desired is of the old record, and was deleted
          by_cases hd : coord ∈ desired
          · exact .inl hd
          refine .inr (h.2 rfl coord (mem_coordsMissingFrom.mpr ⟨?_, hd⟩))
          rcases hr.only coord hm with hm | hm
          · exact hm
          · exact absurd (mem_coordsMissingFrom.mp hm).1 hd

/-! ## The pass -/

theorem reconcileReady_safe (sizing : Sizing)
    {result : Result} (hres : result.provisioned.isSome = true → D.made result.provisioned) {binding : Binding}
    (hbind : D.published binding.endpoint) : D.Safe (reconcileReady M svc sizing result binding) (fun _ _ => True) w := by
  unfold reconcileReady
  split
  · have hc : Carries (D.clear w) D.published svc
        { svc with status := { svc.status with binding := { svc.status.binding with endpoint := binding.endpoint } } } :=
      ⟨rfl, fun _ h => h, fun _ h => .inl h, .inr hbind⟩
    exact finish_safe hw hk (.inr hfin) hc hres _ _ _ _ _
  · refine (reconcileBinding_safe hw hk hfin M.isDNS1123Label binding).bind hw fun r t ht h => ?_
    obtain ⟨bound, r⟩ := r
    simp only at h
    match r, h with
    | .error (.degradation reason message), h =>
      rcases h with ⟨message, h⟩ | ⟨known, hkt, hb, hc⟩
      · cases h
      · exact finish_safe ht hkt hb hc hres _ _ _ _ _
    | .error (.failed message), h => trivial
    | .ok name, h =>
      rcases h with ⟨message, h⟩ | ⟨known, hkt, hb, hc⟩
      · cases h
      have hc' : Carries (D.clear t) D.published known
          { bound with
            status := { bound.status with
              binding := { bound.status.binding with endpoint := binding.endpoint, secretRef := some { name := name } } } } :=
        ⟨hc.key, hc.projected, hc.kept, .inr hbind⟩
      exact finish_safe ht hkt hb hc' hres _ _ _ _ _

theorem reconcileInstance_safe :
    D.Safe (reconcileInstance M svc) (fun _ _ => True) w := by
  unfold reconcileInstance
  split
  · exact finish_safe hw hk (.inr hfin) (.refl svc) not_made _ _ _ _ _
  · exact finish_safe hw hk (.inr hfin) (.refl svc) not_made _ _ _ _ _
  rename_i p hp
  refine Safe.bind (D.size hp hw hk hfin) hw fun r t ht hkt => ?_
  match r with
  | .error (.unread e) => trivial
  | .error (.refused e) => exact finish_safe ht hkt (.inr hfin) (.refl svc) not_made _ _ _ _ _
  | .ok sizing =>
    unfold reconcileSized
    refine Safe.bind (D.reconcile hp ht hkt hfin) ht fun r u hu h => ?_
    obtain ⟨hku, hres⟩ := h
    cases r with
    | error e => trivial
    | ok result =>
      have hmade := hres result rfl
      simp only
      split
      · exact finish_safe hu hku (.inr hfin) (.refl svc) hmade _ _ _ _ _
      refine Safe.bind (D.bind hp hu hku hfin) hu fun r v hv h => ?_
      match r, h with
      | .error (.forbidden e), h => exact finish_safe hv h.1 (.inr hfin) (.refl svc) hmade _ _ _ _ _
      | .error (.failed e), h => trivial
      | .ok binding, h => exact reconcileReady_safe hv h.1 hfin sizing hmade (h.2 binding rfl)

omit hw hk hfin in
variable (D) in
/-- A pass honours its duties, whatever is answered. -/
theorem reconcile_safe (w : Cluster × τ) : D.Safe (Services.reconcile M key) (fun _ _ => True) w := by
  unfold Services.reconcile
  refine ask fun t ht _ => ⟨D.getService t false, fun c hc hinv => ?_⟩
  cases ha : (S.serve t (.own (.getService key false)) c).2 with
  | error e =>
    simp only
    split <;> trivial
  | ok svc =>
    have hk := D.know_read ht hc ha
    have hpast := (serve_getService ha).1
    simp only
    split
    · exact reconcileDelete_safe hinv hk ‹_› hpast
    split
    · exact reconcileInstance_safe hinv hk ‹_›
    · refine ask fun u hu htu => ⟨D.addFinalizer hu (D.know_meanwhile hk hinv htu) (D.past htu hpast), fun c' _ _ => ?_⟩
      split <;> trivial

end Discipline

end FrameOperator.Services
