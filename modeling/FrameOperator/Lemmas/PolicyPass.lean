import FrameOperator.Lemmas.PolicySteps

/-!
# A pass of the SchedulingPolicy controller

What a pass keeps is proved once for a discipline: what its requests have to be like, what it may count on meanwhile, what it knows
of its policy, when a name is free and when it is clear of the policy's own.
-/

namespace FrameOperator.Scheduling

open Versioned Api
open V1beta1 (SchedulingPolicySpec SchedulingPolicyStatus)

variable {id : ObjectId} {policy : SchedulingPolicy}

def NamesPriorityClass (st : SchedulingPolicyStatus) (id : ObjectId) : Prop :=
  id.gvk = priorityClassGVK ∧ st.ownedPriorityClass = id.name ∧ id.name ≠ "" ∧ reservedPriorityClassName id.name = false

def NamesQueue (st : SchedulingPolicyStatus) (id : ObjectId) : Prop :=
  queueGVKFor st.ownedQueueScheduler = some id.gvk ∧ st.ownedQueue = id.name ∧ id.name ≠ "" ∧ reservedQueueName id.name = false

def Names (st : SchedulingPolicyStatus) (id : ObjectId) : Prop := NamesPriorityClass st id ∨ NamesQueue st id

theorem Names.congr {st st' : SchedulingPolicyStatus} (h : Names st id)
    (hpc : st'.ownedPriorityClass = st.ownedPriorityClass) (hq : st'.ownedQueue = st.ownedQueue)
    (hqs : st'.ownedQueueScheduler = st.ownedQueueScheduler) : Names st' id := by
  unfold Names NamesPriorityClass NamesQueue
  rw [hpc, hq, hqs]
  exact h

theorem id_of_value? {objects : Versioned ClusterObject ClusterObject.id} {o : ClusterObject}
    (h : objects.value? id = some o) : o.id = id := by
  obtain ⟨r, hr⟩ := value?_eq_some h
  exact (past_of_get? hr).2

structure Discipline (key : NamespacedName) where
  inv : Cluster → Prop
  allow : Cluster → Request → Answer → Prop
  guar : Cluster → Request → Prop
  meanwhile : Cluster → Cluster → Prop
  -- the copy of the policy that the pass has is good
  know : Cluster → Stamped SchedulingPolicy → Prop
  -- nobody else has a claim on a name, and nothing of the policy's own is under it
  free : Cluster → ObjectId → Prop
  clear : Cluster → ObjectId → Prop
  wf : ∀ {s}, inv s → s.WF
  keeps : ∀ {s r c}, inv s → guar s r → allow s r c → inv (s.exec r c).1
  refl : ∀ s, meanwhile s s
  trans : ∀ {s t u}, meanwhile s t → meanwhile t u → meanwhile s u
  know_key : ∀ {s sp}, know s sp → sp.val.key = key
  know_get : ∀ {s sp}, s.policies.get? key = some sp → know s sp
  know_meanwhile : ∀ {s t sp}, know s sp → inv s → meanwhile s t → know t sp
  free_meanwhile : ∀ {s t id}, free s id → meanwhile s t → free t id
  clear_meanwhile : ∀ {s t id}, clear s id → meanwhile s t → clear t id
  free_of_gone : ∀ {s id c}, inv s → allow s (.getObject id) c → s.objects.value? id = none → free s id
  clear_of_gone : ∀ {s id}, s.objects.value? id = none → clear s id
  clear_of_unmarked : ∀ {s id o}, s.objects.value? id = some o → markedBy o.labels key = false → clear s id
  now : ∀ s, guar s .now
  getPolicy : ∀ s k, guar s (.getPolicy k)
  getObject : ∀ s id, guar s (.getObject id)
  deleteObject : ∀ s id uid, guar s (.deleteObject id uid)
  delete_meanwhile : ∀ s id uid c, meanwhile s (s.exec (.deleteObject id uid) c).1
  claimPriorityClass : ∀ {s sp want}, inv s → know s sp → (want ≠ "" → free s ⟨priorityClassGVK, want⟩) →
    (∀ id, NamesPriorityClass sp.val.status id → clear s id) →
    guar s (.patchPolicyStatus sp.val.key sp.val.status { sp.val.status with ownedPriorityClass := want })
  claimQueue : ∀ {s sp name scheduler}, inv s → know s sp →
    (name ≠ "" → ∃ gvk, queueGVKFor scheduler = some gvk ∧ free s ⟨gvk, name⟩) →
    (∀ id, NamesQueue sp.val.status id → clear s id) →
    guar s (.patchPolicyStatus sp.val.key sp.val.status { sp.val.status with ownedQueue := name, ownedQueueScheduler := scheduler })
  report : ∀ {s sp base new}, inv s → sp.key = key → base.ownedPriorityClass = new.ownedPriorityClass →
    base.ownedQueue = new.ownedQueue → base.ownedQueueScheduler = new.ownedQueueScheduler →
    guar s (.patchPolicyStatus (SchedulingPolicy.key sp) base new)
  addFinalizer : ∀ {s sp}, know s sp → guar s (.updatePolicy sp (sp.val.finalizers ++ [schedulingPolicyFinalizer]))
  dropFinalizer : ∀ {s sp}, inv s → know s sp → (∀ id, Names sp.val.status id → clear s id) →
    guar s (.updatePolicy sp (sp.val.finalizers.filter (· ≠ schedulingPolicyFinalizer)))
  createObject : ∀ {s sp o}, inv s → know s sp → schedulingPolicyFinalizer ∈ sp.val.finalizers → Names sp.val.status o.id →
    guar s (.createObject sp.val.key o)
  updateObject : ∀ {s sp base o}, inv s → know s sp → schedulingPolicyFinalizer ∈ sp.val.finalizers →
    Names sp.val.status (ClusterObject.id base.val) → guar s (.updateObject base o)
  know_same : ∀ {s t sp}, know s sp → schedulingPolicyFinalizer ∈ sp.val.finalizers → t.policies = s.policies → know t sp

namespace Discipline

variable {key : NamespacedName} (D : Discipline key) {s t : Cluster} {sp : Stamped SchedulingPolicy} {α : Type}

def terms : Terms Cluster Answer Request := ⟨D.inv, D.meanwhile, D.allow, D.guar⟩

def Safe (p : Prog α) (post : α → Cluster → Prop) (s : Cluster) : Prop := p.Safe Cluster.exec D.terms post s

variable {D}

theorem ask {r : Request} {f : r.Resp → Prog α} {post : α → Cluster → Prop}
    (h : ∀ t, D.inv t → D.meanwhile s t → D.guar t r ∧ ∀ c, D.allow t r c → D.inv (t.exec r c).1 →
      D.Safe (f (t.exec r c).2) post (t.exec r c).1) : D.Safe (Program.ask r >>= f) post s :=
  safe_ask (fun _ _ ht hg hc => D.keeps ht hg hc) h

theorem Safe.bind {β : Type} {p : Prog α} {f : α → Prog β} {mid : α → Cluster → Prop} {post : β → Cluster → Prop}
    (h : D.Safe p mid s) (hs : D.inv s) (hf : ∀ a t, D.inv t → mid a t → D.Safe (f a) post t) : D.Safe (p >>= f) post s :=
  Program.Safe.bind h hs hf

theorem Safe.imp {p : Prog α} {mid post : α → Cluster → Prop} (h : D.Safe p mid s) (hs : D.inv s)
    (hp : ∀ a t, D.inv t → mid a t → post a t) : D.Safe p post s :=
  Program.Safe.imp h hs hp

/-! ## Releasing -/

theorem releaseObject_safe (hkey : policy.key = key) {what : String} {gone : Error → Bool}
    (hgone : ∀ e, gone e = true → e = .notFound ∨ e = .noMatch) :
    D.Safe (releaseObject policy id what gone) (fun r t => D.meanwhile s t ∧ (r = .ok () → D.clear t id)) s := by
  unfold releaseObject
  refine ask fun t ht hst => ⟨D.getObject t id, fun c _ _ => ?_⟩
  rw [exec_getObject_state]
  cases ha : (t.exec (.getObject id) c).2 with
  | error e =>
    simp only
    split
    · exact ⟨hst, fun _ => D.clear_of_gone (exec_getObject_gone (D.wf ht) ha (hgone e ‹_›))⟩
    · exact ⟨hst, nofun⟩
  | ok o =>
    simp only
    split
    · refine ask fun u hu htu => ⟨D.deleteObject u id _, fun c' _ _ => ?_⟩
      have hsv := D.trans (D.trans hst htu) (D.delete_meanwhile u id o.val.uid c')
      cases hd : (u.exec (.deleteObject id o.val.uid) c').2 with
      | ok => exact ⟨hsv, fun _ => D.clear_of_gone (exec_deleteObject_gone (.inl hd))⟩
      | error e =>
        simp only
        split
        · rename_i he
          exact ⟨hsv, fun _ => D.clear_of_gone (exec_deleteObject_gone (.inr (he ▸ hd)))⟩
        · exact ⟨hsv, nofun⟩
    · rename_i hmark
      refine ⟨hst, fun _ => D.clear_of_unmarked (value?_of_get? (exec_getObject ha)) ?_⟩
      rw [hkey] at hmark
      exact Bool.eq_false_iff.mpr hmark

theorem releasePriorityClass_safe (hkey : policy.key = key) (hs : D.inv s) :
    D.Safe (if policy.status.ownedPriorityClass ≠ "" then releasePriorityClass policy policy.status.ownedPriorityClass
      else pure (.ok ()))
      (fun r t => D.meanwhile s t ∧ (r = .ok () → ∀ id, NamesPriorityClass policy.status id → D.clear t id)) s := by
  split
  · unfold releasePriorityClass
    split
    · rename_i hres
      refine ⟨D.refl s, fun _ id hn => ?_⟩
      rw [hn.2.1, hn.2.2.2] at hres
      cases hres
    · refine (releaseObject_safe hkey fun e he => .inl (of_decide_eq_true he)).imp hs fun r t _ h => ⟨h.1, fun hr id hn => ?_⟩
      obtain rfl : id = ⟨priorityClassGVK, policy.status.ownedPriorityClass⟩ := by rw [← hn.1, hn.2.1]
      exact h.2 hr
  · rename_i hempty
    exact ⟨D.refl s, fun _ id hn => absurd (by rw [hn.2.1]; exact hn.2.2.1) hempty⟩

theorem releaseQueue_safe (hkey : policy.key = key) (hs : D.inv s) :
    D.Safe (if policy.status.ownedQueue ≠ "" then releaseQueue policy policy.status.ownedQueueScheduler policy.status.ownedQueue
      else pure (.ok ()))
      (fun r t => D.meanwhile s t ∧ (r = .ok () → ∀ id, NamesQueue policy.status id → D.clear t id)) s := by
  split
  · unfold releaseQueue
    split
    · rename_i hres
      refine ⟨D.refl s, fun _ id hn => ?_⟩
      rw [hn.2.1, hn.2.2.2] at hres
      cases hres
    · split
      · rename_i hgvk
        refine ⟨D.refl s, fun _ id hn => ?_⟩
        rw [hn.1] at hgvk
        cases hgvk
      · rename_i gvk hgvk
        refine (releaseObject_safe hkey fun e he => by simpa using he).imp hs fun r t _ h => ⟨h.1, fun hr id hn => ?_⟩
        have hkind : gvk = id.gvk := Option.some.inj (hgvk.symm.trans hn.1)
        obtain rfl : id = ⟨gvk, policy.status.ownedQueue⟩ := by rw [hkind, hn.2.1]
        exact h.2 hr
  · rename_i hempty
    exact ⟨D.refl s, fun _ id hn => absurd (by rw [hn.2.1]; exact hn.2.2.1) hempty⟩

/-! ## Claiming -/

theorem priorityClassFree_safe (policy : SchedulingPolicy) (want : String) :
    D.Safe (priorityClassFree policy want)
      (fun r t => D.meanwhile s t ∧ (r = .ok () → want ≠ "" → D.free t ⟨priorityClassGVK, want⟩)) s := by
  unfold priorityClassFree
  split
  · exact ⟨D.refl s, fun _ hne => absurd ‹_› hne⟩
  split
  · exact ⟨D.refl s, nofun⟩
  refine ask fun t ht hst => ⟨D.getObject t _, fun c hc _ => ?_⟩
  rw [exec_getObject_state]
  cases ha : (t.exec (.getObject ⟨priorityClassGVK, want⟩) c).2 with
  | ok o => exact ⟨hst, nofun⟩
  | error e =>
    simp only
    split
    · exact ⟨hst, fun _ _ => D.free_of_gone ht hc (exec_getObject_gone (D.wf ht) ha (.inl ‹_›))⟩
    · exact ⟨hst, nofun⟩

theorem queueFree_safe (policy : SchedulingPolicy) (name scheduler : String) :
    D.Safe (queueFree policy name scheduler) (fun r t => D.meanwhile s t ∧
      (r = .ok () → name ≠ "" → ∃ gvk, queueGVKFor scheduler = some gvk ∧ D.free t ⟨gvk, name⟩)) s := by
  unfold queueFree
  split
  · exact ⟨D.refl s, fun _ hne => absurd ‹_› hne⟩
  split
  · exact ⟨D.refl s, nofun⟩
  split
  · exact ⟨D.refl s, nofun⟩
  rename_i gvk hgvk
  refine ask fun t ht hst => ⟨D.getObject t _, fun c hc _ => ?_⟩
  rw [exec_getObject_state]
  cases ha : (t.exec (.getObject ⟨gvk, name⟩) c).2 with
  | ok o => exact ⟨hst, nofun⟩
  | error e =>
    simp only
    split
    · exact ⟨hst, nofun⟩
    split
    · exact ⟨hst, fun _ _ => ⟨gvk, hgvk, D.free_of_gone ht hc (exec_getObject_gone (D.wf ht) ha (.inl ‹_›))⟩⟩
    · exact ⟨hst, nofun⟩

variable (D) in
/-- A claim leaves the policy as it is then, or, without a failure, the copy. -/
def Claimed (sp : Stamped SchedulingPolicy) (r : Except ClaimError (Stamped SchedulingPolicy)) (t : Cluster) : Prop :=
  match r with
  | .ok sp' => D.know t sp'
  | .error (.failed _) => True
  | .error _ => D.know t sp

theorem claim_safe {free : Prog (Except ClaimError Unit)} {release : Prog (Except String Unit)} {record : SchedulingPolicyStatus}
    {what : String} {Free Clear : Cluster → Prop} (hs : D.inv s) (hk : D.know s sp)
    (hfree : D.Safe free (fun r t => D.meanwhile s t ∧ (r = .ok () → Free t)) s)
    (hrelease : ∀ t, D.inv t → D.Safe release (fun r u => D.meanwhile t u ∧ (r = .ok () → Clear u)) t)
    (hguar : ∀ t u v, Free t → D.meanwhile t v → Clear u → D.meanwhile u v → D.inv v → D.know v sp →
      D.guar v (.patchPolicyStatus sp.val.key sp.val.status record)) :
    D.Safe (claim sp free release record what) (D.Claimed sp) s := by
  refine hfree.bind hs fun r t ht h => ?_
  have hkt := D.know_meanwhile hk hs h.1
  cases r with
  | error e =>
    cases e with
    | failed => trivial
    | refusal | unavailable => exact hkt
  | ok =>
    refine (hrelease t ht).bind ht fun r u hu h' => ?_
    have hku := D.know_meanwhile hkt ht h'.1
    cases r with
    | error e => trivial
    | ok =>
      refine ask fun v hv huv => ⟨?_, fun c _ _ => ?_⟩
      · exact hguar t u v (h.2 rfl) (D.trans h'.1 huv) (h'.2 rfl) huv hv (D.know_meanwhile hku hu huv)
      · cases ha : (v.exec (.patchPolicyStatus sp.val.key sp.val.status record) c).2 with
        | error e => trivial
        | ok sp' =>
          have hget := exec_patchPolicyStatus ha
          refine D.know_get ?_
          rwa [← D.know_key hk]

theorem claimPriorityClass_safe (hs : D.inv s) (hk : D.know s sp) : D.Safe (Scheduling.claimPriorityClass sp) (D.Claimed sp) s := by
  unfold Scheduling.claimPriorityClass
  simp only
  split
  · exact hk
  refine claim_safe hs hk (priorityClassFree_safe sp.val _) (fun t ht => releasePriorityClass_safe (D.know_key hk) ht) ?_
  intro t u v hfree htv hclear huv hv hkv
  exact D.claimPriorityClass hv hkv (fun hne => D.free_meanwhile (hfree hne) htv)
    fun id hn => D.clear_meanwhile (hclear id hn) huv

theorem claimQueue_safe (hs : D.inv s) (hk : D.know s sp) : D.Safe (Scheduling.claimQueue sp) (D.Claimed sp) s := by
  unfold Scheduling.claimQueue
  simp only
  split
  · exact hk
  refine claim_safe hs hk (queueFree_safe sp.val _ _) (fun t ht => releaseQueue_safe (D.know_key hk) ht) ?_
  intro t u v hfree htv hclear huv hv hkv
  refine D.claimQueue hv hkv (fun hne => ?_) fun id hn => D.clear_meanwhile (hclear id hn) huv
  obtain ⟨gvk, hgvk, hfree⟩ := hfree hne
  exact ⟨gvk, hgvk, D.free_meanwhile hfree htv⟩

/-! ## Writing -/

theorem createOrUpdate_safe (hs : D.inv s) (hk : D.know s sp) (hfin : schedulingPolicyFinalizer ∈ sp.val.finalizers)
    (hn : Names sp.val.status id) (mutate : ClusterObject → ClusterObject) (hid : ∀ o, (mutate o).id = o.id) :
    D.Safe (createOrUpdate sp.val.key id mutate) (fun _ t => D.know t sp) s := by
  unfold createOrUpdate
  refine ask fun t ht hst => ⟨D.getObject t id, fun c _ _ => ?_⟩
  have hkt := D.know_meanwhile hk hs hst
  rw [exec_getObject_state]
  cases ha : (t.exec (.getObject id) c).2 with
  | error e =>
    simp only
    split
    · refine ask (f := .done) fun u hu htu => ?_
      have hku := D.know_meanwhile hkt ht htu
      refine ⟨D.createObject hu hku hfin (by rw [hid]; exact hn), fun c' _ _ => D.know_same hku hfin ?_⟩
      exact (exec_changed u _ c').policies (by simp) (by simp)
    · exact hkt
  | ok o =>
    have hoid := (past_of_get? (exec_getObject ha)).2
    simp only
    split
    · exact hkt
    refine ask (f := .done) fun u hu htu => ?_
    have hku := D.know_meanwhile hkt ht htu
    refine ⟨D.updateObject hu hku hfin (by rw [hoid]; exact hn), fun c' _ _ => D.know_same hku hfin ?_⟩
    exact (exec_changed u _ c').policies (by simp) (by simp)

theorem reconcilePriorityClass_safe (hs : D.inv s) (hk : D.know s sp) (hfin : schedulingPolicyFinalizer ∈ sp.val.finalizers)
    (hwant : sp.val.spec.priorityClass ≠ "") : D.Safe (reconcilePriorityClass sp.val) (fun _ t => D.know t sp) s := by
  unfold reconcilePriorityClass
  split
  · exact hk
  rename_i howned
  split
  · exact hk
  rename_i hres
  have hn : Names sp.val.status ⟨priorityClassGVK, sp.val.spec.priorityClass⟩ :=
    .inl ⟨rfl, not_not.mp howned, hwant, Bool.eq_false_iff.mpr hres⟩
  exact (createOrUpdate_safe hs hk hfin hn (priorityClassOf sp.val) fun _ => rfl).bind hs fun _ _ _ hkt => hkt

theorem queueGVKAndSpec_kind {spec : SchedulingPolicySpec} {gvk : GroupVersionKind} {fields : List (String × AnyValue)}
    (h : queueGVKAndSpec spec = (some gvk, fields)) : queueGVKFor spec.scheduler = some gvk := by
  unfold queueGVKAndSpec at h
  split at h
  · cases h
  rename_i gvk' hgvk'
  simp only at h
  split at h <;> cases h <;> exact hgvk'

theorem reconcileQueue_safe (hs : D.inv s) (hk : D.know s sp) (hfin : schedulingPolicyFinalizer ∈ sp.val.finalizers)
    (hwant : sp.val.spec.queueName ≠ "") : D.Safe (reconcileQueue sp.val) (fun _ t => D.know t sp) s := by
  unfold reconcileQueue
  split
  · exact hk
  rename_i howned
  split
  · exact hk
  rename_i hres
  split
  · exact hk
  rename_i gvk spec hgvk
  simp only [Bool.or_eq_true, decide_eq_true_eq, not_or, not_not, ne_eq] at howned
  have hn : Names sp.val.status ⟨gvk, sp.val.spec.queueName⟩ :=
    .inr ⟨by rw [howned.2]; exact queueGVKAndSpec_kind hgvk, howned.1, hwant, Bool.eq_false_iff.mpr hres⟩
  exact (createOrUpdate_safe hs hk hfin hn (queueOf sp.val spec) fun _ => rfl).bind hs fun _ _ _ hkt => hkt

/-! ## The pass -/

theorem refuse_safe (hkey : policy.key = key) (reason message : String) :
    D.Safe (refuse policy reason message) (fun _ _ => True) s := by
  unfold refuse
  refine ask fun t _ _ => ⟨D.now t, fun c _ _ => ask fun u hu _ => ⟨D.report hu hkey rfl rfl rfl, fun c' _ _ => ?_⟩⟩
  split <;> trivial

theorem report_safe (hkey : policy.key = key) (queue : Except String Unit) :
    D.Safe (Scheduling.report policy queue) (fun _ _ => True) s := by
  unfold Scheduling.report
  refine ask fun t _ _ => ⟨D.now t, fun c _ _ => ask fun u hu _ => ⟨?_, fun c' _ _ => ?_⟩⟩
  · cases queue <;> exact D.report hu hkey rfl rfl rfl
  · split <;> trivial

theorem reconcileClaimed_safe (hs : D.inv s) (hk : D.know s sp) (queueClaimErr : Option String) :
    D.Safe (reconcileClaimed sp queueClaimErr) (fun _ _ => True) s := by
  unfold reconcileClaimed
  split
  · rename_i hfin
    have hpc : D.Safe (if sp.val.spec.priorityClass ≠ "" then reconcilePriorityClass sp.val else pure (.ok ()))
        (fun _ t => D.know t sp) s := by
      split
      · exact reconcilePriorityClass_safe hs hk hfin ‹_›
      · exact hk
    refine hpc.bind hs fun r t ht hkt => ?_
    cases r with
    | error e => trivial
    | ok =>
      have hq : D.Safe (reconcileWantedQueue sp.val queueClaimErr) (fun _ t => D.know t sp) t := by
        unfold reconcileWantedQueue
        split
        · rename_i hwant
          simp only [Bool.and_eq_true, decide_eq_true_eq] at hwant
          cases queueClaimErr with
          | some err => exact hkt
          | none => exact reconcileQueue_safe ht hkt hfin hwant.1
        · exact hkt
      exact hq.bind ht fun queue u _ hku => report_safe (D.know_key hku) queue
  · refine ask fun t ht hst => ⟨D.addFinalizer (D.know_meanwhile hk hs hst), fun c _ _ => ?_⟩
    split <;> trivial

theorem reconcileDelete_safe (hs : D.inv s) (hk : D.know s sp) : D.Safe (reconcileDelete sp) (fun _ _ => True) s := by
  unfold reconcileDelete
  refine (releasePriorityClass_safe (D.know_key hk) hs).bind hs fun r t ht hpc => ?_
  cases r with
  | error e => trivial
  | ok =>
    have hkt := D.know_meanwhile hk hs hpc.1
    refine (releaseQueue_safe (D.know_key hk) ht).bind ht fun r u hu hq => ?_
    cases r with
    | error e => trivial
    | ok =>
      have hku := D.know_meanwhile hkt ht hq.1
      refine ask fun v hv huv => ⟨D.dropFinalizer hv (D.know_meanwhile hku hu huv) fun id hn => ?_, fun c _ _ => ?_⟩
      · rcases hn with hn | hn
        · exact D.clear_meanwhile (D.clear_meanwhile (hpc.2 rfl id hn) hq.1) huv
        · exact D.clear_meanwhile (hq.2 rfl id hn) huv
      · split <;> trivial

variable (D) in
/-- A pass honours its duties, whatever is answered. -/
theorem reconcile_safe (s : Cluster) : D.Safe (reconcile key) (fun _ _ => True) s := by
  unfold reconcile
  refine ask fun t ht _ => ⟨D.getPolicy t key, fun c _ _ => ?_⟩
  rw [exec_getPolicy_state]
  cases ha : (t.exec (.getPolicy key) c).2 with
  | error e =>
    simp only
    split <;> trivial
  | ok sp =>
    have hk := D.know_get (exec_getPolicy ha)
    simp only
    split
    · exact reconcileDelete_safe ht hk
    refine (claimPriorityClass_safe ht hk).bind ht fun r u hu hpc => ?_
    match r, hpc with
    | .error (.failed _), _ => trivial
    | .error (.unavailable _), _ => trivial
    | .error (.refusal reason message), _ => exact refuse_safe (D.know_key hk) reason message
    | .ok sp', hk' =>
      refine (claimQueue_safe hu hk').bind hu fun r v hv hq => ?_
      match r, hq with
      | .error (.failed _), _ => trivial
      | .error (.refusal reason message), _ => exact refuse_safe (D.know_key hk') reason message
      | .error (.unavailable message), hkv => exact reconcileClaimed_safe hv hkv (some message)
      | .ok sp'', hkv => exact reconcileClaimed_safe hv hkv none

end Discipline

end FrameOperator.Scheduling
