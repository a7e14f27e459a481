import FrameOperator.Lib.Titles
import FrameOperator.Theorems.OwnObjects

/-!
# One claimant for a name

A name is claimed when nothing sits there, and what is claimed is created by a later pass. Until then the name looks free to every
other policy, which claims it as well; and what one of them creates, the other one overwrites.
-/

namespace FrameOperator.Scheduling

open Option Api
open V1beta1 (SchedulingPolicySpec SchedulingPolicyStatus)
open Versioned

/-- The status records the object's name. -/
def Records (st : SchedulingPolicyStatus) (id : ObjectId) : Prop :=
  (st.ownedPriorityClass ≠ "" ∧ id = ⟨priorityClassGVK, st.ownedPriorityClass⟩) ∨
    (st.ownedQueue ≠ "" ∧ queueGVKFor st.ownedQueueScheduler = some id.gvk ∧ id.name = st.ownedQueue)
deriving Decidable

def SameQueue (base cur : SchedulingPolicyStatus) : Prop :=
  cur.ownedQueue = base.ownedQueue ∧ cur.ownedQueueScheduler = base.ownedQueueScheduler
deriving Decidable

/-- A recorded name looked up is taken, and the policy patched was not replaced. -/
def Settled (key : NamespacedName) (s : Cluster) : Request → Prop
  | .getObject id => ∀ p ∈ s.policies.live.items, p.val.key ≠ key → Records p.val.status id → (s.objects.value? id).isSome
  | .patchPolicyStatus k base _ => ∀ cur ∈ s.policies.value? k, SameQueue base cur.status
  | _ => True

instance (key : NamespacedName) (s : Cluster) (r : Request) : Decidable (Settled key s r) := by
  cases r <;> unfold Settled <;> infer_instance

variable {id : ObjectId}

theorem Names.records {st : SchedulingPolicyStatus} (h : Names st id) : Records st id := by
  rcases h with h | h
  · exact .inl ⟨by rw [h.2.1]; exact h.2.2.1, by rw [← h.1, h.2.1]⟩
  · exact .inr ⟨by rw [h.2.1]; exact h.2.2.1, h.1, h.2.1.symm⟩

theorem not_records_empty (id : ObjectId) : ¬ Records {} id := by
  rintro (h | h) <;> exact h.1 rfl

/-- Which policy has recorded a name, and whose pass created what is there. -/
def Cluster.titles (s : Cluster) : Titles NamespacedName ObjectId where
  records key id := ∃ sp, s.policies.value? key = some sp ∧ Records sp.status id
  made maker id := ∃ o, s.objects.value? id = some o ∧ (maker, o.uid) ∈ s.created

/-- No name has two claimants, and a recorded Queue has a kind. -/
structure Orderly (s : Cluster) : Prop where
  wf : s.WF
  exclusive : s.titles.Exclusive
  kind : ∀ k sp, s.policies.value? k = some sp → sp.status.ownedQueue ≠ "" →
    ∃ gvk, queueGVKFor sp.status.ownedQueueScheduler = some gvk

variable {key : NamespacedName} {s t : Cluster}

/-- A request records what is unclaimed, creates what is recorded, and updates its own. -/
def Respects (key : NamespacedName) (s : Cluster) : Request → Prop
  | .patchPolicyStatus k base new =>
    k = key ∧ ∀ cur, s.policies.value? key = some cur → SameQueue base cur.status →
      (∀ id, Records (mergeStatus base new cur.status) id → Records cur.status id ∨ s.titles.Unclaimed key id) ∧
        ((mergeStatus base new cur.status).ownedQueue ≠ "" →
          ∃ gvk, queueGVKFor (mergeStatus base new cur.status).ownedQueueScheduler = some gvk)
  | .createObject policy object => policy = key ∧ s.titles.records key object.id
  | .updateObject base _ => ∀ maker, s.titles.made maker base.val.id → maker = key
  | _ => True

/-- Each policy has the status that it had, or none. -/
def Reread (s t : Cluster) : Prop :=
  ∀ k sp, t.policies.value? k = some sp → (∃ sp', s.policies.value? k = some sp' ∧ sp'.status = sp.status) ∨ sp.status = {}

theorem Reread.records (h : Reread s t) (k : NamespacedName) (id : ObjectId) (hr : t.titles.records k id) : s.titles.records k id := by
  obtain ⟨sp, hsp, hr⟩ := hr
  rcases h k sp hsp with ⟨old, hold, hst⟩ | hst
  · exact ⟨old, hold, hst ▸ hr⟩
  · exact absurd (hst ▸ hr) (not_records_empty id)

/-- Names stay with their claimants where no status changes, and things are made under recorded names. -/
theorem Orderly.reread (h : Orderly s) (ht : t.WF) (hp : Reread s t)
    (hm : ∀ maker id, t.titles.made maker id → s.titles.made maker id ∨ s.titles.records maker id) : Orderly t where
  wf := ht
  exclusive := h.exclusive.mono hp.records hm
  kind := by
    intro k sp hsp hq
    rcases hp k sp hsp with ⟨old, hold, hst⟩ | hst
    · rw [← hst] at hq ⊢
      exact h.kind k old hold hq
    · rw [hst] at hq
      exact absurd rfl hq

/-- A status patch of this kind leaves every name with one claimant. -/
theorem Orderly.patched (h : Orderly s) {base new : SchedulingPolicyStatus}
    (hg : Respects key s (.patchPolicyStatus key base new)) (hok : ∀ cur ∈ s.policies.value? key, SameQueue base cur.status) :
    Orderly (s.patched key base new) := by
  refine ⟨h.wf.policies _, h.exclusive.claim (k := key) ?_ fun _ _ hm => hm, fun k sp hsp hq => ?_⟩
  · -- the policy patched records what it did, and what is unclaimed
    rintro k id ⟨sp, hsp, hr⟩
    simp only [Cluster.patched, value?_modify] at hsp
    split at hsp
    · rename_i hk
      subst hk
      obtain ⟨cur, hcur, rfl⟩ := map_eq_some_iff.mp hsp
      rcases (hg.2 cur hcur (hok cur hcur)).1 id hr with hr | hfree
      · exact .inl ⟨cur, hcur, hr⟩
      · exact .inr ⟨rfl, hfree⟩
    · exact .inl ⟨sp, hsp, hr⟩
  · simp only [Cluster.patched, value?_modify] at hsp
    split at hsp
    · rename_i hk
      subst hk
      obtain ⟨cur, hcur, rfl⟩ := map_eq_some_iff.mp hsp
      exact (hg.2 cur hcur (hok cur hcur)).2 hq
    · exact h.kind k sp hsp hq

/-- A request of this kind leaves every name with one claimant. -/
theorem Orderly.changed {r : Request} (h : Orderly s) (hc : Changed s r t) (hg : Respects key s r) (hok : Settled key s r) :
    Orderly t := by
  have ht := hc.wf h.wf
  have hsame : Reread s s := fun _ sp hsp => .inl ⟨sp, hsp, rfl⟩
  cases hc with
  | nothing => exact h
  | patched =>
    obtain rfl := hg.1
    exact h.patched hg hok
  | ended => exact h.reread ht (fun _ sp hsp => .inl ⟨sp, value?_of_remove hsp, rfl⟩) fun _ _ => .inl
  | finalized =>
    refine h.reread ht (fun k sp hsp => ?_) fun _ _ => .inl
    simp only [Cluster.withFinalizers, value?_modify] at hsp
    split at hsp
    · obtain ⟨cur, hcur, rfl⟩ := map_eq_some_iff.mp hsp
      exact .inl ⟨cur, hcur, rfl⟩
    · exact .inl ⟨sp, hsp, rfl⟩
  | @created policy object hfree hkind =>
    refine h.reread ht hsame ?_
    rintro maker id ⟨o, hlive, hm⟩
    rw [Cluster.value?_withObject] at hlive
    simp only [Cluster.withObject, toList_some, List.map_cons, List.map_nil, List.singleton_append, List.mem_cons,
      Prod.mk.injEq] at hm
    split at hlive
    · rename_i hid
      rcases hm with ⟨rfl, -⟩ | hm
      · rw [hid.2, hg.1]
        exact .inr hg.2
      · cases hlive
        exact absurd (h.wf.created_lt _ _ hm) (Nat.lt_irrefl _)
    · rcases hm with ⟨-, huid⟩ | hm
      · exact absurd (h.wf.uid_lt _ _ hlive) (by rw [huid]; exact Nat.lt_irrefl _)
      · exact .inl ⟨o, hlive, hm⟩
  | updated =>
    refine h.reread ht hsame ?_
    rintro maker id ⟨o, hlive, hm⟩
    rw [Cluster.value?_overwritten] at hlive
    split at hlive
    · obtain ⟨o', ho', rfl⟩ := map_eq_some_iff.mp hlive
      exact .inl ⟨o', ho', hm⟩
    · exact .inl ⟨o, hlive, hm⟩
  | deleted =>
    refine h.reread ht hsame ?_
    rintro maker id ⟨o, hlive, hm⟩
    exact .inl ⟨o, value?_of_remove hlive, hm⟩

/-! ## What others do meanwhile -/

/-- Between two calls no finalized status is touched, and nothing recorded or made. -/
structure Undisputed (key : NamespacedName) (s t : Cluster) : Prop where
  policy : ∀ sp, s.policies.value? key = some sp → schedulingPolicyFinalizer ∈ sp.finalizers →
    ∃ sp', t.policies.value? key = some sp' ∧ sp'.status = sp.status ∧ sp'.finalizers = sp.finalizers
  reread : Reread s t
  made : ∀ maker id, t.titles.made maker id → s.titles.made maker id

theorem Undisputed.refl (key : NamespacedName) (s : Cluster) : Undisputed key s s :=
  ⟨fun sp h _ => ⟨sp, h, rfl, rfl⟩, fun _ sp h => .inl ⟨sp, h, rfl⟩, fun _ _ h => h⟩

theorem Undisputed.trans {u : Cluster} (h : Undisputed key s t) (h' : Undisputed key t u) : Undisputed key s u := by
  refine ⟨fun sp hsp hfin => ?_, fun k sp hsp => ?_, fun maker id hm => h.made maker id (h'.made maker id hm)⟩
  · obtain ⟨sp', hsp', hst, hfs⟩ := h.policy sp hsp hfin
    obtain ⟨sp'', hsp'', hst', hfs'⟩ := h'.policy sp' hsp' (by rwa [hfs])
    exact ⟨sp'', hsp'', hst'.trans hst, hfs'.trans hfs⟩
  · rcases h'.reread k sp hsp with ⟨sp', hsp', hst⟩ | hst
    · rw [← hst]
      exact h.reread k sp' hsp'
    · exact .inr hst

/-- A step that disputes nothing keeps the names in order. -/
theorem Orderly.undisputed (h : Orderly s) (hst : Undisputed key s t) (ht : t.WF) : Orderly t :=
  h.reread ht hst.reread fun maker id hm => .inl (hst.made maker id hm)

theorem outside_records (s : Cluster) (o : Outside) {k : NamespacedName} {sp : SchedulingPolicy}
    (h : (s.outside o).policies.value? k = some sp) :
    (∃ sp', s.policies.value? k = some sp' ∧ sp'.status = sp.status) ∨ sp.status = {} := by
  have hedit : ∀ (j : NamespacedName) (f : SchedulingPolicy → SchedulingPolicy) (hf : ∀ sp, (f sp).key = sp.key),
      (s.policies.modify j f hf).value? k = some sp → (∀ sp, (f sp).status = sp.status) →
      ∃ sp', s.policies.value? k = some sp' ∧ sp'.status = sp.status := by
    intro j f hf hsp hst
    rw [value?_modify] at hsp
    split at hsp
    · obtain ⟨sp', hsp', rfl⟩ := map_eq_some_iff.mp hsp
      exact ⟨sp', hsp', (hst sp').symm⟩
    · exact ⟨sp, hsp, rfl⟩
  cases o with
  | createPolicy j spec finalizers =>
    rw [show (s.outside (.createPolicy j spec finalizers)).policies =
      s.policies.create { key := j, spec := spec, finalizers := finalizers }
      from rfl, value?_create] at h
    split at h
    · cases h
      exact .inr rfl
    · exact .inl ⟨sp, h, rfl⟩
  | editPolicy j spec => exact .inl (hedit j _ _ h fun _ => rfl)
  | deletePolicy j =>
    simp only [Cluster.outside, Cluster.deletePolicy] at h
    split at h
    · exact .inl ⟨sp, h, rfl⟩
    split at h
    · exact .inl ⟨sp, value?_of_remove h, rfl⟩
    · split at h
      · exact .inl ⟨sp, h, rfl⟩
      · exact .inl (hedit j _ _ h fun _ => rfl)
  | createObject object =>
    simp only [Cluster.outside] at h
    rcases createObject_cases s none object with ⟨e, hc⟩ | ⟨-, -, hc⟩ <;> rw [hc] at h <;> exact .inl ⟨sp, h, rfl⟩
  | editObject | deleteObject | installKind | removeKind => exact .inl ⟨sp, h, rfl⟩

/-- Others record no name and make nothing. -/
theorem undisputed_outside (hs : s.WF) (o : Outside) : Undisputed key s (s.outside o) := by
  refine ⟨fun sp hsp hfin => outside_policy s o hsp hfin, fun k sp hsp => outside_records s o hsp, fun maker id ⟨x, hx, hm⟩ => ?_⟩
  rw [outside_created] at hm
  rcases outside_object s o hx with hlive | ⟨object, x', -, hx', huid, -⟩ | ⟨object, -, huid, -⟩
  · exact ⟨x, hlive, hm⟩
  · exact ⟨x', hx', by rwa [← huid]⟩
  · rw [huid] at hm
    exact absurd (hs.created_lt _ _ hm) (Nat.lt_irrefl _)

theorem undisputed_deleteObject (s : Cluster) (id : ObjectId) (uid : Nat) (a : Answer) :
    Undisputed key s (s.exec (.deleteObject id uid) a).1 := by
  have hc := exec_changed s (.deleteObject id uid) a
  generalize (s.exec (.deleteObject id uid) a).1 = t at hc
  cases hc with
  | nothing => exact .refl key s
  | deleted hget huid =>
    refine ⟨fun sp h _ => ⟨sp, h, rfl, rfl⟩, fun k sp h => .inl ⟨sp, h, rfl⟩, fun maker j ⟨o, ho, hm⟩ => ?_⟩
    exact ⟨o, value?_of_remove ho, hm⟩

/-! ## What a pass keeps -/

/-- A copy of the policy with the finalizer agrees with the server on the status and the finalizers. -/
def Agrees (key : NamespacedName) (s : Cluster) (sp : Stamped SchedulingPolicy) : Prop :=
  sp.val.key = key ∧ (schedulingPolicyFinalizer ∈ sp.val.finalizers →
    ∃ cur, s.policies.value? key = some cur ∧ cur.status = sp.val.status ∧ cur.finalizers = sp.val.finalizers)

variable {sp : Stamped SchedulingPolicy}

theorem Agrees.undisputed (h : Agrees key s sp) (hst : Undisputed key s t) : Agrees key t sp := by
  refine ⟨h.1, fun hfin => ?_⟩
  obtain ⟨cur, hcur, hstatus, hfins⟩ := h.2 hfin
  obtain ⟨cur', hcur', hst', hfs'⟩ := hst.policy cur hcur (by rwa [hfins])
  exact ⟨cur', hcur', hst'.trans hstatus, hfs'.trans hfins⟩

theorem Agrees.records (h : Agrees key s sp) (hfin : schedulingPolicyFinalizer ∈ sp.val.finalizers)
    (hn : Names sp.val.status id) : s.titles.records key id := by
  obtain ⟨cur, hcur, hstatus, -⟩ := h.2 hfin
  exact ⟨cur, hcur, by rw [hstatus]; exact hn.records⟩

/-- A name under which nothing is found is unclaimed. -/
theorem unclaimed_of_gone (hok : Settled key s (.getObject id)) (h : s.objects.value? id = none) :
    s.titles.Unclaimed key id := by
  refine ⟨fun k ⟨sp, hsp, hr⟩ => ?_, fun maker ⟨o, ho, _⟩ => by rw [h] at ho; cases ho⟩
  by_contra hne
  obtain ⟨rev, hget⟩ := value?_eq_some hsp
  have hitem := Keyed.get?_eq_some_iff.mp (show s.policies.live.get? k = some ⟨rev, sp⟩ from hget)
  have hkey : sp.key = k := hitem.2
  have hsome := hok ⟨rev, sp⟩ hitem.1 (by rw [hkey]; exact hne) hr
  rw [h] at hsome
  cases hsome

def claimDiscipline (key : NamespacedName) : Discipline key where
  inv := Orderly
  allow s r _ := Settled key s r
  guar := Respects key
  meanwhile := Undisputed key
  know := Agrees key
  free s := s.titles.Unclaimed key
  clear _ _ := True
  wf h := h.wf
  keeps h hg hok := h.changed (exec_changed _ _ _) hg hok
  refl := .refl key
  trans := .trans
  know_key h := h.1
  know_get h := ⟨(Versioned.past_of_get? h).2, fun _ => ⟨_, Versioned.value?_of_get? h, rfl, rfl⟩⟩
  know_meanwhile h _ hst := h.undisputed hst
  free_meanwhile h hst := h.mono (hst.reread.records · _) (hst.made · _)
  clear_meanwhile _ _ := trivial
  free_of_gone _ hok h := unclaimed_of_gone hok h
  clear_of_gone _ := trivial
  clear_of_unmarked _ _ := trivial
  now _ := trivial
  getPolicy _ _ := trivial
  getObject _ _ := trivial
  deleteObject _ _ _ := trivial
  delete_meanwhile := undisputed_deleteObject
  claimPriorityClass := by
    intro s sp want hs hk hfree _
    refine ⟨hk.1, fun cur hcur hq => ⟨fun id hr => ?_, fun hne => ?_⟩⟩
    · -- the PriorityClass recorded is the one that was, or the free one; the Queue is the one that was
      rcases hr with ⟨hne, hid⟩ | hr
      · simp only [mergeStatus, mergePart] at hne hid
        split at hne
        · rename_i hsame
          rw [if_pos hsame] at hid
          exact .inl (.inl ⟨hne, hid⟩)
        · rename_i hdiff
          rw [if_neg hdiff] at hid
          rw [hid]
          exact .inr (hfree hne)
      · simp only [mergeStatus, mergePart_same] at hr
        exact .inl (.inr hr)
    · simp only [mergeStatus, mergePart_same] at hne ⊢
      exact hs.kind key cur hcur hne
  claimQueue := by
    intro s sp name scheduler hs hk hfree _
    refine ⟨hk.1, fun cur hcur hq => ?_⟩
    have hname : (mergeStatus sp.val.status { sp.val.status with ownedQueue := name, ownedQueueScheduler := scheduler }
        cur.status).ownedQueue = name := by simp [mergeStatus, hq.1]
    have hsched : (mergeStatus sp.val.status { sp.val.status with ownedQueue := name, ownedQueueScheduler := scheduler }
        cur.status).ownedQueueScheduler = scheduler := by simp [mergeStatus, hq.2]
    refine ⟨fun id hr => ?_, fun hne => ?_⟩
    · rcases hr with hr | ⟨hne, hgvk, hid⟩
      · simp only [mergeStatus, mergePart_same] at hr
        exact .inl (.inl hr)
      · rw [hname] at hne hid
        rw [hsched] at hgvk
        obtain ⟨gvk, hgvk', hfree⟩ := hfree hne
        rw [hgvk] at hgvk'
        cases hgvk'
        rw [← hid] at hfree
        exact .inr hfree
    · rw [hname] at hne
      obtain ⟨gvk, hgvk, -⟩ := hfree hne
      exact ⟨gvk, by rw [hsched]; exact hgvk⟩
  report := by
    intro s sp base new hs hkey hpc hqn hqs
    refine ⟨hkey, fun cur hcur _ => ⟨fun id hr => .inl ?_, fun hne => ?_⟩⟩
    · simpa only [Records, mergeStatus, hpc, hqn, hqs, mergePart_same] using hr
    · simp only [mergeStatus, hqn, hqs, mergePart_same] at hne ⊢
      exact hs.kind key cur hcur hne
  addFinalizer _ := trivial
  dropFinalizer _ _ _ := trivial
  createObject _ hk hfin hn := ⟨hk.1, hk.records hfin hn⟩
  updateObject := by
    intro s sp base o hs hk hfin hn maker hm
    exact (hs.exclusive.made hm (hk.records hfin hn)).symm
  know_same := by
    intro s t sp hk hfin hp
    refine ⟨hk.1, fun hfin => ?_⟩
    rw [hp]
    exact hk.2 hfin

def settled : Conditions NamespacedName Cluster Answer Outside Request where
  answer k s r _ := Settled k s r

instance : settled.Decides where
  answer k s r _ := inferInstanceAs (Decidable (Settled k s r))

def claimContract : Contract schedulingPolicyReconciler settled where
  inv := Orderly
  rely := Undisputed
  guar := Respects
  post _ _ _ := True
  refl := .refl
  trans := .trans
  outside_inv s o h _ := h.undisputed (show Undisputed ⟨"", ""⟩ s _ from undisputed_outside h.wf o) (h.wf.outside o)
  outside_rely _ _ o h _ := undisputed_outside h.wf o
  pass k s _ _ := (claimDiscipline k).reconcile_safe s

/-- Two policies that are there have recorded no name in common. -/
def Apart (st st' : SchedulingPolicyStatus) : Prop :=
  (st.ownedPriorityClass ≠ "" → st.ownedPriorityClass ≠ st'.ownedPriorityClass) ∧
    (st.ownedQueue ≠ "" → (st.ownedQueue, st.ownedQueueScheduler) ≠ (st'.ownedQueue, st'.ownedQueueScheduler))

/-- In order, no two policies record one name. -/
theorem Orderly.apart (h : Orderly s) {k k' : NamespacedName} {sp sp' : SchedulingPolicy} (hsp : s.policies.value? k = some sp)
    (hsp' : s.policies.value? k' = some sp') (hne : k ≠ k') : Apart sp.status sp'.status := by
  refine ⟨fun hpc heq => ?_, fun hq heq => ?_⟩
  · exact hne (h.exclusive.one ⟨sp, hsp, .inl ⟨hpc, rfl⟩⟩ ⟨sp', hsp', .inl ⟨by rwa [← heq], by rw [heq]⟩⟩)
  · obtain ⟨gvk, hgvk⟩ := h.kind k sp hsp hq
    obtain ⟨hname, hsched⟩ := Prod.mk.inj heq
    have hr : Records sp.status ⟨gvk, sp.status.ownedQueue⟩ := .inr ⟨hq, hgvk, rfl⟩
    have hr' : Records sp'.status ⟨gvk, sp.status.ownedQueue⟩ := .inr ⟨by rwa [← hname], by rw [← hsched]; exact hgvk, hname⟩
    exact hne (h.exclusive.one ⟨sp, hsp, hr⟩ ⟨sp', hsp', hr'⟩)

/-- Where recorded names are taken when looked up, no two policies record one name or update what the other created. -/
theorem one_claimant (s : Cluster) (hs : s.WF) (hnone : ∀ k, s.policies.value? k = none)
    (ds : List (Drive NamespacedName Answer Outside)) (hok : Meets schedulingPolicyReconciler.step settled.Ok ⟨s, none⟩ ds) :
    let w := (run schedulingPolicyReconciler.step ⟨s, none⟩ ds).1
    (∀ k k' sp sp', w.server.policies.value? k = some sp → w.server.policies.value? k' = some sp' → k ≠ k' →
        Apart sp.status sp'.status) ∧
      ∀ k base object next, w.task = some (k, .call (.updateObject base object) next) →
        ∀ o maker, w.server.objects.value? base.val.id = some o → (maker, o.uid) ∈ w.server.created → maker = k := by
  have horderly : Orderly s := by
    refine ⟨hs, ⟨fun ⟨sp, hsp, _⟩ => ?_, fun _ ⟨sp, hsp, _⟩ => ?_⟩, fun k sp hsp => ?_⟩ <;>
    · rw [hnone] at hsp
      cases hsp
  have hsound := claimContract.run_sound (w := ⟨s, none⟩) rfl horderly ds hok
  refine ⟨fun k k' sp sp' hsp hsp' hne => hsound.inv.apart hsp hsp' hne, fun k base object next ht o maker ho hm => ?_⟩
  exact hsound.guar ht maker ⟨o, ho, hm⟩

namespace Fixture

def teamA : NamespacedName := ⟨"team-a", "batch"⟩
def teamB : NamespacedName := ⟨"team-b", "batch"⟩

def rivals : List (Drive NamespacedName Answer Outside) :=
  [.outside (.createPolicy teamA { scheduler := "default", priorityClass := "gold" } []),
    .outside (.createPolicy teamB { scheduler := "default", priorityClass := "gold" } [])]

def records (s : Cluster) : List (String × String) × List (String × String) :=
  (s.policies.live.items.map fun p => (p.val.title, p.val.status.ownedPriorityClass),
    s.objects.live.items.map fun o => (o.val.id.name, o.val.description))

end Fixture

set_option maxRecDepth 8000

open Fixture in
/-- Two policies claim a name before any pass has created it; one creates the PriorityClass, the other overwrites it. -/
theorem two_claimants :
    records (run schedulingPolicyReconciler.step ⟨cluster, none⟩
        (rivals ++ pass teamA 4 ++ pass teamB 4 ++ pass teamA 5)).1.server =
      ([("team-a/batch", "gold"), ("team-b/batch", "gold")], [("gold", "Managed by SchedulingPolicy team-a/batch")]) ∧
    records (run schedulingPolicyReconciler.step ⟨cluster, none⟩
        (rivals ++ pass teamA 4 ++ pass teamB 4 ++ pass teamA 5 ++
          pass teamB 5)).1.server =
      ([("team-a/batch", "gold"), ("team-b/batch", "gold")], [("gold", "Managed by SchedulingPolicy team-b/batch")]) := by
  constructor <;> decide +kernel

open Fixture in
/-- The passes of one policy get its PriorityClass made before those of the other look it up. -/
theorem one_claimant_in_turn :
    Meets schedulingPolicyReconciler.step settled.Ok ⟨cluster, none⟩
        (rivals ++ pass teamA 4 ++ pass teamA 5 ++ pass teamB 4) ∧
      ∀ k k' sp sp',
        (run schedulingPolicyReconciler.step ⟨cluster, none⟩ (rivals ++ pass teamA 4 ++
          pass teamA 5 ++ pass teamB 4)).1.server.policies.value? k = some sp →
        (run schedulingPolicyReconciler.step ⟨cluster, none⟩ (rivals ++ pass teamA 4 ++
          pass teamA 5 ++ pass teamB 4)).1.server.policies.value? k' = some sp' →
        k ≠ k' → Apart sp.status sp'.status :=
  ⟨by decide +kernel, (one_claimant cluster cluster_wf (fun _ => rfl) _ (by decide +kernel)).1⟩

end FrameOperator.Scheduling
