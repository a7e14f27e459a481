import FrameOperator.Lemmas.PolicyPass

/-!
# What is a policy's own

An object is a policy's own while it carries the marks that were put on it when it was created; the policy holds it if its status
records the name and it has the finalizer (`Keeps`, `Meanwhile`).
-/

namespace FrameOperator.Scheduling

open Api
open V1beta1 (SchedulingPolicySpec SchedulingPolicyStatus)
open Cluster Versioned

/-! ## What is a policy's own -/

/-- An object that is there, that a pass of the policy created and that carries the policy's marks. -/
structure Mine (s : Cluster) (key : NamespacedName) (o : ClusterObject) : Prop where
  live : s.objects.value? o.id = some o
  created : (key, o.uid) ∈ s.created
  marked : markedBy o.labels key = true

/-- The policy records the name of the object and holds the finalizer. -/
def Held (s : Cluster) (key : NamespacedName) (id : ObjectId) : Prop :=
  ∃ sp, s.policies.value? key = some sp ∧ Names sp.status id ∧ schedulingPolicyFinalizer ∈ sp.finalizers

structure Owned (key : NamespacedName) (s : Cluster) : Prop where
  wf : s.WF
  held : ∀ o, Mine s key o → Held s key o.id

variable {key : NamespacedName} {s t : Cluster} {o : ClusterObject} {id : ObjectId}

theorem Mine.id_ne (ho : Mine s key o) (h : s.objects.value? id = none) : o.id ≠ id := by
  rintro rfl
  rw [ho.live] at h
  cases h

/-- Where an object with the marks comes from. -/
theorem Changed.mine {r : Request} (h : Changed s r t) (hs : s.WF) (ho : Mine t key o) :
    (∃ o', Mine s key o' ∧ o'.id = o.id) ∨ (∃ object, r = .createObject key object ∧ object.id = o.id) ∨
      (∃ base object, r = .updateObject base object ∧ base.val.id = o.id ∧ markedBy object.labels key = true) := by
  obtain ⟨hlive, hcreated, hmarked⟩ := ho
  cases h with
  | nothing | patched | ended | finalized => exact .inl ⟨o, ⟨hlive, hcreated, hmarked⟩, rfl⟩
  | @created policy object hfree hkind =>
    rw [value?_withObject] at hlive
    simp only [withObject, Option.toList_some, List.map_cons, List.map_nil, List.singleton_append, List.mem_cons,
      Prod.mk.injEq] at hcreated
    split at hlive
    · rename_i hid
      rcases hcreated with ⟨rfl, -⟩ | hcreated
      · exact .inr (.inl ⟨object, rfl, hid.2.symm⟩)
      · cases hlive
        exact absurd (hs.created_lt _ _ hcreated) (Nat.lt_irrefl _)
    · rcases hcreated with ⟨-, huid⟩ | hcreated
      · exact absurd (hs.uid_lt _ _ hlive) (by rw [huid]; exact Nat.lt_irrefl _)
      · exact .inl ⟨o, ⟨hlive, hcreated, hmarked⟩, rfl⟩
  | @updated base object =>
    rw [value?_overwritten] at hlive
    split at hlive
    · rename_i hid
      obtain ⟨o', -, heq⟩ := Option.map_eq_some_iff.mp hlive
      refine .inr (.inr ⟨base, object, rfl, hid.symm, ?_⟩)
      rw [← heq] at hmarked
      exact hmarked
    · exact .inl ⟨o, ⟨hlive, hcreated, hmarked⟩, rfl⟩
  | @deleted id uid o' hget huid =>
    exact .inl ⟨o, ⟨value?_of_remove hlive, hcreated, hmarked⟩, rfl⟩

/-- What a request has to be like for what is a policy's own to stay held. -/
def Keeps (key : NamespacedName) (s : Cluster) : Request → Prop
  | .patchPolicyStatus k base new =>
    k = key → ∀ cur, s.policies.value? key = some cur → ∀ o, Mine s key o → Names (mergeStatus base new cur.status) o.id
  | .updatePolicy base finalizers => base.val.key = key → schedulingPolicyFinalizer ∈ finalizers ∨ ∀ o, ¬ Mine s key o
  | .createObject policy object => policy = key → Held s key object.id
  | .updateObject base object => markedBy object.labels key = true → Held s key base.val.id
  | _ => True

/-- Every call that keeps, keeps the objects owned. -/
theorem Owned.changed {r : Request} (h : Owned key s) (hc : Changed s r t) (hk : Keeps key s r) : Owned key t := by
  refine ⟨hc.wf h.wf, fun o ho => ?_⟩
  have hmine := hc.mine h.wf ho
  cases hc with
  | nothing => exact h.held o ho
  | @patched k base new =>
    have ho' : Mine s key o := ⟨ho.live, ho.created, ho.marked⟩
    obtain ⟨sp, hsp, hnames, hfin⟩ := h.held o ho'
    unfold Held
    simp only [patched, value?_modify]
    by_cases hkey : key = k
    · rw [if_pos hkey, hsp]
      exact ⟨_, rfl, hk hkey.symm sp hsp o ho', hfin⟩
    · rw [if_neg hkey]
      exact ⟨sp, hsp, hnames, hfin⟩
  | @ended base =>
    have ho' : Mine s key o := ⟨ho.live, ho.created, ho.marked⟩
    obtain ⟨sp, hsp, hnames, hfin⟩ := h.held o ho'
    by_cases hkey : base.val.key = key
    · rcases hk hkey with hmem | hnone
      · cases hmem
      · exact absurd ho' (hnone o)
    · refine ⟨sp, ?_, hnames, hfin⟩
      rw [value?_remove, if_neg (Ne.symm hkey), hsp]
  | @finalized base finalizers =>
    have ho' : Mine s key o := ⟨ho.live, ho.created, ho.marked⟩
    obtain ⟨sp, hsp, hnames, hfin⟩ := h.held o ho'
    unfold Held
    simp only [withFinalizers, value?_modify]
    by_cases hkey : key = base.val.key
    · rw [if_pos hkey, hsp]
      rcases hk hkey.symm with hmem | hnone
      · exact ⟨_, rfl, hnames, hmem⟩
      · exact absurd ho' (hnone o)
    · rw [if_neg hkey]
      exact ⟨sp, hsp, hnames, hfin⟩
  | created =>
    rcases hmine with ⟨o', ho', hid⟩ | ⟨object, hr, hid⟩ | ⟨base, object, hr, -⟩
    · rw [← hid]
      exact h.held o' ho'
    · cases hr
      rw [← hid]
      exact hk rfl
    · cases hr
  | updated =>
    rcases hmine with ⟨o', ho', hid⟩ | ⟨object, hr, -⟩ | ⟨base, object, hr, hid, hmarked⟩
    · rw [← hid]
      exact h.held o' ho'
    · cases hr
    cases hr
    rw [← hid]
    exact hk hmarked
  | deleted =>
    rcases hmine with ⟨o', ho', hid⟩ | ⟨object, hr, -⟩ | ⟨base, object, hr, -⟩
    · rw [← hid]
      exact h.held o' ho'
    · cases hr
    · cases hr

/-! ## What others do meanwhile -/

/-- Between two calls nobody touches a finalized policy, and nothing becomes its own. -/
structure Meanwhile (key : NamespacedName) (s t : Cluster) : Prop where
  policy : ∀ sp, s.policies.value? key = some sp → schedulingPolicyFinalizer ∈ sp.finalizers →
    ∃ sp', t.policies.value? key = some sp' ∧ sp'.status = sp.status ∧ sp'.finalizers = sp.finalizers
  mine : ∀ o, Mine t key o → ∃ o', Mine s key o' ∧ o'.id = o.id

theorem Meanwhile.refl (key : NamespacedName) (s : Cluster) : Meanwhile key s s :=
  ⟨fun sp h _ => ⟨sp, h, rfl, rfl⟩, fun o h => ⟨o, h, rfl⟩⟩

theorem Meanwhile.trans {u : Cluster} (h : Meanwhile key s t) (h' : Meanwhile key t u) : Meanwhile key s u := by
  refine ⟨fun sp hsp hfin => ?_, fun o ho => ?_⟩
  · obtain ⟨sp', hsp', hst, hfs⟩ := h.policy sp hsp hfin
    obtain ⟨sp'', hsp'', hst', hfs'⟩ := h'.policy sp' hsp' (by rwa [hfs])
    exact ⟨sp'', hsp'', hst'.trans hst, hfs'.trans hfs⟩
  · obtain ⟨o', ho', hid⟩ := h'.mine o ho
    obtain ⟨o'', ho'', hid'⟩ := h.mine o' ho'
    exact ⟨o'', ho'', hid'.trans hid⟩

/-- What others do keeps the objects owned. -/
theorem Owned.meanwhile (h : Owned key s) (hst : Meanwhile key s t) (ht : t.WF) : Owned key t := by
  refine ⟨ht, fun o ho => ?_⟩
  obtain ⟨o', ho', hid⟩ := hst.mine o ho
  obtain ⟨sp, hsp, hnames, hfin⟩ := h.held o' ho'
  obtain ⟨sp', hsp', hstatus, hfins⟩ := hst.policy sp hsp hfin
  exact ⟨sp', hsp', by rwa [hstatus, ← hid], by rwa [hfins]⟩

/-- Other principals write no marks of the policy. -/
def Unforged (key : NamespacedName) (s : Cluster) : Outside → Prop
  | .createObject object => markedBy object.labels key = false
  | .editObject id object => markedBy object.labels key = true → ∀ o ∈ s.objects.value? id, markedBy o.labels key = true
  | _ => True

instance (key : NamespacedName) (s : Cluster) (o : Outside) : Decidable (Unforged key s o) := by
  cases o <;> unfold Unforged <;> infer_instance

theorem outside_policy (s : Cluster) (o : Outside) {sp : SchedulingPolicy} (hsp : s.policies.value? key = some sp)
    (hfin : schedulingPolicyFinalizer ∈ sp.finalizers) :
    ∃ sp', (s.outside o).policies.value? key = some sp' ∧ sp'.status = sp.status ∧ sp'.finalizers = sp.finalizers := by
  cases o with
  | createPolicy k spec finalizers => exact ⟨sp, value?_create_of_some hsp, rfl, rfl⟩
  | editPolicy k spec => exact exists_value?_modify hsp ⟨rfl, rfl⟩ ⟨rfl, rfl⟩
  | deletePolicy k =>
    simp only [outside, deletePolicy]
    split
    · exact ⟨sp, hsp, rfl, rfl⟩
    rename_i sp' hsp'
    split
    · -- a policy that goes at once has no finalizer
      rename_i hempty
      refine ⟨sp, ?_, rfl, rfl⟩
      rw [value?_remove, if_neg, hsp]
      rintro rfl
      rw [hsp] at hsp'
      cases hsp'
      rw [hempty] at hfin
      cases hfin
    · split
      · exact ⟨sp, hsp, rfl, rfl⟩
      · exact exists_value?_modify hsp ⟨rfl, rfl⟩ ⟨rfl, rfl⟩
  | createObject object =>
    simp only [outside]
    rcases createObject_cases s none object with ⟨e, hc⟩ | ⟨-, -, hc⟩ <;> rw [hc] <;> exact ⟨sp, hsp, rfl, rfl⟩
  | editObject | deleteObject | installKind | removeKind => exact ⟨sp, hsp, rfl, rfl⟩

theorem outside_object (s : Cluster) (o : Outside) {x : ClusterObject} (hx : (s.outside o).objects.value? id = some x) :
    s.objects.value? id = some x ∨
      (∃ object x', o = .editObject id object ∧ s.objects.value? id = some x' ∧ x.uid = x'.uid ∧ x.labels = object.labels) ∨
      (∃ object, o = .createObject object ∧ x.uid = s.nextUid ∧ x.labels = object.labels) := by
  cases o with
  | createPolicy | editPolicy | installKind => exact .inl hx
  | deletePolicy k =>
    obtain ⟨policies, h⟩ := deletePolicy_eq s k
    rw [outside, h] at hx
    exact .inl hx
  | createObject object =>
    simp only [outside] at hx
    rcases createObject_cases s none object with ⟨e, hc⟩ | ⟨hfree, hkind, hc⟩ <;> rw [hc] at hx
    · exact .inl hx
    rw [value?_withObject] at hx
    split at hx
    · cases hx
      exact .inr (.inr ⟨object, rfl, rfl, rfl⟩)
    · exact .inl hx
  | editObject j object =>
    rw [show (s.outside (.editObject j object)) = s.overwritten j object from rfl, value?_overwritten] at hx
    split at hx
    · rename_i hid
      subst hid
      obtain ⟨x', hx', rfl⟩ := Option.map_eq_some_iff.mp hx
      exact .inr (.inl ⟨object, x', rfl, hx', rfl, rfl⟩)
    · exact .inl hx
  | deleteObject j =>
    rw [show (s.outside (.deleteObject j)).objects = s.objects.remove j from rfl, value?_remove] at hx
    split at hx
    · cases hx
    · exact .inl hx
  | removeKind gvk =>
    rw [show (s.outside (.removeKind gvk)).objects = dropKind gvk s.objects from rfl, value?_dropKind] at hx
    split at hx
    · cases hx
    · exact .inl hx

theorem outside_created (o : Outside) : (s.outside o).created = s.created := by
  cases o with
  | deletePolicy k =>
    obtain ⟨policies, h⟩ := deletePolicy_eq s k
    rw [outside, h]
  | createObject object =>
    simp only [outside]
    rcases createObject_cases s none object with ⟨e, hc⟩ | ⟨-, -, hc⟩
    · rw [hc]
    · rw [hc]
      rfl
  | createPolicy | editPolicy | editObject | deleteObject | installKind | removeKind => rfl

theorem meanwhile_outside {o : Outside} (h : Unforged key s o) : Meanwhile key s (s.outside o) := by
  refine ⟨fun sp hsp hfin => outside_policy s o hsp hfin, fun x hx => ?_⟩
  have hcreated := hx.created
  rw [outside_created] at hcreated
  rcases outside_object s o hx.live with hlive | ⟨object, x', rfl, hx', huid, hlabels⟩ | ⟨object, rfl, -, hlabels⟩
  · exact ⟨x, ⟨hlive, hcreated, hx.marked⟩, rfl⟩
  · have hid := id_of_value? hx'
    refine ⟨x', ⟨by rwa [hid], by rwa [← huid], h (by rw [← hlabels]; exact hx.marked) x' hx'⟩, hid⟩
  have hmarked := hx.marked
  rw [hlabels, show markedBy object.labels key = false from h] at hmarked
  cases hmarked

theorem meanwhile_deleteObject (s : Cluster) (id : ObjectId) (uid : Nat) (a : Answer) :
    Meanwhile key s (s.exec (.deleteObject id uid) a).1 := by
  have hc := exec_changed s (.deleteObject id uid) a
  generalize (s.exec (.deleteObject id uid) a).1 = t at hc
  cases hc with
  | nothing => exact .refl key s
  | deleted hget huid => exact meanwhile_outside (o := .deleteObject id) trivial

/-! ## What a pass knows of its policy -/

/-- A copy that agrees with the server, or has no finalizer while nothing is the policy's. -/
def Know (key : NamespacedName) (s : Cluster) (sp : Stamped SchedulingPolicy) : Prop :=
  sp.val.key = key ∧
    ((∃ cur, s.policies.value? key = some cur ∧ cur.status = sp.val.status ∧ cur.finalizers = sp.val.finalizers) ∨
      (schedulingPolicyFinalizer ∉ sp.val.finalizers ∧ ∀ o, ¬ Mine s key o))

variable {sp : Stamped SchedulingPolicy}

theorem know_of_get? (h : s.policies.get? key = some sp) : Know key s sp :=
  ⟨(past_of_get? h).2, .inl ⟨sp.val, value?_of_get? h, rfl, rfl⟩⟩

section

variable (h : Know key s sp)
include h

/-- What a pass knows stays true meanwhile. -/
theorem Know.meanwhile (hs : Owned key s) (hst : Meanwhile key s t) : Know key t sp := by
  refine ⟨h.1, ?_⟩
  have hnone : (∀ o, ¬ Mine s key o) → ∀ o, ¬ Mine t key o := by
    intro hno o ho
    obtain ⟨o', ho', -⟩ := hst.mine o ho
    exact hno o' ho'
  rcases h.2 with ⟨cur, hcur, hstatus, hfins⟩ | ⟨hfin, hno⟩
  · by_cases hfin : schedulingPolicyFinalizer ∈ cur.finalizers
    · obtain ⟨cur', hcur', hst', hfs'⟩ := hst.policy cur hcur hfin
      exact .inl ⟨cur', hcur', hst'.trans hstatus, hfs'.trans hfins⟩
    · -- a policy without the finalizer owns nothing
      refine .inr ⟨by rwa [← hfins], hnone fun o ho => ?_⟩
      obtain ⟨sp', hsp', -, hfin'⟩ := hs.held o ho
      rw [hcur] at hsp'
      cases hsp'
      exact hfin hfin'
  · exact .inr ⟨hfin, hnone hno⟩

theorem Know.held (hfin : schedulingPolicyFinalizer ∈ sp.val.finalizers)
    (hn : Names sp.val.status id) : Held s key id := by
  rcases h.2 with ⟨cur, hcur, hstatus, hfins⟩ | ⟨hno, -⟩
  · exact ⟨cur, hcur, by rwa [hstatus], by rwa [hfins]⟩
  · exact absurd hfin hno

theorem Know.same (hfin : schedulingPolicyFinalizer ∈ sp.val.finalizers) (hp : t.policies = s.policies) :
    Know key t sp := by
  rcases h.2 with ⟨cur, hcur, hstatus, hfins⟩ | ⟨hno, -⟩
  · exact ⟨h.1, .inl ⟨cur, by rw [hp]; exact hcur, hstatus, hfins⟩⟩
  · exact absurd hfin hno

/-- A pass knows the name of every marked object. -/
theorem Know.names (hs : Owned key s) (ho : Mine s key o) : Names sp.val.status o.id := by
  rcases h.2 with ⟨cur, hcur, hstatus, -⟩ | ⟨-, hno⟩
  · obtain ⟨sp', hsp', hnames, -⟩ := hs.held o ho
    rw [hcur] at hsp'
    cases hsp'
    rwa [← hstatus]
  · exact absurd ho (hno o)

theorem Know.keeps_patch {new : SchedulingPolicyStatus} (hnew : ∀ o, Mine s key o → Names new o.id) :
    Keeps key s (.patchPolicyStatus sp.val.key sp.val.status new) := by
  intro _ cur hcur o ho
  rcases h.2 with ⟨cur', hcur', hstatus, -⟩ | ⟨-, hno⟩
  · rw [hcur] at hcur'
    cases hcur'
    refine (hnew o ho).congr ?_ ?_ ?_ <;> simp [mergeStatus, hstatus]
  · exact absurd ho (hno o)

end

theorem Owned.keeps_report (h : Owned key s) {k : NamespacedName} {base new : SchedulingPolicyStatus}
    (hpc : base.ownedPriorityClass = new.ownedPriorityClass) (hq : base.ownedQueue = new.ownedQueue)
    (hqs : base.ownedQueueScheduler = new.ownedQueueScheduler) : Keeps key s (.patchPolicyStatus k base new) := by
  intro _ cur hcur o ho
  obtain ⟨sp, hsp, hn, -⟩ := h.held o ho
  rw [hcur] at hsp
  cases hsp
  refine hn.congr ?_ ?_ ?_ <;> simp [mergeStatus, hpc, hq, hqs]

def Clear (key : NamespacedName) (s : Cluster) (id : ObjectId) : Prop := ∀ o, Mine s key o → o.id ≠ id

def ownDiscipline (key : NamespacedName) : Discipline key where
  inv := Owned key
  allow _ _ _ := True
  guar := Keeps key
  meanwhile := Meanwhile key
  know := Know key
  free _ _ := True
  clear := Clear key
  wf h := h.wf
  keeps h hg _ := h.changed (exec_changed _ _ _) hg
  refl := .refl key
  trans := .trans
  know_key h := h.1
  know_get := know_of_get?
  know_meanwhile := Know.meanwhile
  free_meanwhile _ _ := trivial
  clear_meanwhile := by
    intro s t id h hst o ho
    obtain ⟨o', ho', hid⟩ := hst.mine o ho
    rw [← hid]
    exact h o' ho'
  free_of_gone _ _ _ := trivial
  clear_of_gone h _ ho := ho.id_ne h
  clear_of_unmarked := by
    rintro s id o hlive hmark o' ho' rfl
    have hlive' := ho'.live
    rw [hlive] at hlive'
    cases hlive'
    have hmarked := ho'.marked
    rw [hmark] at hmarked
    cases hmarked
  now _ := trivial
  getPolicy _ _ := trivial
  getObject _ _ := trivial
  deleteObject _ _ _ := trivial
  delete_meanwhile := meanwhile_deleteObject
  claimPriorityClass := by
    intro s sp want hs hk _ hclear
    refine hk.keeps_patch fun o ho => ?_
    -- what is left under the record is named by the part of it that stays
    rcases hk.names hs ho with hn | hn
    · exact absurd rfl (hclear o.id hn o ho)
    · exact .inr hn
  claimQueue := by
    intro s sp name scheduler hs hk _ hclear
    refine hk.keeps_patch fun o ho => ?_
    rcases hk.names hs ho with hn | hn
    · exact .inl hn
    · exact absurd rfl (hclear o.id hn o ho)
  report hs _ := hs.keeps_report
  addFinalizer _ _ := .inl (List.mem_append_right _ (List.mem_singleton.mpr rfl))
  dropFinalizer hs hk hclear _ := .inr fun o ho => hclear o.id (hk.names hs ho) o ho rfl
  createObject _ hk hfin hn _ := hk.held hfin hn
  updateObject _ hk hfin hn _ := hk.held hfin hn
  know_same := Know.same

end FrameOperator.Scheduling
