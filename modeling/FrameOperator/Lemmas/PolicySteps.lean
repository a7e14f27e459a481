import FrameOperator.Scheduling.Controller

/-!
# What a request about policies and their objects leaves

All that a request can do to the cluster (`Changed`), and what its answer says.
-/

namespace FrameOperator.Scheduling

open Fate Versioned Api
open V1beta1 (SchedulingPolicySpec SchedulingPolicyStatus)

namespace Cluster

/-- What is kept of every cluster: UIDs are handed out once, and no object outlives its kind. -/
structure WF (s : Cluster) : Prop where
  uid_lt : ∀ id o, s.objects.value? id = some o → o.uid < s.nextUid
  created_lt : ∀ k u, (k, u) ∈ s.created → u < s.nextUid
  kinds : ∀ id o, s.objects.value? id = some o → s.hasKind id.gvk = true

def withObject (s : Cluster) (policy : Option NamespacedName) (object : ClusterObject) : Cluster :=
  { s with
    objects := s.objects.create { object with uid := s.nextUid }
    nextUid := s.nextUid + 1
    created := policy.toList.map (·, s.nextUid) ++ s.created }

def overwritten (s : Cluster) (id : ObjectId) (object : ClusterObject) : Cluster :=
  { s with objects := s.objects.modify id (fun o => { object with id := o.id, uid := o.uid }) (ClusterObject.id_overwrite object) }

def patched (s : Cluster) (key : NamespacedName) (base new : SchedulingPolicyStatus) : Cluster :=
  { s with
    policies := s.policies.modify key (fun sp => { sp with status := mergeStatus base new sp.status })
      (SchedulingPolicy.key_status base new) }

def withFinalizers (s : Cluster) (key : NamespacedName) (finalizers : List String) : Cluster :=
  { s with
    policies := s.policies.modify key (fun sp => { sp with finalizers := finalizers })
      (SchedulingPolicy.key_finalizers finalizers) }

end Cluster

inductive Changed (s : Cluster) : Request → Cluster → Prop where
  | nothing {r : Request} : Changed s r s
  | patched {key : NamespacedName} {base new : SchedulingPolicyStatus} :
      Changed s (.patchPolicyStatus key base new) (s.patched key base new)
  | ended {base : Stamped SchedulingPolicy} : Changed s (.updatePolicy base []) { s with policies := s.policies.remove base.val.key }
  | finalized {base : Stamped SchedulingPolicy} {finalizers : List String} :
      Changed s (.updatePolicy base finalizers) (s.withFinalizers base.val.key finalizers)
  | created {policy : NamespacedName} {object : ClusterObject} (hfree : s.objects.value? object.id = none)
      (hkind : s.hasKind object.id.gvk = true) : Changed s (.createObject policy object) (s.withObject (some policy) object)
  | updated {base : Stamped ClusterObject} {object : ClusterObject} :
      Changed s (.updateObject base object) (s.overwritten base.val.id object)
  | deleted {id : ObjectId} {uid : Nat} {o : ClusterObject} (hget : s.objects.value? id = some o) (huid : o.uid = uid) :
      Changed s (.deleteObject id uid) { s with objects := s.objects.remove id }

variable {s : Cluster}

theorem createObject_cases (s : Cluster) (policy : Option NamespacedName) (object : ClusterObject) :
    (∃ e, s.createObject policy object = (s, .error e)) ∨
      (s.objects.value? object.id = none ∧ s.hasKind object.id.gvk = true ∧
        s.createObject policy object = (s.withObject policy object, .ok ())) := by
  unfold Cluster.createObject
  split
  · rename_i hkind
    rcases add_cases s.objects { object with uid := s.nextUid } with ⟨hfree, h1, h2⟩ | ⟨-, -, h2⟩
    · exact .inr ⟨hfree, hkind, by simp only [h1, h2]; rfl⟩
    · exact .inl ⟨.alreadyExists, by simp only [h2]⟩
  · exact .inl ⟨_, rfl⟩

theorem updateObject_cases (s : Cluster) (base : Stamped ClusterObject) (object : ClusterObject) :
    (∃ e, s.updateObject base object = (s, .error e)) ∨ (s.updateObject base object).1 = s.overwritten base.val.id object := by
  unfold Cluster.updateObject
  split
  · unfold put
    split
    · exact .inl ⟨_, rfl⟩
    split
    · exact .inr rfl
    · exact .inl ⟨_, rfl⟩
  · exact .inl ⟨_, rfl⟩

theorem deleteObject_cases (s : Cluster) (id : ObjectId) (uid : Nat) :
    (∃ e, s.deleteObject id uid = (s, .error e) ∧ (e = .notFound → s.objects.value? id = none)) ∨
      (∃ o, s.objects.value? id = some o ∧ o.uid = uid ∧
        s.deleteObject id uid = ({ s with objects := s.objects.remove id }, .ok ())) := by
  unfold Cluster.deleteObject
  split
  · split
    · rename_i hget
      exact .inl ⟨_, rfl, fun _ => by rw [value?, hget, Option.map_none]⟩
    · rename_i o hget
      split
      · exact .inr ⟨o.val, value?_of_get? hget, ‹_›, rfl⟩
      · exact .inl ⟨_, rfl, fun h => by cases h⟩
  · exact .inl ⟨_, rfl, fun h => by cases h⟩

theorem updatePolicy_cases (s : Cluster) (base : Stamped SchedulingPolicy) (finalizers : List String) :
    (s.updatePolicy base finalizers).1 = s ∨
      (finalizers = [] ∧ (s.updatePolicy base finalizers).1 = { s with policies := s.policies.remove base.val.key }) ∨
      (s.updatePolicy base finalizers).1 = s.withFinalizers base.val.key finalizers := by
  unfold Cluster.updatePolicy
  split
  · exact .inl rfl
  split
  · split
    · rename_i h
      rw [Bool.and_eq_true, List.isEmpty_iff] at h
      exact .inr (.inl ⟨h.2, rfl⟩)
    · exact .inr (.inr rfl)
  · exact .inl rfl

/-- Every request does one of `Changed`. -/
theorem exec_changed (s : Cluster) (r : Request) (a : Answer) : Changed s r (s.exec r a).1 := by
  cases r with
  | now => exact .nothing
  | getPolicy key | getObject id => exact answer_state a.fate .nothing .nothing
  | patchPolicyStatus key base new => exact answer_state a.fate .nothing .patched
  | updatePolicy base finalizers =>
    refine answer_state a.fate .nothing ?_
    rcases updatePolicy_cases s base finalizers with h | ⟨rfl, h⟩ | h <;> rw [h]
    · exact .nothing
    · exact .ended
    · exact .finalized
  | createObject policy object =>
    refine answer_state a.fate .nothing ?_
    rcases createObject_cases s (some policy) object with ⟨e, h⟩ | ⟨hfree, hkind, h⟩ <;> rw [h]
    · exact .nothing
    · exact .created hfree hkind
  | updateObject base object =>
    refine answer_state a.fate .nothing ?_
    rcases updateObject_cases s base object with ⟨e, h⟩ | h <;> rw [h]
    · exact .nothing
    · exact .updated
  | deleteObject id uid =>
    refine answer_state a.fate .nothing ?_
    rcases deleteObject_cases s id uid with ⟨e, h, -⟩ | ⟨o, hget, huid, h⟩ <;> rw [h]
    · exact .nothing
    · exact .deleted hget huid

theorem Changed.policies {r : Request} {t : Cluster} (h : Changed s r t)
    (hr : ∀ key base new, r ≠ .patchPolicyStatus key base new) (hr' : ∀ base finalizers, r ≠ .updatePolicy base finalizers) :
    t.policies = s.policies := by
  cases h with
  | patched => exact absurd rfl (hr _ _ _)
  | ended | finalized => exact absurd rfl (hr' _ _)
  | nothing | created | updated | deleted => rfl

/-! ## What the answers say -/

@[simp] theorem exec_getObject_state (id : ObjectId) (a : Answer) : (s.exec (.getObject id) a).1 = s := answer_read _

@[simp] theorem exec_getPolicy_state (key : NamespacedName) (a : Answer) : (s.exec (.getPolicy key) a).1 = s :=
  answer_read _

variable {a : Answer} {sp : Stamped SchedulingPolicy} {key : NamespacedName}

theorem exec_getPolicy (h : (s.exec (.getPolicy key) a).2 = .ok sp) :
    s.policies.get? key = some sp := by
  rw [show s.exec (.getPolicy key) a = _ from answer_ok h] at h
  exact read_ok h

theorem exec_patchPolicyStatus {base new : SchedulingPolicyStatus}
    (h : (s.exec (.patchPolicyStatus key base new) a).2 = .ok sp) :
    (s.exec (.patchPolicyStatus key base new) a).1.policies.get? key = some sp := by
  have hcall : s.exec (.patchPolicyStatus key base new) a = _ := answer_ok h
  rw [hcall] at h ⊢
  exact (patch_ok h).1

variable {id : ObjectId}

theorem exec_getObject {o : Stamped ClusterObject} (h : (s.exec (.getObject id) a).2 = .ok o) :
    s.objects.get? id = some o := by
  rw [show s.exec (.getObject id) a = (s, s.getObject id) from answer_ok h] at h
  simp only [Cluster.getObject] at h
  split at h
  · exact read_ok h
  · cases h

theorem exec_getObject_gone (hs : s.WF) {e : Error} (h : (s.exec (.getObject id) a).2 = .error e)
    (he : e = .notFound ∨ e = .noMatch) : s.objects.value? id = none := by
  have hcall : s.exec (.getObject id) a = (s, s.getObject id) :=
    answer_error h fun _ hf => by rcases he with he | he <;> cases he.symm.trans hf
  rw [hcall] at h
  simp only [Cluster.getObject] at h
  split at h
  · exact (read_error h).2
  rename_i hkind
  cases hv : s.objects.value? id with
  | none => rfl
  | some o => exact absurd (hs.kinds id o hv) hkind

theorem exec_deleteObject_gone {uid : Nat}
    (h : (s.exec (.deleteObject id uid) a).2 = .ok () ∨ (s.exec (.deleteObject id uid) a).2 = .error .notFound) :
    (s.exec (.deleteObject id uid) a).1.objects.value? id = none := by
  have hcall : s.exec (.deleteObject id uid) a = s.deleteObject id uid := h.elim answer_ok answer_notFound
  rw [hcall] at h ⊢
  rcases deleteObject_cases s id uid with ⟨e, hd, hnone⟩ | ⟨o, -, -, hd⟩ <;> rw [hd] at h ⊢
  · rcases h with h | h <;> cases h
    exact hnone rfl
  · rw [value?_remove, if_pos rfl]

/-! ## Kinds -/

theorem value?_foldl_remove (os : List (Stamped ClusterObject)) (t : Versioned ClusterObject ClusterObject.id) (id : ObjectId) :
    (os.foldl (fun t o => t.remove o.val.id) t).value? id = if id ∈ os.map (fun o => o.val.id) then none else t.value? id := by
  induction os generalizing t with
  | nil => simp
  | cons o os ih =>
    rw [List.foldl_cons, ih, value?_remove]
    by_cases h : id = o.val.id <;> simp [h]

theorem value?_dropKind (gvk : GroupVersionKind) (t : Versioned ClusterObject ClusterObject.id) (id : ObjectId) :
    (dropKind gvk t).value? id = if id.gvk = gvk then none else t.value? id := by
  rw [dropKind, value?_foldl_remove]
  by_cases h : id.gvk = gvk
  · rw [if_pos h]
    split
    · rfl
    rename_i hmem
    cases hv : t.value? id with
    | none => rfl
    | some o =>
      -- an object of the kind is one of those removed
      obtain ⟨r, hr⟩ := value?_eq_some hv
      have hitem := Keyed.get?_eq_some_iff.mp (show t.live.get? id = some ⟨r, o⟩ from hr)
      refine absurd (List.mem_map.mpr ⟨⟨r, o⟩, List.mem_filter.mpr ⟨hitem.1, ?_⟩, hitem.2⟩) hmem
      rw [decide_eq_true_eq, show o.id = id from hitem.2, h]
  · rw [if_neg h, if_neg]
    intro hmem
    obtain ⟨o, ho, rfl⟩ := List.mem_map.mp hmem
    exact h (of_decide_eq_true (List.mem_filter.mp ho).2)

/-! ## Well-formed clusters -/

theorem Cluster.value?_withObject (policy : Option NamespacedName) (object : ClusterObject) (id : ObjectId) :
    (s.withObject policy object).objects.value? id =
      if s.objects.value? object.id = none ∧ id = object.id then some { object with uid := s.nextUid } else s.objects.value? id :=
  value?_create s.objects { object with uid := s.nextUid } id

theorem Cluster.value?_overwritten (id j : ObjectId) (object : ClusterObject) :
    (s.overwritten id object).objects.value? j =
      if j = id then (s.objects.value? j).map (fun o => { object with id := o.id, uid := o.uid }) else s.objects.value? j :=
  value?_modify s.objects id _ _ j

theorem Cluster.WF.withObject (hs : s.WF) (policy : Option NamespacedName) {object : ClusterObject}
    (hkind : s.hasKind object.id.gvk = true) : (s.withObject policy object).WF where
  uid_lt := by
    intro id o h
    rw [value?_withObject] at h
    split at h
    · cases h
      exact Nat.lt_succ_self _
    · exact Nat.lt_succ_of_lt (hs.uid_lt id o h)
  created_lt := by
    intro k u h
    rcases List.mem_append.mp h with h | h
    · obtain ⟨_, -, heq⟩ := List.mem_map.mp h
      cases heq
      exact Nat.lt_succ_self _
    · exact Nat.lt_succ_of_lt (hs.created_lt k u h)
  kinds := by
    intro id o h
    rw [value?_withObject] at h
    split at h
    · rename_i hid
      rw [hid.2]
      exact hkind
    · exact hs.kinds id o h

theorem Cluster.WF.objects (hs : s.WF) (t : Versioned ClusterObject ClusterObject.id)
    (ht : ∀ id o, t.value? id = some o → ∃ o', s.objects.value? id = some o' ∧ o'.uid = o.uid) :
    Cluster.WF { s with objects := t } := by
  refine ⟨fun id o h => ?_, hs.created_lt, fun id o h => ?_⟩ <;> obtain ⟨o', ho', hu⟩ := ht id o h
  · exact hu ▸ hs.uid_lt id o' ho'
  · exact hs.kinds id o' ho'

theorem Cluster.WF.overwritten (hs : s.WF) (id : ObjectId) (object : ClusterObject) : (s.overwritten id object).WF := by
  refine hs.objects _ fun j o h => ?_
  rw [value?_modify] at h
  split at h
  · obtain ⟨o', ho', rfl⟩ := Option.map_eq_some_iff.mp h
    exact ⟨o', ho', rfl⟩
  · exact ⟨o, h, rfl⟩

theorem Cluster.WF.remove (hs : s.WF) (id : ObjectId) : Cluster.WF { s with objects := s.objects.remove id } :=
  hs.objects _ fun _ o h => ⟨o, value?_of_remove h, rfl⟩

theorem Cluster.WF.policies (hs : s.WF) (policies : Versioned SchedulingPolicy SchedulingPolicy.key) :
    Cluster.WF { s with policies := policies } := ⟨hs.uid_lt, hs.created_lt, hs.kinds⟩

/-- Every request leaves a well-formed cluster. -/
theorem Changed.wf {r : Request} {t : Cluster} (h : Changed s r t) (hs : s.WF) : t.WF := by
  cases h with
  | nothing => exact hs
  | patched | ended | finalized => exact hs.policies _
  | created hfree hkind => exact hs.withObject _ hkind
  | updated => exact hs.overwritten _ _
  | deleted => exact hs.remove _

theorem deletePolicy_eq (s : Cluster) (key : NamespacedName) : ∃ policies, s.deletePolicy key = { s with policies := policies } := by
  unfold Cluster.deletePolicy
  split
  · exact ⟨_, rfl⟩
  split
  · exact ⟨_, rfl⟩
  · split <;> exact ⟨_, rfl⟩

/-- What others do leaves a well-formed cluster. -/
theorem Cluster.WF.outside (hs : s.WF) (o : Outside) : (s.outside o).WF := by
  cases o with
  | createPolicy | editPolicy => exact hs.policies _
  | deletePolicy key =>
    obtain ⟨policies, h⟩ := deletePolicy_eq s key
    rw [Cluster.outside, h]
    exact hs.policies _
  | createObject object =>
    simp only [Cluster.outside]
    rcases createObject_cases s none object with ⟨e, h⟩ | ⟨-, hkind, h⟩ <;> rw [h]
    · exact hs
    · exact hs.withObject none hkind
  | editObject id object => exact hs.overwritten id object
  | deleteObject id => exact hs.remove id
  | installKind gvk =>
    refine ⟨hs.uid_lt, hs.created_lt, fun id o h => ?_⟩
    have hkind := hs.kinds id o h
    simp only [Cluster.outside, Cluster.hasKind, List.contains_cons, Bool.or_eq_true] at hkind ⊢
    rcases hkind with hkind | hkind
    · exact .inl hkind
    · exact .inr (.inr hkind)
  | removeKind gvk =>
    have hleft : ∀ id o, (dropKind gvk s.objects).value? id = some o → id.gvk ≠ gvk ∧ s.objects.value? id = some o := by
      intro id o h
      rw [value?_dropKind] at h
      split at h
      · cases h
      · exact ⟨‹_›, h⟩
    refine ⟨fun id o h => hs.uid_lt id o (hleft id o h).2, hs.created_lt, fun id o h => ?_⟩
    obtain ⟨hne, h⟩ := hleft id o h
    have hkind := hs.kinds id o h
    simp only [Cluster.outside, Cluster.hasKind, Bool.or_eq_true, List.contains_iff_mem] at hkind ⊢
    rcases hkind with hkind | hkind
    · exact .inl hkind
    · exact .inr (List.mem_filter.mpr ⟨hkind, by simpa using hne⟩)

end FrameOperator.Scheduling
