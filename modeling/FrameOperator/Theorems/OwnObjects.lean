import FrameOperator.Lib.Charter
import FrameOperator.Lemmas.Ownership

/-!
# A policy deletes only its own and leaks nothing

The record is written before the object and the finalizer before both; a record moves only once nothing of the policy's is left
under the old name; and the finalizer goes last. So a pass may be dropped at any call.
-/

namespace FrameOperator.Scheduling

open Api
open V1beta1 (SchedulingPolicySpec SchedulingPolicyStatus)

variable {key : NamespacedName} {sp : Stamped SchedulingPolicy}

/-! ## Every delete -/

/-- The policy as a pass has read it: by its first request, or in the answer to a patch of its status. -/
def ReadPolicy (past : List (Called Request.Resp)) (sp : Stamped SchedulingPolicy) : Prop :=
  (∃ key, ⟨.getPolicy key, .ok sp⟩ ∈ past) ∨ ∃ key base new, ⟨.patchPolicyStatus key base new, .ok sp⟩ ∈ past

/-- A delete is of a recorded name, and of the object read there with the marks. -/
def DeletesOwn (key : NamespacedName) (past : List (Called Request.Resp)) (id : ObjectId) (uid : Nat) : Prop :=
  (∃ sp, ReadPolicy past sp ∧ sp.val.key = key ∧ Names sp.val.status id) ∧
    ∃ o, (⟨.getObject id, .ok o⟩ : Called Request.Resp) ∈ past ∧ o.val.uid = uid ∧ markedBy o.val.labels key = true

def mayAsk (key : NamespacedName) (past : List (Called Request.Resp)) : Request → Prop
  | .deleteObject id uid => DeletesOwn key past id uid
  | _ => True

/-- The server answers with the policy that was asked for. -/
def given : (r : Request) → r.Resp → Prop
  | .getPolicy key, a | .patchPolicyStatus key _ _, a => ∀ sp, a = .ok sp → sp.val.key = key
  | _, _ => True

theorem exec_given (s : Cluster) (r : Request) (c : Answer) : given r (s.exec r c).2 := by
  cases r with
  | getPolicy key => exact fun sp h => (Versioned.past_of_get? (exec_getPolicy h)).2
  | patchPolicyStatus key base new => exact fun sp h => (Versioned.past_of_get? (exec_patchPolicyStatus h)).2
  | now | updatePolicy | getObject | createObject | updateObject | deleteObject => trivial

variable {past : List (Called Request.Resp)}

/-- The pass has read the policy of its key. -/
def HasRead (key : NamespacedName) (sp : Stamped SchedulingPolicy) (past : List (Called Request.Resp)) : Prop :=
  ReadPolicy past sp ∧ sp.val.key = key

section

variable (h : HasRead key sp past)
include h

theorem HasRead.later {later : List (Called Request.Resp)} (hl : past <+: later) : HasRead key sp later := by
  refine ⟨?_, h.2⟩
  rcases h.1 with ⟨k, hmem⟩ | ⟨k, base, new, hmem⟩
  · exact .inl ⟨k, hl.subset hmem⟩
  · exact .inr ⟨k, base, new, hl.subset hmem⟩

/-- A release deletes only what it has read. -/
theorem releaseObject_traced {id : ObjectId} (hn : Names sp.val.status id) (what : String)
    (gone : Error → Bool) : (releaseObject sp.val id what gone).Traced given (mayAsk key) (fun _ _ => True) past := by
  unfold releaseObject
  refine traced_ask trivial fun a _ => ?_
  cases a with
  | error e =>
    simp only
    split <;> trivial
  | ok o =>
    simp only
    split
    · rename_i hmark
      rw [h.2] at hmark
      refine traced_ask ⟨⟨sp, (h.later (List.prefix_append _ _)).1, h.2, hn⟩, o, by simp, rfl, hmark⟩ fun a _ => ?_
      cases a with
      | ok => trivial
      | error e =>
        simp only
        split <;> trivial
    · trivial

theorem releasePriorityClass_traced :
    (if sp.val.status.ownedPriorityClass ≠ "" then releasePriorityClass sp.val sp.val.status.ownedPriorityClass
      else pure (.ok ())).Traced given (mayAsk key) (fun _ _ => True) past := by
  split
  · rename_i hne
    unfold releasePriorityClass
    split
    · trivial
    · rename_i hres
      exact releaseObject_traced h (.inl ⟨rfl, rfl, hne, Bool.eq_false_iff.mpr hres⟩) _ _
  · trivial

theorem releaseQueue_traced :
    (if sp.val.status.ownedQueue ≠ "" then releaseQueue sp.val sp.val.status.ownedQueueScheduler sp.val.status.ownedQueue
      else pure (.ok ())).Traced given (mayAsk key) (fun _ _ => True) past := by
  split
  · rename_i hne
    unfold releaseQueue
    split
    · trivial
    rename_i hres
    split
    · trivial
    · rename_i gvk hgvk
      exact releaseObject_traced h (.inr ⟨hgvk, rfl, hne, Bool.eq_false_iff.mpr hres⟩) _ _
  · trivial

end

variable (policy : SchedulingPolicy)

theorem priorityClassFree_traced (want : String) :
    (priorityClassFree policy want).Traced given (mayAsk key) (fun _ _ => True) past := by
  simp [priorityClassFree, getObject, mayAsk]

theorem queueFree_traced (wantName wantScheduler : String) :
    (queueFree policy wantName wantScheduler).Traced given (mayAsk key) (fun _ _ => True) past := by
  unfold queueFree
  cases queueGVKFor wantScheduler <;> simp [getObject, mayAsk]

/-- A claim goes on with a policy that was read. -/
theorem claim_traced {free : Prog (Except ClaimError Unit)} {release : Prog (Except String Unit)} {record : SchedulingPolicyStatus}
    {what : String} (h : HasRead key sp past) (hfree : free.Traced given (mayAsk key) (fun _ _ => True) past)
    (hrelease : ∀ later, HasRead key sp later → release.Traced given (mayAsk key) (fun _ _ => True) later) :
    (claim sp free release record what).Traced given (mayAsk key)
      (fun later r => HasRead key sp later ∧ ∀ sp', r = .ok sp' → HasRead key sp' later) past := by
  refine hfree.bind fun r later hl _ => ?_
  have h1 := h.later hl
  cases r with
  | error e => exact ⟨h1, nofun⟩
  | ok =>
    refine (hrelease later h1).bind fun r later' hl' _ => ?_
    have h2 := h1.later hl'
    cases r with
    | error e => exact ⟨h2, nofun⟩
    | ok =>
      refine traced_ask trivial fun a ha => ?_
      have h3 := h2.later (List.prefix_append later' [⟨_, a⟩])
      cases a with
      | error e => exact ⟨h3, nofun⟩
      | ok sp' =>
        refine ⟨h3, fun sp'' hr => ?_⟩
        cases hr
        exact ⟨.inr ⟨_, _, _, List.mem_append_right _ (List.mem_singleton.mpr rfl)⟩, (ha sp' rfl).trans h.2⟩

theorem claimPriorityClass_traced (h : HasRead key sp past) :
    (claimPriorityClass sp).Traced given (mayAsk key)
      (fun later r => HasRead key sp later ∧ ∀ sp', r = .ok sp' → HasRead key sp' later) past := by
  unfold claimPriorityClass
  simp only
  split
  · exact ⟨h, fun sp' hr => by cases hr; exact h⟩
  · exact claim_traced h (priorityClassFree_traced _ _) fun later hl => releasePriorityClass_traced hl

theorem claimQueue_traced (h : HasRead key sp past) :
    (claimQueue sp).Traced given (mayAsk key)
      (fun later r => HasRead key sp later ∧ ∀ sp', r = .ok sp' → HasRead key sp' later) past := by
  unfold claimQueue
  simp only
  split
  · exact ⟨h, fun sp' hr => by cases hr; exact h⟩
  · exact claim_traced h (queueFree_traced _ _ _) fun later hl => releaseQueue_traced hl

theorem createOrUpdate_traced (policy : NamespacedName) (id : ObjectId) (mutate : ClusterObject → ClusterObject) :
    (createOrUpdate policy id mutate).Traced given (mayAsk key) (fun _ _ => True) past := by
  simp [createOrUpdate, getObject, createObject, updateObject, Program.ask, mayAsk]

theorem reconcilePriorityClass_traced :
    (reconcilePriorityClass policy).Traced given (mayAsk key) (fun _ _ => True) past := by
  simp [reconcilePriorityClass, (createOrUpdate_traced _ _ _).bind]

theorem reconcileWantedQueue_traced (queueClaimErr : Option String) :
    (reconcileWantedQueue policy queueClaimErr).Traced given (mayAsk key) (fun _ _ => True) past := by
  unfold reconcileWantedQueue reconcileQueue
  cases queueClaimErr with
  | some err => simp
  | none => rcases queueGVKAndSpec policy.spec with ⟨_ | gvk, spec⟩ <;> simp [(createOrUpdate_traced _ _ _).bind]

theorem report_traced (queue : Except String Unit) :
    (report policy queue).Traced given (mayAsk key) (fun _ _ => True) past := by
  simp [report, mayAsk]

theorem refuse_traced (reason message : String) :
    (refuse policy reason message).Traced given (mayAsk key) (fun _ _ => True) past := by
  simp [refuse, mayAsk]

/-- What follows the claim asks only what it may. -/
theorem reconcileClaimed_traced (sp : Stamped SchedulingPolicy) (queueClaimErr : Option String) :
    (reconcileClaimed sp queueClaimErr).Traced given (mayAsk key) (fun _ _ => True) past := by
  unfold reconcileClaimed
  split
  · have hpc : (if sp.val.spec.priorityClass ≠ "" then reconcilePriorityClass sp.val else pure (.ok ())).Traced given (mayAsk key)
        (fun _ _ => True) past := by
      split
      · exact reconcilePriorityClass_traced sp.val
      · trivial
    refine hpc.bind fun r later _ _ => ?_
    cases r with
    | error e => trivial
    | ok => exact (reconcileWantedQueue_traced sp.val queueClaimErr).bind fun queue _ _ _ => report_traced sp.val queue
  · refine traced_ask trivial fun _ _ => ?_
    split <;> trivial

theorem reconcileDelete_traced (h : HasRead key sp past) :
    (reconcileDelete sp).Traced given (mayAsk key) (fun _ _ => True) past := by
  unfold reconcileDelete
  refine (releasePriorityClass_traced h).bind fun r later hl _ => ?_
  cases r with
  | error e => trivial
  | ok =>
    refine (releaseQueue_traced (h.later hl)).bind fun r later' _ _ => ?_
    cases r with
    | error e => trivial
    | ok =>
      refine traced_ask trivial fun _ _ => ?_
      split <;> trivial

theorem reconcile_traced (key : NamespacedName) : (reconcile key).Traced given (mayAsk key) (fun _ _ => True) [] := by
  unfold reconcile
  refine traced_ask trivial fun a ha => ?_
  cases a with
  | error e =>
    simp only
    split <;> trivial
  | ok sp =>
    have h : HasRead key sp [⟨.getPolicy key, .ok sp⟩] := ⟨.inl ⟨key, by simp⟩, ha sp rfl⟩
    simp only
    split
    · exact reconcileDelete_traced h
    refine (claimPriorityClass_traced h).bind fun r later _ hpc => ?_
    match r, hpc with
    | .error (.failed _), _ => trivial
    | .error (.unavailable _), _ => trivial
    | .error (.refusal reason message), _ => exact refuse_traced sp.val reason message
    | .ok sp', hpc =>
      refine (claimQueue_traced (hpc.2 sp' rfl)).bind fun r later' _ hq => ?_
      match r, hq with
      | .error (.failed _), _ => trivial
      | .error (.refusal reason message), _ => exact refuse_traced sp'.val reason message
      | .error (.unavailable message), _ => exact reconcileClaimed_traced sp' (some message)
      | .ok sp'', _ => exact reconcileClaimed_traced sp'' none

/-! ## Every run -/

/-- The passes are those of one policy, and nobody else writes its marks. -/
def oneOwner (key : NamespacedName) : Conditions NamespacedName Cluster Answer Outside Request where
  start k _ := k = key
  outside := Unforged key

instance (key : NamespacedName) : (oneOwner key).Decides where
  start k _ := inferInstanceAs (Decidable (k = key))
  outside s o := inferInstanceAs (Decidable (Unforged key s o))

def ownContract (key : NamespacedName) : Contract schedulingPolicyReconciler (oneOwner key) where
  inv := Owned key
  rely _ := Meanwhile key
  guar _ := Keeps key
  post _ _ _ := True
  refl _ := .refl key
  trans := .trans
  outside_inv _ o h ho := h.meanwhile (meanwhile_outside ho) (h.wf.outside o)
  outside_rely _ _ _ _ ho := meanwhile_outside ho
  pass := by
    rintro k s - rfl
    exact (ownDiscipline k).reconcile_safe s

/-- Passes delete only marked objects under recorded names, and what they created is recorded under the finalizer. -/
theorem deletes_only_its_own (key : NamespacedName) (s : Cluster) (hs : s.WF) (h0 : s.created = [])
    (ds : List (Drive NamespacedName Answer Outside))
    (hok : Meets schedulingPolicyReconciler.step (oneOwner key).Ok ⟨s, none⟩ ds) :
    let out := run schedulingPolicyReconciler.step ⟨s, none⟩ ds
    Each (fun before d => ∀ k id uid a, d = .called k ⟨.deleteObject id uid, a⟩ → DeletesOwn k (callsUnderWay before) id uid) out.2 ∧
      (∀ o, Mine out.1.server key o → Held out.1.server key o.id) ∧
      ((∀ sp, out.1.server.policies.value? key = some sp → schedulingPolicyFinalizer ∉ sp.finalizers) →
        ∀ o, ¬ Mine out.1.server key o) := by
  have howned : Owned key s := ⟨hs, fun o ho => by have h := ho.created; rw [h0] at h; cases h⟩
  have hsound := (ownContract key).run_sound (w := ⟨s, none⟩) rfl howned ds hok
  have htraced := run_traced exec_given reconcile_traced (H := schedulingPolicyReconciler) (w := ⟨s, none⟩) rfl ds
  refine ⟨fun i d hd k id uid a hda => ?_, hsound.inv.held, fun hfin o ho => ?_⟩
  · have h := htraced i d hd
    rw [hda] at h
    exact h
  · obtain ⟨sp, hsp, -, hmem⟩ := hsound.inv.held o ho
    exact hfin sp hsp hmem

namespace Fixture

def volcanoQueue : GroupVersionKind := ⟨"scheduling.volcano.sh", "v1beta1", "Queue"⟩

def cluster : Cluster where
  policies := .empty
  objects := .empty
  installed := [volcanoQueue]
  nextUid := 1
  created := []

theorem cluster_wf : cluster.WF := by
  refine ⟨fun id o h => ?_, fun k u h => ?_, fun id o h => ?_⟩ <;> cases h

def batch : NamespacedName := ⟨"team", "batch"⟩

def pass (key : NamespacedName) (requests : Nat) : List (Drive NamespacedName Answer Outside) :=
  .start key :: List.replicate requests (.answer {})

def lost : Drive NamespacedName Answer Outside := .answer { fate := .lost (.failed "connection reset") }

/-- A pass is dropped, the policy renamed, and the answer of the delete lost. -/
def renamed : List (Drive NamespacedName Answer Outside) :=
  .outside (.createPolicy batch { scheduler := "volcano", queueName := "batch", priorityClass := "gold" } []) :: pass batch 6 ++
    pass batch 3 ++ .crash :: pass batch 7 ++
    .outside (.editPolicy batch { scheduler := "volcano", queueName := "batch", priorityClass := "silver" }) :: pass batch 3 ++
    lost :: pass batch 10

def contents (s : Cluster) : List (String × Bool) :=
  s.objects.live.items.map fun o => (o.val.id.name, decide ((batch, o.val.uid) ∈ s.created))

end Fixture

set_option maxRecDepth 8000 in
/-- A PriorityClass is renamed, and the old one deleted. -/
theorem deletes_only_its_own_renamed :
    Meets schedulingPolicyReconciler.step (oneOwner Fixture.batch).Ok ⟨Fixture.cluster, none⟩ Fixture.renamed ∧
      Fixture.contents (run schedulingPolicyReconciler.step ⟨Fixture.cluster, none⟩ Fixture.renamed).1.server =
        [("batch", true), ("silver", true)] ∧
      ∀ o, Mine (run schedulingPolicyReconciler.step ⟨Fixture.cluster, none⟩ Fixture.renamed).1.server Fixture.batch o →
        Held (run schedulingPolicyReconciler.step ⟨Fixture.cluster, none⟩ Fixture.renamed).1.server Fixture.batch o.id :=
  ⟨by decide +kernel, by decide +kernel,
    (deletes_only_its_own Fixture.batch Fixture.cluster Fixture.cluster_wf rfl Fixture.renamed (by decide +kernel)).2.1⟩

end FrameOperator.Scheduling
