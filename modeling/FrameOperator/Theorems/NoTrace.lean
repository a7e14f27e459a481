import FrameOperator.Theorems.OneAtATime

/-!
# What a rollout leaves on its node

The write that concludes a rollout clears the unschedulable flag, whatever it was before: a node that an operator had cordoned is
schedulable after it (`uncordons_what_it_did_not_cordon`). Every annotation of others is what it was before.
-/

namespace FrameOperator

variable {n : Node} {s : Server} {x : String} {e : Event}

/-- The annotations a node's agent writes. -/
def agentKeys : List AnnKey := [.unit, .unitActiveEnter]

/-- The annotations that neither the controller nor the agent writes, and that no operator approves with. -/
def bystander (k : AnnKey) : Prop := k ∉ rolloutKeys ∧ k ∉ agentKeys ∧ k ≠ .approval

def KeepsBystanders (n : Node) (m : Option Node) : Prop :=
  ∃ n', m = some n' ∧ ∀ k, bystander k → n'.annotations k = n.annotations k

theorem KeepsBystanders.trans {n' : Node} {m : Option Node} (h : KeepsBystanders n (some n')) (h' : KeepsBystanders n' m) :
    KeepsBystanders n m := by
  obtain ⟨_, ⟨⟩, hkeep⟩ := h
  obtain ⟨n'', hm, hkeep'⟩ := h'
  exact ⟨n'', hm, fun k hk => (hkeep' k hk).trans (hkeep k hk)⟩

variable (r : NodeTuningReconciler)

theorem keepsBystanders_pass (env : PassEnv) {nt : Stamped NodeTuning}
    (hnt : nt ∈ s.tunings.past) (hn : s.nodes.get? x = some n) :
    KeepsBystanders n ((r.reconcile env s nt).1.server.nodes.get? x) := by
  have hedited := edited_pass r env hnt
  by_cases hwritten : ∃ e ∈ (r.reconcile env s nt).1.log, e.node.name = x
  · obtain ⟨e, he, rfl⟩ := hwritten
    obtain ⟨hbefore, hafter⟩ := hedited.written e he
    rw [hn] at hbefore
    cases hbefore
    exact ⟨_, hafter, fun k hk => annotations_mutate_of_notMem e.op e.node hk.1⟩
  · rw [hedited.untouched x fun e he hname => hwritten ⟨e, he, hname⟩]
    exact ⟨n, hn, fun _ _ => rfl⟩

/-- Every step keeps the other annotations. -/
theorem keepsBystanders_step (a : Action) (hn : s.nodes.get? x = some n) :
    KeepsBystanders n ((step r s a).1.nodes.get? x) := by
  cases hp : a.isPass with
  | false =>
    rw [(step_other r (s := s) hp).2, hn, Option.map_some]
    refine ⟨_, rfl, ?_⟩
    rintro k ⟨hown, hagent, happroval⟩
    have hne : k ≠ .unit ∧ k ≠ .unitActiveEnter := by simpa [agentKeys] using hagent
    rcases annotations_onNode a n hne.1 hne.2 happroval with heq | ⟨hstarted, -⟩
    · exact heq
    · exact absurd (by simp [hstarted, rolloutKeys]) hown
  | true =>
    cases a with
    | pass version env =>
      rcases step_pass r s version env with ⟨heq, -⟩ | ⟨copy, hcopy, -, heq⟩
      · rw [heq]
        exact ⟨n, hn, fun _ _ => rfl⟩
      · rw [heq]
        exact keepsBystanders_pass r env hcopy hn
    | _ => cases hp

theorem keepsBystanders_run (actions : List Action) (hn : s.nodes.get? x = some n) :
    KeepsBystanders n ((run (step r) s actions).1.nodes.get? x) := by
  refine run_induct (I := fun s' _ => KeepsBystanders n (s'.nodes.get? x)) ⟨n, hn, fun _ _ => rfl⟩ ?_ actions
    (meets_true s actions)
  intro s' l a hs' _
  obtain ⟨n', hn', hkeep⟩ := hs'
  exact KeepsBystanders.trans ⟨n', rfl, hkeep⟩ (keepsBystanders_step r a hn')

/-- What a step's log says of a node is so. -/
theorem written_step {a : Action} (he : e ∈ (step r s a).2) :
    s.nodes.get? e.node.name = some e.node ∧ (step r s a).1.nodes.get? e.node.name = some (e.op.mutate e.node) := by
  cases hp : a.isPass with
  | false =>
    rw [(step_other r (s := s) hp).1] at he
    cases he
  | true =>
    cases a with
    | pass version env =>
      rcases step_pass r s version env with ⟨heq, -⟩ | ⟨copy, hcopy, -, heq⟩
      · rw [heq] at he
        cases he
      · rw [heq] at he ⊢
        exact (edited_pass r env hcopy).written e he
    | _ => cases hp

theorem mutate_ends (h : endsOn x e = true) :
    e.node.name = x ∧ (e.op.mutate e.node).unschedulable = false ∧
      ∀ k ∈ rolloutKeys, (e.op.mutate e.node).annotations k = none := by
  unfold endsOn at h
  cases hop : e.op with
  | uncordon | release =>
    rw [hop] at h
    exact ⟨by simpa using h, rfl, fun k hk => (annotations_clearRolloutAnnotations _ k).trans (if_pos hk)⟩
  | cordon | request | fail => simp [hop] at h

theorem name_of_startsOn (h : startsOn x e = true) : e.node.name = x := by
  unfold startsOn at h
  split at h
  · simpa using h
  · cases h

/-- After a rollout the node is schedulable and, but for the agent's and the approval, annotated as before its start. -/
theorem rollout_leaves_no_trace (r : NodeTuningReconciler) (s : Server) (start conclude : Action) (between : List Action)
    (x : String) (hstart : (step r s start).2.any (startsOn x) = true)
    (hend : (step r (run (step r) (step r s start).1 between).1 conclude).2.any (endsOn x) = true) :
    ∃ before after, s.nodes.get? x = some before ∧
      (step r (run (step r) (step r s start).1 between).1 conclude).1.nodes.get? x = some after ∧
      after.unschedulable = false ∧ (∀ k ∈ rolloutKeys, after.annotations k = none) ∧
      ∀ k, bystander k → after.annotations k = before.annotations k := by
  obtain ⟨e₀, he₀, hx₀⟩ := List.any_eq_true.mp hstart
  obtain ⟨e₁, he₁, hx₁⟩ := List.any_eq_true.mp hend
  obtain ⟨hname, hschedulable, hcleared⟩ := mutate_ends hx₁
  have hbefore := (written_step r he₀).1
  have hafter := (written_step r he₁).2
  rw [name_of_startsOn hx₀] at hbefore
  rw [hname] at hafter
  obtain ⟨n₁, hn₁, hkeep₁⟩ := keepsBystanders_step r start hbefore
  obtain ⟨n₂, hn₂, hkeep₂⟩ := keepsBystanders_run r between hn₁
  obtain ⟨n₃, hn₃, hkeep₃⟩ := keepsBystanders_step r conclude hn₂
  rw [hafter] at hn₃
  cases hn₃
  refine ⟨e₀.node, _, hbefore, hafter, hschedulable, hcleared, ?_⟩
  intro k hk
  calc (e₁.op.mutate e₁.node).annotations k
      = n₂.annotations k := hkeep₃ k hk
    _ = n₁.annotations k := hkeep₂ k hk
    _ = e₀.node.annotations k := hkeep₁ k hk

/-! ## A node that an operator had cordoned -/

namespace TuningFixture

def cordonedWorker : Node :=
  { worker "a" named_a with
    unschedulable := true
    annotations := Function.update (worker "a" named_a).annotations (.other "example.com/rack") (some (.text "12")) }

def cordoned : Server where
  nodes := { items := [cordonedWorker], nodup := by decide }
  tunings := Versioned.empty.create tuning

end TuningFixture

set_option maxRecDepth 4000

open TuningFixture in
/-- The rollout of the worker, from its start to the write that concludes it: the operator's annotation stays. -/
theorem rollout_leaves_no_trace_rack :
    ∃ before after, cordoned.nodes.get? "a" = some before ∧
      (step reconciler (run (step reconciler)
        (step reconciler cordoned (.pass 0 (passEnv 2000))).1
          [.pass 2 (passEnv 3000), .publish "a" "k3s-agent" (some 4000) ""]).1 (.pass 2 (passEnv 5000))).1.nodes.get?
            "a" = some after ∧
      after.unschedulable = false ∧ (∀ k ∈ rolloutKeys, after.annotations k = none) ∧
      ∀ k, bystander k → after.annotations k = before.annotations k :=
  rollout_leaves_no_trace reconciler cordoned (.pass 0 (passEnv 2000)) (.pass 2 (passEnv 5000))
    [.pass 2 (passEnv 3000), .publish "a" "k3s-agent" (some 4000) ""] "a" (by decide) (by decide)

open TuningFixture in
/-- The rollout of a worker that an operator had cordoned: nobody but its agent touches it, and it ends schedulable. -/
theorem uncordons_what_it_did_not_cordon :
    (cordoned.nodes.get? "a").map Node.unschedulable = some true ∧
      (run (step reconciler) cordoned rollouts).2.map (fun e => (e.op, e.node.name)) =
        [(.cordon 2000 "t", "a"), (.request 1000 3000, "a"), (.uncordon, "a")] ∧
      ((run (step reconciler) cordoned rollouts).1.nodes.get? "a").map Node.unschedulable = some false := by
  decide

end FrameOperator
