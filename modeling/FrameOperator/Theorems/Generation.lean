import FrameOperator.Theorems.Finalizer

/-!
# The generation a restart is recorded for

The generation is written down when the restart is verified, from the object as it is then: a spec edited in the middle of a rollout
gets a restart on its record that was approved for the generation before (`recorded_for_unapproved`).
-/

namespace FrameOperator

open Versioned

variable {l log : List Event} {e : Event} {s : Server}

def lastStart (log : List Event) (x : String) : Option Event := (log.filter (startsOn x)).getLast?

/-- At its write the NodeTuning had this generation, and the node's approval named it. -/
structure ApprovedStart (e : Event) (generation : Nat) : Prop where
  copy : e.nt.generation = generation
  live : ∃ nt, e.before.tunings.value? e.nt.name = some nt ∧ nt.generation = generation
  node : e.before.nodes.get? e.node.name = some e.node
  approved : approvedForGeneration e.node generation = true

/-- A write that records a restart concludes a rollout started for that generation. -/
def Concludes (l : List Event) (e : Event) : Prop :=
  e.op = .uncordon → ∃ e₀, lastStart l e.node.name = some e₀ ∧ e₀.nt.name = e.nt.name ∧
    ApprovedStart e₀ e.entry.restartedGeneration

/-- The run reads its NodeTunings current and deletes none. -/
def ReadsCurrent (s : Server) : Action → Prop
  | .pass version _ => ∀ copy ∈ s.tunings.past[version]?, s.tunings.value? copy.val.name = some copy.val
  | .delete _ _ => False
  | _ => True

instance (s : Server) (a : Action) : Decidable (ReadsCurrent s a) := by
  cases a <;> unfold ReadsCurrent <;> infer_instance

/-- The condition on a step: no spec is edited while a rollout of its NodeTuning is in flight. -/
def NoEditMidRollout (s : Server) : Action → Prop
  | .editSpec tuning _ => ∀ m ∈ s.nodes.items, rolloutOwnedBy m tuning = false
  | _ => True

instance (s : Server) (a : Action) : Decidable (NoEditMidRollout s a) := by
  cases a <;> unfold NoEditMidRollout <;> infer_instance

/-! ## Logs -/

theorem lastStart_append_other {x : String} (h : startsOn x e = false) :
    lastStart (log ++ [e]) x = lastStart log x := by
  simp [lastStart, List.filter_append, h]

theorem lastStart_append_start {x : String} (h : startsOn x e = true) :
    lastStart (log ++ [e]) x = some e := by
  simp [lastStart, List.filter_append, h]

/-! ## The pass -/

def StartedFor (t : Versioned NodeTuning NodeTuning.name) (log : List Event) (m : Node) : Prop :=
  rolloutInFlight m = true → ∃ e nt, lastStart log m.name = some e ∧ m.annotations .rolloutOwner = some (.text e.nt.name) ∧
    t.value? e.nt.name = some nt ∧ ApprovedStart e nt.generation

structure Dated (s : Server) (log : List Event) : Prop where
  past : ∀ v ∈ s.tunings.past, v.val.deletionTimestamp = none
  started : ∀ m ∈ s.nodes.items, StartedFor s.tunings log m
  concludes : Each Concludes log

structure DatedPass (s : Server) (l : List Event) (p : Pass) : Prop where
  cores : SameCores s.tunings p.server.tunings
  started : ∀ m ∈ p.server.nodes.items, StartedFor s.tunings (l ++ p.log) m
  concludes : Each Concludes (l ++ p.log)

theorem log_commit (p : Pass) (listed : List Node) (node : Node) (op : NodeOp) (entry : NodeTuningNodeStatus) :
    l ++ (p.commit listed node op entry).log = (l ++ p.log) ++ [⟨op, node, p.nt.val, entry, listed, p.server⟩] := by
  simp [Pass.commit]

theorem datedPass_turn {c : NodeTuning} {env : NodeEnv} {listed : List Node} {node : Node}
    {p q : Pass} {owned : Bool} {entry : NodeTuningNodeStatus} (hlive : s.tunings.value? c.name = some c) (hw : Walk c p)
    (hn : p.server.nodes.get? node.name = some node) (h : DatedPass s l p) (ht : Turn env listed node p owned entry q) :
    DatedPass s l q := by
  have hcores := h.cores.trans (ht.cores hw).1
  have hmem : node ∈ p.server.nodes.items := Keyed.mem_of_get? hn
  -- a turn that leaves the Nodes and the log as they are
  have hsame : q.server.nodes = p.server.nodes → q.log = p.log → DatedPass s l q := by
    intro hnodes hlog
    refine ⟨hcores, ?_, by rw [hlog]; exact h.concludes⟩
    rw [hnodes, hlog]
    exact h.started
  cases ht with
  | kept | died => exact hsame rfl rfl
  | unfinalized _ hf _ | uncordoned _ hf _
  | diedCordoning _ hf _ => exact hsame (ensureFinalizer_walk hw hf).2.nodes (ensureFinalizer_walk hw hf).2.log
  | @driven op _ _ howned _ hd _ =>
    obtain ⟨e, nt, hlast, howner, hnt, happroved⟩ := h.started node hmem (inFlight_of_ownedBy howned)
    have hname : e.nt.name = c.name := by
      have hraw := ((rolloutOwnedBy_iff _ _).mp howned).2
      rw [Annotations.raw, howner] at hraw
      rw [← hw.name, ← hraw]
      rfl
    have hother : ∀ x, startsOn x ⟨op, node, p.nt.val, entry, listed, p.server⟩ = false := by
      intro x
      cases hd <;> rfl
    rw [hname, hlive] at hnt
    cases hnt
    refine ⟨hcores, ?_, ?_⟩
    · intro m hm
      rw [log_commit]
      rcases Server.mem_patchNode hn hm with rfl | ⟨hm, -⟩
      · intro hf
        rw [rolloutInFlight_mutate] at hf
        rw [lastStart_append_other (hother _), name_mutate, owner_mutate]
        refine ⟨e, c, hlast, ?_, by rw [hname]; exact hlive, happroved⟩
        cases hd with
        | fail | request => exact howner
        | verify unit _ _ _ _ _ => simp [NodeOp.leavesInFlight] at hf
      · rw [StartedFor, lastStart_append_other (hother _)]
        exact h.started m hm
    · rw [log_commit]
      refine h.concludes.snoc ?_
      intro hop
      cases hd with
      | fail | request => cases hop
      | verify unit _ _ _ _ _ =>
        refine ⟨e, hlast, hname.trans hw.name.symm, ?_⟩
        have hgen : p.nt.val.generation = c.generation := hw.generation
        simp only [hgen]
        exact happroved
  | @cordoned _ p₁ hstarts hf _ _ =>
    have hw₁ := (ensureFinalizer_walk hw hf).1
    have hsame₁ := (ensureFinalizer_walk hw hf).2
    have hn₁ : p₁.server.nodes.get? node.name = some node := by rw [hsame₁.nodes]; exact hn
    have hstart : ∀ x, startsOn x ⟨.cordon env.now p₁.nt.val.name, node, p₁.nt.val, entry, listed, p₁.server⟩ =
        (node.name == x) := fun x => rfl
    have hcores₁ : SameCores s.tunings p₁.server.tunings := hcores
    refine ⟨hcores, ?_, ?_⟩
    · intro m hm
      rw [log_commit, hsame₁.log]
      rcases Server.mem_patchNode hn₁ hm with rfl | ⟨hm, hne⟩
      · intro _
        obtain ⟨nt, hnt, hgen, -⟩ := hcores₁.value? hlive
        refine ⟨_, c, lastStart_append_start (by rw [hstart, name_mutate, beq_self_eq_true]), owner_mutate _ _,
          by rw [hw₁.name]; exact hlive, hw₁.generation, ⟨nt, by rw [hw₁.name]; exact hnt, hgen⟩, hn₁, ?_⟩
        rw [← hw.generation]
        exact hstarts.approved
      · rw [StartedFor, lastStart_append_other (by rw [hstart]; exact beq_eq_false_iff_ne.mpr (Ne.symm hne))]
        rw [hsame₁.nodes] at hm
        exact h.started m hm
    · rw [log_commit, hsame₁.log]
      refine h.concludes.snoc ?_
      intro hop
      cases hop

variable (r : NodeTuningReconciler)

theorem dated_pass (env : PassEnv) {copy : Stamped NodeTuning}
    (hcopy : copy ∈ s.tunings.past) (hlive : s.tunings.value? copy.val.name = some copy.val) (h : Dated s l) :
    Dated (r.reconcile env s copy).1.server (l ++ (r.reconcile env s copy).1.log) := by
  obtain ⟨hgen, hpast⟩ := generation_pass r env hcopy h.past
  have hnodes : (∀ m ∈ (r.reconcile env s copy).1.server.nodes.items,
      StartedFor s.tunings (l ++ (r.reconcile env s copy).1.log) m) ∧ Each Concludes (l ++ (r.reconcile env s copy).1.log) := by
    refine reconcile_induct hcopy (I := DatedPass s l)
      (J := fun nodes log => (∀ m ∈ nodes.items, StartedFor s.tunings (l ++ log) m) ∧ Each Concludes (l ++ log)) ?_ ?_ ?_ ?_ ?_
    · exact fun p hp => ⟨hp.started, hp.concludes⟩
    · refine ⟨SameCores.refl _, ?_, ?_⟩
      · simpa [NodeTuningReconciler.begin_] using h.started
      · simpa [NodeTuningReconciler.begin_] using h.concludes
    · exact fun p owned entry hp => ⟨hp.cores, hp.started, hp.concludes⟩
    · intro node p owned entry q _ hw hn _ hp ht
      exact datedPass_turn hlive hw hn hp ht
    · intro node p q res hd _ _ _ _ _
      rw [h.past copy hcopy] at hd
      cases hd
  refine ⟨hpast, ?_, hnodes.2⟩
  intro m hm hf
  obtain ⟨e, nt, hlast, howner, hnt, happroved⟩ := hnodes.1 m hm hf
  obtain ⟨nt', hnt', hgen'⟩ := hgen _ nt hnt
  exact ⟨e, nt', hlast, howner, hnt', by rw [hgen']; exact happroved⟩

/-! ## The other steps, and runs -/

/-- A step other than a pass keeps the dates, if it leaves generations in flight. -/
theorem dated_other {a : Action} (hp : a.isPass = false)
    (hpast : ∀ v ∈ (step r s a).1.tunings.past, v.val.deletionTimestamp = none)
    (hgen : ∀ m ∈ s.nodes.items, ∀ nt, rolloutInFlight m = true → m.annotations .rolloutOwner = some (.text nt.name) →
      s.tunings.value? nt.name = some nt → ∃ nt', (step r s a).1.tunings.value? nt.name = some nt' ∧
        nt'.generation = nt.generation)
    (h : Dated s l) : Dated (step r s a).1 (l ++ (step r s a).2) := by
  obtain ⟨hlog, hget⟩ := step_other r (s := s) hp
  rw [hlog, List.append_nil]
  refine ⟨hpast, ?_, h.concludes⟩
  intro m hm hf
  have hg := Keyed.get?_of_mem hm
  rw [hget] at hg
  obtain ⟨n, hn, rfl⟩ := Option.map_eq_some_iff.mp hg
  have hmem := Keyed.mem_of_get? hn
  have hfn := inFlight_of_onNode hf
  obtain ⟨e, nt, hlast, howner, hnt, happroved⟩ := h.started n hmem hfn
  obtain ⟨-, hname⟩ := past_of_get? (value?_eq_some hnt).choose_spec
  simp only at hname
  obtain ⟨nt', hnt', hgen'⟩ := hgen n hmem nt hfn (by rw [hname]; exact howner) (by rw [hname]; exact hnt)
  refine ⟨e, nt', by rw [name_onNode]; exact hlast, ?_, by rw [← hname]; exact hnt', by rw [hgen']; exact happroved⟩
  rcases annotations_onNode a n (k := .rolloutOwner) (by simp) (by simp) (by simp) with heq | ⟨hk, -⟩
  · rw [heq]
    exact howner
  · cases hk

theorem dated_step {a : Action} (hcur : ReadsCurrent s a)
    (hok : NoEditMidRollout s a) (h : Dated s l) : Dated (step r s a).1 (l ++ (step r s a).2) := by
  -- a step that leaves the NodeTunings alone
  have hnodes : a.isPass = false → (step r s a).1.tunings = s.tunings → Dated (step r s a).1 (l ++ (step r s a).2) := by
    intro hp ht
    refine dated_other r hp (by rw [ht]; exact h.past) ?_ h
    intro m _ nt _ _ hnt
    exact ⟨nt, by rw [ht]; exact hnt, rfl⟩
  cases a with
  | pass version env =>
    rcases step_pass r s version env with ⟨heq, -⟩ | ⟨copy, hcopy, hv, heq⟩
    · rw [heq, List.append_nil]
      exact h
    · rw [heq]
      exact dated_pass r env hcopy (hcur copy hv) h
  | clearStarted node => exact hnodes rfl rfl
  | delete tuning now => exact hcur.elim
  | publish | setConditions | relabel | approve => exact hnodes rfl rfl
  | patchObserved tuning node observed =>
    refine dated_other r rfl (past_editTuning h.past (fun _ => rfl)) ?_ h
    intro m _ nt _ _ hnt
    exact exists_value?_modify hnt rfl rfl
  | editSpec tuning spec =>
    refine dated_other r rfl (past_editTuning h.past (fun _ => rfl)) ?_ h
    intro m hm nt hf howner hnt
    have hne : nt.name ≠ tuning := by
      intro hname
      have howned : rolloutOwnedBy m tuning = true := by
        rw [rolloutOwnedBy_iff, Annotations.raw, howner]
        exact ⟨hf, hname⟩
      rw [hok m hm] at howned
      cases howned
    have hvalue := value?_modify s.tunings tuning (NodeTuning.edited spec) (NodeTuning.name_edited spec) nt.name
    rw [if_neg hne, hnt] at hvalue
    exact ⟨nt, hvalue, rfl⟩
  | create name finalizers spec =>
    refine dated_other r rfl ?_ ?_ h
    · intro v hv
      rcases past_create hv with hv | ⟨rfl, -⟩
      · exact h.past v hv
      · rfl
    · intro m _ nt _ _ hnt
      exact ⟨nt, value?_create_of_some hnt, rfl⟩

/-- With current reads and no edit under a rollout, a restart is recorded for the generation that was approved. -/
theorem restarted_generation_approved (r : NodeTuningReconciler) (s : Server)
    (hfree : ∀ m ∈ s.nodes.items, rolloutInFlight m = false)
    (hpast : ∀ v ∈ s.tunings.past, v.val.deletionTimestamp = none) (actions : List Action)
    (hok : Meets (step r) (fun s a => ReadsCurrent s a ∧ NoEditMidRollout s a) s actions) :
    Each Concludes (run (step r) s actions).2 := by
  have hrun : Dated (run (step r) s actions).1 (run (step r) s actions).2 := by
    have hbegin : Dated s [] := by
      refine ⟨hpast, ?_, fun i e he => by simp at he⟩
      intro m hm hf
      rw [hfree m hm] at hf
      cases hf
    refine run_induct hbegin ?_ actions hok
    intro s l a hs ha
    exact dated_step r ha.1 ha.2 hs
  exact hrun.concludes

/-! ## A run under the condition, and one that is not -/

open TuningFixture in
set_option maxRecDepth 4000 in
/-- The rollout of a worker records the generation it was started for. -/
theorem restarted_generation_approved_rollout :
    (run (step reconciler) single rollout).2.map (fun e => (e.op, e.entry.restartedGeneration)) =
        [(.cordon 2000 "t", 0), (.request 1000 3000, 0), (.uncordon, 1)] ∧
      Each Concludes (run (step reconciler) single rollout).2 :=
  ⟨by decide +kernel,
    restarted_generation_approved reconciler single (by decide +kernel) (by decide +kernel) rollout (by decide +kernel)⟩

namespace TuningFixture

def editedRollout : List Action :=
  [.pass 0 (passEnv 2000), .pass 2 (passEnv 3000), .editSpec "t" { tuning.spec with tunedProfile := "latency-performance" },
    .publish "a" "k3s-agent" (some 4000) "", .pass 4 (passEnv 5000)]

end TuningFixture

open TuningFixture in
set_option maxRecDepth 4000 in
/-- The spec is edited under a rollout that was started for generation 1: its restart is recorded for generation 2. -/
theorem recorded_for_unapproved :
    Meets (step reconciler) ReadsCurrent single editedRollout ∧
      (run (step reconciler) single editedRollout).2.map
        (fun e => (e.op, e.nt.generation, e.entry.restartedGeneration, approvedForGeneration e.node 2)) =
          [(.cordon 2000 "t", 1, 0, false), (.request 1000 3000, 1, 0, false), (.uncordon, 2, 2, false)] ∧
      ¬ Each Concludes (run (step reconciler) single editedRollout).2 := by
  refine ⟨by decide +kernel, by decide +kernel, ?_⟩
  intro h
  -- the last start before the third write was for generation 1
  have hstart : ((run (step reconciler) single editedRollout).2[2]?).any (fun e =>
      e.op == .uncordon && e.entry.restartedGeneration == 2 &&
        (lastStart ((run (step reconciler) single editedRollout).2.take 2) e.node.name).all
          (fun e₀ => e₀.nt.generation == 1)) = true := by decide +kernel
  cases he : (run (step reconciler) single editedRollout).2[2]? with
  | none =>
    rw [he] at hstart
    cases hstart
  | some e =>
    rw [he, Option.any_some, Bool.and_eq_true, Bool.and_eq_true, beq_iff_eq, beq_iff_eq] at hstart
    obtain ⟨⟨hop, hgen⟩, hall⟩ := hstart
    obtain ⟨e₀, hlast, -, happroved⟩ := h 2 e he hop
    rw [hlast, Option.all_some, beq_iff_eq] at hall
    have hcopy := happroved.copy
    omega

end FrameOperator
