import FrameOperator.Lemmas.Moves

/-!
# What a pass can do

`Turn` lists all that one turn of the loop over the nodes can do (`reconcileNode_turn`). In the loop the pass's copy only ever
changes its finalizers (`Walk`).
-/

namespace FrameOperator

open NodeTuningNodeStatus Server Versioned

/-! ## The NodeTunings on the server -/

variable {s s' : Server}

/-- An update that succeeds is of the current version. -/
theorem Server.update_cases {nt nt' : Stamped NodeTuning} (h : s.update nt = .ok (s', nt')) :
    ∃ cur, s.tunings.get? nt.val.name = some cur ∧ cur.rev = nt.rev ∧ s'.nodes = s.nodes ∧
      ((((nt.val.updated cur.val).gone = true ∧ nt' = nt) ∧
          s'.tunings = (s.tunings.modify nt.val.name nt.val.updated nt.val.name_updated).remove nt.val.name) ∨
        ((nt.val.updated cur.val).gone = false ∧ s'.tunings.get? nt.val.name = some nt' ∧
          s'.tunings = s.tunings.modify nt.val.name nt.val.updated nt.val.name_updated)) := by
  unfold update at h
  cases hg : s.tunings.get? nt.val.name with
  | none => rw [hg] at h; cases h
  | some cur =>
    rw [hg] at h
    simp only at h
    by_cases hr : cur.rev ≠ nt.rev
    · rw [if_pos hr] at h; cases h
    rw [if_neg hr] at h
    refine ⟨cur, rfl, not_not.mp hr, ?_⟩
    by_cases hgone : (nt.val.updated cur.val).gone = true
    · rw [if_pos hgone] at h
      cases h
      exact ⟨rfl, .inl ⟨⟨hgone, rfl⟩, rfl⟩⟩
    · rw [if_neg hgone] at h
      cases h
      refine ⟨rfl, .inr ⟨by simpa using hgone, ?_, rfl⟩⟩
      have hv := value?_modify s.tunings nt.val.name nt.val.updated nt.val.name_updated nt.val.name
      rw [if_pos rfl, value?, value?, hg] at hv
      obtain ⟨w, hw, -⟩ := Option.map_eq_some_iff.mp hv
      simp [hw]

variable {nt : Stamped NodeTuning} {nodes : List NodeTuningNodeStatus}

/-- What a status write that succeeds leaves. -/
theorem Server.patchStatus_cases {name : String} {generation : Nat} (h : s.patchStatus name generation nodes = .ok (s', nt)) :
    s'.nodes = s.nodes ∧ s'.tunings.get? name = some nt ∧
      s'.tunings = s.tunings.modify name (NodeTuning.withComputed generation (nodes.map wire))
        (NodeTuning.name_withComputed generation _) := by
  unfold patchStatus at h
  cases hg : s.tunings.get? name with
  | none => rw [hg] at h; cases h
  | some cur =>
    rw [hg] at h
    cases h
    refine ⟨rfl, ?_, rfl⟩
    have hv := value?_modify s.tunings name
      (NodeTuning.withComputed generation (nodes.map wire)) (NodeTuning.name_withComputed generation _) name
    rw [if_pos rfl, value?, value?, hg] at hv
    obtain ⟨w, hw, -⟩ := Option.map_eq_some_iff.mp hv
    simp [hw]

theorem Server.value?_patchStatus {name : String} {generation : Nat}
    (h : s.patchStatus name generation nodes = .ok (s', nt)) (n : String) :
    s'.tunings.value? n =
      if n = name then (s.tunings.value? n).map (NodeTuning.withComputed generation (nodes.map wire))
      else s.tunings.value? n := by
  rw [(patchStatus_cases h).2.2, value?_modify]

/-! ## The pass's copy of its NodeTuning -/

/-- The pass's copy, and its version, differ from what it set out with in finalizers only. -/
structure Walk (c : NodeTuning) (p : Pass) : Prop where
  copy : ∃ fs, p.nt.val = { c with finalizers := fs }
  version : ∃ v ∈ p.server.tunings.past, v.rev = p.nt.rev ∧ ∃ fs, v.val = { c with finalizers := fs }

variable {c : NodeTuning} {p : Pass}

theorem Walk.name (h : Walk c p) : p.nt.val.name = c.name := by
  obtain ⟨fs, hfs⟩ := h.copy
  rw [hfs]

theorem Walk.generation (h : Walk c p) : p.nt.val.generation = c.generation := by
  obtain ⟨fs, hfs⟩ := h.copy
  rw [hfs]

theorem Walk.status (h : Walk c p) : p.nt.val.status = c.status := by
  obtain ⟨fs, hfs⟩ := h.copy
  rw [hfs]

/-- A pass begins with its copy. -/
theorem walk_begin {s : Server} (h : nt ∈ s.tunings.past) :
    Walk nt.val (NodeTuningReconciler.begin_ s nt) :=
  ⟨⟨nt.val.finalizers, rfl⟩, ⟨nt, h, rfl, nt.val.finalizers, rfl⟩⟩

theorem Walk.updated (h : Walk c p) (fs : List String) {cur : Stamped NodeTuning}
    (hcur : p.server.tunings.get? c.name = some cur) (hrev : cur.rev = p.nt.rev) :
    (∃ gs, cur.val = { c with finalizers := gs }) ∧
      ({ p.nt.val with finalizers := fs } : NodeTuning).updated cur.val = { c with finalizers := fs } := by
  obtain ⟨v, hv, hvr, gs, hgs⟩ := h.version
  have hcv : cur = v :=
    p.server.tunings.past_inj cur (past_of_get? hcur).1 v hv (hrev.trans hvr.symm)
  obtain ⟨ds, hds⟩ := h.copy
  refine ⟨⟨gs, hcv ▸ hgs⟩, ?_⟩
  rw [hcv, hgs, hds]
  simp [NodeTuning.updated]

def Pass.withFinalizers (p : Pass) (fs : List String) : Stamped NodeTuning :=
  { p.nt with val := { p.nt.val with finalizers := fs } }

theorem Walk.update_ok (h : Walk c p) {fs : List String} {s' : Server} {nt' : Stamped NodeTuning}
    (hu : p.server.update (p.withFinalizers fs) = .ok (s', nt')) :
    s'.nodes = p.server.nodes ∧
      (∃ gs, p.server.tunings.value? c.name = some { c with finalizers := gs }) ∧
      (∀ n, n ≠ c.name → s'.tunings.value? n = p.server.tunings.value? n) ∧
      (((c.deletionTimestamp.isSome = true ∧ fs = []) ∧ s'.tunings.value? c.name = none) ∨
        (s'.tunings.get? c.name = some nt' ∧ nt'.val = { c with finalizers := fs })) := by
  obtain ⟨cur, hcur, hrev, hnodes, hcases⟩ := update_cases hu
  have hname : (p.withFinalizers fs).val.name = c.name := h.name
  simp only [hname] at hcur hcases
  obtain ⟨⟨gs, hgs⟩, hupd⟩ := h.updated fs hcur hrev
  have hupd' : (p.withFinalizers fs).val.updated cur.val = { c with finalizers := fs } := hupd
  rw [hupd'] at hcases
  have hvalue : p.server.tunings.value? c.name = some cur.val := value?_of_get? hcur
  refine ⟨hnodes, ⟨gs, by rw [hvalue, hgs]⟩, ?_, ?_⟩
  · intro n hn
    rcases hcases with ⟨-, ht⟩ | ⟨-, -, ht⟩
    · rw [ht, value?_remove, if_neg hn, value?_modify, if_neg hn]
    · rw [ht, value?_modify, if_neg hn]
  · rcases hcases with ⟨⟨hgone, -⟩, ht⟩ | ⟨-, hget, ht⟩
    · refine .inl ⟨?_, by rw [ht, value?_remove, if_pos rfl]⟩
      simpa [NodeTuning.gone] using hgone
    · refine .inr ⟨hget, ?_⟩
      have hv := value?_modify p.server.tunings c.name (p.withFinalizers fs).val.updated
        (p.withFinalizers fs).val.name_updated c.name
      rw [← ht, if_pos rfl, hvalue, value?, hget] at hv
      simpa [hupd'] using hv

variable {res : Except String Unit} {p q : Pass} {o : Outcome}

/-- The finalizer is there, added, or not to be had. -/
theorem ensureFinalizer_cases (h : p.ensureFinalizer o = (q, res)) :
    (nodeTuningFinalizer ∈ p.nt.val.finalizers ∧ q = p ∧ res = .ok ()) ∨
    (nodeTuningFinalizer ∉ p.nt.val.finalizers ∧ (∃ e, res = .error e) ∧ (q.alive = p.alive ∨ o = .crash) ∧
      q = { p with nt := p.withFinalizers (p.nt.val.finalizers ++ [nodeTuningFinalizer]), alive := q.alive }) ∨
    (nodeTuningFinalizer ∉ p.nt.val.finalizers ∧ res = .ok () ∧ ∃ s' nt',
      p.server.update (p.withFinalizers (p.nt.val.finalizers ++ [nodeTuningFinalizer])) = .ok (s', nt') ∧
      q = { p with server := s', nt := nt' }) := by
  unfold Pass.ensureFinalizer at h
  by_cases hf : p.nt.val.finalizers.contains nodeTuningFinalizer = true
  · rw [if_pos hf] at h
    cases h
    exact .inl ⟨by simpa using hf, rfl, rfl⟩
  · rw [if_neg hf] at h
    have hnf : nodeTuningFinalizer ∉ p.nt.val.finalizers := by simpa using hf
    refine .inr ?_
    cases o with
    | crash => cases h; exact .inl ⟨hnf, ⟨_, rfl⟩, .inr rfl, rfl⟩
    | err e => cases h; exact .inl ⟨hnf, ⟨_, rfl⟩, .inl rfl, rfl⟩
    | ok =>
      simp only at h
      cases hu : p.server.update (p.withFinalizers (p.nt.val.finalizers ++ [nodeTuningFinalizer])) with
      | error e =>
        have hu' := hu
        unfold Pass.withFinalizers at hu'
        rw [hu'] at h
        cases h
        exact .inl ⟨hnf, ⟨_, rfl⟩, .inl rfl, rfl⟩
      | ok res' =>
        obtain ⟨s', nt'⟩ := res'
        have hu' := hu
        unfold Pass.withFinalizers at hu'
        rw [hu'] at h
        cases h
        exact .inr ⟨hnf, rfl, s', nt', rfl, rfl⟩

structure SameButCopy (p q : Pass) : Prop where
  nodes : q.server.nodes = p.server.nodes
  lock : q.lock = p.lock
  log : q.log = p.log
  newNodes : q.newNodes = p.newNodes
  ownsNode : q.ownsNode = p.ownsNode

theorem SameButCopy.refl (p : Pass) : SameButCopy p p := ⟨rfl, rfl, rfl, rfl, rfl⟩

theorem ensureFinalizer_same (h : p.ensureFinalizer o = (q, res)) :
    SameButCopy p q := by
  rcases ensureFinalizer_cases h with ⟨-, rfl, -⟩ | ⟨-, -, -, hq⟩ | ⟨-, -, s', nt', hu, rfl⟩
  · exact SameButCopy.refl q
  · rw [hq]
    exact ⟨rfl, rfl, rfl, rfl, rfl⟩
  · obtain ⟨-, -, -, hnodes, -⟩ := update_cases hu
    exact ⟨hnodes, rfl, rfl, rfl, rfl⟩

/-- Adding the finalizer changes the copy only. -/
theorem ensureFinalizer_walk (hw : Walk c p) (h : p.ensureFinalizer o = (q, res)) : Walk c q ∧ SameButCopy p q := by
  refine ⟨?_, ensureFinalizer_same h⟩
  rcases ensureFinalizer_cases h with ⟨-, rfl, -⟩ | ⟨-, -, -, hq⟩ | ⟨-, -, s', nt', hu, rfl⟩
  · exact hw
  · rw [hq]
    obtain ⟨fs, hfs⟩ := hw.copy
    refine ⟨⟨p.nt.val.finalizers ++ [nodeTuningFinalizer], ?_⟩, hw.version⟩
    simp [Pass.withFinalizers, hfs]
  · obtain ⟨-, -, -, hcases⟩ := hw.update_ok hu
    rcases hcases with ⟨⟨-, hnil⟩, -⟩ | ⟨hget, hval⟩
    · simp at hnil
    · exact ⟨⟨_, hval⟩, ⟨nt', (past_of_get? hget).1, rfl, _, hval⟩⟩

/-! ## One turn of the loop -/

/-- What a turn can do: whether the node is the pass's own, its entry, and the pass after it. -/
inductive Turn (env : NodeEnv) (listed : List Node) (node : Node) (p : Pass) : Bool → NodeTuningNodeStatus → Pass → Prop where
  /-- No write, or a patch that failed. -/
  | kept {entry : NodeTuningNodeStatus} :
      Carries (existingNodeStatus p.nt.val.status.nodes node.name) entry →
      Turn env listed node p (rolloutOwnedBy node p.nt.val.name) entry p
  /-- The process dies before its patch. -/
  | died {owned : Bool} {entry : NodeTuningNodeStatus} : env.patch = .crash →
      Turn env listed node p owned entry { p with alive := false }
  /-- The patch of a node the pass drives. -/
  | driven {op : NodeOp} {entry : NodeTuningNodeStatus} {failed : String → NodeTuningNodeStatus} :
      rolloutOwnedBy node p.nt.val.name = true → rolloutHalted node = false →
      Drives env.now p.nt.val.generation node (existingNodeStatus p.nt.val.status.nodes node.name) (.patch op entry failed) →
      env.patch = .ok → Turn env listed node p true entry (p.commit listed node op entry)
  /-- The finalizer could not be added, or the process died before it. -/
  | unfinalized {entry : NodeTuningNodeStatus} {q : Pass} {e : String} :
      Starts p.lock listed p.nt.val node (existingNodeStatus p.nt.val.status.nodes node.name) →
      p.ensureFinalizer env.finalizer = (q, .error e) →
      Carries (existingNodeStatus p.nt.val.status.nodes node.name) entry → Turn env listed node p false entry q
  /-- The finalizer is there and the cordon is not committed. -/
  | uncordoned {entry : NodeTuningNodeStatus} {p₁ : Pass} :
      Starts p.lock listed p.nt.val node (existingNodeStatus p.nt.val.status.nodes node.name) →
      p.ensureFinalizer env.finalizer = (p₁, .ok ()) →
      Carries (existingNodeStatus p.nt.val.status.nodes node.name) entry → Turn env listed node p false entry p₁
  /-- The finalizer is there and the process dies before the cordon. -/
  | diedCordoning {entry : NodeTuningNodeStatus} {owned : Bool} {p₁ : Pass} :
      Starts p.lock listed p.nt.val node (existingNodeStatus p.nt.val.status.nodes node.name) →
      p.ensureFinalizer env.finalizer = (p₁, .ok ()) → env.patch = .crash →
      Turn env listed node p owned entry { p₁ with alive := false }
  /-- A rollout starts. -/
  | cordoned {entry : NodeTuningNodeStatus} {p₁ : Pass} :
      Starts p.lock listed p.nt.val node (existingNodeStatus p.nt.val.status.nodes node.name) →
      p.ensureFinalizer env.finalizer = (p₁, .ok ()) →
      Carries (existingNodeStatus p.nt.val.status.nodes node.name) entry → env.patch = .ok →
      Turn env listed node p true entry (p₁.commit listed node (.cordon env.now p₁.nt.val.name) entry)

variable {node : Node}

theorem Drives.keep_carries {now : Time} {generation : Nat} {ns ns' : NodeTuningNodeStatus}
    (h : Drives now generation node ns (.keep ns')) : Carries ns ns' := by
  cases h with
  | keep h => exact h

theorem Drives.failed_carries {now : Time} {generation : Nat} {ns done : NodeTuningNodeStatus} {op : NodeOp}
    {failed : String → NodeTuningNodeStatus} (h : Drives now generation node ns (.patch op done failed)) (e : String) :
    Carries ns (failed e) := by
  cases h with
  | fail h => exact h
  | request _ _ _ h => exact h e
  | verify unit _ _ _ _ _ => exact ⟨rfl, rfl, rfl, rfl⟩

theorem reconcileNode_dead {r : NodeTuningReconciler} {env : PassEnv} {listed : List Node} {all : List NodeTuning}
    (node : Node) (h : p.alive = false) : r.reconcileNode env listed all p node = p := by
  simp [NodeTuningReconciler.reconcileNode, h]

/-- One node's part of a pass is a `Turn`. -/
theorem reconcileNode_turn (r : NodeTuningReconciler) (env : PassEnv) (listed : List Node) (all : List NodeTuning)
    (node : Node) (ha : p.alive = true) :
    ∃ owned entry q, Turn (env.node node.name) listed node p owned entry q ∧
      r.reconcileNode env listed all p node = q.note owned (realizeNode (env.node node.name).podsAfter entry) := by
  unfold NodeTuningReconciler.reconcileNode
  rw [if_pos ha]
  simp only
  refine ⟨_, _, _, ?_, rfl⟩
  generalize hns : existingNodeStatus p.nt.val.status.nodes node.name = ns
  generalize hothers : overlappingNodeTunings r all p.nt.val.name node = others
  generalize henv : env.node node.name = e
  rcases move_cases r e p.lock listed p.nt.val others node ns with ⟨ns', hm, hc, howns⟩ | ⟨howned, hhalted, hb, hd⟩ |
    ⟨reason, done, failed, unfinalized, hb, hstarts, hm, ⟨hdone, hphase⟩, hfailed, hunfinalized⟩
  · rw [hm]
    simp only [Pass.perform]
    rw [howns]
    exact .kept (hns ▸ hc)
  · rw [hb] at hd ⊢
    cases hm : Branch.move r e p.lock listed p.nt.val node ns .continues with
    | keep ns' =>
      rw [hm] at hd
      have hkept : Turn e listed node p (rolloutOwnedBy node p.nt.val.name) ns' p := .kept (hns ▸ hd.keep_carries)
      rw [howned] at hkept
      exact hkept
    | patch op done failed =>
      rw [hm] at hd
      simp only [Pass.perform, Pass.patchNode]
      cases hp : e.patch with
      | ok => exact .driven howned hhalted (hns ▸ hd) hp
      | err msg =>
        have hkept : Turn e listed node p (rolloutOwnedBy node p.nt.val.name) (failed msg) p :=
          .kept (hns ▸ hd.failed_carries msg)
        rw [howned] at hkept
        exact hkept
      | crash => exact .died hp
    | cordon now done failed unfinalized =>
      rw [hm] at hd
      cases hd
  · rw [hm, hb]
    subst hns
    simp only [Pass.perform]
    cases hfin : p.ensureFinalizer e.finalizer with
    | mk q res =>
      cases res with
      | error msg =>
        have howns : (Branch.start reason).owns (unfinalized msg) = false := by
          simp [Branch.owns, (hunfinalized msg).2]
        simp only [howns]
        exact .unfinalized hstarts hfin (hunfinalized msg).1
      | ok u =>
        simp only [Pass.patchNode]
        cases hp : e.patch with
        | ok =>
          have howns : (Branch.start reason).owns done = true := by simp [Branch.owns, hphase]
          simp only [howns]
          exact .cordoned hstarts hfin hdone hp
        | err msg =>
          have howns : (Branch.start reason).owns (failed msg) = false := by simp [Branch.owns, (hfailed msg).2]
          simp only [howns]
          exact .uncordoned hstarts hfin (hfailed msg).1
        | crash => exact .diedCordoning hstarts hfin hp

/-! ## What a turn writes -/

/-- The writes of a Node that a pass makes, and what the node it listed is like before each. -/
inductive Writes (name : String) (node : Node) : NodeOp → Prop where
  | cordon {now : Time} {owner : String} : rolloutInFlight node = false → Writes name node (.cordon now owner)
  | fail {now : Time} : rolloutOwnedBy node name = true → Writes name node (.fail now)
  | request {baseline now : Time} {e : String} : rolloutOwnedBy node name = true → rolloutHalted node = false →
      annotationTime node .restartRequested = .error e → annotationTime node .unitActiveEnter = .ok baseline →
      Writes name node (.request baseline now)
  | verify {requested baseline current : Time} : rolloutOwnedBy node name = true →
      annotationTime node .restartRequested = .ok requested → annotationTime node .restartBaseline = .ok baseline →
      annotationTime node .unitActiveEnter = .ok current → baseline < current → Writes name node .uncordon
  | release : rolloutOwnedBy node name = true → Writes name node .release

def Touches (name : String) (node : Node) (p q : Pass) : Prop :=
  (q.server.nodes = p.server.nodes ∧ q.log = p.log) ∨
    ∃ e, Writes name node e.op ∧ e.node = node ∧ q.server.nodes = (p.server.patchNode node e.op).nodes ∧ q.log = p.log ++ [e]

/-- A turn writes its own node only. -/
theorem Turn.touches {env : NodeEnv} {listed : List Node} {owned : Bool}
    {entry : NodeTuningNodeStatus} (h : Turn env listed node p owned entry q) : Touches p.nt.val.name node p q := by
  cases h with
  | kept | died => exact .inl ⟨rfl, rfl⟩
  | driven howned hhalted hd _ =>
    refine .inr ⟨_, ?_, rfl, rfl, rfl⟩
    cases hd with
    | fail _ => exact .fail howned
    | request hq hb _ _ => exact .request howned hhalted hq hb
    | verify unit hq hb hc hlt _ => exact .verify howned hq hb hc hlt
  | unfinalized _ hf _ | uncordoned _ hf _
  | diedCordoning _ hf _ => exact .inl ⟨(ensureFinalizer_same hf).nodes, (ensureFinalizer_same hf).log⟩
  | cordoned hstarts hf _ _ =>
    have hsame := ensureFinalizer_same hf
    refine .inr ⟨_, .cordon hstarts.free, rfl, ?_, by rw [← hsame.log]; rfl⟩
    rw [nodes_patchNode, ← hsame.nodes]
    rfl

end FrameOperator
