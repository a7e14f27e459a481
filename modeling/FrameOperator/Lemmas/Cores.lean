import FrameOperator.Lemmas.Actions

/-!
# What a pass does to the NodeTunings

In its loop a pass changes nothing of a NodeTuning but finalizers (`SameCores`). At its end it writes its status entries, and drops
the finalizer.
-/

namespace FrameOperator

open Versioned List NodeTuningNodeStatus

variable {t t' : Versioned NodeTuning NodeTuning.name} {c : NodeTuning} {p q : Pass} {env : NodeEnv} {listed : List Node}
  {node : Node} {owned : Bool} {entry : NodeTuningNodeStatus}

def NodeTuning.core (nt : NodeTuning) : NodeTuning := { nt with finalizers := [] }

def SameCores (t t' : Versioned NodeTuning NodeTuning.name) : Prop :=
  ∀ n, (t'.value? n).map NodeTuning.core = (t.value? n).map NodeTuning.core

theorem SameCores.refl (t : Versioned NodeTuning NodeTuning.name) : SameCores t t := fun _ => rfl

theorem SameCores.trans {t'' : Versioned NodeTuning NodeTuning.name} (h : SameCores t t') (h' : SameCores t' t'') :
    SameCores t t'' := fun n => (h' n).trans (h n)

theorem SameCores.symm (h : SameCores t t') : SameCores t' t :=
  fun n => (h n).symm

theorem SameCores.value? (h : SameCores t t') {n : String} {nt : NodeTuning} (hn : t.value? n = some nt) :
    ∃ nt', t'.value? n = some nt' ∧ nt'.generation = nt.generation ∧ nt'.status = nt.status ∧
      nt'.deletionTimestamp = nt.deletionTimestamp := by
  have hcore := h n
  rw [hn, Option.map_some, Option.map_eq_some_iff] at hcore
  obtain ⟨nt', hn', hc⟩ := hcore
  have h1 : nt'.core.generation = nt.core.generation := by rw [hc]
  have h2 : nt'.core.status = nt.core.status := by rw [hc]
  have h3 : nt'.core.deletionTimestamp = nt.core.deletionTimestamp := by rw [hc]
  exact ⟨nt', hn', h1, h2, h3⟩

def NewVersions (d : Option Time) (t t' : Versioned NodeTuning NodeTuning.name) : Prop :=
  ∀ v ∈ t'.past, v ∈ t.past ∨ v.val.deletionTimestamp = d

theorem Walk.update_cores (h : Walk c p) {fs : List String} {s' : Server} {nt' : Stamped NodeTuning}
    (hu : p.server.update (p.withFinalizers fs) = .ok (s', nt')) (hkeep : c.deletionTimestamp = none ∨ fs ≠ []) :
    SameCores p.server.tunings s'.tunings ∧ NewVersions c.deletionTimestamp p.server.tunings s'.tunings := by
  obtain ⟨-, ⟨gs, hgs⟩, hothers, hown⟩ := h.update_ok hu
  refine ⟨?_, ?_⟩
  · intro n
    by_cases hn : n = c.name
    · subst hn
      rcases hown with ⟨⟨hd, hnil⟩, -⟩ | ⟨hget, hval⟩
      · rcases hkeep with hk | hk
        · rw [hk] at hd; cases hd
        · exact absurd hnil hk
      · rw [hgs, value?_of_get? hget, hval]
        rfl
    · rw [hothers n hn]
  · obtain ⟨cur, hcur, hrev, -, hcases⟩ := Server.update_cases hu
    have hname : (p.withFinalizers fs).val.name = c.name := h.name
    rw [hname] at hcur
    have hupd : (p.withFinalizers fs).val.updated cur.val = { c with finalizers := fs } := (h.updated fs hcur hrev).2
    intro v hv
    have hv' : v ∈ (p.server.tunings.modify (p.withFinalizers fs).val.name (p.withFinalizers fs).val.updated
        (p.withFinalizers fs).val.name_updated).past := by
      rcases hcases with ⟨-, ht⟩ | ⟨-, -, ht⟩
      · rw [ht] at hv; exact hv
      · rw [ht] at hv; exact hv
    rcases past_modify hv' with hold | ⟨b, hb, rfl⟩
    · exact .inl hold
    rw [hname, hcur] at hb
    cases hb
    exact .inr (by rw [hupd])

theorem ensureFinalizer_cores {o : Outcome} {res : Except String Unit} (hw : Walk c p) (h : p.ensureFinalizer o = (q, res)) :
    SameCores p.server.tunings q.server.tunings ∧ NewVersions c.deletionTimestamp p.server.tunings q.server.tunings := by
  rcases ensureFinalizer_cases h with ⟨-, rfl, -⟩ | ⟨-, -, -, hq⟩ | ⟨-, -, s', nt', hu, rfl⟩
  · exact ⟨SameCores.refl _, fun v hv => .inl hv⟩
  · rw [hq]
    exact ⟨SameCores.refl _, fun v hv => .inl hv⟩
  · exact hw.update_cores hu (.inr (by simp))

/-- A turn changes nothing of a NodeTuning but finalizers. -/
theorem Turn.cores (hw : Walk c p) (h : Turn env listed node p owned entry q) :
    SameCores p.server.tunings q.server.tunings ∧ NewVersions c.deletionTimestamp p.server.tunings q.server.tunings := by
  cases h with
  | kept _ | died _ | driven _ _ _ _ => exact ⟨SameCores.refl _, fun v hv => .inl hv⟩
  | unfinalized _ hf _ | uncordoned _ hf _ => exact ensureFinalizer_cores hw hf
  | diedCordoning _ hf _ | cordoned _ hf _ _ => have h := ensureFinalizer_cores hw hf; exact h

/-- Only a crash ends a turn's pass. -/
theorem Turn.alive (h : Turn env listed node p owned entry q) (hf : env.finalizer ≠ .crash) (hp : env.patch ≠ .crash) :
    q.alive = p.alive := by
  have hensure : ∀ {q : Pass} {res : Except String Unit}, p.ensureFinalizer env.finalizer = (q, res) → q.alive = p.alive := by
    intro q res h
    rcases ensureFinalizer_cases h with ⟨-, rfl, -⟩ | ⟨-, -, hq | ho, -⟩ | ⟨-, -, s', nt', -, rfl⟩
    · rfl
    · exact hq
    · exact absurd ho hf
    · rfl
  cases h with
  | kept _ => rfl
  | died h => exact absurd h hp
  | driven _ _ _ _ => rfl
  | unfinalized _ hq _ | uncordoned _ hq _ => exact hensure hq
  | diedCordoning _ _ h => exact absurd h hp
  | cordoned _ hq _ _ => have h := hensure hq; exact h

theorem Turn.newNodes (hw : Walk c p) (h : Turn env listed node p owned entry q) :
    q.newNodes = p.newNodes ∧ q.ownsNode = p.ownsNode := by
  cases h with
  | kept | died | driven => exact ⟨rfl, rfl⟩
  | unfinalized _ hf _ | uncordoned _ hf _ | diedCordoning _ hf _
  | cordoned _ hf _ _ => exact ⟨(ensureFinalizer_walk hw hf).2.newNodes, (ensureFinalizer_walk hw hf).2.ownsNode⟩

variable {copy : Stamped NodeTuning}

theorem loop_cores {r : NodeTuningReconciler} (env : PassEnv) {s : Server} (all : List NodeTuning)
    {work : List Node} (hcopy : copy ∈ s.tunings.past) (hwork : r.workOf s.nodes.items copy.val = .ok work)
    (hpast : ∀ v ∈ s.tunings.past, v.val.deletionTimestamp = none) :
    let p := work.foldl (r.reconcileNode env s.nodes.items all) (NodeTuningReconciler.begin_ s copy)
    SameCores s.tunings p.server.tunings ∧ (∀ v ∈ p.server.tunings.past, v.val.deletionTimestamp = none) ∧
      Walk copy.val p := by
  obtain ⟨hnodup, hsub, -⟩ := workOf_ok s.nodes.nodup hwork
  refine loop_induct (c := copy.val) (I := fun _ p => SameCores s.tunings p.server.tunings ∧
    (∀ v ∈ p.server.tunings.past, v.val.deletionTimestamp = none) ∧ Walk copy.val p) (fun _ _ _ _ h => h) ?_ work _
    (walk_begin hcopy) hnodup (fun m hm => Keyed.get?_of_mem (hsub m hm)) ⟨SameCores.refl _, hpast, walk_begin hcopy⟩
  rintro node rest p owned entry q - hw - - ⟨hcores, hp, -⟩ ht
  obtain ⟨hcores', hversions⟩ := ht.cores hw
  refine ⟨hcores.trans hcores', ?_, (ht.walk hw).note _ _⟩
  intro v hv
  rcases hversions v hv with hv | hv
  · exact hp v hv
  · rw [hv]
    exact hpast copy hcopy

theorem finishPass_tunings (env : PassEnv) (hpast : ∀ v ∈ p.server.tunings.past, v.val.deletionTimestamp = none) :
    let q := (NodeTuningReconciler.finishPass env p).1
    (∀ v ∈ q.server.tunings.past, v.val.deletionTimestamp = none) ∧
      (q.server = p.server ∨ ∃ s' nt',
        p.server.patchStatus p.nt.val.name p.nt.val.generation p.entries = .ok (s', nt') ∧
          SameCores s'.tunings q.server.tunings) := by
  intro q
  obtain ⟨-, ⟨hs, -⟩ | ⟨s', nt', -, hpatch, hfinal⟩⟩ := finishPass_cases env p
  · exact ⟨by rw [hs]; exact hpast, .inl hs⟩
  · obtain ⟨-, hget, ht⟩ := Server.patchStatus_cases hpatch
    have hpast' : ∀ v ∈ s'.tunings.past, v.val.deletionTimestamp = none := by
      intro v hv
      rw [ht] at hv
      rcases past_modify hv with hv | ⟨b, hb, rfl⟩
      · exact hpast v hv
      · exact hpast b (past_of_get? hb).1
    rcases hfinal with hs | ⟨-, s'', nt'', hu, hs⟩
    · exact ⟨by rw [hs]; exact hpast', .inr ⟨s', nt', hpatch, by rw [hs]; exact SameCores.refl _⟩⟩
    have hnt' := (past_of_get? hget).1
    have hw' : Walk nt'.val { p with server := s', nt := nt' } :=
      ⟨⟨nt'.val.finalizers, rfl⟩, ⟨nt', hnt', rfl, nt'.val.finalizers, rfl⟩⟩
    obtain ⟨hcores, hversions⟩ := hw'.update_cores hu (.inl (hpast' nt' hnt'))
    refine ⟨?_, .inr ⟨s', nt', hpatch, by rw [hs]; exact hcores⟩⟩
    intro v hv
    rw [hs] at hv
    rcases hversions v hv with hv | hv
    · exact hpast' v hv
    · rw [hv]
      exact hpast' nt' hnt'

theorem generation_pass (r : NodeTuningReconciler) (env : PassEnv) {s : Server}
    (hcopy : copy ∈ s.tunings.past) (hpast : ∀ v ∈ s.tunings.past, v.val.deletionTimestamp = none) :
    (∀ n nt, s.tunings.value? n = some nt → ∃ nt', (r.reconcile env s copy).1.server.tunings.value? n = some nt' ∧
      nt'.generation = nt.generation) ∧
      ∀ v ∈ (r.reconcile env s copy).1.server.tunings.past, v.val.deletionTimestamp = none := by
  have hofcores : ∀ {t : Versioned NodeTuning NodeTuning.name}, SameCores s.tunings t →
      ∀ n nt, s.tunings.value? n = some nt → ∃ nt', t.value? n = some nt' ∧ nt'.generation = nt.generation := by
    intro t hcores n nt hnt
    obtain ⟨nt', hnt', hgen, -⟩ := hcores.value? hnt
    exact ⟨nt', hnt', hgen⟩
  rcases reconcile_cases r env s copy with ⟨hs, -⟩ | ⟨hd, -⟩ | ⟨-, work, all, hwork, -, hend⟩
  · rw [hs]
    exact ⟨hofcores (SameCores.refl _), hpast⟩
  · rw [hpast copy hcopy] at hd
    cases hd
  obtain ⟨hcores, hpast', -⟩ := loop_cores env all hcopy hwork hpast
  rcases hend with ⟨-, heq⟩ | ⟨-, heq⟩
  · rw [heq]
    exact ⟨hofcores hcores, hpast'⟩
  rw [heq]
  obtain ⟨hpast'', hs | ⟨s', nt', hpatch, hcores'⟩⟩ := finishPass_tunings env hpast'
  · exact ⟨by rw [hs]; exact hofcores hcores, hpast''⟩
  · refine ⟨?_, hpast''⟩
    intro n nt hnt
    obtain ⟨nt₁, hnt₁, hgen₁⟩ := hofcores hcores n nt hnt
    have hvalue := Server.value?_patchStatus hpatch n
    rw [hnt₁] at hvalue
    have hwritten : ∃ nt₂, s'.tunings.value? n = some nt₂ ∧ nt₂.generation = nt₁.generation := by
      rw [hvalue]
      split
      · exact ⟨_, rfl, rfl⟩
      · exact ⟨_, rfl, rfl⟩
    obtain ⟨nt₂, hnt₂, hgen₂⟩ := hwritten
    obtain ⟨nt₃, hnt₃, hgen₃, -⟩ := hcores'.value? hnt₂
    exact ⟨nt₃, hnt₃, hgen₃.trans (hgen₂.trans hgen₁)⟩

/-! ## The entries a pass writes -/

def RecordedAt (nt : NodeTuning) (generation : Nat) (x : String) : Prop :=
  restartedForGeneration (existingNodeStatus nt.status.nodes x) generation = true
deriving Decidable

variable {e : NodeTuningNodeStatus}

theorem existingNodeStatus_of_mem {nodes : List NodeTuningNodeStatus} (hnodup : (nodes.map name).Nodup)
    (he : e ∈ nodes) : existingNodeStatus nodes e.name = e := by
  unfold existingNodeStatus
  cases hf : nodes.find? (fun n => n.name == e.name) with
  | none =>
    have := find?_eq_none.mp hf e he
    simp at this
  | some e' =>
    have hname := find?_some hf
    simp only [beq_iff_eq] at hname
    rw [Option.getD_some]
    exact inj_on_of_nodup_map hnodup (mem_of_find?_eq_some hf) he hname

theorem name_existingNodeStatus (nodes : List NodeTuningNodeStatus) (x : String) : (existingNodeStatus nodes x).name = x := by
  unfold existingNodeStatus
  cases hf : nodes.find? (fun n => n.name == x) with
  | none => rfl
  | some e =>
    have hname := find?_some hf
    simp only [beq_iff_eq] at hname
    exact hname

theorem realizeNode_keeps (pods : Except String (List Pod)) (ns : NodeTuningNodeStatus) : Carries ns (realizeNode pods ns) := by
  unfold realizeNode
  split
  · exact ⟨rfl, rfl, rfl, rfl⟩
  split
  · exact ⟨rfl, rfl, rfl, rfl⟩
  split
  · exact ⟨rfl, rfl, rfl, rfl⟩
  · exact ⟨rfl, rfl, rfl, rfl⟩

theorem Carries.restarted {a b : NodeTuningNodeStatus} (h : Carries a b) (generation : Nat) :
    restartedForGeneration b generation = restartedForGeneration a generation := by
  simp [restartedForGeneration, h.restartedAt, h.restartedGeneration]

theorem recordedAt_withComputed {generation g : Nat} (hnodup : (p.newNodes.map name).Nodup)
    (he : e ∈ p.newNodes) (hrec : restartedForGeneration e g = true) (fresh : NodeTuning) :
    RecordedAt (fresh.withComputed generation (p.entries.map wire)) g e.name := by
  have hperm : p.entries.Perm p.newNodes := perm_insertionSort _ _
  -- the entry as it is written: sorted into the list, over the wire, with the observation of the server
  let stored : NodeTuningNodeStatus :=
    { e.wire with observed := (observedOf fresh.status.nodes e.wire.name).getD e.wire.observed }
  have hmem : stored ∈ (fresh.withComputed generation (p.entries.map wire)).status.nodes := by
    refine mem_map.mpr ⟨e.wire, mem_map.mpr ⟨e, hperm.mem_iff.mpr he, rfl⟩, rfl⟩
  have hnames : ((fresh.withComputed generation (p.entries.map wire)).status.nodes.map
      name).Nodup := by
    have hmap : (fresh.withComputed generation (p.entries.map wire)).status.nodes.map
        name = p.entries.map name := by
      simp [NodeTuning.withComputed, preserveObserved, Function.comp_def, wire]
    rw [hmap]
    exact (hperm.map name).nodup_iff.mpr hnodup
  have hfound := existingNodeStatus_of_mem hnames hmem
  have hname : stored.name = e.name := rfl
  rw [hname] at hfound
  rw [RecordedAt, hfound]
  simpa [restartedForGeneration, stored, wire] using hrec

end FrameOperator
