import FrameOperator.Theorems.OneRestart

/-!
# The finalizer guards every cordon

The finalizer is put on a NodeTuning before a node is cordoned, but the pass looks for it on its own copy: a pass whose update fails
for one node cordons the next one unguarded (`cordon_unguarded`). `FinalizerKept` is what a pass must meet.
-/

namespace FrameOperator

open Keyed Versioned Option NodeTuningReconciler List

variable {s s' : Server} {node : Node} {entry : NodeTuningNodeStatus} {c : NodeTuning} {p q : Pass} {res : Except String Unit}
  {env : PassEnv} {rest : List Node}

/-- The NodeTuning exists and has the finalizer. -/
def guarded (s : Server) (tuning : String) : Bool :=
  (s.tunings.value? tuning).any fun nt => nt.finalizers.contains nodeTuningFinalizer

/-- Every node in flight that names an owner names a NodeTuning that has the finalizer. -/
def FinalizerInv (s : Server) : Prop :=
  ∀ m ∈ s.nodes.items, rolloutInFlight m = true → ∀ v ∈ m.annotations .rolloutOwner, guarded s v.raw = true
deriving Decidable

/-- A node that may be started: not in flight, and approved for the generation. -/
def candidate (c : NodeTuning) (m : Node) : Bool := !rolloutInFlight m && approvedForGeneration m c.generation

/-- A pass starts no rollout, or the live object has the finalizer, or the copy lacks it and no second node profits. -/
def FinalizerKept (s : Server) (copy : Stamped NodeTuning) (env : PassEnv) : Prop :=
  copy.val.deletionTimestamp.isSome = true ∨ (∀ m ∈ s.nodes.items, candidate copy.val m = false) ∨
    guarded s copy.val.name = true ∨
    (nodeTuningFinalizer ∉ copy.val.finalizers ∧
      ((∀ m ∈ s.nodes.items, ∀ m' ∈ s.nodes.items, candidate copy.val m = true → candidate copy.val m' = true →
          m.name = m'.name) ∨
        (s.tunings.Current copy ∧ ∀ x, (env.node x).finalizer = .ok)))

/-- The condition on a step: every pass meets `FinalizerKept`. -/
def StepKeepsFinalizer (s : Server) : Action → Prop
  | .pass version env => ∀ copy, s.tunings.past[version]? = some copy → FinalizerKept s copy env
  | _ => True

/-! ## Changes of the NodeTunings -/

theorem guarded_iff (n : String) :
    guarded s n = true ↔ ∃ nt, s.tunings.value? n = some nt ∧ nodeTuningFinalizer ∈ nt.finalizers := by
  unfold guarded
  cases s.tunings.value? n with
  | none | some => simp

theorem FinalizerInv.of_guarded (h : FinalizerInv s) (hnodes : s'.nodes = s.nodes)
    (hg : ∀ m ∈ s.nodes.items, rolloutInFlight m = true → ∀ v ∈ m.annotations .rolloutOwner, guarded s v.raw = true →
      guarded s' v.raw = true) : FinalizerInv s' := by
  intro m hm hf v hv
  rw [hnodes] at hm
  exact hg m hm hf v hv (h m hm hf v hv)

/-- A write of a Node keeps cordons guarded. -/
theorem FinalizerInv.patchNode {op : NodeOp} (h : FinalizerInv s) (hn : s.nodes.get? node.name = some node)
    (hop : op.leavesInFlight node = true → ∀ v ∈ op.leavesOwner node, guarded s v.raw = true) :
    FinalizerInv (s.patchNode node op) := by
  intro m hm hf v hv
  rcases Server.mem_patchNode hn hm with rfl | ⟨hm, -⟩
  · rw [rolloutInFlight_mutate] at hf
    rw [owner_mutate] at hv
    exact hop hf v hv
  · exact h m hm hf v hv

theorem Drives.finalizer {now : Time} {generation : Nat} {ns : NodeTuningNodeStatus} {op : NodeOp}
    {failed : String → NodeTuningNodeStatus} (h : Drives now generation node ns (.patch op entry failed)) (hs : FinalizerInv s)
    (hn : s.nodes.get? node.name = some node) :
    op.leavesInFlight node = true → ∀ v ∈ op.leavesOwner node, guarded s v.raw = true := by
  intro hf v hv
  cases h with
  | fail | request => exact hs node (mem_of_get? hn) hf v hv
  | verify unit _ _ _ _ _ => simp [NodeOp.leavesInFlight] at hf

/-- A finalizer that was added guards. -/
theorem ensureFinalizer_finalizer {o : Outcome} (hw : Walk c p)
    (h : p.ensureFinalizer o = (q, res)) (hs : FinalizerInv p.server) :
    FinalizerInv q.server ∧ (guarded p.server c.name = true → guarded q.server c.name = true) ∧
      (nodeTuningFinalizer ∉ p.nt.val.finalizers → res = .ok () → guarded q.server c.name = true) := by
  rcases ensureFinalizer_cases h with ⟨hf, rfl, -⟩ | ⟨-, ⟨e, he⟩, -, hq⟩ | ⟨-, -, s', nt', hu, rfl⟩
  · exact ⟨hs, fun hg => hg, fun hnf => absurd hf hnf⟩
  · rw [hq]
    exact ⟨hs, fun hg => hg, fun _ hres => by rw [he] at hres; cases hres⟩
  obtain ⟨hnodes, -, hothers, hown⟩ := hw.update_ok hu
  have hguarded : guarded s' c.name = true := by
    rcases hown with ⟨⟨-, hnil⟩, -⟩ | ⟨hget, hval⟩
    · simp at hnil
    · rw [guarded_iff]
      exact ⟨nt'.val, value?_of_get? hget, by rw [hval]; simp⟩
  refine ⟨hs.of_guarded hnodes ?_, fun _ => hguarded, fun _ _ => hguarded⟩
  intro m _ _ v _ hg
  by_cases hn : v.raw = c.name
  · rw [hn]
    exact hguarded
  · rw [guarded, hothers _ hn]
    exact hg

/-! ## The loop -/

/-- No cordon to come can be unguarded. -/
def Covered (c : NodeTuning) (env : PassEnv) (rest : List Node) (p : Pass) : Prop :=
  guarded p.server c.name = true ∨ (∀ m ∈ rest, candidate c m = false) ∨
    (nodeTuningFinalizer ∉ p.nt.val.finalizers ∧
      ((∀ m ∈ rest, ∀ m' ∈ rest, candidate c m = true → candidate c m' = true → m.name = m'.name) ∨
        (p.server.tunings.Current p.nt ∧ ∀ x, (env.node x).finalizer = .ok)))

def Counts (c : NodeTuning) (rest : List Node) (p : Pass) : Prop :=
  p.ownsNode = true ∨ ∀ m ∈ p.server.nodes.items, rolloutOwnedBy m c.name = true → m.name ∈ rest.map Node.name

structure Guarding (c : NodeTuning) (env : PassEnv) (rest : List Node) (p : Pass) : Prop where
  inv : FinalizerInv p.server
  log : ∀ e ∈ p.log, FinalizerInv e.before
  covered : Covered c env rest p
  counts : p.alive = true → Counts c rest p

theorem Covered.tail (h : Covered c env (node :: rest) p) : Covered c env rest p := by
  rcases h with h | h | ⟨hnf, h | h⟩
  · exact .inl h
  · exact .inr (.inl fun m hm => h m (mem_cons_of_mem _ hm))
  · exact .inr (.inr ⟨hnf, .inl fun m hm m' hm' =>
      h m (mem_cons_of_mem _ hm) m' (mem_cons_of_mem _ hm')⟩)
  · exact .inr (.inr ⟨hnf, .inr h⟩)

theorem update_of_current (h : p.server.tunings.Current p.nt) (fs : List String) :
    ∃ res, p.server.update (p.withFinalizers fs) = .ok res := by
  obtain ⟨cur, hcur, hrev⟩ := h
  have hname : (p.withFinalizers fs).val.name = p.nt.val.name := rfl
  unfold Server.update
  rw [hname, hcur]
  simp only
  rw [if_neg (by simpa [Pass.withFinalizers] using hrev)]
  split
  · exact ⟨_, rfl⟩
  · exact ⟨_, rfl⟩

/-- A start is covered, and so is the rest. -/
theorem covered_start (hw : Walk c p) (hs : FinalizerInv p.server) (hnode : candidate c node = true)
    (hrest : node.name ∉ rest.map Node.name)
    (hc : Covered c env (node :: rest) p) (h : p.ensureFinalizer (env.node node.name).finalizer = (q, res)) :
    Covered c env rest q ∧ (res = .ok () → guarded q.server c.name = true) := by
  obtain ⟨-, hmono, hnew⟩ := ensureFinalizer_finalizer hw h hs
  rcases hc with hg | hnone | ⟨hnf, hcases⟩
  · exact ⟨.inl (hmono hg), fun _ => hmono hg⟩
  · rw [hnone node mem_cons_self] at hnode
    cases hnode
  refine ⟨?_, hnew hnf⟩
  rcases ensureFinalizer_cases h with ⟨hf, -, -⟩ | ⟨-, ⟨e, he⟩, -, hq⟩ | ⟨-, hres, -⟩
  · exact absurd hf hnf
  · rcases hcases with hone | ⟨hcur, hok⟩
    · refine .inr (.inl fun m hm => ?_)
      by_contra hcand
      have hname := hone m (mem_cons_of_mem _ hm) node mem_cons_self (by simpa using hcand) hnode
      exact hrest (hname ▸ mem_map_of_mem hm)
    · -- the update cannot have failed
      obtain ⟨⟨s', nt'⟩, hu⟩ := update_of_current hcur (p.nt.val.finalizers ++ [nodeTuningFinalizer])
      rw [hok node.name] at h
      have hokres : (p.ensureFinalizer .ok).2 = .ok () := by
        unfold Pass.ensureFinalizer
        rw [if_neg (by simpa using hnf)]
        unfold Pass.withFinalizers at hu
        simp only [hu]
      rw [h, he] at hokres
      cases hokres
  · exact .inl (hnew hnf hres)

theorem counts_note {owned : Bool} (hn : p.server.nodes.get? node.name = some node) (hnodes : q.server.nodes = p.server.nodes)
    (howns : q.ownsNode = p.ownsNode) (howned : rolloutOwnedBy node c.name = true → owned = true)
    (h : Counts c (node :: rest) p) : Counts c rest (q.note owned entry) := by
  rcases h with h | h
  · exact .inl (by simp [Pass.note, howns, h])
  by_cases ho : owned = true
  · exact .inl (by simp [Pass.note, ho])
  refine .inr fun m hm hown => ?_
  have hm' : m ∈ p.server.nodes.items := by rw [← hnodes]; exact hm
  rcases mem_cons.mp (h m hm' hown) with hname | hrest
  · have hmn : m = node := by
      have hg := get?_of_mem hm'
      rw [hname, hn] at hg
      exact (some.inj hg).symm
    exact absurd (howned (hmn ▸ hown)) ho
  · exact hrest

theorem guarding_turn {listed : List Node} {owned : Bool} {entry' : NodeTuningNodeStatus} (ha : p.alive = true) (hw : Walk c p)
    (hn : p.server.nodes.get? node.name = some node) (hrest : node.name ∉ rest.map Node.name)
    (h : Guarding c env (node :: rest) p) (ht : Turn (env.node node.name) listed node p owned entry q) :
    Guarding c env rest (q.note owned entry') := by
  have hcand : ∀ {ns}, Starts p.lock listed p.nt.val node ns → candidate c node = true := by
    intro ns hstarts
    have happroved := hstarts.approved
    rw [hw.generation] at happroved
    simp [candidate, hstarts.free, happroved]
  have hunowned : ∀ {ns}, Starts p.lock listed p.nt.val node ns → rolloutOwnedBy node c.name = true → owned = true := by
    intro ns hstarts ho
    rw [rolloutOwnedBy, hstarts.free] at ho
    cases ho
  cases ht with
  | kept _ => exact ⟨h.inv, h.log, h.covered.tail, fun _ => counts_note hn rfl rfl (fun ho => by rw [hw.name]; exact ho) (h.counts ha)⟩
  | died _ => exact ⟨h.inv, h.log, h.covered.tail, fun h => by cases h⟩
  | driven howned _ hd _ =>
    exact ⟨h.inv.patchNode hn (hd.finalizer h.inv hn), forall_mem_snoc h.log h.inv, h.covered.tail,
      fun _ => .inl (by simp [Pass.note])⟩
  | unfinalized hstarts hf _ | uncordoned hstarts hf _ =>
    have hsame := (ensureFinalizer_walk hw hf).2
    exact ⟨(ensureFinalizer_finalizer hw hf h.inv).1, by simpa [hsame.log] using h.log,
      (covered_start hw h.inv (hcand hstarts) hrest h.covered hf).1,
      fun _ => counts_note hn hsame.nodes hsame.ownsNode (hunowned hstarts) (h.counts ha)⟩
  | diedCordoning hstarts hf _ =>
    have hsame := (ensureFinalizer_walk hw hf).2
    have hinv := (ensureFinalizer_finalizer hw hf h.inv).1
    have hcov := (covered_start hw h.inv (hcand hstarts) hrest h.covered hf).1
    exact ⟨hinv, by simpa [hsame.log] using h.log, hcov, fun h => by cases h⟩
  | @cordoned _ p₁ hstarts hf _ _ =>
    have hsame := (ensureFinalizer_walk hw hf).2
    have hw₁ := (ensureFinalizer_walk hw hf).1
    have hinv := (ensureFinalizer_finalizer hw hf h.inv).1
    obtain ⟨hcov, hguarded⟩ := covered_start hw h.inv (hcand hstarts) hrest h.covered hf
    refine ⟨hinv.patchNode (by rw [hsame.nodes]; exact hn) ?_, ?_, hcov, fun _ => .inl (by simp [Pass.note])⟩
    · intro _ v hv
      have hv' : v = .text p₁.nt.val.name := (some.inj hv).symm
      rw [hv', AnnValue.raw, hw₁.name]
      exact hguarded rfl
    · exact forall_mem_snoc (hsame.log ▸ h.log) hinv

/-! ## A whole pass -/

theorem FinalizerInv.update {fs : List String} {nt' : Stamped NodeTuning}
    (h : FinalizerInv p.server) (hw : Walk c p) (hu : p.server.update (p.withFinalizers fs) = .ok (s', nt'))
    (hfree : ∀ m ∈ p.server.nodes.items, rolloutOwnedBy m c.name = false) : FinalizerInv s' := by
  obtain ⟨hnodes, -, hothers, -⟩ := hw.update_ok hu
  refine h.of_guarded hnodes ?_
  intro m hm hf v hv hg
  have hne : v.raw ≠ c.name := by
    intro heq
    have howned : rolloutOwnedBy m c.name = true := by
      rw [rolloutOwnedBy_iff, Annotations.raw, mem_def.mp hv]
      exact ⟨hf, heq⟩
    rw [hfree m hm] at howned
    cases howned
  rw [guarded, hothers _ hne]
  exact hg

theorem FinalizerInv.patchStatus {name : String} {generation : Nat} {nodes : List NodeTuningNodeStatus}
    {nt : Stamped NodeTuning} (h : FinalizerInv s) (hp : s.patchStatus name generation nodes = .ok (s', nt)) :
    FinalizerInv s' := by
  refine h.of_guarded (Server.patchStatus_cases hp).1 ?_
  intro m _ _ v _ hg
  rw [guarded_iff] at hg ⊢
  obtain ⟨nt, hnt, hfin⟩ := hg
  rw [Server.value?_patchStatus hp, hnt]
  split
  · exact ⟨_, rfl, hfin⟩
  · exact ⟨_, rfl, hfin⟩

theorem Guarding.finishPass (hw : Walk c p) (ha : p.alive = true)
    (h : Guarding c env [] p) : FinalizerInv (finishPass env p).1.server := by
  obtain ⟨-, ⟨hs, -⟩ | ⟨s', nt', -, hpatch, hfinal⟩⟩ := finishPass_cases env p
  · rw [hs]
    exact h.inv
  · have hinv := h.inv.patchStatus hpatch
    rcases hfinal with hs | ⟨howns, s'', nt'', hu, hs⟩
    · rw [hs]
      exact hinv
    rw [hs]
    obtain ⟨hnodes, hget, -⟩ := Server.patchStatus_cases hpatch
    obtain ⟨hpast, hname⟩ := past_of_get? hget
    have hw' : Walk nt'.val { p with server := s', nt := nt' } :=
      ⟨⟨nt'.val.finalizers, rfl⟩, ⟨nt', hpast, rfl, nt'.val.finalizers, rfl⟩⟩
    refine FinalizerInv.update (p := { p with server := s', nt := nt' }) hinv hw' hu ?_
    intro m hm
    rcases h.counts ha with hcount | hcount
    · rw [howns] at hcount
      cases hcount
    by_contra ho
    have hm' : m ∈ p.server.nodes.items := by rw [← hnodes]; exact hm
    have hin := hcount m hm' (by rw [← hw.name, ← hname]; simpa using ho)
    cases hin

/-- As long as nothing failed, the nodes still owned are among those to come. -/
structure Releasing (c : NodeTuning) (rest : List Node) (p : Pass) (res : Except String Unit) : Prop where
  walk : Walk c p
  inv : FinalizerInv p.server
  log : ∀ e ∈ p.log, FinalizerInv e.before
  left : res = .ok () → ∀ m ∈ p.server.nodes.items, rolloutOwnedBy m c.name = true → m.name ∈ rest.map Node.name

theorem releasing_turn {env : NodeEnv} {listed : List Node} (hn : p.server.nodes.get? node.name = some node)
    (h : Releasing c (node :: rest) p (.ok ())) (hr : Release env listed node p q res) : Releasing c rest q res := by
  cases hr with
  | skipped ho =>
    refine ⟨h.walk, h.inv, h.log, fun _ m hm hown => ?_⟩
    rcases mem_cons.mp (h.left rfl m hm hown) with hname | hrest
    · have hmn : m = node := by
        have hg := get?_of_mem hm
        rw [hname, hn] at hg
        exact (some.inj hg).symm
      rw [hmn, ← h.walk.name, ho] at hown
      cases hown
    · exact hrest
  | released ho _ =>
    refine ⟨h.walk.commit _ _ _ _, h.inv.patchNode hn (fun hf => by simp [NodeOp.leavesInFlight] at hf), ?_, ?_⟩
    · exact forall_mem_snoc h.log h.inv
    · intro _ m hm hown
      rcases Server.mem_patchNode hn hm with rfl | ⟨hm, hne⟩
      · rw [rolloutOwnedBy, rolloutInFlight_mutate] at hown
        simp [NodeOp.leavesInFlight] at hown
      rcases mem_cons.mp (h.left rfl m hm hown) with hname | hrest
      · exact absurd hname hne
      · exact hrest
  | failed => exact ⟨h.walk, h.inv, h.log, fun h => by cases h⟩
  | died => exact ⟨⟨h.walk.copy, h.walk.version⟩, h.inv, h.log, fun h => by cases h⟩

variable {copy : Stamped NodeTuning}

theorem finalizer_deletion (hcopy : copy ∈ s.tunings.past) (h : FinalizerInv s) :
    FinalizerInv (finishDeletion env s.nodes.items (begin_ s copy)).1.server ∧
      ∀ e ∈ (finishDeletion env s.nodes.items (begin_ s copy)).1.log,
        FinalizerInv e.before := by
  have hbegin : Releasing copy.val s.nodes.items (begin_ s copy) (.ok ()) :=
    ⟨walk_begin hcopy, h, by simp [begin_], fun _ m hm _ => mem_map_of_mem hm⟩
  have hloop : Releasing copy.val []
      (s.nodes.items.foldl (releaseOwned env s.nodes.items)
        (begin_ s copy, .ok ())).1
      (s.nodes.items.foldl (releaseOwned env s.nodes.items)
        (begin_ s copy, .ok ())).2 := by
    refine release_induct (I := Releasing copy.val) ?_ ?_ s.nodes.items _ _ (walk_begin hcopy) s.nodes.nodup
      (fun m hm => get?_of_mem hm) hbegin
    · intro node rest p e hp
      exact ⟨hp.walk, hp.inv, hp.log, fun h => by cases h⟩
    · intro node rest p q res _ hn _ hp hr
      exact releasing_turn hn hp hr
  unfold finishDeletion
  cases hfold : s.nodes.items.foldl (releaseOwned env s.nodes.items)
      (begin_ s copy, .ok ()) with
  | mk q res =>
    rw [hfold] at hloop
    cases res with
    | error e => exact ⟨hloop.inv, hloop.log⟩
    | ok u =>
      obtain ⟨hlog', hserver⟩ := removeFinalizer_cases q env.dropFinalizer
      refine ⟨?_, by simpa only [hlog'] using hloop.log⟩
      rcases hserver with hs | ⟨s', nt', hu, hs⟩
      · simp only [hs]
        exact hloop.inv
      simp only [hs]
      refine hloop.inv.update hloop.walk hu ?_
      intro m hm
      by_contra ho
      have hin := hloop.left rfl m hm (by simpa using ho)
      cases hin

theorem finalizer_pass (r : NodeTuningReconciler) (env : PassEnv)
    (hcopy : copy ∈ s.tunings.past) (hok : FinalizerKept s copy env) (h : FinalizerInv s) :
    FinalizerInv (r.reconcile env s copy).1.server ∧ ∀ e ∈ (r.reconcile env s copy).1.log, FinalizerInv e.before := by
  rcases reconcile_cases r env s copy with ⟨hs, hlog⟩ | ⟨-, heq⟩ | ⟨hd, work, all, hwork, -, hend⟩
  · rw [hs, hlog]
    exact ⟨h, by simp⟩
  · rw [heq]
    exact finalizer_deletion hcopy h
  obtain ⟨hnodup, hsub, hadopted⟩ := workOf_ok s.nodes.nodup hwork
  generalize hp : work.foldl (r.reconcileNode env s.nodes.items all) (begin_ s copy) = p at hend
  have hcovered : Covered copy.val env work (begin_ s copy) := by
    rcases hok with hdel | hnone | hg | ⟨hnf, hone | hcur⟩
    · rw [hd] at hdel
      cases hdel
    · exact .inr (.inl fun m hm => hnone m (hsub m hm))
    · exact .inl hg
    · exact .inr (.inr ⟨hnf, .inl fun m hm m' hm' => hone m (hsub m hm) m' (hsub m' hm')⟩)
    · exact .inr (.inr ⟨hnf, .inr hcur⟩)
  have hloop : Guarding copy.val env [] p ∧ Walk copy.val p := by
    rw [← hp]
    refine loop_induct (c := copy.val) (I := fun rest p => Guarding copy.val env rest p ∧ Walk copy.val p) ?_ ?_ work _
      (walk_begin hcopy) hnodup (fun m hm => get?_of_mem (hsub m hm)) ⟨⟨h, ?_, hcovered, ?_⟩, walk_begin hcopy⟩
    · rintro node rest p ha ⟨hg, hw⟩
      exact ⟨⟨hg.inv, hg.log, hg.covered.tail, fun ha' => by rw [ha] at ha'; cases ha'⟩, hw⟩
    · rintro node rest p owned entry q ha hw hn hrest ⟨hg, -⟩ ht
      exact ⟨guarding_turn ha hw hn hrest hg ht, (ht.walk hw).note _ _⟩
    · simp [begin_]
    · exact fun _ => .inr fun m hm ho => mem_map_of_mem (hadopted m hm ho)
  obtain ⟨hg, hw⟩ := hloop
  rcases hend with ⟨-, heq⟩ | ⟨ha, heq⟩
  · rw [heq]
    exact ⟨hg.inv, hg.log⟩
  · rw [heq]
    exact ⟨hg.finishPass hw ha, by rw [(finishPass_cases env p).1]; exact hg.log⟩

/-! ## The other steps, and runs -/

theorem FinalizerInv.editTuning (h : FinalizerInv s) (name : String) (f : NodeTuning → NodeTuning)
    (hf : ∀ n, (f n).name = n.name) (hfin : ∀ n, (f n).finalizers = n.finalizers) : FinalizerInv (s.editTuning name f hf) := by
  refine h.of_guarded rfl ?_
  intro m _ _ v _ hg
  rw [guarded_iff] at hg ⊢
  obtain ⟨nt, hnt, hin⟩ := hg
  exact exists_value?_modify hnt hin (by rw [hfin]; exact hin)

/-- A delete keeps cordons guarded. -/
theorem FinalizerInv.delete (h : FinalizerInv s) (name : String) (now : Time) :
    FinalizerInv (s.delete name now) := by
  unfold Server.delete
  cases hv : s.tunings.value? name with
  | none => exact h
  | some nt =>
    simp only
    by_cases hempty : nt.finalizers.isEmpty = true
    · -- an object that owns a node in flight has its finalizer, so it is not gone at once
      rw [if_pos hempty]
      refine h.of_guarded rfl ?_
      intro m _ _ v _ hg
      rw [guarded_iff] at hg ⊢
      obtain ⟨nt', hnt', hin⟩ := hg
      refine ⟨nt', ?_, hin⟩
      rw [value?_remove, if_neg]
      · exact hnt'
      · intro heq
        rw [heq, hv] at hnt'
        cases hnt'
        rw [isEmpty_iff.mp hempty] at hin
        cases hin
    · rw [if_neg hempty]
      refine h.editTuning name _ _ ?_
      intro n
      unfold NodeTuning.deleting
      split <;> rfl

theorem finalizer_step (r : NodeTuningReconciler) {a : Action} (hok : StepKeepsFinalizer s a)
    (h : FinalizerInv s) : FinalizerInv (step r s a).1 ∧ ∀ e ∈ (step r s a).2, FinalizerInv e.before := by
  -- a step that changes only Nodes
  have hnodes : a.isPass = false → (step r s a).1.tunings = s.tunings →
      FinalizerInv (step r s a).1 ∧ ∀ e ∈ (step r s a).2, FinalizerInv e.before := by
    intro hp ht
    obtain ⟨hlog, hget⟩ := step_other r (s := s) hp
    refine ⟨?_, by simp [hlog]⟩
    intro m hm hf v hv
    have hg := get?_of_mem hm
    rw [hget] at hg
    obtain ⟨n, hn, rfl⟩ := map_eq_some_iff.mp hg
    rw [guarded, ht]
    refine h n (mem_of_get? hn) (inFlight_of_onNode hf) v ?_
    rcases annotations_onNode a n (k := .rolloutOwner) (by simp) (by simp) (by simp) with heq | ⟨hk, -⟩
    · rw [← heq]
      exact hv
    · cases hk
  cases a with
  | pass version env =>
    rcases step_pass r s version env with ⟨heq, -⟩ | ⟨copy, hcopy, hv, heq⟩
    · rw [heq]
      exact ⟨h, by simp⟩
    · rw [heq]
      exact finalizer_pass r env hcopy (hok copy hv) h
  | publish | setConditions | relabel | approve | clearStarted => exact hnodes rfl rfl
  | patchObserved | editSpec => exact ⟨h.editTuning _ _ _ (fun _ => rfl), by simp [step]⟩
  | delete tuning now => exact ⟨h.delete tuning now, by simp [step]⟩
  | create name finalizers spec =>
    refine ⟨h.of_guarded rfl ?_, by simp [step]⟩
    intro m _ _ v _ hg
    rw [guarded_iff] at hg ⊢
    obtain ⟨nt, hnt, hin⟩ := hg
    exact ⟨nt, value?_create_of_some hnt, hin⟩

/-- In every run whose passes meet `FinalizerKept`, the finalizer guards every cordon, before every write of a Node. -/
theorem finalizer_guards_every_cordon (r : NodeTuningReconciler) (s : Server) (h : FinalizerInv s) (actions : List Action)
    (hok : Meets (step r) StepKeepsFinalizer s actions) :
    (FinalizerInv (run (step r) s actions).1 ∧ ∀ e ∈ (run (step r) s actions).2, FinalizerInv e.before) ∧
      ∀ n, (run (step r) s actions).1.tunings.value? n = none → ∀ m ∈ (run (step r) s actions).1.nodes.items,
        rolloutInFlight m = true → ∀ v ∈ m.annotations .rolloutOwner, v.raw ≠ n := by
  have hrun : FinalizerInv (run (step r) s actions).1 ∧ ∀ e ∈ (run (step r) s actions).2, FinalizerInv e.before := by
    refine run_induct (I := fun s l => FinalizerInv s ∧ ∀ e ∈ l, FinalizerInv e.before) ⟨h, by simp⟩ ?_ actions hok
    rintro s l a ⟨hs, hl⟩ ha
    obtain ⟨hs', hl'⟩ := finalizer_step r ha hs
    exact ⟨hs', forall_mem_append.mpr ⟨hl, hl'⟩⟩
  refine ⟨hrun, ?_⟩
  intro n hn m hm hf v hv heq
  have hg := hrun.1 m hm hf v hv
  rw [guarded, heq, hn] at hg
  cases hg

/-! ## A run under the condition, and one that is not -/

namespace TuningFixture

def unfinalizedEnv (now : Time) : PassEnv :=
  { passEnv now with
    node := fun x => if x = "a" then { nodeEnv now with finalizer := .err "etcdserver: request timed out" } else nodeEnv now }

end TuningFixture

theorem stepKeepsFinalizer_of_guarded {version : Nat} (h : (s.tunings.past[version]?).all (fun c => guarded s c.val.name) = true) :
    StepKeepsFinalizer s (.pass version env) := by
  intro copy hcopy
  rw [hcopy, all_some] at h
  exact .inr (.inr (.inl h))

theorem stepKeepsFinalizer_of_current {version : Nat} (h : (s.tunings.past[version]?).all
      (fun c => decide (nodeTuningFinalizer ∉ c.val.finalizers) && decide (s.tunings.Current c)) = true)
    (henv : ∀ x, (env.node x).finalizer = .ok) : StepKeepsFinalizer s (.pass version env) := by
  intro copy hcopy
  rw [hcopy, all_some, Bool.and_eq_true, decide_eq_true_eq, decide_eq_true_eq] at h
  exact .inr (.inr (.inr ⟨h.1, .inr ⟨h.2, henv⟩⟩))

set_option maxRecDepth 4000

open TuningFixture in
/-- A worker is cordoned behind the finalizer, its NodeTuning is deleted, and the next pass releases the worker and lets go. -/
theorem finalizer_guards_every_cordon_deleted :
    FinalizerInv server ∧
      (run (step reconciler) server
        [.pass 0 (passEnv 2000), .delete "t" 3000, .pass 3 (passEnv 4000)]).2.map Event.op =
          [.cordon 2000 "t", .release] ∧
      FinalizerInv (run (step reconciler) server
        [.pass 0 (passEnv 2000), .delete "t" 3000, .pass 3 (passEnv 4000)]).1 :=
  ⟨by decide, by decide,
    (finalizer_guards_every_cordon reconciler server (by decide)
      [.pass 0 (passEnv 2000), .delete "t" 3000, .pass 3 (passEnv 4000)]
      ⟨stepKeepsFinalizer_of_current (by decide) (fun _ => rfl), trivial,
        stepKeepsFinalizer_of_guarded (by decide), trivial⟩).1.1⟩

open TuningFixture in
/-- The finalizer cannot be added for the first worker, and the same pass cordons the second one without it. -/
theorem cordon_unguarded :
    FinalizerInv server ∧
      (step reconciler server (.pass 0 (unfinalizedEnv 2000))).2.map
        (fun e => (e.op, e.node.name)) = [(.cordon 2000 "t", "b")] ∧
      ¬FinalizerInv (step reconciler server (.pass 0 (unfinalizedEnv 2000))).1 ∧
      let after := (run (step reconciler) server
        [.pass 0 (unfinalizedEnv 2000), .delete "t" 3000]).1
      after.tunings.value? "t" = none ∧
        (after.nodes.get? "b").map (fun n => (n.unschedulable, rolloutOwnedBy n "t")) = some (true, true) := by
  decide

end FrameOperator
