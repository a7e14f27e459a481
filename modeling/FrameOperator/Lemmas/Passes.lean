import FrameOperator.Lemmas.Turn

/-!
# Induction over a pass

The two loops over the nodes (`loop_induct`, `release_induct`) and the end of a pass (`finishPass_cases`), put together for a whole
pass (`reconcile_cases`).
-/

namespace FrameOperator

open Server NodeTuningReconciler List

variable {c : NodeTuning} {p q : Pass} {env : NodeEnv} {listed : List Node} {node : Node} {name : String}
  {r : NodeTuningReconciler} {s : Server}

/-! ## What a turn leaves alone -/

@[simp] theorem Pass.server_note (owned : Bool) (entry : NodeTuningNodeStatus) :
    (p.note owned entry).server = p.server := rfl

@[simp] theorem Pass.log_note (owned : Bool) (entry : NodeTuningNodeStatus) : (p.note owned entry).log = p.log := rfl

theorem Walk.commit (h : Walk c p) (listed : List Node) (node : Node) (op : NodeOp)
    (entry : NodeTuningNodeStatus) : Walk c (p.commit listed node op entry) :=
  ⟨h.copy, h.version⟩

theorem Walk.note (h : Walk c p) (owned : Bool) (entry : NodeTuningNodeStatus) :
    Walk c (p.note owned entry) :=
  ⟨h.copy, h.version⟩

variable {entry : NodeTuningNodeStatus}

/-- After a turn the pass still walks its copy. -/
theorem Turn.walk {owned : Bool} (hw : Walk c p) (h : Turn env listed node p owned entry q) : Walk c q := by
  cases h with
  | kept _ => exact hw
  | died _ => exact ⟨hw.copy, hw.version⟩
  | driven _ _ _ _ => exact hw.commit listed node _ entry
  | unfinalized _ hf _ | uncordoned _ hf _ => exact (ensureFinalizer_walk hw hf).1
  | diedCordoning _ hf _ =>
    have hw' := (ensureFinalizer_walk hw hf).1
    exact ⟨hw'.copy, hw'.version⟩
  | cordoned _ hf _ _ => exact (ensureFinalizer_walk hw hf).1.commit listed node _ entry

theorem get?_commit {op : NodeOp} (hn : p.server.nodes.get? node.name = some node) (x : String) :
    (p.commit listed node op entry).server.nodes.get? x =
      if x = node.name then some (op.mutate node) else p.server.nodes.get? x :=
  get?_patchNode hn op x

theorem Touches.get?_ne (h : Touches name node p q) {x : String}
    (hx : x ≠ node.name) : q.server.nodes.get? x = p.server.nodes.get? x := by
  rcases h with ⟨hnodes, -⟩ | ⟨e, -, -, hnodes, -⟩
  · rw [hnodes]
  · rw [hnodes, nodes_patchNode, Keyed.get?_modify_ne hx]

theorem Touches.log (h : Touches name node p q) {e : Event} (he : e ∈ q.log) :
    e ∈ p.log ∨ e.node = node := by
  rcases h with ⟨-, hlog⟩ | ⟨e', -, hnode, -, hlog⟩
  · exact .inl (hlog ▸ he)
  · rw [hlog] at he
    exact (mem_append.mp he).imp_right fun he => by rw [mem_singleton.mp he, hnode]

/-! ## The loop over the nodes -/

/-- What every turn preserves, the loop over nodes does. -/
theorem loop_induct {env : PassEnv} {all : List NodeTuning} {I : List Node → Pass → Prop}
    (hdead : ∀ node rest p, p.alive = false → I (node :: rest) p → I rest p)
    (hturn : ∀ node rest p owned entry q, p.alive = true → Walk c p → p.server.nodes.get? node.name = some node →
      node.name ∉ rest.map Node.name → I (node :: rest) p → Turn (env.node node.name) listed node p owned entry q →
      I rest (q.note owned (realizeNode (env.node node.name).podsAfter entry))) :
    ∀ (work : List Node) (p : Pass), Walk c p → (work.map Node.name).Nodup →
      (∀ m ∈ work, p.server.nodes.get? m.name = some m) → I work p →
      I [] (work.foldl (r.reconcileNode env listed all) p) := by
  intro work
  induction work with
  | nil => intro p _ _ _ h; exact h
  | cons node rest ih =>
    intro p hw hnodup hfresh h
    rw [map_cons, nodup_cons] at hnodup
    rw [foldl_cons]
    have hnode := hfresh node mem_cons_self
    cases ha : p.alive with
    | false =>
      rw [reconcileNode_dead node ha]
      exact ih p hw hnodup.2 (fun m hm => hfresh m (mem_cons_of_mem _ hm)) (hdead node rest p ha h)
    | true =>
      obtain ⟨owned, entry, q, ht, heq⟩ := reconcileNode_turn r env listed all node ha
      rw [heq]
      refine ih _ ((ht.walk hw).note _ _) hnodup.2 ?_ (hturn node rest p owned entry q ha hw hnode hnodup.1 h ht)
      intro m hm
      have hne : m.name ≠ node.name := fun hmn => hnodup.1 (hmn ▸ mem_map_of_mem hm)
      rw [Pass.server_note, ht.touches.get?_ne hne]
      exact hfresh m (mem_cons_of_mem _ hm)

/-! ## The loop of a deletion -/

inductive Release (env : NodeEnv) (listed : List Node) (node : Node) (p : Pass) : Pass → Except String Unit → Prop where
  | skipped : rolloutOwnedBy node p.nt.val.name = false → Release env listed node p p (.ok ())
  | released : rolloutOwnedBy node p.nt.val.name = true → env.patch = .ok →
      Release env listed node p (p.commit listed node .release (existingNodeStatus p.nt.val.status.nodes node.name)) (.ok ())
  | failed {e : String} : Release env listed node p p (.error e)
  | died {e : String} : Release env listed node p { p with alive := false } (.error e)

theorem releaseOwned_release (env : PassEnv) (listed : List Node) (p : Pass) (node : Node) :
    Release (env.node node.name) listed node p (releaseOwned env listed (p, .ok ()) node).1
      (releaseOwned env listed (p, .ok ()) node).2 := by
  unfold releaseOwned
  by_cases ho : rolloutOwnedBy node p.nt.val.name = true
  · simp only [ho, if_true]
    cases hp : (env.node node.name).patch with
    | ok => exact .released ho hp
    | err e => exact .failed
    | crash => exact .died
  · simp only [Bool.not_eq_true] at ho
    simp only [ho, Bool.false_eq_true, if_false]
    exact .skipped ho

variable {res : Except String Unit}

theorem Release.walk (hw : Walk c p) (h : Release env listed node p q res) : Walk c q := by
  cases h with
  | skipped _ => exact hw
  | released _ _ => exact hw.commit listed node _ _
  | failed => exact hw
  | died => exact ⟨hw.copy, hw.version⟩

/-- A release writes its own node only. -/
theorem Release.touches (h : Release env listed node p q res) : Touches p.nt.val.name node p q := by
  cases h with
  | skipped _ => exact .inl ⟨rfl, rfl⟩
  | released howned _ =>
    let e : Event := ⟨.release, node, p.nt.val, existingNodeStatus p.nt.val.status.nodes node.name, listed, p.server⟩
    exact .inr ⟨e, .release howned, rfl, rfl, rfl⟩
  | failed | died => exact .inl ⟨rfl, rfl⟩

theorem release_induct {env : PassEnv} {I : List Node → Pass → Except String Unit → Prop}
    (herror : ∀ node rest p e, I (node :: rest) p (.error e) → I rest p (.error e))
    (hstep : ∀ node rest p q res, Walk c p → p.server.nodes.get? node.name = some node → node.name ∉ rest.map Node.name →
      I (node :: rest) p (.ok ()) → Release (env.node node.name) listed node p q res → I rest q res) :
    ∀ (nodes : List Node) (p : Pass) (res : Except String Unit), Walk c p → (nodes.map Node.name).Nodup →
      (∀ m ∈ nodes, p.server.nodes.get? m.name = some m) → I nodes p res →
      I [] (nodes.foldl (releaseOwned env listed) (p, res)).1
        (nodes.foldl (releaseOwned env listed) (p, res)).2 := by
  intro nodes
  induction nodes with
  | nil => intro p res _ _ _ h; exact h
  | cons node rest ih =>
    intro p res hw hnodup hfresh h
    rw [map_cons, nodup_cons] at hnodup
    rw [foldl_cons]
    have hrest : ∀ m ∈ rest, p.server.nodes.get? m.name = some m := fun m hm => hfresh m (mem_cons_of_mem _ hm)
    cases res with
    | error e =>
      have hsame : releaseOwned env listed (p, .error e) node = (p, .error e) := rfl
      rw [hsame]
      exact ih p _ hw hnodup.2 hrest (herror node rest p e h)
    | ok u =>
      have hnode := hfresh node mem_cons_self
      have hr := releaseOwned_release env listed p node
      cases hx : releaseOwned env listed (p, .ok ()) node with
      | mk q res =>
      rw [hx] at hr
      refine ih q res (hr.walk hw) hnodup.2 ?_ (hstep node rest p q res hw hnode hnodup.1 h hr)
      intro m hm
      have hne : m.name ≠ node.name := fun hmn => hnodup.1 (hmn ▸ mem_map_of_mem hm)
      rw [hr.touches.get?_ne hne]
      exact hrest m hm

/-! ## The end of a pass -/

def withoutFinalizer (fs : List String) : List String := fs.filter (· != nodeTuningFinalizer)

theorem removeFinalizer_cases (p : Pass) (o : Outcome) :
    (p.removeFinalizer o).1.log = p.log ∧
      ((p.removeFinalizer o).1.server = p.server ∨
        ∃ s' nt', p.server.update (p.withFinalizers (withoutFinalizer p.nt.val.finalizers)) = .ok (s', nt') ∧
          (p.removeFinalizer o).1.server = s') := by
  unfold Pass.removeFinalizer
  split
  · cases o with
    | crash | err => exact ⟨rfl, .inl rfl⟩
    | ok =>
      simp only
      cases hu : p.server.update (p.withFinalizers (withoutFinalizer p.nt.val.finalizers)) with
      | error e =>
        have hu' := hu
        unfold Pass.withFinalizers withoutFinalizer at hu'
        rw [hu']
        exact ⟨rfl, .inl rfl⟩
      | ok res =>
        obtain ⟨s', nt'⟩ := res
        have hu' := hu
        unfold Pass.withFinalizers withoutFinalizer at hu'
        rw [hu']
        exact ⟨rfl, .inr ⟨s', nt', rfl, rfl⟩⟩
  · exact ⟨rfl, .inl rfl⟩

def Pass.entries (p : Pass) : List NodeTuningNodeStatus := p.newNodes.insertionSort (fun a b => a.name ≤ b.name)

/-- How a pass may end. -/
theorem finishPass_cases (env : PassEnv) (p : Pass) :
    (finishPass env p).1.log = p.log ∧
      (((finishPass env p).1.server = p.server ∧
          (env.status ≠ .ok ∨ p.server.tunings.get? p.nt.val.name = none)) ∨
        ∃ s' nt', env.status = .ok ∧ p.server.patchStatus p.nt.val.name p.nt.val.generation p.entries = .ok (s', nt') ∧
          ((finishPass env p).1.server = s' ∨
            (p.ownsNode = false ∧ ∃ s'' nt'',
              s'.update (Pass.withFinalizers { p with server := s', nt := nt' } (withoutFinalizer nt'.val.finalizers)) =
                .ok (s'', nt'') ∧
              (finishPass env p).1.server = s''))) := by
  unfold finishPass
  cases hs : env.status with
  | crash | err => exact ⟨rfl, .inl ⟨rfl, .inl (by simp)⟩⟩
  | ok =>
    simp only
    cases hp : p.server.patchStatus p.nt.val.name p.nt.val.generation p.entries with
    | error e =>
      have hp' := hp
      unfold Pass.entries at hp'
      rw [hp']
      refine ⟨rfl, .inl ⟨rfl, .inr ?_⟩⟩
      unfold patchStatus at hp
      cases hg : p.server.tunings.get? p.nt.val.name with
      | none => rfl
      | some cur => rw [hg] at hp; cases hp
    | ok res =>
      obtain ⟨s', nt'⟩ := res
      have hp' := hp
      unfold Pass.entries at hp'
      rw [hp']
      simp only
      by_cases ho : p.ownsNode = true
      · rw [if_pos ho]
        exact ⟨rfl, .inr ⟨s', nt', trivial, rfl, .inl rfl⟩⟩
      rw [if_neg ho]
      have hno : p.ownsNode = false := by simpa using ho
      obtain ⟨hlog, hserver⟩ := removeFinalizer_cases { p with server := s', nt := nt' } env.dropFinalizer
      cases hrem : Pass.removeFinalizer { p with server := s', nt := nt' } env.dropFinalizer with
      | mk q res =>
        rw [hrem] at hlog hserver
        cases res with
        | error | ok => exact ⟨hlog, .inr ⟨s', nt', trivial, rfl, hserver.imp_right (fun h => ⟨hno, h⟩)⟩⟩

/-! ## A whole pass -/

/-- The nodes a pass works on are listed, each once. -/
theorem workOf_ok {work : List Node} {nt : NodeTuning}
    (hl : (listed.map Node.name).Nodup) (h : r.workOf listed nt = .ok work) :
    (work.map Node.name).Nodup ∧ (∀ m ∈ work, m ∈ listed) ∧
      ∀ m ∈ listed, rolloutOwnedBy m nt.name = true → m ∈ work := by
  have hmatched : ∃ matched, work = matched ++ adoptOwnedNodes listed matched nt.name ∧ matched.Sublist listed := by
    unfold workOf selectNodes at h
    cases hs : nt.spec.nodeSelector with
    | none =>
      rw [hs] at h
      cases h
      exact ⟨[], rfl, nil_sublist _⟩
    | some sel =>
      rw [hs] at h
      simp only at h
      cases hsel : r.labelSelectorAsSelector sel with
      | error e => rw [hsel] at h; cases h
      | ok selector =>
        rw [hsel] at h
        cases h
        exact ⟨_, rfl, filter_sublist⟩
  obtain ⟨matched, rfl, hsub⟩ := hmatched
  refine ⟨?_, ?_, ?_⟩
  · rw [map_append, nodup_append]
    refine ⟨hl.sublist (hsub.map _), hl.sublist (filter_sublist.map _), ?_⟩
    rintro a ha b hb rfl
    obtain ⟨m, hm, rfl⟩ := mem_map.mp hb
    have := (mem_filter.mp hm).2
    simp only [Bool.and_eq_true, Bool.not_eq_true', contains_eq_mem, decide_eq_false_iff_not] at this
    exact this.1 ha
  · intro m hm
    rcases mem_append.mp hm with hm | hm
    · exact hsub.subset hm
    · exact (mem_filter.mp hm).1
  · intro m hm ho
    by_cases hin : m.name ∈ matched.map Node.name
    · obtain ⟨m', hm', hname⟩ := mem_map.mp hin
      have : m' = m := inj_on_of_nodup_map hl (hsub.subset hm') hm hname
      exact mem_append_left _ (this ▸ hm')
    · refine mem_append_right _ (mem_filter.mpr ⟨hm, ?_⟩)
      simp only [Bool.and_eq_true, Bool.not_eq_true', contains_eq_mem, decide_eq_false_iff_not]
      exact ⟨hin, ho⟩

/-- The ways of a pass. -/
theorem reconcile_cases (r : NodeTuningReconciler) (env : PassEnv) (s : Server) (nt : Stamped NodeTuning) :
    ((r.reconcile env s nt).1.server = s ∧ (r.reconcile env s nt).1.log = []) ∨ (nt.val.deletionTimestamp.isSome = true ∧
      (r.reconcile env s nt).1 =
        (finishDeletion env s.nodes.items (begin_ s nt)).1) ∨
    (nt.val.deletionTimestamp = none ∧ ∃ work all, r.workOf s.nodes.items nt.val = .ok work ∧ env.listTunings = .ok all ∧
      (((work.foldl (r.reconcileNode env s.nodes.items all) (begin_ s nt)).alive = false ∧
          (r.reconcile env s nt).1 = work.foldl (r.reconcileNode env s.nodes.items all) (begin_ s nt)) ∨
        ((work.foldl (r.reconcileNode env s.nodes.items all) (begin_ s nt)).alive = true ∧
          (r.reconcile env s nt).1 = (finishPass env
            (work.foldl (r.reconcileNode env s.nodes.items all) (begin_ s nt))).1))) := by
  unfold reconcile
  cases hl : env.listNodes with
  | error e => exact .inl ⟨rfl, rfl⟩
  | ok u =>
    simp only
    by_cases hd : nt.val.deletionTimestamp.isSome = true
    · refine .inr (.inl ⟨hd, ?_⟩)
      rw [if_pos hd]
      cases finishDeletion env s.nodes.items (begin_ s nt) with
      | mk p res => cases res <;> rfl
    · rw [if_neg hd]
      cases hwork : r.workOf s.nodes.items nt.val with
      | error e => exact .inl ⟨rfl, rfl⟩
      | ok work =>
        simp only
        cases hall : env.listTunings with
        | error e => exact .inl ⟨rfl, rfl⟩
        | ok all =>
          refine .inr (.inr ⟨by simpa using hd, work, all, rfl, rfl, ?_⟩)
          simp only
          cases ha : (work.foldl (r.reconcileNode env s.nodes.items all) (begin_ s nt)).alive with
          | false => exact .inl ⟨rfl, by simp⟩
          | true => exact .inr ⟨rfl, by simp⟩

theorem nodes_finishPass (env : PassEnv) (p : Pass) :
    (finishPass env p).1.server.nodes = p.server.nodes := by
  obtain ⟨-, ⟨hs, -⟩ | ⟨s', nt', -, hp, hs | ⟨-, s'', nt'', hu, hs⟩⟩⟩ := finishPass_cases env p
  · rw [hs]
  · rw [hs, (patchStatus_cases hp).1]
  · obtain ⟨cur, -, -, hnodes, -⟩ := update_cases hu
    rw [hs, hnodes, (patchStatus_cases hp).1]

theorem nodes_removeFinalizer (p : Pass) (o : Outcome) : (p.removeFinalizer o).1.server.nodes = p.server.nodes := by
  obtain ⟨-, hs | ⟨s', nt', hu, hs⟩⟩ := removeFinalizer_cases p o
  · rw [hs]
  · obtain ⟨cur, -, -, hnodes, -⟩ := update_cases hu
    rw [hs, hnodes]

theorem finishDeletion_loop (env : PassEnv) (listed : List Node) (p : Pass) :
    (finishDeletion env listed p).1.server.nodes =
        (listed.foldl (releaseOwned env listed) (p, .ok ())).1.server.nodes ∧
      (finishDeletion env listed p).1.log =
        (listed.foldl (releaseOwned env listed) (p, .ok ())).1.log := by
  unfold finishDeletion
  cases listed.foldl (releaseOwned env listed) (p, .ok ()) with
  | mk q res =>
    cases res with
    | error e => exact ⟨rfl, rfl⟩
    | ok u => exact ⟨nodes_removeFinalizer q env.dropFinalizer, (removeFinalizer_cases q env.dropFinalizer).1⟩

variable {nt : Stamped NodeTuning}

/-- What starts, turns and releases preserve, a pass does. -/
theorem reconcile_induct {env : PassEnv}
    (hnt : nt ∈ s.tunings.past) {I : Pass → Prop} {J : Keyed Node Node.name → List Event → Prop}
    (hJ : ∀ p, I p → J p.server.nodes p.log) (hbegin : I (begin_ s nt))
    (hnote : ∀ p owned entry, I p → I (p.note owned entry))
    (hturn : ∀ node p owned entry q, nt.val.deletionTimestamp = none → Walk nt.val p →
      p.server.nodes.get? node.name = some node → (∀ e ∈ p.log, e.node.name ≠ node.name) → I p →
      Turn (env.node node.name) s.nodes.items node p owned entry q → I q)
    (hrelease : ∀ node p q res, nt.val.deletionTimestamp.isSome = true → Walk nt.val p →
      p.server.nodes.get? node.name = some node → (∀ e ∈ p.log, e.node.name ≠ node.name) → I p →
      Release (env.node node.name) s.nodes.items node p q res → I q) :
    J (r.reconcile env s nt).1.server.nodes (r.reconcile env s nt).1.log := by
  have hwalk := walk_begin hnt
  have hfresh : ∀ m ∈ s.nodes.items, (begin_ s nt).server.nodes.get? m.name = some m :=
    fun m hm => Keyed.get?_of_mem hm
  -- the nodes still to come are none of those written
  have hfirst : ∀ {node : Node} {rest : List Node} {p q : Pass}, node.name ∉ rest.map Node.name →
      (∀ e ∈ p.log, e.node.name ∉ (node :: rest).map Node.name) → (∀ e ∈ q.log, e ∈ p.log ∨ e.node = node) →
      ∀ e ∈ q.log, e.node.name ∉ rest.map Node.name := by
    intro node rest p q hnode hp hq e he hmem
    rcases hq e he with he | he
    · exact hp e he (mem_cons_of_mem _ hmem)
    · exact hnode (he ▸ hmem)
  rcases reconcile_cases r env s nt with ⟨hs, hl⟩ | ⟨hd, heq⟩ | ⟨hd, work, all, hwork, -, hend⟩
  · rw [hs, hl]
    exact hJ _ hbegin
  · obtain ⟨hnodes, hlog⟩ := finishDeletion_loop env s.nodes.items (begin_ s nt)
    rw [heq, hnodes, hlog]
    refine hJ _ (release_induct (I := fun rest p _ => I p ∧ ∀ e ∈ p.log, e.node.name ∉ rest.map Node.name) ?_ ?_
      s.nodes.items _ _ hwalk s.nodes.nodup hfresh ⟨hbegin, by simp [begin_]⟩).1
    · rintro node rest p e ⟨h, hlog⟩
      exact ⟨h, fun e he hmem => hlog e he (mem_cons_of_mem _ hmem)⟩
    · rintro node rest p q res hw hn hnode ⟨h, hlog⟩ hr
      exact ⟨hrelease node p q res hd hw hn (fun e he hname => hlog e he (hname ▸ mem_cons_self)) h hr,
        hfirst hnode hlog fun e he => hr.touches.log he⟩
  · obtain ⟨hnodup, hsub, -⟩ := workOf_ok s.nodes.nodup hwork
    have hloop : I (work.foldl (r.reconcileNode env s.nodes.items all) (begin_ s nt)) := by
      refine (loop_induct (I := fun rest p => I p ∧ ∀ e ∈ p.log, e.node.name ∉ rest.map Node.name) ?_ ?_ work _ hwalk hnodup
        (fun m hm => hfresh m (hsub m hm)) ⟨hbegin, by simp [begin_]⟩).1
      · rintro node rest p - ⟨h, hlog⟩
        exact ⟨h, fun e he hmem => hlog e he (mem_cons_of_mem _ hmem)⟩
      · rintro node rest p owned entry q - hw hn hnode ⟨h, hlog⟩ ht
        exact ⟨hnote _ _ _ (hturn node p owned entry q hd hw hn (fun e he hname => hlog e he (hname ▸ mem_cons_self)) h ht),
          hfirst (q := q.note _ _) hnode hlog fun e he => ht.touches.log he⟩
    rcases hend with ⟨-, heq⟩ | ⟨-, heq⟩
    · rw [heq]
      exact hJ _ hloop
    · rw [heq, nodes_finishPass, (finishPass_cases env _).1]
      exact hJ _ hloop

/-! ## The Nodes after a pass -/

/-- The event cordons this node. -/
def startsOn (x : String) (e : Event) : Bool :=
  match e.op with
  | .cordon _ _ => e.node.name == x
  | _ => false

/-- The event verifies the restart of this node and uncordons it, or releases it. -/
def endsOn (x : String) (e : Event) : Bool :=
  match e.op with
  | .uncordon => e.node.name == x
  | .release => e.node.name == x
  | _ => false

/-- The Nodes after some writes are the Nodes before them, each edited at most once. -/
structure Edited (s : Server) (nodes : Keyed Node Node.name) (log : List Event) : Prop where
  written : ∀ e ∈ log, s.nodes.get? e.node.name = some e.node ∧ nodes.get? e.node.name = some (e.op.mutate e.node)
  untouched : ∀ x, (∀ e ∈ log, e.node.name ≠ x) → nodes.get? x = s.nodes.get? x

theorem Edited.touch (h : Edited s p.server.nodes p.log)
    (hn : p.server.nodes.get? node.name = some node) (hfirst : ∀ e ∈ p.log, e.node.name ≠ node.name)
    (ht : Touches name node p q) : Edited s q.server.nodes q.log := by
  rcases ht with ⟨hnodes, hlog⟩ | ⟨e, -, hnode, hnodes, hlog⟩
  · rw [hnodes, hlog]
    exact h
  have hget := get?_patchNode hn e.op
  rw [← hnodes] at hget
  rw [hlog]
  refine ⟨?_, ?_⟩
  · intro e' he'
    rcases mem_append.mp he' with he' | he'
    · rw [hget, if_neg (hfirst e' he')]
      exact h.written e' he'
    · rw [mem_singleton.mp he', hnode, hget, if_pos rfl]
      exact ⟨(h.untouched _ hfirst).symm.trans hn, rfl⟩
  · intro x hx
    have hne : x ≠ node.name := by
      rw [← hnode]
      exact Ne.symm (hx e (mem_append_right _ (mem_singleton_self _)))
    rw [hget, if_neg hne]
    exact h.untouched x fun e' he' => hx e' (mem_append_left _ he')

/-- A pass edits nodes only as its log says. -/
theorem edited_pass (r : NodeTuningReconciler) (env : PassEnv)
    (hnt : nt ∈ s.tunings.past) : Edited s (r.reconcile env s nt).1.server.nodes (r.reconcile env s nt).1.log := by
  refine reconcile_induct hnt (I := fun p => Edited s p.server.nodes p.log) (fun _ h => h) ?_ (fun _ _ _ h => h) ?_ ?_
  · exact ⟨by simp [begin_], fun _ _ => rfl⟩
  · intro node p owned entry q _ _ hn hfirst h ht
    exact h.touch hn hfirst ht.touches
  · intro node p q res _ _ hn hfirst h hr
    exact h.touch hn hfirst hr.touches

end FrameOperator
