import FrameOperator.Lemmas.Cores
import FrameOperator.Theorems.OneAtATime

/-!
# One restart per approval

The only record of a restart is an entry of the NodeTuning's status, written in a later call than the one that uncordons the node. A
run in which that write is lost restarts the node again (`restarted_twice`), unless the record is kept (`RecordKept`).
-/

namespace FrameOperator

open NodeTuningNodeStatus List Versioned

/-- A rollout that was started: of which node, by which NodeTuning, for which generation. -/
structure Cordon where
  tuning : String
  node : String
  generation : Nat
  deriving DecidableEq

def cordonOf (e : Event) : Option Cordon :=
  match e.op with
  | .cordon _ _ => some ⟨e.nt.name, e.node.name, e.nt.generation⟩
  | _ => none

/-- The rollouts started in a log. -/
def cordons (log : List Event) : List Cordon := log.filterMap cordonOf

/-! ## When the record is kept -/

/-- It was asked for, the unit entered the active state since, and the node is Ready. -/
def restartVerified (n : Node) : Bool :=
  match annotationTime n .restartRequested, annotationTime n .restartBaseline, annotationTime n .unitActiveEnter with
  | .ok _, .ok baseline, .ok current => decide (baseline < current) && nodeIsReady n
  | _, _, _ => false

/-- Some node that the NodeTuning owns shows a verified restart. -/
def Verifying (s : Server) (tuning : String) : Prop :=
  ∃ m ∈ s.nodes.items, rolloutOwnedBy m tuning = true ∧ restartVerified m = true

/-- The pass neither dies nor loses its status write. -/
def PassEnv.Lossless (env : PassEnv) : Prop :=
  env.status = .ok ∧ ∀ x, (env.node x).finalizer ≠ .crash ∧ (env.node x).patch ≠ .crash

/-- The copy is of the generation that is live. -/
def SameGeneration (s : Server) (c : NodeTuning) : Prop :=
  ∃ live, s.tunings.value? c.name = some live ∧ live.generation = c.generation

/-- What a pass on the copy `c` must meet for no restart record to be lost. -/
structure RecordKept (r : NodeTuningReconciler) (s : Server) (c : NodeTuning) (env : PassEnv) : Prop where
  /-- If a node could be started, the copy knows every restart recorded for the live generation. -/
  starts : (∃ m ∈ s.nodes.items, rolloutInFlight m = false ∧ approvedForGeneration m c.generation = true) →
    ∃ live, s.tunings.value? c.name = some live ∧ live.generation = c.generation ∧
      ∀ x, RecordedAt live c.generation x → RecordedAt c c.generation x
  /-- If a restart could be verified, the copy is of the live generation and the pass is not cut short. -/
  verifies : Verifying s c.name → SameGeneration s c ∧ env.Lossless
  /-- A status that is written knows every restart recorded for the live generation. -/
  writes : env.status = .ok → ∀ live, s.tunings.value? c.name = some live → ∀ x, RecordedAt live live.generation x →
    RecordedAt c live.generation x ∧ ∀ work, r.workOf s.nodes.items c = .ok work → x ∈ work.map Node.name

/-- No started annotation is cleared, nothing deleted, and every pass keeps the record. -/
def StepKeepsRecord (r : NodeTuningReconciler) (s : Server) : Action → Prop
  | .pass version env => ∀ copy, s.tunings.past[version]? = some copy → RecordKept r s copy.val env
  | .clearStarted _ => False
  | .delete _ _ => False
  | _ => True

/-! ## What accounts for a rollout that was started -/

/-- Its generation is past, it is in flight, or its restart is recorded or held. -/
def Answered (s : Server) (held : Cordon → Prop) (k : Cordon) : Prop :=
  ∃ nt, s.tunings.value? k.tuning = some nt ∧ k.generation ≤ nt.generation ∧
    (k.generation = nt.generation → (∃ m, s.nodes.get? k.node = some m ∧ rolloutOwnedBy m k.tuning = true) ∨
      RecordedAt nt nt.generation k.node ∨ held k)

/-- The pass holds the record of a rollout's restart: it verified it, and has yet to write it. -/
def Held (s : Server) (c : NodeTuning) (p : Pass) (k : Cordon) : Prop :=
  Verifying s c.name ∧ k.tuning = c.name ∧ ∃ e ∈ p.newNodes, e.name = k.node ∧ restartedForGeneration e c.generation = true

variable {k : Cordon}

/-- Keeping the cores keeps a rollout accounted for, if in flight or held. -/
theorem Answered.of_sameCores {s s' : Server} {held held' : Cordon → Prop} (h : Answered s held k)
    (hcores : SameCores s.tunings s'.tunings) (hnode : ∀ m, s.nodes.get? k.node = some m → rolloutOwnedBy m k.tuning = true →
      (∃ m', s'.nodes.get? k.node = some m' ∧ rolloutOwnedBy m' k.tuning = true) ∨ held' k)
    (hheld : held k → held' k) : Answered s' held' k := by
  obtain ⟨nt, hnt, hle, hk⟩ := h
  obtain ⟨nt', hnt', hgen, hstatus, -⟩ := hcores.value? hnt
  refine ⟨nt', hnt', by rw [hgen]; exact hle, ?_⟩
  intro heq
  rcases hk (heq.trans hgen) with ⟨m, hm, ho⟩ | hrec | hh
  · rcases hnode m hm ho with h' | h'
    · exact .inl h'
    · exact .inr (.inr h')
  · refine .inr (.inl ?_)
    rw [RecordedAt, hstatus, hgen]
    exact hrec
  · exact .inr (.inr (hheld hh))

variable {listed : List Node} {node : Node} {p q : Pass} {owned : Bool}

theorem Drives.patch_cases {now : Time} {generation : Nat} {ns entry : NodeTuningNodeStatus} {op : NodeOp}
    {failed : String → NodeTuningNodeStatus} (h : Drives now generation node ns (.patch op entry failed)) :
    (Carries ns entry ∧ ∀ name, rolloutOwnedBy (op.mutate node) name = rolloutOwnedBy node name) ∨
      (op = .uncordon ∧ entry.name = ns.name ∧ restartedForGeneration entry generation = true ∧
        restartVerified node = true) := by
  cases h with
  | fail hc =>
    refine .inl ⟨hc, fun name => ?_⟩
    simp [rolloutOwnedBy, rolloutInFlight_mutate, Annotations.raw, owner_mutate, NodeOp.leavesInFlight, NodeOp.leavesOwner]
  | request _ _ hc _ =>
    refine .inl ⟨hc, fun name => ?_⟩
    simp [rolloutOwnedBy, rolloutInFlight_mutate, Annotations.raw, owner_mutate, NodeOp.leavesInFlight, NodeOp.leavesOwner]
  | verify unit hq hb hc hlt hready =>
    refine .inr ⟨rfl, rfl, ?_, ?_⟩
    · simp [restartedForGeneration]
    · simp [restartVerified, hq, hb, hc, hlt, hready]

/-- What the entry of a turn says of a restart. -/
theorem Turn.entry {env : NodeEnv} {entry : NodeTuningNodeStatus}
    (h : Turn env listed node p owned entry q) (ha : q.alive = true) :
    Carries (existingNodeStatus p.nt.val.status.nodes node.name) entry ∨
      (entry.name = node.name ∧ restartedForGeneration entry p.nt.val.generation = true ∧
        rolloutOwnedBy node p.nt.val.name = true ∧ restartVerified node = true) := by
  cases h with
  | kept hc => exact .inl hc
  | died _ => cases ha
  | driven howned _ hd _ =>
    rcases hd.patch_cases with ⟨hc, -⟩ | ⟨-, hname, hrec, hver⟩
    · exact .inl hc
    · exact .inr ⟨hname.trans (name_existingNodeStatus _ _), hrec, howned, hver⟩
  | unfinalized _ _ hc => exact .inl hc
  | uncordoned _ _ hc => exact .inl hc
  | diedCordoning _ _ _ => cases ha
  | cordoned _ _ hc _ => exact .inl hc

/-! ## The loop -/

structure Ledger (s : Server) (l : List Event) (c : NodeTuning) (env : PassEnv) (work rest : List Node) (p : Pass) : Prop where
  cores : SameCores s.tunings p.server.tunings
  past : ∀ v ∈ p.server.tunings.past, v.val.deletionTimestamp = none
  alive : env.Lossless → p.alive = true
  distinct : (cordons (l ++ p.log)).Nodup
  answered : ∀ k ∈ cordons (l ++ p.log), Answered p.server (Held s c p) k
  names : p.alive = true → p.newNodes.map NodeTuningNodeStatus.name ++ rest.map Node.name = work.map Node.name
  carried : p.alive = true → ∀ e ∈ p.newNodes, ∀ g, RecordedAt c g e.name →
    restartedForGeneration e g = true ∨ (Verifying s c.name ∧ restartedForGeneration e c.generation = true)
  listed : ∀ m ∈ rest, m ∈ s.nodes.items

theorem cordons_append (l l' : List Event) : cordons (l ++ l') = cordons l ++ cordons l' := filterMap_append

variable {l : List Event} {entry : NodeTuningNodeStatus}

theorem cordons_commit_other {op : NodeOp} (h : ∀ now owner, op ≠ .cordon now owner) :
    cordons (l ++ (p.commit listed node op entry).log) = cordons (l ++ p.log) := by
  have hlog : (p.commit listed node op entry).log = p.log ++ [⟨op, node, p.nt.val, entry, listed, p.server⟩] := rfl
  have hnone : cordonOf ⟨op, node, p.nt.val, entry, listed, p.server⟩ = none := by
    cases op with
    | cordon now owner => exact absurd rfl (h now owner)
    | _ => rfl
  rw [hlog, ← append_assoc, cordons_append (l ++ p.log)]
  simp [cordons, hnone]

theorem cordons_commit_cordon {now : Time} {owner : String} :
    cordons (l ++ (p.commit listed node (.cordon now owner) entry).log) =
      cordons (l ++ p.log) ++ [⟨p.nt.val.name, node.name, p.nt.val.generation⟩] := by
  have hlog : (p.commit listed node (.cordon now owner) entry).log =
      p.log ++ [⟨.cordon now owner, node, p.nt.val, entry, listed, p.server⟩] := rfl
  rw [hlog, ← append_assoc, cordons_append (l ++ p.log)]
  rfl

variable {s : Server} {c : NodeTuning} {env : PassEnv} {work rest : List Node}

theorem held_note (hq : q.newNodes = p.newNodes) (owned : Bool)
    (entry : NodeTuningNodeStatus) (h : Held s c p k) : Held s c (q.note owned entry) k := by
  obtain ⟨hv, hk, e, he, hrest⟩ := h
  exact ⟨hv, hk, e, mem_append_left _ (hq ▸ he), hrest⟩

theorem Ledger.fresh {live : NodeTuning} (hwork : (work.map Node.name).Nodup) (ha : p.alive = true) (hw : Walk c p)
    (hn : p.server.nodes.get? node.name = some node) (hl : Ledger s l c env work (node :: rest) p)
    (hstarts : Starts p.lock s.nodes.items p.nt.val node (existingNodeStatus p.nt.val.status.nodes node.name))
    (hlive : s.tunings.value? c.name = some live) (hgen : live.generation = c.generation)
    (hknows : ∀ x, RecordedAt live c.generation x → RecordedAt c c.generation x) :
    (⟨c.name, node.name, c.generation⟩ : Cordon) ∉ cordons (l ++ p.log) := by
  intro hin
  obtain ⟨nt, hnt, -, hk⟩ := hl.answered _ hin
  obtain ⟨nt', hnt', hgen', hstatus', -⟩ := hl.cores.value? hlive
  rw [hnt] at hnt'
  cases hnt'
  have hkgen : c.generation = nt.generation := by rw [hgen', hgen]
  rcases hk hkgen with ⟨m, hm, ho⟩ | hrec | ⟨-, -, e, he, hname, -⟩
  · rw [hn] at hm
    cases hm
    rw [rolloutOwnedBy, hstarts.free] at ho
    cases ho
  · have hrec' : RecordedAt live c.generation node.name := by
      rw [RecordedAt, ← hstatus', hkgen]
      exact hrec
    have hc := hknows node.name hrec'
    have hun := hstarts.unrestarted
    rw [hw.status, hw.generation] at hun
    rw [RecordedAt, hun] at hc
    cases hc
  · have hnames := hl.names ha
    rw [← hnames, nodup_append] at hwork
    exact hwork.2.2 e.name (mem_map_of_mem he) node.name mem_cons_self hname

variable {r : NodeTuningReconciler}

theorem ledger_turn_answered {entry' : NodeTuningNodeStatus}
    (hok : RecordKept r s c env) (hwork : (work.map Node.name).Nodup) (ha : p.alive = true) (hw : Walk c p)
    (hn : p.server.nodes.get? node.name = some node) (hl : Ledger s l c env work (node :: rest) p)
    (ht : Turn (env.node node.name) s.nodes.items node p owned entry q) (hentry : Carries entry entry') :
    (cordons (l ++ q.log)).Nodup ∧ ∀ k ∈ cordons (l ++ q.log), Answered q.server (Held s c (q.note owned entry')) k := by
  have hcores := (ht.cores hw).1
  have hnew := (ht.newNodes hw).1
  have hmem : node ∈ s.nodes.items := hl.listed node mem_cons_self
  -- a turn that leaves the Nodes and the log as they are
  have hsame : q.server.nodes = p.server.nodes → q.log = p.log →
      (cordons (l ++ q.log)).Nodup ∧ ∀ k ∈ cordons (l ++ q.log), Answered q.server (Held s c (q.note owned entry')) k := by
    intro hnodes hlog
    rw [hlog]
    refine ⟨hl.distinct, fun k hk => (hl.answered k hk).of_sameCores hcores ?_ (held_note hnew owned entry')⟩
    intro m hm ho
    exact .inl ⟨m, by rw [hnodes]; exact hm, ho⟩
  cases ht with
  | kept _ => exact hsame rfl rfl
  | died _ => exact hsame rfl rfl
  | unfinalized _ hf _ => exact hsame (ensureFinalizer_walk hw hf).2.nodes (ensureFinalizer_walk hw hf).2.log
  | uncordoned _ hf _ => exact hsame (ensureFinalizer_walk hw hf).2.nodes (ensureFinalizer_walk hw hf).2.log
  | diedCordoning _ hf _ => exact hsame (ensureFinalizer_walk hw hf).2.nodes (ensureFinalizer_walk hw hf).2.log
  | @driven op _ _ howned _ hd _ =>
    have hop : ∀ now owner, op ≠ .cordon now owner := by
      intro now owner heq
      subst heq
      cases hd
    rw [cordons_commit_other hop]
    refine ⟨hl.distinct, fun k hk => (hl.answered k hk).of_sameCores hcores ?_ (held_note hnew true entry')⟩
    intro m hm ho
    by_cases hx : k.node = node.name
    · have hmn : m = node := by rw [hx, hn] at hm; exact (Option.some.inj hm).symm
      rcases hd.patch_cases with ⟨-, hkeep⟩ | ⟨-, hname, hrec, hver⟩
      · exact .inl ⟨_, by rw [get?_commit hn, if_pos hx], by rw [hkeep, ← hmn]; exact ho⟩
      -- the rollout is concluded: the pass now holds its record
      rw [hmn] at ho
      have htuning : k.tuning = c.name := by
        rw [← hw.name, ← ((rolloutOwnedBy_iff _ _).mp ho).2, ((rolloutOwnedBy_iff _ _).mp howned).2]
      refine .inr ⟨⟨node, hmem, hw.name ▸ howned, hver⟩, htuning, entry', mem_append_right _ (by simp), ?_, ?_⟩
      · rw [hentry.name, hname, name_existingNodeStatus, hx]
      · rw [hentry.restarted, ← hw.generation]
        exact hrec
    · exact .inl ⟨m, by rw [get?_commit hn, if_neg hx]; exact hm, ho⟩
  | @cordoned _ p₁ hstarts hf _ _ =>
    have hw₁ := (ensureFinalizer_walk hw hf).1
    have hsame₁ := (ensureFinalizer_walk hw hf).2
    have hn₁ : p₁.server.nodes.get? node.name = some node := by rw [hsame₁.nodes]; exact hn
    obtain ⟨live, hlive, hgen, hknows⟩ := hok.starts ⟨node, hmem, hstarts.free, hw.generation ▸ hstarts.approved⟩
    have hfresh := hl.fresh hwork ha hw hn hstarts hlive hgen hknows
    have hcordons : cordons (l ++ (p₁.commit s.nodes.items node (.cordon (env.node node.name).now p₁.nt.val.name) entry).log) =
        cordons (l ++ p.log) ++ [⟨c.name, node.name, c.generation⟩] := by
      rw [cordons_commit_cordon, hsame₁.log, hw₁.name, hw₁.generation]
    rw [hcordons]
    refine ⟨?_, ?_⟩
    · rw [nodup_append]
      refine ⟨hl.distinct, by simp, ?_⟩
      rintro a ha' b hb rfl
      rw [mem_singleton.mp hb] at ha'
      exact hfresh ha'
    · intro k hk
      rcases mem_append.mp hk with hk | hk
      · refine (hl.answered k hk).of_sameCores hcores ?_ (held_note hnew true entry')
        intro m hm ho
        by_cases hx : k.node = node.name
        · rw [hx, hn] at hm
          cases hm
          rw [rolloutOwnedBy, hstarts.free] at ho
          cases ho
        · exact .inl ⟨m, by rw [get?_commit hn₁, if_neg hx, hsame₁.nodes]; exact hm, ho⟩
      · rw [mem_singleton.mp hk]
        obtain ⟨nt, hnt, hntgen, -, -⟩ := (hl.cores.trans hcores).value? hlive
        refine ⟨nt, hnt, by rw [hntgen, hgen], fun _ => .inl ⟨_, by rw [get?_commit hn₁, if_pos rfl], ?_⟩⟩
        rw [← hw₁.name]
        exact ownedBy_cordon _ _ _

theorem ledger_turn (hok : RecordKept r s c env) (hc : c.deletionTimestamp = none) (hwork : (work.map Node.name).Nodup)
    (ha : p.alive = true) (hw : Walk c p) (hn : p.server.nodes.get? node.name = some node)
    (hl : Ledger s l c env work (node :: rest) p) (ht : Turn (env.node node.name) s.nodes.items node p owned entry q) :
    Ledger s l c env work rest (q.note owned (realizeNode (env.node node.name).podsAfter entry)) := by
  have hkeeps := realizeNode_keeps (env.node node.name).podsAfter entry
  obtain ⟨hcores, hversions⟩ := ht.cores hw
  obtain ⟨hdistinct, hanswered⟩ := ledger_turn_answered hok hwork ha hw hn hl ht hkeeps
  have hnew := (ht.newNodes hw).1
  have hmem : node ∈ s.nodes.items := hl.listed node mem_cons_self
  refine ⟨hl.cores.trans hcores, ?_, ?_, hdistinct, hanswered, ?_, ?_, fun m hm => hl.listed m (mem_cons_of_mem _ hm)⟩
  · intro v hv
    rcases hversions v hv with hv | hv
    · exact hl.past v hv
    · rw [hv, hc]
  · intro hlossless
    obtain ⟨hf, hp⟩ := hlossless.2 node.name
    exact (ht.alive hf hp).trans ha
  · intro hq
    have hname : (realizeNode (env.node node.name).podsAfter entry).name = node.name := by
      rw [hkeeps.name]
      rcases ht.entry hq with hcarry | ⟨hname, -⟩
      · rw [hcarry.name, name_existingNodeStatus]
      · exact hname
    have hnames := hl.names ha
    simp only [Pass.note, hnew, map_append, map_cons, map_nil, hname, append_assoc, cons_append,
      nil_append]
    exact hnames
  · intro hq e he g hrec
    rcases mem_append.mp he with he | he
    · exact hl.carried ha e (hnew ▸ he) g hrec
    rw [mem_singleton.mp he] at hrec ⊢
    rcases ht.entry hq with hcarry | ⟨-, hver, howned, hshows⟩
    · refine .inl ?_
      rw [hkeeps.name, hcarry.name, name_existingNodeStatus] at hrec
      rw [hkeeps.restarted, hcarry.restarted, hw.status]
      exact hrec
    · refine .inr ⟨⟨node, hmem, hw.name ▸ howned, hshows⟩, ?_⟩
      rw [hkeeps.restarted, ← hw.generation]
      exact hver

/-! ## A whole pass -/

/-- Nothing is being deleted or started twice, and each rollout is accounted for. -/
structure Settled (s : Server) (l : List Event) : Prop where
  past : ∀ v ∈ s.tunings.past, v.val.deletionTimestamp = none
  distinct : (cordons l).Nodup
  answered : ∀ k ∈ cordons l, Answered s (fun _ => False) k

theorem Ledger.settled_of_not_verifying (hl : Ledger s l c env work [] p) (hv : ¬Verifying s c.name) :
    Settled p.server (l ++ p.log) := by
  refine ⟨hl.past, hl.distinct, fun k hk => (hl.answered k hk).of_sameCores (SameCores.refl _) ?_ ?_⟩
  · intro m hm ho
    exact .inl ⟨m, hm, ho⟩
  · intro hheld
    exact hv hheld.1

theorem Ledger.settled_of_written {s' : Server} {nt' : Stamped NodeTuning} (hok : RecordKept r s c env)
    (hwork : r.workOf s.nodes.items c = .ok work) (hnodup : (work.map Node.name).Nodup) (ha : p.alive = true)
    (hw : Walk c p) (hl : Ledger s l c env work [] p) (hstatus : env.status = .ok)
    (hp : p.server.patchStatus p.nt.val.name p.nt.val.generation p.entries = .ok (s', nt')) :
    Settled s' (l ++ p.log) := by
  obtain ⟨hnodes, -, htunings⟩ := Server.patchStatus_cases hp
  have hnames : p.newNodes.map name = work.map Node.name := by simpa using hl.names ha
  refine ⟨?_, hl.distinct, ?_⟩
  · intro v hv
    rw [htunings] at hv
    rcases past_modify hv with hv | ⟨b, hb, rfl⟩
    · exact hl.past v hv
    · exact hl.past b (past_of_get? hb).1
  · intro k hk
    obtain ⟨nt, hnt, hle, hans⟩ := hl.answered k hk
    have hvalue := Server.value?_patchStatus hp k.tuning
    rw [hnt] at hvalue
    by_cases htuning : k.tuning = p.nt.val.name
    · rw [if_pos htuning] at hvalue
      refine ⟨_, hvalue, hle, ?_⟩
      intro hgen
      -- the entry that carries the record is among those written
      have hentry : ∀ g, nt.generation = g → (∃ e ∈ p.newNodes, e.name = k.node ∧ restartedForGeneration e g = true) →
          RecordedAt (nt.withComputed p.nt.val.generation (p.entries.map wire)) nt.generation k.node := by
        rintro g rfl ⟨e, he, hname, hrec⟩
        rw [← hname]
        exact recordedAt_withComputed (hnames ▸ hnodup) he hrec nt
      have hlive : ∃ live, s.tunings.value? c.name = some live ∧ live.generation = nt.generation ∧ live.status = nt.status := by
        obtain ⟨live, hlive, hgen, hst, -⟩ := hl.cores.symm.value? hnt
        exact ⟨live, by rw [← hw.name, ← htuning]; exact hlive, hgen, hst⟩
      obtain ⟨live, hlive, hlgen, hlstatus⟩ := hlive
      have hverifying : Verifying s c.name → nt.generation = c.generation := by
        intro hv
        obtain ⟨⟨live', hlive', hgen'⟩, -⟩ := hok.verifies hv
        rw [hlive] at hlive'
        cases hlive'
        rw [← hlgen, hgen']
      rcases hans hgen with ⟨m, hm, ho⟩ | hrec | ⟨hv, -, hheld⟩
      · exact .inl ⟨m, by rw [hnodes]; exact hm, ho⟩
      · refine .inr (.inl ?_)
        have hreclive : RecordedAt live live.generation k.node := by
          rw [RecordedAt, hlstatus, hlgen]
          exact hrec
        obtain ⟨hreccopy, hsel⟩ := hok.writes hstatus live hlive k.node hreclive
        have hin : k.node ∈ p.newNodes.map name := hnames ▸ hsel work hwork
        obtain ⟨e, he, hname⟩ := mem_map.mp hin
        rw [← hname] at hreccopy
        rcases hl.carried ha e he live.generation hreccopy with hrec' | ⟨hv, hrec'⟩
        · exact hentry live.generation hlgen.symm ⟨e, he, hname, hrec'⟩
        · exact hentry c.generation (hverifying hv) ⟨e, he, hname, hrec'⟩
      · exact .inr (.inl (hentry c.generation (hverifying hv) hheld))
    · rw [if_neg htuning] at hvalue
      refine ⟨nt, hvalue, hle, ?_⟩
      intro hgen
      rcases hans hgen with ⟨m, hm, ho⟩ | hrec | ⟨-, hk', -⟩
      · exact .inl ⟨m, by rw [hnodes]; exact hm, ho⟩
      · exact .inr (.inl hrec)
      · exact absurd (hk'.trans hw.name.symm) htuning

theorem settled_pass {copy : Stamped NodeTuning}
    (hcopy : copy ∈ s.tunings.past) (hok : RecordKept r s copy.val env) (h : Settled s l) :
    Settled (r.reconcile env s copy).1.server (l ++ (r.reconcile env s copy).1.log) := by
  have hc := h.past copy hcopy
  rcases reconcile_cases r env s copy with ⟨hs, hlog⟩ | ⟨hd, -⟩ | ⟨-, work, all, hwork, -, hend⟩
  · rw [hs, hlog, append_nil]
    exact h
  · rw [hc] at hd
    cases hd
  obtain ⟨hnodup, hsub, -⟩ := workOf_ok s.nodes.nodup hwork
  generalize hp : work.foldl (r.reconcileNode env s.nodes.items all) (NodeTuningReconciler.begin_ s copy) = p at hend
  have hloop : Ledger s l copy.val env work [] p ∧ Walk copy.val p := by
    rw [← hp]
    refine loop_induct (c := copy.val) (I := fun rest p => Ledger s l copy.val env work rest p ∧ Walk copy.val p) ?_ ?_ work _
      (walk_begin hcopy) hnodup (fun m hm => Keyed.get?_of_mem (hsub m hm)) ⟨?_, walk_begin hcopy⟩
    · rintro node rest p ha ⟨hl, hw⟩
      refine ⟨⟨hl.cores, hl.past, hl.alive, hl.distinct, hl.answered, ?_, hl.carried, ?_⟩, hw⟩
      · intro ha'
        rw [ha] at ha'
        cases ha'
      · exact fun m hm => hl.listed m (mem_cons_of_mem _ hm)
    · rintro node rest p owned entry q ha hw hn - ⟨hl, -⟩ ht
      exact ⟨ledger_turn hok hc hnodup ha hw hn hl ht, (ht.walk hw).note _ _⟩
    · refine ⟨SameCores.refl _, h.past, fun _ => rfl, ?_, ?_, fun _ => rfl, ?_, hsub⟩
      · simpa [NodeTuningReconciler.begin_] using h.distinct
      · intro k hk
        have hk' : k ∈ cordons l := by simpa [NodeTuningReconciler.begin_] using hk
        refine (h.answered k hk').of_sameCores (SameCores.refl _) ?_ (fun hf => hf.elim)
        intro m hm ho
        exact .inl ⟨m, hm, ho⟩
      · intro _ e he
        cases he
  obtain ⟨hl, hw⟩ := hloop
  rcases hend with ⟨hdead, heq⟩ | ⟨ha, heq⟩
  · rw [heq]
    refine hl.settled_of_not_verifying fun hv => ?_
    rw [hl.alive (hok.verifies hv).2] at hdead
    cases hdead
  · rw [heq]
    obtain ⟨hlog, ⟨hs, hlost⟩ | ⟨s', nt', hstatus, hpatch, hfinal⟩⟩ := finishPass_cases env p
    · rw [hs, hlog]
      refine hl.settled_of_not_verifying fun hv => ?_
      obtain ⟨⟨live, hlive, -⟩, hlossless⟩ := hok.verifies hv
      rcases hlost with hlost | hlost
      · exact hlost hlossless.1
      obtain ⟨nt', hnt', -⟩ := hl.cores.value? hlive
      rw [← hw.name, value?, hlost] at hnt'
      cases hnt'
    · have hwritten := hl.settled_of_written hok hwork hnodup ha hw hstatus hpatch
      rw [hlog]
      rcases hfinal with hs | ⟨-, s'', nt'', hu, hs⟩
      · rw [hs]
        exact hwritten
      rw [hs]
      have hget := (Server.patchStatus_cases hpatch).2.1
      have hnt' : nt' ∈ s'.tunings.past := (past_of_get? hget).1
      have hw' : Walk nt'.val { p with server := s', nt := nt' } :=
        ⟨⟨nt'.val.finalizers, rfl⟩, ⟨nt', hnt', rfl, nt'.val.finalizers, rfl⟩⟩
      have hdel := hwritten.past nt' hnt'
      obtain ⟨hcores, hversions⟩ := hw'.update_cores hu (.inl hdel)
      obtain ⟨cur, -, -, hnodes, -⟩ := Server.update_cases hu
      refine ⟨?_, hwritten.distinct, fun k hk => (hwritten.answered k hk).of_sameCores hcores ?_ (fun hf => hf)⟩
      · intro v hv
        rcases hversions v hv with hv | hv
        · exact hwritten.past v hv
        · rw [hv, hdel]
      · intro m hm ho
        exact .inl ⟨m, by rw [hnodes]; exact hm, ho⟩

/-! ## The other steps -/

theorem existingNodeStatus_upsertObserved (y : String) (o : ObservedTuning) (nodes : List NodeTuningNodeStatus) (x : String) :
    existingNodeStatus (upsertObserved y o nodes) x =
      if x = y then { existingNodeStatus nodes x with observed := o } else existingNodeStatus nodes x := by
  induction nodes with
  | nil =>
    by_cases hx : x = y
    · simp [upsertObserved, existingNodeStatus, zero, hx]
    · have hne : ¬y = x := fun h => hx h.symm
      simp [upsertObserved, existingNodeStatus, zero, hx, hne]
  | cons ns rest ih =>
    unfold existingNodeStatus at ih ⊢
    by_cases hy : ns.name = y
    · by_cases hx : x = y
      · simp [upsertObserved, hy, hx]
      · have hne : ¬y = x := fun h => hx h.symm
        simp [upsertObserved, hy, hx, hne]
    · by_cases hns : ns.name = x
      · have hx : ¬x = y := fun h => hy (hns.trans h)
        simp [upsertObserved, hns, hx]
      · simp only [upsertObserved, if_neg hy, List.find?_cons, beq_eq_false_iff_ne.mpr hns]
        exact ih

theorem recordedAt_withObserved (y : String) (o : ObservedTuning) (nt : NodeTuning) (g : Nat) (x : String) :
    RecordedAt (nt.withObserved y o) g x ↔ RecordedAt nt g x := by
  unfold RecordedAt NodeTuning.withObserved
  rw [existingNodeStatus_upsertObserved]
  split <;> rfl

theorem ownedBy_onNode {a : Action} {n : Node} (h : ∀ x, a ≠ .clearStarted x) (name : String) :
    rolloutOwnedBy (a.onNode n) name = rolloutOwnedBy n name := by
  have hkey : ∀ k, k ≠ .unit → k ≠ .unitActiveEnter → k ≠ .approval → (a.onNode n).annotations k = n.annotations k := by
    intro k h1 h2 h3
    rcases annotations_onNode a n h1 h2 h3 with heq | ⟨-, hclear, -⟩
    · exact heq
    · exact absurd hclear (h n.name)
  simp [rolloutOwnedBy, rolloutInFlight, Annotations.raw, hkey]

/-- An edit keeps rollouts accounted for. -/
theorem Answered.of_edit (h : Answered s (fun _ => False) k) (name : String)
    (f : NodeTuning → NodeTuning) (hf : ∀ n, (f n).name = n.name)
    (hgen : ∀ nt, (f nt).generation = nt.generation ∧ (∀ x, RecordedAt nt nt.generation x → RecordedAt (f nt) nt.generation x) ∨
      nt.generation < (f nt).generation) : Answered (s.editTuning name f hf) (fun _ => False) k := by
  obtain ⟨nt, hnt, hle, hk⟩ := h
  have hvalue : (s.editTuning name f hf).tunings.value? k.tuning =
      if k.tuning = name then (s.tunings.value? k.tuning).map f else s.tunings.value? k.tuning :=
    value?_modify s.tunings name f hf k.tuning
  rw [hnt] at hvalue
  by_cases hname : k.tuning = name
  · rw [if_pos hname] at hvalue
    refine ⟨f nt, hvalue, ?_, ?_⟩
    · rcases hgen nt with ⟨hg, -⟩ | hlt <;> omega
    · intro heq
      rcases hgen nt with ⟨hg, hrec⟩ | hlt
      · rcases hk (heq.trans hg) with hfl | hr | hf
        · exact .inl hfl
        · exact .inr (.inl (hg ▸ hrec _ hr))
        · exact hf.elim
      · omega
  · rw [if_neg hname] at hvalue
    exact ⟨nt, hvalue, hle, hk⟩

theorem past_editTuning {name : String} {f : NodeTuning → NodeTuning} {hf : ∀ n, (f n).name = n.name}
    (h : ∀ v ∈ s.tunings.past, v.val.deletionTimestamp = none) (hd : ∀ nt, (f nt).deletionTimestamp = nt.deletionTimestamp) :
    ∀ v ∈ (s.editTuning name f hf).tunings.past, v.val.deletionTimestamp = none := by
  intro v hv
  rcases past_modify hv with hv | ⟨b, hb, rfl⟩
  · exact h v hv
  · rw [hd]
    exact h b (past_of_get? hb).1

theorem settled_step {a : Action} (hok : StepKeepsRecord r s a)
    (h : Settled s l) : Settled (step r s a).1 (l ++ (step r s a).2) := by
  -- a step that changes only Nodes, and no owner of one
  have hnodes : a.isPass = false → (∀ x, a ≠ .clearStarted x) → (step r s a).1.tunings = s.tunings →
      Settled (step r s a).1 (l ++ (step r s a).2) := by
    intro hp hclear ht
    obtain ⟨hlog, hget⟩ := step_other r (s := s) hp
    rw [hlog, append_nil]
    refine ⟨by rw [ht]; exact h.past, h.distinct, fun k hk => ?_⟩
    refine (h.answered k hk).of_sameCores (by rw [ht]; exact SameCores.refl _) ?_ (fun hf => hf)
    intro m hm ho
    exact .inl ⟨a.onNode m, by rw [hget, hm, Option.map_some], by rw [ownedBy_onNode hclear]; exact ho⟩
  cases a with
  | pass version env =>
    rcases step_pass r s version env with ⟨heq, -⟩ | ⟨copy, hcopy, hv, heq⟩
    · rw [heq, append_nil]
      exact h
    · rw [heq]
      exact settled_pass hcopy (hok copy hv) h
  | clearStarted node => exact hok.elim
  | delete tuning now => exact hok.elim
  | publish node unit activeEnter migProfile => exact hnodes rfl (nofun) rfl
  | setConditions node conditions => exact hnodes rfl (nofun) rfl
  | relabel node labels => exact hnodes rfl (nofun) rfl
  | approve node value => exact hnodes rfl (nofun) rfl
  | patchObserved tuning node observed =>
    simp only [step, append_nil]
    refine ⟨past_editTuning h.past (fun _ => rfl), h.distinct, fun k hk => (h.answered k hk).of_edit _ _ _ fun nt => ?_⟩
    exact .inl ⟨rfl, fun x hx => (recordedAt_withObserved node observed nt _ x).mpr hx⟩
  | editSpec tuning spec =>
    simp only [step, append_nil]
    refine ⟨past_editTuning h.past (fun _ => rfl), h.distinct, fun k hk => (h.answered k hk).of_edit _ _ _ fun nt => ?_⟩
    by_cases hspec : spec = nt.spec
    · exact .inl ⟨by simp [NodeTuning.edited, hspec], fun x hx => hx⟩
    · exact .inr (by simp [NodeTuning.edited, hspec])
  | create name finalizers spec =>
    simp only [step, append_nil]
    refine ⟨?_, h.distinct, ?_⟩
    · intro v hv
      rcases past_create hv with hv | ⟨rfl, -⟩
      · exact h.past v hv
      · rfl
    · intro k hk
      obtain ⟨nt, hnt, hle, hans⟩ := h.answered k hk
      exact ⟨nt, value?_create_of_some hnt, hle, hans⟩

/-- Where the record is kept, no node is cordoned twice by one NodeTuning for one generation. -/
theorem one_restart_per_approval (r : NodeTuningReconciler) (s : Server)
    (h : ∀ v ∈ s.tunings.past, v.val.deletionTimestamp = none) (actions : List Action)
    (hok : Meets (step r) (StepKeepsRecord r) s actions) : (cordons (run (step r) s actions).2).Nodup := by
  have hrun : Settled (run (step r) s actions).1 (run (step r) s actions).2 := by
    refine run_induct ⟨h, nodup_nil, nofun⟩ ?_ actions hok
    intro s l a hs ha
    exact settled_step ha hs
  exact hrun.distinct

/-! ## Runs that keep the record, and one that does not -/

def currentPass (r : NodeTuningReconciler) (s : Server) (version : Nat) : Bool :=
  (s.tunings.past[version]?).all fun c =>
    decide (s.tunings.value? c.val.name = some c.val) &&
      match r.workOf s.nodes.items c.val with
      | .error _ => true
      | .ok work => c.val.status.nodes.all fun e => (work.map Node.name).contains e.name

theorem mem_of_recordedAt {nt : NodeTuning} {g : Nat} {x : String} (h : RecordedAt nt g x) :
    ∃ e ∈ nt.status.nodes, e.name = x := by
  unfold RecordedAt existingNodeStatus at h
  cases hf : nt.status.nodes.find? (fun n => n.name == x) with
  | none =>
    rw [hf] at h
    simp [restartedForGeneration, zero] at h
  | some e =>
    have hname := List.find?_some hf
    exact ⟨e, mem_of_find?_eq_some hf, by simpa using hname⟩

/-- A current pass that loses nothing keeps the record. -/
theorem stepKeepsRecord_of_current {version : Nat}
    (h : currentPass r s version = true) (hl : env.Lossless) : StepKeepsRecord r s (.pass version env) := by
  intro copy hcopy
  unfold currentPass at h
  rw [hcopy, Option.all_some, Bool.and_eq_true, decide_eq_true_eq] at h
  obtain ⟨hlive, hsel⟩ := h
  refine ⟨fun _ => ⟨copy.val, hlive, rfl, fun x hx => hx⟩, fun _ => ⟨⟨copy.val, hlive, rfl⟩, hl⟩, ?_⟩
  intro _ live hlive' x hx
  rw [hlive] at hlive'
  cases hlive'
  refine ⟨hx, fun work hwork => ?_⟩
  rw [hwork] at hsel
  obtain ⟨e, he, rfl⟩ := mem_of_recordedAt hx
  simpa using all_eq_true.mp hsel e he

namespace TuningFixture

/-- A cluster of one worker and one NodeTuning, before any pass. -/
def single : Server where
  nodes := ⟨[worker "a" named_a], by decide⟩
  tunings := Versioned.empty.create tuning

/-- A pass that loses its status write. -/
def lossyEnv (now : Time) : PassEnv := { passEnv now with status := .err "the server is currently unable to handle the request" }

/-- A whole rollout and one more pass, each on the live version. -/
def rollout : List Action :=
  [.pass 0 (passEnv 2000), .pass 2 (passEnv 3000), .publish "a" "k3s-agent" (some 4000) "", .pass 3 (passEnv 5000),
    .pass 4 (passEnv 6000)]

/-- The same, but the pass that verifies the restart loses its status write. -/
def lostRecord : List Action :=
  [.pass 0 (passEnv 2000), .pass 2 (passEnv 3000), .publish "a" "k3s-agent" (some 4000) "", .pass 3 (lossyEnv 5000),
    .pass 3 (passEnv 6000)]

theorem lossless_passEnv (now : Time) : (passEnv now).Lossless := by
  refine ⟨rfl, fun x => ⟨?_, ?_⟩⟩ <;> simp [passEnv, nodeEnv]

end TuningFixture

set_option maxRecDepth 4000

open TuningFixture in
/-- A rollout whose record is kept is not started again. -/
theorem one_restart_per_approval_rollout :
    (run (step reconciler) single rollout).2.map Event.op =
        [.cordon 2000 "t", .request 1000 3000, .uncordon] ∧
      (cordons (run (step reconciler) single rollout).2).Nodup :=
  ⟨by decide +kernel, one_restart_per_approval reconciler single (by decide +kernel) rollout
    ⟨stepKeepsRecord_of_current (by decide +kernel) (lossless_passEnv _),
      stepKeepsRecord_of_current (by decide +kernel) (lossless_passEnv _), trivial,
      stepKeepsRecord_of_current (by decide +kernel) (lossless_passEnv _),
      stepKeepsRecord_of_current (by decide +kernel) (lossless_passEnv _), trivial⟩⟩

open TuningFixture in
/-- The status write of the pass that verified the restart fails, and the node is cordoned again on one approval. -/
theorem restarted_twice :
    cordons (run (step reconciler) single lostRecord).2 = [⟨"t", "a", 1⟩, ⟨"t", "a", 1⟩] ∧
      ¬(cordons (run (step reconciler) single lostRecord).2).Nodup := by
  decide +kernel

end FrameOperator
