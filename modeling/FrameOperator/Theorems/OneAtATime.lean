import FrameOperator.Lemmas.Actions

/-!
# One node at a time

The campaign lock of a pass names every node that is in flight on the server (`LockInv`), and every turn of the loop moves it along.
So from a server with at most one node in flight no run ever has two.
-/

namespace FrameOperator

open Keyed

/-- At most one Node carries the started annotation. -/
def AtMostOneInFlight (s : Server) : Prop :=
  ∀ a ∈ s.nodes.items, ∀ b ∈ s.nodes.items, rolloutInFlight a = true → rolloutInFlight b = true → a.name = b.name
deriving Decidable

/-- Only the node of the lock is in flight. -/
def LockInv (p : Pass) : Prop := ∀ m ∈ p.server.nodes.items, rolloutInFlight m = true → m.name = p.lock

structure WriteOk (e : Event) : Prop where
  before : AtMostOneInFlight e.before
  alone : ∀ now owner, e.op = .cordon now owner → ∀ m ∈ e.before.nodes.items, rolloutInFlight m = true → m.name = e.node.name
  ready : ∀ now owner, e.op = .cordon now owner → ∀ m ∈ e.listed, nodeIsReady m = true

theorem LockInv.atMostOne {p : Pass} (h : LockInv p) : AtMostOneInFlight p.server := by
  intro a ha b hb hfa hfb
  rw [h a ha hfa, h b hb hfb]

variable {s : Server}

theorem lockInv_begin (h : AtMostOneInFlight s) (nt : Stamped NodeTuning) :
    LockInv (NodeTuningReconciler.begin_ s nt) := by
  intro m hm hf
  have hlock : (NodeTuningReconciler.begin_ s nt).lock = newCampaignLock s.nodes.items := rfl
  rw [hlock, newCampaignLock]
  cases hfind : s.nodes.items.find? rolloutInFlight with
  | none =>
    have := List.find?_eq_none.mp hfind m hm
    exact absurd hf this
  | some a => exact h m hm a (List.mem_of_find?_eq_some hfind) hf (List.find?_some hfind)

theorem heldByOther_eq_empty {lock name : String} (h : heldByOther lock name = "") : lock = "" ∨ lock = name := by
  unfold heldByOther at h
  split at h
  · rename_i hc
    exact absurd h hc.1
  rename_i hc
  by_cases hl : lock = ""
  · exact .inl hl
  · exact .inr (not_not.mp fun hn => hc ⟨hl, hn⟩)

theorem lockInv_turn {env : NodeEnv} {listed : List Node} {node : Node} {p q : Pass} {owned : Bool}
    {entry : NodeTuningNodeStatus} {c : NodeTuning} (hw : Walk c p) (hn : p.server.nodes.get? node.name = some node)
    (ht : Turn env listed node p owned entry q) (hlock : LockInv p) (hlog : ∀ e ∈ p.log, WriteOk e) :
    LockInv q ∧ ∀ e ∈ q.log, WriteOk e := by
  have hmem : node ∈ p.server.nodes.items := mem_of_get? hn
  cases ht with
  | kept | died => exact ⟨hlock, hlog⟩
  | driven howned hhalted hd _ =>
    have hnode : node.name = p.lock := hlock node hmem (inFlight_of_ownedBy howned)
    refine ⟨?_, ?_⟩
    · intro m hm hf
      rcases Server.mem_patchNode hn hm with rfl | ⟨hm', hne⟩
      · rw [rolloutInFlight_mutate] at hf
        cases hd with
        | fail | request => exact hnode
        | verify unit _ _ _ _ _ => simp [NodeOp.leavesInFlight] at hf
      · exact absurd (hlock m hm' hf) (hnode ▸ hne)
    · refine forall_mem_snoc hlog ⟨hlock.atMostOne, ?_, ?_⟩
      · intro now owner hop
        cases hd <;> cases hop
      · intro now owner hop
        cases hd <;> cases hop
  | unfinalized _ hf _ | uncordoned _ hf _ | diedCordoning _ hf _ =>
    have hsame := (ensureFinalizer_walk hw hf).2
    exact ⟨by simpa [LockInv, hsame.nodes, hsame.lock] using hlock, by simpa [hsame.log] using hlog⟩
  | @cordoned _ p₁ hstarts hf _ _ =>
    have hsame := (ensureFinalizer_walk hw hf).2
    have hlock₁ : LockInv p₁ := by simpa [LockInv, hsame.nodes, hsame.lock] using hlock
    have hlog₁ : ∀ e ∈ p₁.log, WriteOk e := by simpa [hsame.log] using hlog
    have hn₁ : p₁.server.nodes.get? node.name = some node := by rw [hsame.nodes]; exact hn
    -- a lock that is free, or held by the node itself, leaves no other node in flight
    have halone : ∀ m ∈ p₁.server.nodes.items, rolloutInFlight m = true → m.name = node.name := by
      intro m hm hfm
      have hml := hlock₁ m hm hfm
      rw [hsame.lock] at hml
      rcases heldByOther_eq_empty hstarts.unlocked with hl | hl
      · exact absurd (hml.trans hl) m.named
      · exact hml.trans hl
    refine ⟨?_, ?_⟩
    · intro m hm hfm
      rcases Server.mem_patchNode hn₁ hm with rfl | ⟨hm', hne⟩
      · rfl
      · exact absurd (halone m hm' hfm) hne
    · exact forall_mem_snoc hlog₁ ⟨hlock₁.atMostOne, fun _ _ _ => halone, fun _ _ _ => (startRefusal_eq_none hstarts.admitted).1⟩

theorem lockInv_release {env : NodeEnv} {listed : List Node} {node : Node} {p q : Pass} {res : Except String Unit}
    (hn : p.server.nodes.get? node.name = some node) (h : Release env listed node p q res) (hlock : LockInv p)
    (hlog : ∀ e ∈ p.log, WriteOk e) : LockInv q ∧ ∀ e ∈ q.log, WriteOk e := by
  cases h with
  | skipped | failed | died => exact ⟨hlock, hlog⟩
  | released _ _ =>
    refine ⟨?_, ?_⟩
    · intro m hm hf
      rcases Server.mem_patchNode hn hm with rfl | ⟨hm, -⟩
      · rw [rolloutInFlight_mutate] at hf
        simp [NodeOp.leavesInFlight] at hf
      · exact hlock m hm hf
    · exact forall_mem_snoc hlog ⟨hlock.atMostOne, fun _ _ hop => by simp at hop, fun _ _ hop => by simp at hop⟩

variable (r : NodeTuningReconciler) {nt : Stamped NodeTuning}

theorem atMostOne_pass (env : PassEnv) (hnt : nt ∈ s.tunings.past) (h : AtMostOneInFlight s) :
    AtMostOneInFlight (r.reconcile env s nt).1.server ∧ ∀ e ∈ (r.reconcile env s nt).1.log, WriteOk e := by
  refine reconcile_induct hnt (I := fun p => LockInv p ∧ ∀ e ∈ p.log, WriteOk e)
    (J := fun nodes log => AtMostOneInFlight ⟨nodes, s.tunings⟩ ∧ ∀ e ∈ log, WriteOk e) ?_ ?_ ?_ ?_ ?_
  · rintro p ⟨hlock, hlog⟩
    exact ⟨hlock.atMostOne, hlog⟩
  · exact ⟨lockInv_begin h nt, by simp [NodeTuningReconciler.begin_]⟩
  · rintro p owned entry hp
    exact hp
  · rintro node p owned entry q - hw hn - ⟨hlock, hlog⟩ ht
    exact lockInv_turn hw hn ht hlock hlog
  · rintro node p q res - - hn - ⟨hlock, hlog⟩ hr
    exact lockInv_release hn hr hlock hlog

/-- Every node in flight after some writes was in flight before, or was cordoned by one of them. -/
def Accounted (s : Server) (nodes : Keyed Node Node.name) (log : List Event) : Prop :=
  ∀ m ∈ nodes.items, rolloutInFlight m = true →
    (∃ n, s.nodes.get? m.name = some n ∧ rolloutInFlight n = true) ∨
      ∃ e ∈ log, e.node.name = m.name ∧ ∃ now owner, e.op = .cordon now owner

theorem accounted_pass (env : PassEnv)
    (hnt : nt ∈ s.tunings.past) : Accounted s (r.reconcile env s nt).1.server.nodes (r.reconcile env s nt).1.log := by
  have hedited := edited_pass r env hnt
  intro m hm hf
  have hget := get?_of_mem hm
  by_cases hwritten : ∃ e ∈ (r.reconcile env s nt).1.log, e.node.name = m.name
  · obtain ⟨e, he, hname⟩ := hwritten
    obtain ⟨hbefore, hafter⟩ := hedited.written e he
    rw [hname, hget] at hafter
    rw [Option.some.inj hafter, rolloutInFlight_mutate] at hf
    rw [hname] at hbefore
    -- the edits that leave a node in flight are the cordon and those of a node that is in flight
    cases hop : e.op with
    | cordon now owner => exact .inr ⟨e, he, hname, now, owner, hop⟩
    | request | fail => exact .inl ⟨e.node, hbefore, by simpa [hop, NodeOp.leavesInFlight] using hf⟩
    | uncordon | release => simp [hop, NodeOp.leavesInFlight] at hf
  · rw [hedited.untouched m.name fun e he hname => hwritten ⟨e, he, hname⟩] at hget
    exact .inl ⟨m, hget, hf⟩

theorem atMostOne_step (a : Action) (h : AtMostOneInFlight s) :
    AtMostOneInFlight (step r s a).1 ∧ ∀ e ∈ (step r s a).2, WriteOk e := by
  cases hp : a.isPass with
  | false =>
    obtain ⟨hlog, hget⟩ := step_other r (s := s) hp
    refine ⟨?_, by simp [hlog]⟩
    have hold : ∀ m ∈ (step r s a).1.nodes.items, rolloutInFlight m = true →
        ∃ n ∈ s.nodes.items, n.name = m.name ∧ rolloutInFlight n = true := by
      intro m hm hf
      have hg := get?_of_mem hm
      rw [hget] at hg
      obtain ⟨n, hn, rfl⟩ := Option.map_eq_some_iff.mp hg
      exact ⟨n, mem_of_get? hn, (name_onNode a n).symm, inFlight_of_onNode hf⟩
    intro m hm m' hm' hf hf'
    obtain ⟨n, hn, hname, hfn⟩ := hold m hm hf
    obtain ⟨n', hn', hname', hfn'⟩ := hold m' hm' hf'
    rw [← hname, ← hname']
    exact h n hn n' hn' hfn hfn'
  | true =>
    cases a with
    | pass version env =>
      rcases step_pass r s version env with ⟨heq, -⟩ | ⟨copy, hcopy, -, heq⟩
      · rw [heq]
        exact ⟨h, by simp⟩
      · rw [heq]
        exact atMostOne_pass r env hcopy h
    | _ => cases hp

theorem accounted_step (s : Server) (a : Action) :
    Accounted s (step r s a).1.nodes (step r s a).2 := by
  cases hp : a.isPass with
  | false =>
    obtain ⟨-, hget⟩ := step_other r (s := s) hp
    intro m hm hf
    have hg := get?_of_mem hm
    rw [hget] at hg
    obtain ⟨n, hn, rfl⟩ := Option.map_eq_some_iff.mp hg
    exact .inl ⟨n, hn, inFlight_of_onNode hf⟩
  | true =>
    cases a with
    | pass version env =>
      rcases step_pass r s version env with ⟨heq, -⟩ | ⟨copy, hcopy, -, heq⟩
      · rw [heq]
        intro m hm hf
        exact .inl ⟨m, get?_of_mem hm, hf⟩
      · rw [heq]
        exact accounted_pass r env hcopy
    | _ => cases hp

/-- No run ever has two nodes in flight, and each is cordoned while none is and all that are listed are Ready. -/
theorem one_node_at_a_time (r : NodeTuningReconciler) (s : Server) (h : AtMostOneInFlight s) (actions : List Action) :
    AtMostOneInFlight (run (step r) s actions).1 ∧
      (∀ e ∈ (run (step r) s actions).2, AtMostOneInFlight e.before ∧ ∀ now owner, e.op = .cordon now owner →
        (∀ m ∈ e.before.nodes.items, rolloutInFlight m = true → m.name = e.node.name) ∧
          ∀ m ∈ e.listed, nodeIsReady m = true) ∧
      ∀ a, Accounted (run (step r) s actions).1 (step r (run (step r) s actions).1 a).1.nodes
        (step r (run (step r) s actions).1 a).2 := by
  have hrun : AtMostOneInFlight (run (step r) s actions).1 ∧ ∀ e ∈ (run (step r) s actions).2, WriteOk e := by
    refine run_induct (I := fun s l => AtMostOneInFlight s ∧ ∀ e ∈ l, WriteOk e) ⟨h, by simp⟩ ?_ actions
      (meets_true s actions)
    rintro s l a ⟨hs, hl⟩ -
    obtain ⟨hs', hl'⟩ := atMostOne_step r a hs
    exact ⟨hs', List.forall_mem_append.mpr ⟨hl, hl'⟩⟩
  refine ⟨hrun.1, ?_, fun a => accounted_step r _ a⟩
  intro e he
  have hok := hrun.2 e he
  exact ⟨hok.before, fun now owner hop => ⟨hok.alone now owner hop, hok.ready now owner hop⟩⟩

/-! ## A cluster in which a rollout runs -/

namespace TuningFixture

def requirement (q : LabelSelectorRequirement) : Except String (Labels → Bool) :=
  if q.operator = "In" then .ok (fun l => (l q.key).any q.values.contains)
  else if q.operator = "NotIn" then .ok (fun l => !(l q.key).any q.values.contains)
  else if q.operator = "Exists" then .ok (fun l => (l q.key).isSome)
  else if q.operator = "DoesNotExist" then .ok (fun l => (l q.key).isNone)
  else .error (goQuote q.operator ++ " is not a valid label selector operator")

def selector (sel : LabelSelector) : Except String (Labels → Bool) :=
  sel.matchExpressions.foldl
    (fun acc q => acc.bind fun f => (requirement q).map fun g => fun l => f l && g l)
    (.ok fun l => sel.matchLabels.all fun (k, v) => l k == some v)

def reconciler : NodeTuningReconciler where
  drainTimeoutField := 0
  restartTimeoutField := 0
  labelSelectorAsSelector := selector

def worker (name : String) (named : name ≠ "") : Node where
  name := name
  labels := fun k => if k = "role" then some "worker" else none
  annotations := fun
    | .approval => some (.text "1")
    | .unit => some (.text "k3s-agent")
    | .unitActiveEnter => some (.stamp 1000)
    | _ => none
  unschedulable := false
  conditions := [⟨"Ready", .isTrue⟩]
  named := named

def tuning : NodeTuning :=
  .created "t" []
    { nodeSelector := some ⟨[("role", "worker")], []⟩
      tunedProfile := ""
      ksm := some ⟨true, none, none, none⟩
      migProfile := "" }

theorem named_a : "a" ≠ "" := by decide

def nodes : Keyed Node Node.name where
  items := [worker "a" named_a, worker "b" (by decide)]
  nodup := by decide

def server : Server where
  nodes := nodes
  tunings := Versioned.empty.create tuning

def nodeEnv (now : Time) : NodeEnv where
  now := now
  pods := .ok []
  finalizer := .ok
  patch := .ok
  podsAfter := .ok []

def passEnv (now : Time) : PassEnv where
  listNodes := .ok ()
  listTunings := .ok [tuning]
  node := fun _ => nodeEnv now
  status := .ok
  dropFinalizer := .ok

/-- Both workers, one after the other: cordon, request, the agent's answer. -/
def rollouts : List Action :=
  [.pass 0 (passEnv 2000), .pass 2 (passEnv 3000), .publish "a" "k3s-agent" (some 4000) "", .pass 2 (passEnv 5000)]

end TuningFixture

open TuningFixture in
set_option maxRecDepth 4000 in
/-- In the rollout of two workers the second is cordoned by the very pass that uncordons the first. -/
theorem one_node_at_a_time_rollouts :
    AtMostOneInFlight server ∧
      (run (step reconciler) server rollouts).2.map (fun e => (e.op, e.node.name)) =
        [(.cordon 2000 "t", "a"), (.request 1000 3000, "a"), (.uncordon, "a"), (.cordon 5000 "t", "b")] ∧
      AtMostOneInFlight (run (step reconciler) server rollouts).1 :=
  ⟨by decide, by decide,
    (one_node_at_a_time reconciler server (by decide) rollouts).1⟩

end FrameOperator
