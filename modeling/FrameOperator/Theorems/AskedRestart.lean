import FrameOperator.Tuning.Fleet
import FrameOperator.Theorems.OneAtATime

/-!
# A verified restart is one that was asked for

The baseline of a restart request is the timestamp the agent last published. A unit that restarts by itself between that and the
request is taken for the restart that was asked for (`verified_without_restart`).
-/

namespace FrameOperator

open Keyed

variable {f : Fleet} {log : List FleetEvent} {s' : Server} {name x : String} {node : Node} {e : Event}

/-! ## What is seen of a rollout -/

/-- The event asks for the restart of this node. -/
def requestsOn (x : String) (e : Event) : Bool :=
  match e.op with
  | .request _ _ => e.node.name == x
  | _ => false

/-- The unit of this node enters the active state. -/
def activates (x : String) : FleetEvent → Bool
  | .activated y _ => y == x
  | .wrote _ => false

/-- What has been seen since the last request for a restart of the node, after one more event. -/
def afterEvent (x : String) (since : Option (List FleetEvent)) (ev : FleetEvent) : Option (List FleetEvent) :=
  match ev with
  | .activated _ _ => since.map (· ++ [ev])
  | .wrote e => if requestsOn x e then some [] else if startsOn x e then none else since.map (· ++ [ev])

/-- What has been seen since the last request of the node's last rollout, if it made one. -/
def sinceRequest (x : String) (log : List FleetEvent) : Option (List FleetEvent) := log.foldl (afterEvent x) none

/-- The node's last rollout asked for a restart, and since then its unit entered the active state. -/
def askedFor (x : String) (log : List FleetEvent) : Bool := (sinceRequest x log).any (·.any (activates x))

/-- A write that verifies a restart and uncordons the node comes after a restart that was asked for. -/
def VerifiesAsked (log : List FleetEvent) : FleetEvent → Prop
  | .wrote e => e.op = .uncordon → askedFor e.node.name log = true
  | .activated _ _ => True

/-- At a node driven and not yet asked, the timestamp listed is its unit's. -/
def BaselineCurrent (f : Fleet) : FleetAction → Prop
  | .turn => ∀ w ∈ f.working, ∀ node ∈ w.rest.head?, rolloutOwnedBy node w.pass.nt.val.name = true → rolloutHalted node = false →
      (annotationTime node .restartRequested).toOption = none →
      ∀ t ∈ (annotationTime node .unitActiveEnter).toOption, (f.hosts node.name).activeEnter = some t
  | _ => True

theorem sinceRequest_snoc (ev : FleetEvent) :
    sinceRequest x (log ++ [ev]) = afterEvent x (sinceRequest x log) ev := by
  simp [sinceRequest]

/-! ## What holds in every state -/

def Fleet.Reached (f : Fleet) (x : String) (t : Time) : Prop := ∃ l, (f.hosts x).activeEnter = some l ∧ t ≤ l

/-- The unit entered the active state since the last request, or is at the baseline. -/
def Fleet.Asked (f : Fleet) (log : List FleetEvent) (x : String) (m : Node) : Prop :=
  ∃ baseline since, m.annotations .restartBaseline = some (.stamp baseline) ∧ sinceRequest x log = some since ∧
    (since.any (activates x) = true ∨ (f.hosts x).activeEnter = some baseline)

/-- Request and baseline are those on the server, and the timestamp is one of the unit's. -/
structure Fleet.Listed (f : Fleet) (node : Node) : Prop where
  live : ∃ cur, f.server.nodes.get? node.name = some cur ∧
    cur.annotations .restartRequested = node.annotations .restartRequested ∧
    cur.annotations .restartBaseline = node.annotations .restartBaseline
  published : ∀ t, node.annotations .unitActiveEnter = some (.stamp t) → f.Reached node.name t

/-- What is published was reached, and what is verified asked for. -/
structure Truthful (f : Fleet) (log : List FleetEvent) : Prop where
  published : ∀ x m t, f.server.nodes.get? x = some m → m.annotations .unitActiveEnter = some (.stamp t) → f.Reached x t
  measured : ∀ x node activeEnter migProfile, (f.hosts x).tick = some (.measured node activeEnter migProfile) →
    node.name = x ∧ ∀ t ∈ activeEnter, f.Reached x t
  read : ∀ x node, (f.hosts x).tick = some (.read node) → node.name = x
  listed : ∀ w, f.working = some w → (w.rest.map Node.name).Nodup ∧ ∀ node ∈ w.rest, f.Listed node
  asked : ∀ x m t, f.server.nodes.get? x = some m → m.annotations .restartRequested = some (.stamp t) → f.Asked log x m
  verified : Each VerifiesAsked log

/-! ## Steps that ask for nothing and restart nothing -/

def Fleet.Frames (f : Fleet) (s' : Server) : Prop :=
  ∀ x, (f.server.nodes.get? x = none ∧ s'.nodes.get? x = none) ∨
    ∃ m m', f.server.nodes.get? x = some m ∧ s'.nodes.get? x = some m' ∧
      m'.annotations .restartRequested = m.annotations .restartRequested ∧
      m'.annotations .restartBaseline = m.annotations .restartBaseline ∧
      ∀ t, m'.annotations .unitActiveEnter = some (.stamp t) → f.Reached x t

section

variable (h : Truthful f log)
include h

theorem Truthful.frames_refl (hs : s'.nodes = f.server.nodes) : f.Frames s' := by
  intro x
  rw [hs]
  cases hx : f.server.nodes.get? x with
  | none => exact .inl ⟨rfl, rfl⟩
  | some m => exact .inr ⟨m, m, rfl, rfl, rfl, rfl, fun t ht => h.published x m t hx ht⟩

theorem Truthful.of_frames (hs : f.Frames s') :
    Truthful { f with server := s' } log := by
  refine ⟨?_, h.measured, h.read, ?_, ?_, h.verified⟩
  · intro x m' t hm' ht
    rcases hs x with ⟨-, hnone⟩ | ⟨m, m'', -, hm'', -, -, hpub⟩
    · rw [hnone] at hm'
      cases hm'
    rw [hm''] at hm'
    cases hm'
    exact hpub t ht
  · intro w hw
    obtain ⟨hnodup, hlisted⟩ := h.listed w hw
    refine ⟨hnodup, fun node hnode => ?_⟩
    obtain ⟨⟨cur, hcur, hreq, hbase⟩, hpub⟩ := hlisted node hnode
    rcases hs node.name with ⟨hnone, -⟩ | ⟨m, m', hm, hm', hreq', hbase', -⟩
    · rw [hnone] at hcur
      cases hcur
    rw [hm] at hcur
    cases hcur
    exact ⟨⟨m', hm', hreq'.trans hreq, hbase'.trans hbase⟩, hpub⟩
  · intro x m' t hm' ht
    rcases hs x with ⟨-, hnone⟩ | ⟨m, m'', hm, hm'', hreq, hbase, -⟩
    · rw [hnone] at hm'
      cases hm'
    rw [hm''] at hm'
    cases hm'
    obtain ⟨baseline, since, hb, hsince⟩ := h.asked x m t hm (hreq ▸ ht)
    exact ⟨baseline, since, hbase.trans hb, hsince⟩

/-- A host whose unit stays as it was may change otherwise. -/
theorem Truthful.of_host {host : Host}
    (hactive : host.activeEnter = (f.hosts x).activeEnter)
    (hmeasured : ∀ node activeEnter migProfile, host.tick = some (.measured node activeEnter migProfile) →
      node.name = x ∧ ∀ t ∈ activeEnter, f.Reached x t)
    (hread : ∀ node, host.tick = some (.read node) → node.name = x) : Truthful (f.setHost x host) log := by
  have hsame : ∀ y, ((f.setHost x host).hosts y).activeEnter = (f.hosts y).activeEnter := by
    intro y
    by_cases hy : y = x
    · subst hy
      simp [Fleet.setHost, hactive]
    · simp [Fleet.setHost, hy]
  have hreached : ∀ y t, f.Reached y t → (f.setHost x host).Reached y t := by
    rintro y t ⟨l, hl, hle⟩
    exact ⟨l, (hsame y).trans hl, hle⟩
  refine ⟨?_, ?_, ?_, ?_, ?_, h.verified⟩
  · exact fun y m t hm ht => hreached y t (h.published y m t hm ht)
  · intro y node activeEnter migProfile hy
    by_cases hyx : y = x
    · subst hyx
      simp only [Fleet.setHost, Function.update_self] at hy
      exact ⟨(hmeasured _ _ _ hy).1, fun t ht => hreached y t ((hmeasured _ _ _ hy).2 t ht)⟩
    · simp only [Fleet.setHost, Function.update_of_ne hyx] at hy
      exact ⟨(h.measured y _ _ _ hy).1, fun t ht => hreached y t ((h.measured y _ _ _ hy).2 t ht)⟩
  · intro y node hy
    by_cases hyx : y = x
    · subst hyx
      simp only [Fleet.setHost, Function.update_self] at hy
      exact hread _ hy
    · simp only [Fleet.setHost, Function.update_of_ne hyx] at hy
      exact h.read y _ hy
  · intro w hw
    obtain ⟨hnodup, hlisted⟩ := h.listed w hw
    exact ⟨hnodup, fun node hnode => ⟨(hlisted node hnode).live, fun t ht => hreached _ t ((hlisted node hnode).published t ht)⟩⟩
  · intro y m t hm ht
    obtain ⟨baseline, since, hb, hs, hor⟩ := h.asked y m t hm ht
    exact ⟨baseline, since, hb, hs, hor.imp_right fun heq => (hsame y).trans heq⟩

theorem Truthful.of_idle : Truthful { f with working := none } log :=
  ⟨h.published, h.measured, h.read, (fun _ hw => nomatch hw), h.asked, h.verified⟩

/-- A pass that begins keeps the fleet truthful. -/
theorem Truthful.beginPass (r : NodeTuningReconciler) (version : Nat)
    (env : PassEnv) : Truthful (f.beginPass r version env) log := by
  have hlist : ∀ w : Working, (w.rest.map Node.name).Nodup → (∀ node ∈ w.rest, node ∈ f.server.nodes.items) →
      Truthful { f with working := some w } log := by
    intro w hnodup hsub
    refine ⟨h.published, h.measured, h.read, ?_, h.asked, h.verified⟩
    rintro _ ⟨⟩
    refine ⟨hnodup, fun node hnode => ?_⟩
    have hget := get?_of_mem (hsub node hnode)
    exact ⟨⟨node, hget, rfl, rfl⟩, fun t ht => h.published _ node t hget ht⟩
  unfold Fleet.beginPass
  split
  · simp only
    split
    · exact hlist _ f.server.nodes.nodup fun _ hnode => hnode
    split
    · rename_i work all hwork hall
      obtain ⟨hnodup, hsub, -⟩ := workOf_ok f.server.nodes.nodup hwork
      exact hlist _ hnodup hsub
    · exact h
  · exact h

end

/-! ## The agent publishes -/

theorem unitActiveEnter_setNodeState (unit : String) (activeEnter : Option Time) (migProfile : String) (n : Node) :
    (setNodeState unit activeEnter migProfile n).annotations .unitActiveEnter =
      (activeEnter.map AnnValue.stamp).or (n.annotations .unitActiveEnter) := by
  unfold setNodeState
  cases activeEnter <;> by_cases hm : migProfile = "" <;> simp [hm]

theorem Truthful.publish (h : Truthful f log) {activeEnter : Option Time}
    (hmeasured : ∀ t ∈ activeEnter, f.Reached node.name t) (unit migProfile : String) :
    f.Frames (f.server.publish node (setNodeState unit activeEnter migProfile node)) := by
  intro x
  unfold Server.publish
  rw [Server.get?_editNode]
  cases hx : f.server.nodes.get? x with
  | none => exact .inl ⟨rfl, rfl⟩
  | some m =>
    refine .inr ⟨m, _, rfl, rfl, ?_⟩
    beta_reduce
    by_cases hname : m.name = node.name
    · rw [if_pos hname]
      have hxn : x = node.name := (key_of_get? hx).symm.trans hname
      refine ⟨?_, ?_, ?_⟩
      · simp [Node.mergeMetadata, mergeMap, annotations_setNodeState]
      · simp [Node.mergeMetadata, mergeMap, annotations_setNodeState]
      · intro t ht
        simp only [Node.mergeMetadata, mergeMap, unitActiveEnter_setNodeState] at ht
        cases activeEnter with
        | none =>
          simp only [Option.map_none, Option.none_or, mergePart_same] at ht
          exact h.published x m t hx ht
        | some t' =>
          unfold mergePart at ht
          split at ht
          · exact h.published x m t hx ht
          simp only [Option.map_some, Option.some_or, Option.some.injEq, AnnValue.stamp.injEq] at ht
          rw [← ht, hxn]
          exact hmeasured t' rfl
    · rw [if_neg hname]
      exact ⟨rfl, rfl, fun t ht => h.published x m t hx ht⟩

/-- What an agent publishes keeps the fleet truthful. -/
theorem Truthful.tickPublish (h : Truthful f log) (x : String) (committed : Bool) :
    Truthful (f.tickPublish x committed) log := by
  unfold Fleet.tickPublish
  split
  · rename_i node activeEnter migProfile htick
    obtain ⟨hname, hmeasured⟩ := h.measured x _ _ _ htick
    have hframes : f.Frames (publishNodeState f.server (f.hosts x) node activeEnter migProfile committed).1 := by
      unfold publishNodeState
      simp only
      split
      · exact h.frames_refl rfl
      split
      · exact h.publish (by rw [hname]; exact hmeasured) _ _
      · exact h.frames_refl rfl
    have h' := h.of_frames hframes
    exact h'.of_host rfl (nofun) (nofun)
  · exact h

/-! ## The unit enters the active state -/

/-- A unit that starts anew keeps the fleet truthful. -/
theorem Truthful.activate (h : Truthful f log) (x : String) (at_ : Time) :
    Truthful (f.activate x at_).1 (log ++ (f.activate x at_).2) := by
  unfold Fleet.activate
  split
  · rename_i hlater
    have hother : ∀ y, y ≠ x →
        ((f.setHost x { f.hosts x with activeEnter := some at_ }).hosts y) = f.hosts y := by
      intro y hy
      simp [Fleet.setHost, hy]
    have hself : ((f.setHost x { f.hosts x with activeEnter := some at_ }).hosts x) =
        { f.hosts x with activeEnter := some at_ } := by
      simp [Fleet.setHost]
    have htick : ∀ y, ((f.setHost x { f.hosts x with activeEnter := some at_ }).hosts y).tick = (f.hosts y).tick := by
      intro y
      by_cases hy : y = x
      · rw [hy, hself]
      · rw [hother y hy]
    have hreached : ∀ y t, f.Reached y t → (f.setHost x { f.hosts x with activeEnter := some at_ }).Reached y t := by
      rintro y t ⟨l, hl, hle⟩
      by_cases hy : y = x
      · subst hy
        rw [hl, Option.all_some, decide_eq_true_eq] at hlater
        exact ⟨at_, by rw [hself], Int.le_of_lt (Int.lt_of_le_of_lt hle hlater)⟩
      · exact ⟨l, by rw [hother y hy]; exact hl, hle⟩
    refine ⟨?_, ?_, ?_, ?_, ?_, h.verified.snoc trivial⟩
    · exact fun y m t hm ht => hreached y t (h.published y m t hm ht)
    · intro y node activeEnter migProfile hy
      rw [htick] at hy
      exact ⟨(h.measured y _ _ _ hy).1, fun t ht => hreached y t ((h.measured y _ _ _ hy).2 t ht)⟩
    · intro y node hy
      rw [htick] at hy
      exact h.read y _ hy
    · intro w hw
      obtain ⟨hnodup, hlisted⟩ := h.listed w hw
      exact ⟨hnodup,
        fun node hnode => ⟨(hlisted node hnode).live, fun t ht => hreached _ t ((hlisted node hnode).published t ht)⟩⟩
    · intro y m t hm ht
      obtain ⟨baseline, since, hb, hs, hor⟩ := h.asked y m t hm ht
      refine ⟨baseline, since ++ [.activated x at_], hb, by rw [sinceRequest_snoc, hs]; rfl, ?_⟩
      by_cases hy : y = x
      · exact .inl (by simp [activates, hy])
      · rw [hother y hy]
        exact hor.imp_left fun hany => by simp [hany]
  · rw [List.append_nil]
    exact h

/-! ## The controller's turn -/

theorem annotations_mergeFrom (node cur : Node) (op : NodeOp) (k : AnnKey) :
    (node.mergeFrom (op.mutate node) cur).annotations k =
      mergePart (node.annotations k) ((op.mutate node).annotations k) (cur.annotations k) := rfl

theorem Server.get?_patchListed (s : Server) (node : Node) (op : NodeOp) (x : String) :
    (s.patchNode node op).nodes.get? x =
      if x = node.name then (s.nodes.get? x).map (node.mergeFrom (op.mutate node)) else s.nodes.get? x := by
  rw [Server.nodes_patchNode, get?_modify]

theorem request_mutate {op : NodeOp} (h : Writes name node op) :
    (∃ baseline now, op = .request baseline now ∧ (op.mutate node).annotations .restartBaseline = some (.stamp baseline)) ∨
      ((op.mutate node).annotations .restartRequested = node.annotations .restartRequested ∧
        (op.mutate node).annotations .restartBaseline = node.annotations .restartBaseline ∧ ∃ now, op = .fail now) ∨
      (op.mutate node).annotations .restartRequested = none := by
  cases h with
  | cordon _ => exact .inr (.inr (by simp [NodeOp.mutate]))
  | fail _ => exact .inr (.inl ⟨by simp [NodeOp.mutate], by simp [NodeOp.mutate], _, rfl⟩)
  | request _ _ _ _ => exact .inl ⟨_, _, rfl, by simp [NodeOp.mutate]⟩
  | verify _ _ _ _ _ | release _ =>
    exact .inr (.inr ((annotations_clearRolloutAnnotations _ _).trans (if_pos (by simp [rolloutKeys]))))

theorem afterEvent_other (hrequest : requestsOn x e = false) (hstart : startsOn x e = false)
    (since : List FleetEvent) : afterEvent x (some since) (.wrote e) = some (since ++ [.wrote e]) := by
  simp [afterEvent, hrequest, hstart]

theorem requestsOn_ne (h : x ≠ e.node.name) : requestsOn x e = false ∧ startsOn x e = false := by
  have hne : (e.node.name == x) = false := beq_eq_false_iff_ne.mpr (Ne.symm h)
  constructor
  · unfold requestsOn
    split
    · exact hne
    · rfl
  · unfold startsOn
    split
    · exact hne
    · rfl

/-- A restart that is verified was asked for. -/
theorem Truthful.verifies (h : Truthful f log) (hlisted : f.Listed node)
    (hwrites : Writes name node .uncordon) : askedFor node.name log = true := by
  cases hwrites with
  | verify _ hq hb hc hlt =>
    rw [annotationTime_eq_ok] at hq hb hc
    obtain ⟨⟨cur, hcur, hreq, hbase⟩, hpub⟩ := hlisted
    obtain ⟨baseline, since, hb', hsince, hany | hat⟩ := h.asked _ cur _ hcur (hreq.trans hq)
    · simp [askedFor, hsince, hany]
    · -- the unit is still at the baseline, so nothing after it can have been published
      obtain ⟨l, hl, hle⟩ := hpub _ hc
      rw [hbase, hb] at hb'
      rw [hat] at hl
      cases hb'
      cases hl
      exact absurd hlt (Int.not_lt.mpr hle)

theorem Truthful.goOn (h : Truthful f log) {w : Working} {rest : List Node}
    (hw : f.working = some w) (hrest : w.rest = node :: rest) {w' : Option Working} (hw' : ∀ v, w' = some v → v.rest = rest) :
    Truthful { f with working := w' } log := by
  refine ⟨h.published, h.measured, h.read, ?_, h.asked, h.verified⟩
  intro v hv
  obtain ⟨hnodup, hlisted⟩ := h.listed w hw
  rw [hrest] at hnodup hlisted
  rw [hw' v hv]
  exact ⟨(List.nodup_cons.mp hnodup).2, fun m hm => ⟨(hlisted m (List.mem_cons_of_mem _ hm)).live,
    (hlisted m (List.mem_cons_of_mem _ hm)).published⟩⟩

/-- A write of the controller keeps the fleet truthful. -/
theorem Truthful.write (h : Truthful f log) (hlisted : f.Listed e.node) (hwrites : Writes name e.node e.op)
    (hbaseline : ∀ baseline now, e.op = .request baseline now → (f.hosts e.node.name).activeEnter = some baseline)
    (hrest : ∀ w, f.working = some w → e.node.name ∉ w.rest.map Node.name) (hs' : s'.nodes = (f.server.patchNode e.node e.op).nodes) :
    Truthful { f with server := s' } (log ++ [.wrote e]) := by
  have hget : ∀ x, s'.nodes.get? x = if x = e.node.name then
      (f.server.nodes.get? x).map (e.node.mergeFrom (e.op.mutate e.node)) else f.server.nodes.get? x := by
    intro x
    rw [hs', Server.get?_patchListed]
  obtain ⟨cur, hcur, hreq, hbase⟩ := hlisted.live
  refine ⟨?_, h.measured, h.read, ?_, ?_, ?_⟩
  · intro x m t hm ht
    simp only [hget] at hm
    by_cases hx : x = e.node.name
    · subst hx
      rw [if_pos rfl, hcur] at hm
      cases hm
      rw [annotations_mergeFrom, annotations_mutate_of_notMem _ _ (by simp [rolloutKeys]), mergePart_same] at ht
      exact h.published _ cur t hcur ht
    · rw [if_neg hx] at hm
      exact h.published x m t hm ht
  · intro w hw
    obtain ⟨hnodup, hall⟩ := h.listed w hw
    refine ⟨hnodup, fun node hnode => ?_⟩
    have hne : node.name ≠ e.node.name := fun heq => hrest w hw (heq ▸ List.mem_map_of_mem hnode)
    obtain ⟨⟨cur', hcur', hkeys⟩, hpub⟩ := hall node hnode
    exact ⟨⟨cur', by simp only [hget, if_neg hne]; exact hcur', hkeys⟩, hpub⟩
  · intro x m t hm ht
    simp only [hget] at hm
    by_cases hx : x = e.node.name
    · subst hx
      rw [if_pos rfl, hcur] at hm
      cases hm
      rw [annotations_mergeFrom, hreq, mergePart_base] at ht
      have hb : (e.node.mergeFrom (e.op.mutate e.node) cur).annotations .restartBaseline =
          (e.op.mutate e.node).annotations .restartBaseline := by
        rw [annotations_mergeFrom, hbase, mergePart_base]
      rcases request_mutate hwrites with ⟨baseline, now, hop, hbase'⟩ | ⟨hreq', hbase', now, hop⟩ | hnone
      · refine ⟨baseline, [], hb.trans hbase', ?_, .inr (hbaseline baseline now hop)⟩
        have hon : requestsOn e.node.name e = true := by simp [requestsOn, hop]
        simp [sinceRequest_snoc, afterEvent, hon]
      · obtain ⟨baseline, since, hb', hsince, hor⟩ := h.asked _ cur t hcur (hreq.trans (hreq'.symm.trans ht))
        refine ⟨baseline, since ++ [.wrote e], ?_, ?_, hor.imp_left fun hany => by simp [hany]⟩
        · rw [hb, hbase', ← hbase]
          exact hb'
        · rw [sinceRequest_snoc, hsince]
          exact afterEvent_other (by simp [requestsOn, hop]) (by simp [startsOn, hop]) since
      · rw [hnone] at ht
        cases ht
    · rw [if_neg hx] at hm
      obtain ⟨baseline, since, hb, hsince, hor⟩ := h.asked x m t hm ht
      refine ⟨baseline, since ++ [.wrote e], hb, ?_, hor.imp_left fun hany => by simp [hany]⟩
      rw [sinceRequest_snoc, hsince]
      exact afterEvent_other (requestsOn_ne hx).1 (requestsOn_ne hx).2 since
  · refine h.verified.snoc ?_
    intro hop
    rw [hop] at hwrites
    exact h.verifies hlisted hwrites

theorem Working.touches (r : NodeTuningReconciler) (w : Working) (s : Server) (node : Node) :
    Touches w.pass.nt.val.name node (w.resume s) (w.turn r s node).1 := by
  unfold Working.turn
  cases hd : w.deleting with
  | true =>
    rw [if_pos rfl]
    have hr := (releaseOwned_release w.env w.listed (w.resume s) node).touches
    cases hx : NodeTuningReconciler.releaseOwned w.env w.listed (w.resume s, .ok ()) node with
    | mk q res =>
      rw [hx] at hr
      cases res with
      | ok | error => exact hr
  | false =>
    rw [if_neg Bool.false_ne_true]
    cases ha : (w.resume s).alive with
    | false =>
      rw [reconcileNode_dead node ha]
      exact .inl ⟨rfl, rfl⟩
    | true =>
      obtain ⟨owned, entry, q, ht, heq⟩ := reconcileNode_turn r w.env w.listed w.all node ha
      rw [heq]
      exact ht.touches

/-- A turn of a pass keeps the fleet truthful. -/
theorem Truthful.turn (h : Truthful f log) (r : NodeTuningReconciler)
    (hok : BaselineCurrent f .turn) : Truthful (f.turn r).1 (log ++ (f.turn r).2) := by
  have hsame : Truthful f (log ++ []) := by rw [List.append_nil]; exact h
  unfold Fleet.turn
  cases hw : f.working with
  | none => exact hsame
  | some w =>
    cases hrest : w.rest with
    | nil => simp only [hrest]; exact hsame
    | cons node rest =>
      simp only [hrest]
      obtain ⟨hnodup, hlisted⟩ := h.listed w hw
      rw [hrest] at hnodup hlisted
      -- the pass goes on with the rest, and then its write is made
      generalize hw' : (if (w.turn r f.server node).2 = true then
        some { w with rest := rest, pass := (w.turn r f.server node).1 } else none : Option Working) = w'
      have hv : ∀ v, w' = some v → v.rest = rest := by
        rintro v rfl
        split at hw'
        · cases hw'
          rfl
        · cases hw'
      have h' := h.goOn hw hrest hv
      rcases w.touches r f.server node with ⟨hnodes, hlog⟩ | ⟨e, hwrites, hnode, hnodes, hlog⟩
      · have hnil : (w.turn r f.server node).1.log = [] := hlog
        rw [hnil]
        simp only [List.map_nil, List.append_nil]
        exact h'.of_frames (h'.frames_refl hnodes)
      · have hone : (w.turn r f.server node).1.log = [e] := hlog
        rw [hone]
        subst hnode
        have hown := hlisted e.node List.mem_cons_self
        refine h'.write ⟨hown.live, hown.published⟩ hwrites ?_ ?_ hnodes
        · intro baseline now hop
          rw [hop] at hwrites
          cases hwrites with
          | request howned hhalted hq hb =>
            refine hok w hw e.node (by rw [hrest]; rfl) howned hhalted (by rw [hq]; rfl) baseline ?_
            rw [hb]
            rfl
        · intro v hv'
          rw [hv v hv']
          exact (List.nodup_cons.mp hnodup).1

/-! ## Runs -/

theorem unitActiveEnter_onNode {a : Action} (ha : a.foreign = true) (n : Node) :
    (a.onNode n).annotations .unitActiveEnter = n.annotations .unitActiveEnter := by
  cases a with
  | pass | publish => cases ha
  | setConditions | relabel => simp only [Action.onNode]; split <;> rfl
  | approve | clearStarted => simp only [Action.onNode]; split <;> simp
  | patchObserved | create | editSpec | delete => rfl

theorem Truthful.frames_other (h : Truthful f log) (r : NodeTuningReconciler) {a : Action}
    (ha : a.foreign = true) : f.Frames (step r f.server a).1 := by
  have hp : a.isPass = false := by
    cases a with
    | pass version env => cases ha
    | _ => rfl
  intro x
  rw [(step_other r (s := f.server) hp).2 x]
  cases hx : f.server.nodes.get? x with
  | none => exact .inl ⟨rfl, rfl⟩
  | some m =>
    refine .inr ⟨m, _, rfl, rfl, ?_, ?_, ?_⟩
    · exact (annotations_onNode a m (by simp) (by simp) (by simp)).elim id fun hk => by cases hk.1
    · exact (annotations_onNode a m (by simp) (by simp) (by simp)).elim id fun hk => by cases hk.1
    · intro t ht
      rw [unitActiveEnter_onNode ha] at ht
      exact h.published x m t hx ht

theorem nodes_finish (w : Working) (s : Server) : (w.finish s).nodes = s.nodes := by
  unfold Working.finish
  split
  · exact nodes_removeFinalizer _ _
  · exact nodes_finishPass _ _

theorem Truthful.finish (h : Truthful f log) : Truthful f.finish log := by
  unfold Fleet.finish
  split
  · exact h
  split
  · exact (h.of_frames (h.frames_refl (nodes_finish _ _))).of_idle
  · exact h

theorem Truthful.tickRead (h : Truthful f log) (x : String) :
    Truthful (f.tickRead x) log := by
  unfold Fleet.tickRead
  split
  · rename_i node _ hget
    refine h.of_host rfl (nofun) ?_
    rintro _ ⟨⟩
    exact key_of_get? hget
  · exact h

theorem Truthful.tickMeasure (h : Truthful f log) (x : String) (readable : Bool)
    (migProfile : String) : Truthful (f.tickMeasure x readable migProfile) log := by
  unfold Fleet.tickMeasure
  split
  · rename_i node htick
    refine h.of_host rfl ?_ (nofun)
    rintro _ activeEnter _ ⟨⟩
    refine ⟨h.read x _ htick, ?_⟩
    intro t ht
    unfold Host.unitActiveEnterTimestamp at ht
    split at ht
    · exact ⟨t, ht, Int.le_refl t⟩
    · cases ht
  · exact h

theorem Truthful.tickService (h : Truthful f log) (x : String) (scheduled recorded : Bool) :
    Truthful (f.tickService x scheduled recorded) log := by
  unfold Fleet.tickService
  split
  · refine h.of_host ?_ (nofun) (nofun)
    unfold serviceRestartRequest
    simp only
    split_ifs <;> rfl
  · exact h

theorem truthful_step (r : NodeTuningReconciler) (h : Truthful f log) (a : FleetAction)
    (hok : BaselineCurrent f a) : Truthful (fleetStep r f a).1 (log ++ (fleetStep r f a).2) := by
  -- a step with no event
  have hquiet : ∀ f', Truthful f' log → Truthful f' (log ++ []) := by
    intro f' h'
    rw [List.append_nil]
    exact h'
  cases a with
  | beginPass version env => exact hquiet _ (h.beginPass r version env)
  | turn => exact h.turn r hok
  | finish => exact hquiet _ h.finish
  | abandon => exact hquiet _ h.of_idle
  | tickRead x => exact hquiet _ (h.tickRead x)
  | tickMeasure x readable migProfile => exact hquiet _ (h.tickMeasure x readable migProfile)
  | tickPublish x committed => exact hquiet _ (h.tickPublish x committed)
  | tickService x scheduled recorded => exact hquiet _ (h.tickService x scheduled recorded)
  | tickAbort x => exact hquiet _ (h.of_host rfl (nofun) (nofun))
  | activate x at_ => exact h.activate x at_
  | fire x at_ =>
    simp only [fleetStep]
    split
    · have h' : Truthful (f.setHost x { f.hosts x with armed := false }) log :=
        h.of_host rfl (fun _ _ _ hy => h.measured x _ _ _ hy) (fun _ hy => h.read x _ hy)
      exact h'.activate x at_
    · exact hquiet _ h
  | other a =>
    simp only [fleetStep]
    split
    · rename_i ha
      exact hquiet _ (h.of_frames (h.frames_other r ha))
    · exact hquiet _ h

/-- Nothing is in progress or asked for, and published timestamps are the units'. -/
structure AtRest (f : Fleet) : Prop where
  idle : f.working = none
  ticks : ∀ x, (f.hosts x).tick = none
  unasked : ∀ m ∈ f.server.nodes.items, (annotationTime m .restartRequested).toOption = none
  published : ∀ m ∈ f.server.nodes.items, ∀ t ∈ (annotationTime m .unitActiveEnter).toOption, ∃ l ∈ (f.hosts m.name).activeEnter, t ≤ l

theorem truthful_atRest (h : AtRest f) : Truthful f [] := by
  refine ⟨?_, ?_, ?_, ?_, ?_, each_nil _⟩
  · intro x m t hm ht
    have hname : m.name = x := key_of_get? hm
    have hread := h.published m (mem_of_get? hm) t (by rw [annotationTime_eq_ok.mpr ht]; rfl)
    rw [hname] at hread
    exact hread
  · intro x node activeEnter migProfile htick
    rw [h.ticks x] at htick
    cases htick
  · intro x node htick
    rw [h.ticks x] at htick
    cases htick
  · intro w hw
    rw [h.idle] at hw
    cases hw
  · intro x m t hm ht
    have hnone := h.unasked m (mem_of_get? hm)
    rw [annotationTime_eq_ok.mpr ht] at hnone
    cases hnone

/-- Where requests are made on the unit's own timestamp, a verified restart comes after the last request of its rollout. -/
theorem verified_restart_was_asked_for (r : NodeTuningReconciler) (f : Fleet) (h : AtRest f) (actions : List FleetAction)
    (hok : Meets (fleetStep r) BaselineCurrent f actions) : Each VerifiesAsked (run (fleetStep r) f actions).2 := by
  have hrun : Truthful (run (fleetStep r) f actions).1 (run (fleetStep r) f actions).2 := by
    refine run_induct (truthful_atRest h) ?_ actions hok
    intro f log a hf ha
    exact truthful_step r hf a ha
  exact hrun.verified

/-! ## A rollout under the condition, and one that is not -/

instance (f : Fleet) (a : FleetAction) : Decidable (BaselineCurrent f a) := by
  cases a <;> unfold BaselineCurrent <;> infer_instance

instance (log : List FleetEvent) : ∀ ev, Decidable (VerifiesAsked log ev)
  | .wrote e => inferInstanceAs (Decidable (e.op = .uncordon → askedFor e.node.name log = true))
  | .activated _ _ => isTrue trivial

namespace TuningFixture

def fleet : Fleet where
  server := server
  hosts := fun _ => ⟨"k3s-agent", some 1000, "", false, none⟩
  working := none

def wholePass (version : Nat) (now : Time) : List FleetAction := [.beginPass version (passEnv now), .turn, .turn, .finish]

def wholeTick (node : String) : List FleetAction :=
  [.tickRead node, .tickMeasure node true "", .tickPublish node true, .tickService node true true]

/-- Cordon, request, the agent arms the restart, the unit restarts, uncordon. -/
def askedRollout : List FleetAction :=
  wholePass 0 2000 ++ wholePass 2 3000 ++ wholeTick "a" ++ [.fire "a" 4000] ++ wholeTick "a" ++ wholePass 2 5000

/-- The unit restarts in the drain, and its agent publishes that after the request. -/
def unaskedRollout : List FleetAction :=
  wholePass 0 2000 ++ [.activate "a" 2500] ++ wholePass 2 3000 ++
    [.tickRead "a", .tickMeasure "a" true "", .tickPublish "a" true] ++ wholePass 2 5000

def seen : FleetEvent → Option (NodeOp × String) × Option (String × Time)
  | .wrote e => (some (e.op, e.node.name), none)
  | .activated x t => (none, some (x, t))

end TuningFixture

theorem atRest_fleet : AtRest TuningFixture.fleet := ⟨rfl, fun _ => rfl, by decide +kernel, by decide +kernel⟩

set_option maxRecDepth 4000

open TuningFixture in
/-- The rollout of a worker whose unit restarts when it was asked to. -/
theorem verified_restart_was_asked_for_rollout :
    (run (fleetStep reconciler) fleet askedRollout).2.map seen =
        [(some (.cordon 2000 "t", "a"), none), (some (.request 1000 3000, "a"), none), (none, some ("a", 4000)),
          (some (.uncordon, "a"), none), (some (.cordon 5000 "t", "b"), none)] ∧
      Each VerifiesAsked (run (fleetStep reconciler) fleet askedRollout).2 :=
  ⟨by decide +kernel,
    verified_restart_was_asked_for reconciler fleet atRest_fleet askedRollout (by decide +kernel)⟩

open TuningFixture in
/-- A unit restarts by itself before it is asked to, and the node is uncordoned as if it had done so after. -/
theorem verified_without_restart :
    AtRest fleet ∧
      (run (fleetStep reconciler) fleet unaskedRollout).2.map seen =
        [(some (.cordon 2000 "t", "a"), none), (none, some ("a", 2500)), (some (.request 1000 3000, "a"), none),
          (some (.uncordon, "a"), none), (some (.cordon 5000 "t", "b"), none)] ∧
      ¬Each VerifiesAsked (run (fleetStep reconciler) fleet unaskedRollout).2 :=
  ⟨atRest_fleet, by decide +kernel, by decide +kernel⟩

end FrameOperator
