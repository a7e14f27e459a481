import FrameOperator.Lemmas.NodePasses

/-!
# One FrameNode to a Node

Of two FrameNodes that were created within one second, neither is older, and both may classify the Node. The order of the passes
makes a difference too where a FrameNode is being deleted, whose pass strips the Node that another one classifies.
-/

namespace FrameOperator.Nodes

open Fate Option Api
open V1beta1 (FrameNodeSpec)
open Cluster

variable {s t : Cluster} {n : String} {k : NamespacedName} {ks : List NamespacedName} {fn : FrameNode}

/-- At most one of the FrameNodes that name a Node may classify it. -/
def AtMostOne (s : Cluster) (n : String) : Prop :=
  ∀ a ∈ s.frameNodes.items, ∀ b ∈ s.frameNodes.items, a.nodeName = n → b.nodeName = n → s.mayClassify a n = true →
    s.mayClassify b n = true → a = b

/-- A pass of which every request is served, and every read is of what the server holds. -/
def Cluster.pass (s : Cluster) (k : NamespacedName) : Cluster := (reconcile k).serveAll Cluster.exec .served s.sync

/-- Passes one after the other. -/
def Cluster.round (s : Cluster) (ks : List NamespacedName) : Cluster := ks.foldl Cluster.pass s

/-- The order of a full round makes no difference to the labels of the Nodes. -/
def RoundsAgree (s : Cluster) : Prop :=
  ∀ ks ks' : List NamespacedName, ks.Perm (s.frameNodes.items.map FrameNode.key) → ks'.Perm (s.frameNodes.items.map FrameNode.key) →
    ∀ n l, (s.round ks).label n l = (s.round ks').label n l

/-- No two FrameNodes that classify a Node were created in the same second with none that names it before. -/
def NoTie (s : Cluster) (n : String) : Prop :=
  ∀ a ∈ s.frameNodes.items, ∀ b ∈ s.frameNodes.items, a.nodeName = n → b.nodeName = n → classifiesNothing a.spec = false →
    classifiesNothing b.spec = false → a.createdAt = b.createdAt →
    (∀ c ∈ s.frameNodes.items, c.nodeName = n → a.createdAt ≤ c.createdAt) → a = b

/-- A FrameNode that is still there after its pass. -/
def FrameNode.stays (fn : FrameNode) : Bool := !(fn.deleting && fn.finalizers.filter (· ≠ frameNodeFinalizer) = [])

/-- None that names a Node is being deleted, or an older one refuses each that could classify. -/
def Undisturbed (s : Cluster) (n : String) : Prop :=
  s.labels n ≠ none → ∀ w ∈ s.frameNodes.items, w.nodeName = n → w.deleting = false → frameNodeFinalizer ∈ w.finalizers →
    classifiesNothing w.spec = false → (∀ d ∈ s.frameNodes.items, d.nodeName = n → d.deleting = false) ∨
      ∃ o ∈ s.frameNodes.items, o.nodeName = n ∧ o.stays = true ∧ o.createdAt < w.createdAt

/-- One classifier is the same as no tie. -/
theorem atMostOne_iff (hu : (s.frameNodes.items.map FrameNode.uid).Nodup) : AtMostOne s n ↔ NoTie s n := by
  constructor
  · intro h a ha b hb hna hnb hca hcb hsame hfirst
    refine h a ha b hb hna hnb (mayClassify_iff.mpr ⟨hca, fun c hc _ hnc => hfirst c hc hnc⟩) (mayClassify_iff.mpr ⟨hcb, ?_⟩)
    intro c hc _ hnc
    rw [← hsame]
    exact hfirst c hc hnc
  · intro h a ha b hb hna hnb hma hmb
    obtain ⟨hca, hfa⟩ := mayClassify_iff.mp hma
    obtain ⟨hcb, hfb⟩ := mayClassify_iff.mp hmb
    by_cases huid : a.uid = b.uid
    · exact List.inj_on_of_nodup_map hu ha hb huid
    have hle : a.createdAt ≤ b.createdAt := hfa b hb (Ne.symm huid) hnb
    have hge : b.createdAt ≤ a.createdAt := hfb a ha huid hna
    refine h a ha b hb hna hnb hca hcb (Nat.le_antisymm hle hge) fun c hc hnc => ?_
    by_cases hc' : c.uid = a.uid
    · rw [List.inj_on_of_nodup_map hu hc ha hc']
    · exact hfa c hc hc' hnc

/-! ## What a served pass does -/

/-- What a pass does to the labels of a Node. -/
def Cluster.rewrite (s : Cluster) (n : String) (labels : Labels) (k : NamespacedName) : Labels :=
  match s.frameNodes.get? k with
  | none => labels
  | some fn =>
    if fn.nodeName ≠ n then labels
    else if fn.deleting then strip labels
    else if frameNodeFinalizer ∈ fn.finalizers ∧ s.mayClassify fn n then project fn.spec labels
    else labels

/-- What a pass leaves: of its FrameNode, if it stays, all but status and finalizers. -/
structure Passed (s : Cluster) (k : NamespacedName) (t : Cluster) : Prop where
  others : ∀ j, j ≠ k → t.frameNodes.get? j = s.frameNodes.get? j
  own : Option.Rel Alike ((s.frameNodes.get? k).filter FrameNode.stays) (t.frameNodes.get? k)
  labels : ∀ n, t.labels n = (s.labels n).map (s.rewrite n · k)

theorem stays_of_live (h : fn.deleting = false) : fn.stays = true := by simp [FrameNode.stays, h]

theorem passed_modify {f : FrameNode → FrameNode} (hfn : s.frameNodes.get? k = some fn) (hlive : fn.deleting = false)
    (hf : ∀ a, (f a).key = a.key) (h : Alike fn (f fn)) (ht : t.frameNodes = s.frameNodes.modify k f hf)
    (hlabels : ∀ n, t.labels n = (s.labels n).map (s.rewrite n · k)) : Passed s k t where
  others j hj := by rw [ht, Keyed.get?_modify, if_neg hj]
  own := by
    rw [ht, Keyed.get?_modify_self hfn, hfn, Option.filter_some, if_pos (stays_of_live hlive)]
    exact .some h
  labels := hlabels

theorem passed_letGo {u : Cluster} (hfn : s.frameNodes.get? k = some fn) (hdel : fn.deleting = true) (hu : u.frameNodes = s.frameNodes)
    (hlabels : ∀ n, u.labels n = (s.labels n).map (s.rewrite n · k)) : Passed s k (u.letGo fn) := by
  have hkey : fn.key = k := Keyed.key_of_get? hfn
  subst hkey
  have hgo : u.letGo fn = u.refinalize fn (fn.finalizers.filter (· ≠ frameNodeFinalizer)) := by
    rw [Cluster.letGo, Cluster.updateFinalizers, hu, hfn]
    exact congrArg Prod.fst (if_pos rfl)
  rw [hgo]
  refine ⟨fun j hj => by rw [get?_refinalize_ne hj, hu], ?_, fun n => ?_⟩
  · rw [get?_refinalize (by rw [hu, hfn]), hfn, Option.filter_some]
    by_cases hnil : fn.finalizers.filter (· ≠ frameNodeFinalizer) = []
    · have hgone : fn.stays = false := by simp only [FrameNode.stays, hdel, hnil]; rfl
      rw [if_neg (by simp [hgone]), if_pos ⟨hdel, hnil⟩]
      exact .none
    · have hstays : fn.stays = true := by simp only [FrameNode.stays, hdel, hnil]; rfl
      rw [if_pos hstays, if_neg fun h => hnil h.2]
      exact .some ⟨rfl, rfl, rfl, rfl, rfl⟩
  · rw [Cluster.labels, (refinalize_rest _).1]
    exact hlabels n

/-- What a patch leaves whose base is the Node on the server. -/
theorem patchNode_current {node : Node} (hnode : s.nodes.get? fn.nodeName = some node) (f : Labels → Labels) (projects : Option Nat) :
    (∃ new, (s.patchNode node (f node.labels) projects).nodes.read node.name = .ok new) ∧
      ∀ n, (s.patchNode node (f node.labels) projects).labels n = if n = fn.nodeName then (s.labels n).map f else s.labels n := by
  have hname : node.name = fn.nodeName := Keyed.key_of_get? hnode
  constructor
  · rw [Cluster.patchNode, hname, hnode]
    exact ⟨_, by rw [Keyed.read, relabel, Keyed.get?_modify_self hnode]⟩
  · intro n
    rw [labels_patchNode, hname]
    split
    · rename_i hn
      have hlabels : s.labels n = some node.labels := by rw [Cluster.labels, hn, hnode]; rfl
      rw [hlabels, Option.map_some, Option.map_some, mergeMap_base]
    · rfl

/-- A pass leaves the Nodes that it does not name, or projects nothing onto. -/
theorem labels_of_refused (hfn : s.frameNodes.get? k = some fn) (hlive : fn.deleting = false)
    (hno : frameNodeFinalizer ∈ fn.finalizers → s.mayClassify fn fn.nodeName = true → s.nodes.get? fn.nodeName = none) (n : String) :
    s.labels n = (s.labels n).map (s.rewrite n · k) := by
  cases hlabels : s.labels n with
  | none => rfl
  | some labels =>
    simp only [Option.map_some, rewrite, hfn, hlive, Bool.false_eq_true, if_false]
    split
    · rfl
    rename_i hn
    rw [not_not] at hn
    subst hn
    rw [if_neg]
    intro h
    rw [Cluster.labels, hno h.1 h.2] at hlabels
    cases hlabels

/-- The labels of a Node after a pass that writes the one its FrameNode names. -/
theorem labels_of_written {f : Labels → Labels} (hfn : s.frameNodes.get? k = some fn)
    (hf : ∀ labels, s.rewrite fn.nodeName labels k = f labels) (n : String) :
    (if n = fn.nodeName then (s.labels n).map f else s.labels n) = (s.labels n).map (s.rewrite n · k) := by
  split
  · rename_i hn
    subst hn
    simp only [hf]
  · rename_i hn
    simp only [rewrite, hfn, ne_eq, Ne.symm hn, not_false_eq_true, if_true, Option.map_id']

theorem passed_current (hframe : s.seenFrameNodes = s.frameNodes) (hnodes : s.seenNodes = s.nodes) :
    Passed s k ((reconcile k).serveAll exec .served s) := by
  unfold reconcile
  simp only [Program.serveAll_ask, exec, answer, apply, hframe, Keyed.read]
  cases hfn : s.frameNodes.get? k with
  | none =>
    refine ⟨fun _ _ => rfl, ?_, fun n => ?_⟩
    · change Option.Rel Alike _ (s.frameNodes.get? k)
      rw [hfn]
      exact .none
    · simp only [rewrite, hfn, Option.map_id']
      rfl
  | some fn =>
    have hkey : fn.key = k := Keyed.key_of_get? hfn
    have hstatus : ∀ {u : Cluster} (status), fn.deleting = false → u.frameNodes = s.frameNodes →
        (∀ n, u.labels n = (s.labels n).map (s.rewrite n · k)) → Passed s k (u.patchStatus fn status) := by
      intro u status hlive hu hlabels
      refine passed_modify hfn hlive (f := fun cur => { cur with status := mergeStatus fn.status status cur.status }) (fun _ => rfl)
        ⟨rfl, rfl, rfl, rfl, rfl⟩ ?_ hlabels
      rw [patchStatus, hu, hkey]
    by_cases hdel : fn.deleting = true
    · have hstrip : ∀ labels, s.rewrite fn.nodeName labels k = strip labels := by simp [rewrite, hfn, hdel]
      simp only [hdel, if_true, reconcileDelete, Program.serveAll_ask, exec, answer, apply, Keyed.read, hnodes]
      cases hnode : s.nodes.get? fn.nodeName with
      | none =>
        refine passed_letGo hfn hdel rfl fun n => ?_
        rw [← labels_of_written hfn hstrip]
        split
        · rename_i hn
          rw [Cluster.labels, hn, hnode]
          rfl
        · rfl
      | some node =>
        obtain ⟨⟨new, hnew⟩, hlabels⟩ := patchNode_current hnode strip none
        simp only [Program.serveAll_ask, exec, answer, apply, hnew]
        exact passed_letGo hfn hdel (frameNodes_patchNode _ _ _).1 fun n => (hlabels n).trans (labels_of_written hfn hstrip n)
    · rw [Bool.not_eq_true] at hdel
      simp only [hdel, Bool.false_eq_true, if_false]
      split
      · rename_i hfin
        simp only [Program.serveAll_ask, exec, answer, apply, Keyed.read, hnodes]
        cases hnode : s.nodes.get? fn.nodeName with
        | none => exact hstatus _ hdel rfl (labels_of_refused hfn hdel fun _ _ => hnode)
        | some node =>
          have hrefused : s.mayClassify fn fn.nodeName ≠ true → ∀ n, s.labels n = (s.labels n).map (s.rewrite n · k) := 
            fun hno => labels_of_refused hfn hdel fun _ hmay => absurd hmay hno
          unfold mayClassify
          by_cases hnothing : classifiesNothing fn.spec = true
          · simp only [hnothing, if_true]
            exact hstatus _ hdel rfl (hrefused (by simp [Cluster.mayClassify, allowed, hnothing]))
          simp only [hnothing, Bool.false_eq_true, if_false]
          cases hclaimant : claimant s.frameNodes.items fn fn.nodeName with
          | some other =>
            simp only [bind, Program.bind, Program.ask, Program.serveAll, Cluster.exec, answer, apply, hframe, hclaimant]
            exact hstatus _ hdel rfl (hrefused (by simp [Cluster.mayClassify, allowed, hclaimant]))
          | none =>
            have hmay : s.mayClassify fn fn.nodeName = true := by simp [Cluster.mayClassify, allowed, hnothing, hclaimant]
            have hproject : ∀ labels, s.rewrite fn.nodeName labels k = project fn.spec labels := by
              simp [rewrite, hfn, hdel, hfin, hmay]
            obtain ⟨⟨new, hnew⟩, hlabels⟩ := patchNode_current hnode (project fn.spec) (some fn.uid)
            simp only [bind, Program.bind, Program.ask, Program.serveAll, Cluster.exec, answer, apply, hframe, hclaimant, pure,
              reconcileOnline, Keyed.read, hnodes, hnode]
            rw [Keyed.read] at hnew
            simp only [hnew, Program.serveAll, Cluster.exec, answer, apply]
            exact hstatus _ hdel (frameNodes_patchNode _ _ _).1 fun n => (hlabels n).trans (labels_of_written hfn hproject n)
      · rename_i hfin
        have hadd : (s.updateFinalizers fn (fn.finalizers ++ [frameNodeFinalizer])).1 =
            s.refinalize fn (fn.finalizers ++ [frameNodeFinalizer]) := by
          rw [updateFinalizers, hkey, hfn]
          exact congrArg Prod.fst (if_pos rfl)
        simp only [Program.serveAll_ask, Program.serveAll_pure, exec, answer, apply, hadd]
        rw [refinalize, if_neg fun h => by simp at h]
        refine passed_modify (f := fun a => { a with finalizers := fn.finalizers ++ [frameNodeFinalizer] }) hfn hdel (fun _ => rfl)
          ⟨rfl, rfl, rfl, rfl, rfl⟩ (by rw [hkey]) ?_
        exact labels_of_refused hfn hdel fun h => absurd h hfin

/-- A pass leaves the other FrameNodes and rewrites labels as said. -/
theorem passed (s : Cluster) (k : NamespacedName) : Passed s k (s.pass k) :=
  have h : Passed s.sync k (s.pass k) := passed_current rfl rfl
  ⟨h.others, h.own, h.labels⟩

/-! ## A round -/

/-- A round on its way, with these FrameNodes yet to come. -/
structure Along (s : Cluster) (ks : List NamespacedName) (t : Cluster) : Prop where
  todo : ∀ k ∈ ks, t.frameNodes.get? k = s.frameNodes.get? k
  past : ∀ k ∉ ks, Option.Rel Alike ((s.frameNodes.get? k).filter FrameNode.stays) (t.frameNodes.get? k)

theorem along_refl (hks : ks.Perm (s.frameNodes.items.map FrameNode.key)) : Along s ks s where
  todo _ _ := rfl
  past k hk := by
    have hnone : s.frameNodes.get? k = none :=
      Keyed.get?_eq_none_iff.mpr fun a ha hkey => hk (hks.mem_iff.mpr (hkey ▸ List.mem_map_of_mem ha))
    rw [hnone]
    exact .none

theorem Along.pass (h : Along s (k :: ks) t) (hk : k ∉ ks) : Along s ks (t.pass k) where
  todo j hj := by
    rw [(passed t k).others j fun he => hk (he ▸ hj)]
    exact h.todo j (List.mem_cons_of_mem k hj)
  past j hj := by
    by_cases hjk : j = k
    · subst hjk
      rw [← h.todo j List.mem_cons_self]
      exact (passed t j).own
    · rw [(passed t k).others j hjk]
      exact h.past j (by simp [hjk, hj])

/-- Along a round the FrameNodes to come are as they were. -/
theorem Along.round {js : List NamespacedName} (h : Along s (js ++ ks) t) (hjs : (js ++ ks).Nodup) : Along s ks (t.round js) := by
  induction js generalizing t with
  | nil => exact h
  | cons j js ih =>
    obtain ⟨hj, hjs⟩ := List.nodup_cons.mp hjs
    exact ih (h.pass hj) hjs

/-- Each FrameNode was there when the round began, and stays or is yet to come. -/
theorem Along.origin (h : Along s ks t) {b : FrameNode} (hb : t.frameNodes.get? k = some b) :
    ∃ a, s.frameNodes.get? k = some a ∧ Alike a b ∧ (k ∈ ks ∨ a.stays = true) := by
  by_cases hk : k ∈ ks
  · exact ⟨b, (h.todo k hk).symm.trans hb, alike_refl b, .inl hk⟩
  · have hrel := h.past k hk
    rw [hb] at hrel
    generalize hx : (s.frameNodes.get? k).filter FrameNode.stays = x at hrel
    cases hrel with
    | some hab =>
      obtain ⟨ha, hstays⟩ := Option.filter_eq_some_iff.mp hx
      exact ⟨_, ha, hab, .inr hstays⟩

theorem Along.kept (h : Along s ks t) {a : FrameNode} (ha : s.frameNodes.get? k = some a) (hstays : a.stays = true) :
    ∃ b, t.frameNodes.get? k = some b ∧ Alike a b := by
  by_cases hk : k ∈ ks
  · exact ⟨a, (h.todo k hk).trans ha, alike_refl a⟩
  · have hrel := h.past k hk
    rw [ha, Option.filter_some, if_pos hstays] at hrel
    generalize t.frameNodes.get? k = x at hrel
    cases hrel with
    | some hab => exact ⟨_, rfl, hab⟩

/-- A FrameNode that comes to its pass may classify its Node if it could when the round began. -/
theorem Along.mayClassify (h : Along s ks t) (hn : s.labels n ≠ none) (hu : Undisturbed s n) (hfn : fn ∈ s.frameNodes.items)
    (huid : (s.frameNodes.items.map FrameNode.uid).Nodup) (hname : fn.nodeName = n) (hlive : fn.deleting = false)
    (hfin : frameNodeFinalizer ∈ fn.finalizers) : t.mayClassify fn n = s.mayClassify fn n := by
  rw [Bool.eq_iff_iff, mayClassify_iff, mayClassify_iff]
  refine and_congr_right fun hclass => ⟨fun ht => ?_, fun hs b hb hne hnb => ?_⟩
  · have hstaying : ∀ a ∈ s.frameNodes.items, a.stays = true → a.uid ≠ fn.uid → a.nodeName = n → fn.createdAt ≤ a.createdAt := by
      intro a ha hstays hne hna
      obtain ⟨b, hb, hab⟩ := h.kept (Keyed.get?_of_mem ha) hstays
      rw [← hab.createdAt]
      exact ht b (Keyed.mem_of_get? hb) (hab.uid ▸ hne) (hab.nodeName.trans hna)
    rcases hu hn fn hfn hname hlive hfin hclass with hall | ⟨o, ho, hno, hstays, hlt⟩
    · exact fun a ha hne hna => hstaying a ha (stays_of_live (hall a ha hna)) hne hna
    · refine absurd (hstaying o ho hstays (fun he => ?_) hno) (Nat.not_le.mpr hlt)
      rw [List.inj_on_of_nodup_map huid ho hfn he] at hlt
      exact Nat.lt_irrefl _ hlt
  · obtain ⟨a, ha, hab, -⟩ := h.origin (Keyed.get?_of_mem hb)
    rw [hab.createdAt]
    exact hs a (Keyed.mem_of_get? ha) (hab.uid ▸ hne) (hab.nodeName.symm.trans hnb)

/-- Along a round a pass rewrites as it would have. -/
theorem Along.rewrite (h : Along s (k :: ks) t) (hn : s.labels n ≠ none) (hu : Undisturbed s n)
    (huid : (s.frameNodes.items.map FrameNode.uid).Nodup) (labels : Labels) : t.rewrite n labels k = s.rewrite n labels k := by
  rw [Cluster.rewrite, Cluster.rewrite, h.todo k List.mem_cons_self]
  cases hfn : s.frameNodes.get? k with
  | none => rfl
  | some fn =>
    dsimp only
    split
    · rfl
    rename_i hname
    split
    · rfl
    rename_i hlive
    by_cases hfin : frameNodeFinalizer ∈ fn.finalizers
    · rw [h.mayClassify hn hu (Keyed.mem_of_get? hfn) huid (not_not.mp hname) (Bool.not_eq_true _ ▸ hlive) hfin]
    · rw [if_neg fun hif => hfin hif.1, if_neg fun hif => hfin hif.1]

theorem labels_round_none (ks : List NamespacedName) : (t.round ks).labels n = none ↔ t.labels n = none := by
  induction ks generalizing t with
  | nil => rfl
  | cons k ks ih =>
    refine (ih (t := t.pass k)).trans ?_
    rw [(passed t k).labels n, Option.map_eq_none_iff]

/-- A round writes a Node as its passes would in the cluster it starts from. -/
theorem labels_round (hks : ks.Nodup) (h : Along s ks t) (hn : s.labels n ≠ none) (hu : Undisturbed s n)
    (huid : (s.frameNodes.items.map FrameNode.uid).Nodup) : (t.round ks).labels n = (t.labels n).map (ks.foldl (s.rewrite n)) := by
  induction ks generalizing t with
  | nil => exact (Option.map_id' ..).symm
  | cons k ks ih =>
    obtain ⟨hk, hks⟩ := List.nodup_cons.mp hks
    refine (ih hks (h.pass hk)).trans ?_
    rw [(passed t k).labels n, Option.map_map]
    congr 1
    funext labels
    rw [Function.comp_apply, h.rewrite hn hu huid, List.foldl_cons]

/-! ## Rounds that agree -/

/-- The FrameNode of a pass that projects labels onto a Node. -/
structure Writes (s : Cluster) (n : String) (a : FrameNode) : Prop where
  mem : a ∈ s.frameNodes.items
  name : a.nodeName = n
  live : a.deleting = false
  finalizer : frameNodeFinalizer ∈ a.finalizers
  may : s.mayClassify a n = true

theorem rewrite_cases (s : Cluster) (n : String) (k : NamespacedName) : (∀ labels, s.rewrite n labels k = labels) ∨
    (∃ d ∈ s.frameNodes.items, d.nodeName = n ∧ d.deleting = true ∧ ∀ labels, s.rewrite n labels k = strip labels) ∨
    ∃ a, a.key = k ∧ Writes s n a ∧ ∀ labels, s.rewrite n labels k = project a.spec labels := by
  cases hfn : s.frameNodes.get? k with
  | none => exact .inl fun labels => by rw [rewrite, hfn]
  | some fn =>
    have hmem := Keyed.mem_of_get? hfn
    by_cases hname : fn.nodeName = n
    · by_cases hdel : fn.deleting = true
      · exact .inr (.inl ⟨fn, hmem, hname, hdel, fun labels => by simp [rewrite, hfn, hname, hdel]⟩)
      · by_cases hw : frameNodeFinalizer ∈ fn.finalizers ∧ s.mayClassify fn n = true
        · refine .inr (.inr ⟨fn, Keyed.key_of_get? hfn, ⟨hmem, hname, by simpa using hdel, hw.1, hw.2⟩, fun labels => ?_⟩)
          simp [rewrite, hfn, hname, hdel, hw]
        · exact .inl fun labels => by simp [rewrite, hfn, hname, hdel, hw]
    · exact .inl fun labels => by simp [rewrite, hfn, hname]

/-- No pass of a round projects labels onto a Node that another strips. -/
theorem Undisturbed.not_both (hu : Undisturbed s n) (hn : s.labels n ≠ none) (huid : (s.frameNodes.items.map FrameNode.uid).Nodup)
    {d a : FrameNode} (hd : d ∈ s.frameNodes.items) (hname : d.nodeName = n) (hdel : d.deleting = true) : ¬Writes s n a := by
  intro ha
  obtain ⟨hclass, hfirst⟩ := mayClassify_iff.mp ha.may
  rcases hu hn a ha.mem ha.name ha.live ha.finalizer hclass with hall | ⟨o, ho, hno, -, hlt⟩
  · rw [hall d hd hname] at hdel
    cases hdel
  · refine absurd (hfirst o ho (fun he => ?_) hno) (Nat.not_le.mpr hlt)
    rw [List.inj_on_of_nodup_map huid ho ha.mem he] at hlt
    exact Nat.lt_irrefl _ hlt

theorem rewrite_comm (hone : AtMostOne s n) (hn : s.labels n ≠ none) (hu : Undisturbed s n)
    (huid : (s.frameNodes.items.map FrameNode.uid).Nodup) (j k : NamespacedName) (labels : Labels) :
    s.rewrite n (s.rewrite n labels j) k = s.rewrite n (s.rewrite n labels k) j := by
  rcases rewrite_cases s n j with hj | ⟨d, hd, hname, hdel, hj⟩ | ⟨a, hja, ha, hj⟩
  · rw [hj, hj]
  · rcases rewrite_cases s n k with hk | ⟨d', -, -, -, hk⟩ | ⟨b, -, hb, -⟩
    · rw [hk, hk]
    · simp only [hj, hk]
    · exact absurd hb (hu.not_both hn huid hd hname hdel)
  · rcases rewrite_cases s n k with hk | ⟨d', hd', hname', hdel', -⟩ | ⟨b, hkb, hb, -⟩
    · rw [hk, hk]
    · exact absurd ha (hu.not_both hn huid hd' hname' hdel')
    · rw [← hja, ← hkb, hone a ha.mem b hb.mem ha.name hb.name ha.may hb.may]

theorem roundsAgree (hone : ∀ n, AtMostOne s n) (hu : ∀ n, Undisturbed s n) (huid : (s.frameNodes.items.map FrameNode.uid).Nodup) :
    RoundsAgree s := by
  intro ks ks' hks hks' n l
  rw [label, label]
  by_cases hn : s.labels n = none
  · rw [labels_round_none ks |>.mpr hn, labels_round_none ks' |>.mpr hn]
  rw [labels_round (hks.nodup_iff.mpr s.frameNodes.nodup) (along_refl hks) hn (hu n) huid,
    labels_round (hks'.nodup_iff.mpr s.frameNodes.nodup) (along_refl hks') hn (hu n) huid]
  congr 2
  funext labels
  exact (hks.trans hks'.symm).foldl_eq' (fun j _ k _ labels => rewrite_comm (hone n) hn (hu n) huid j k labels) labels

/-! ## Rounds that differ -/

/-- Some label shows that a FrameNode was projected. -/
theorem project_classifies {spec : FrameNodeSpec} (h : classifiesNothing spec = false) :
    ∃ l ∈ frameNodeLabels, ∀ labels, project spec labels l ≠ none := by
  have hsome : spec.rack ≠ "" ∨ spec.zone ≠ "" ∨ spec.serviceClass.value ≠ "" ∨ spec.role ≠ "" ∨ spec.rdmaInterface ≠ "" := by
    by_contra hnone
    simp only [not_or, not_not] at hnone
    simp [classifiesNothing, hnone] at h
  rcases hsome with h | h | h | h | h
  · refine ⟨nodeLabelRack, by decide, fun labels => ?_⟩
    simp [project, applyNodeLabel, oldLabelRack, nodeLabelRDMA, nodeLabelRole, nodeLabelServiceClass, nodeLabelZone, nodeLabelRack, h]
  · refine ⟨nodeLabelZone, by decide, fun labels => ?_⟩
    simp [project, applyNodeLabel, oldLabelRack, nodeLabelRDMA, nodeLabelRole, nodeLabelServiceClass, nodeLabelZone, h]
  · refine ⟨nodeLabelServiceClass, by decide, fun labels => ?_⟩
    simp [project, applyNodeLabel, oldLabelRack, nodeLabelRDMA, nodeLabelRole, nodeLabelServiceClass, h]
  · refine ⟨nodeLabelRole, by decide, fun labels => ?_⟩
    simp [project, applyNodeLabel, oldLabelRack, nodeLabelRDMA, nodeLabelRole, h]
  · refine ⟨nodeLabelRDMA, by decide, fun labels => ?_⟩
    simp [project, applyNodeLabel, oldLabelRack, nodeLabelRDMA, h]

/-- The last pass of a round has the last word. -/
theorem label_last {f : Labels → Labels} (ks : List NamespacedName) (hn : s.labels n ≠ none)
    (hf : ∀ labels, (s.round ks).rewrite n labels k = f labels) (l : String) :
    ∃ labels, (s.round (ks ++ [k])).label n l = f labels l := by
  have hround : s.round (ks ++ [k]) = (s.round ks).pass k := by rw [Cluster.round, List.foldl_append]; rfl
  obtain ⟨labels, hlabels⟩ := Option.ne_none_iff_exists'.mp (mt (labels_round_none ks).mp hn)
  refine ⟨labels, ?_⟩
  rw [hround, label, (passed _ k).labels, hlabels, Option.map_some, Option.bind_some, hf]

/-- One round ends with a FrameNode that classifies, another with one that strips. -/
theorem undisturbed_of_agree (h : RoundsAgree s) (n : String) : Undisturbed s n := by
  intro hn w hw hname hlive hfin hclass
  by_contra hno
  rw [not_or] at hno
  obtain ⟨hdel, holder⟩ := hno
  push Not at hdel holder
  obtain ⟨d, hd, hdname, hdel⟩ := hdel
  have hne : w.key ≠ d.key := fun he => hdel (s.frameNodes.eq_of_key hw hd he ▸ hlive)
  obtain ⟨js, hjs⟩ : ∃ js, (js ++ [d.key, w.key]).Perm (s.frameNodes.items.map FrameNode.key) := by
    refine ⟨((s.frameNodes.items.map FrameNode.key).erase d.key).erase w.key, List.perm_append_comm.trans ?_⟩
    have hwk := List.perm_cons_erase ((List.mem_erase_of_ne hne).mpr (List.mem_map_of_mem (f := FrameNode.key) hw))
    exact ((hwk.cons d.key).symm.trans (List.perm_cons_erase (List.mem_map_of_mem hd)).symm)
  have hjs' : (js ++ [w.key, d.key]).Perm (s.frameNodes.items.map FrameNode.key) := ((List.Perm.swap _ _ _).append_left js).trans hjs
  have halong : ∀ {i k : NamespacedName}, (js ++ [i, k]).Perm (s.frameNodes.items.map FrameNode.key) →
      Along s [k] (s.round (js ++ [i])) := by
    intro i k hperm
    rw [List.append_cons] at hperm
    exact (along_refl hperm).round (hperm.nodup_iff.mpr s.frameNodes.nodup)
  have hproject : ∀ labels, (s.round (js ++ [d.key])).rewrite n labels w.key = project w.spec labels := by
    have hget := ((halong hjs).todo w.key (by simp)).trans (Keyed.get?_of_mem hw)
    have hmay : (s.round (js ++ [d.key])).mayClassify w n = true := by
      refine mayClassify_iff.mpr ⟨hclass, fun b hb huid hnb => ?_⟩
      obtain ⟨a, ha, hab, hwhich⟩ := (halong hjs).origin (Keyed.get?_of_mem hb)
      rw [hab.createdAt]
      rcases hwhich with hk | hstays
      · rw [List.mem_singleton.mp hk, Keyed.get?_of_mem hw] at ha
        cases ha
        exact absurd hab.uid huid
      · exact holder a (Keyed.mem_of_get? ha) (hab.nodeName.symm.trans hnb) hstays
    simp [Cluster.rewrite, hget, hname, hlive, hfin, hmay]
  have hstrip : ∀ labels, (s.round (js ++ [w.key])).rewrite n labels d.key = strip labels := by
    have hget := ((halong hjs').todo d.key (by simp)).trans (Keyed.get?_of_mem hd)
    simp [Cluster.rewrite, hget, hdname, hdel]
  obtain ⟨l, hl, hshows⟩ := project_classifies hclass
  obtain ⟨labels, hfirst⟩ := label_last _ hn hproject l
  obtain ⟨labels', hsecond⟩ := label_last _ hn hstrip l
  have hagree := h _ _ hjs hjs' n l
  rw [List.append_cons, hfirst, List.append_cons, hsecond, strip, if_pos (.inl hl)] at hagree
  exact hshows labels hagree

/-- One classifier for each Node, and rounds that agree, exactly where none tie for it and no deletion disturbs another. -/
theorem one_classifier_iff (s : Cluster) (hu : (s.frameNodes.items.map FrameNode.uid).Nodup) :
    ((∀ n, AtMostOne s n) ∧ RoundsAgree s) ↔ ∀ n, NoTie s n ∧ Undisturbed s n := by
  constructor
  · rintro ⟨hone, hagree⟩ n
    exact ⟨(atMostOne_iff hu).mp (hone n), undisturbed_of_agree hagree n⟩
  · intro h
    have hone : ∀ n, AtMostOne s n := fun n => (atMostOne_iff hu).mpr (h n).1
    exact ⟨hone, roundsAgree hone (fun n => (h n).2) hu⟩

namespace NodeFixture

def left : NamespacedName := ⟨"infra", "left"⟩

def right : NamespacedName := ⟨"tenant", "right"⟩

/-- Two FrameNodes that name one Node, created at these times, each with its finalizer. -/
def pair (first second : Nat) : Cluster :=
  (run (silent Cluster.current) ({} : Cluster)
    [.join "worker-1", .create left first { hostname := "worker-1", role := "worker" },
      .create right second { hostname := "worker-1", role := "storage" }, .pass left (List.replicate 2 .served),
      .pass right (List.replicate 2 .served)]).1

end NodeFixture

open NodeFixture in
/-- Two FrameNodes of one second both may classify the Node, whose role is that of the last pass of a round. -/
theorem tied_classifiers : ¬AtMostOne (pair 1 1) "worker-1" ∧
    ((pair 1 1).round [left, right]).label "worker-1" nodeLabelRole = some "storage" ∧
    ((pair 1 1).round [right, left]).label "worker-1" nodeLabelRole = some "worker" := by
  refine ⟨fun h => ?_, by decide +kernel, by decide +kernel⟩
  have htwo : ∃ a ∈ (pair 1 1).frameNodes.items, ∃ b ∈ (pair 1 1).frameNodes.items, a.key ≠ b.key ∧ a.nodeName = "worker-1" ∧
      b.nodeName = "worker-1" ∧ (pair 1 1).mayClassify a "worker-1" = true ∧ (pair 1 1).mayClassify b "worker-1" = true := by
    decide +kernel
  obtain ⟨a, ha, b, hb, hne, hna, hnb, hma, hmb⟩ := htwo
  exact hne (congrArg FrameNode.key (h a ha b hb hna hnb hma hmb))

open NodeFixture in
/-- Two FrameNodes of different seconds. -/
theorem one_classifier_pair : ((pair 1 2).frameNodes.items.map FrameNode.uid).Nodup ∧
    (∀ n, AtMostOne (pair 1 2) n) ∧ RoundsAgree (pair 1 2) := by
  have huid : ((pair 1 2).frameNodes.items.map FrameNode.uid).Nodup := by decide +kernel
  have htime : ((pair 1 2).frameNodes.items.map FrameNode.createdAt).Nodup := by decide +kernel
  have hlive : ∀ fn ∈ (pair 1 2).frameNodes.items, fn.deleting = false := by decide +kernel
  refine ⟨huid, (one_classifier_iff (pair 1 2) huid).mpr fun n => ⟨?_, fun _ w _ _ _ _ _ => .inl fun d hd _ => hlive d hd⟩⟩
  intro a ha b hb _ _ _ _ hsame _
  exact List.inj_on_of_nodup_map htime ha hb hsame

end FrameOperator.Nodes
