import FrameOperator.Nodes.Controller

/-!
# What a pass for a FrameNode does

All that a pass does (`Does`, `pass_does`): every invariant of the controller is read off these cases.
-/

namespace FrameOperator.Nodes

open Api
open Cluster Program

variable {s t : Cluster} {key : NamespacedName} {fn : FrameNode} {n : String}

/-- Two FrameNodes with nothing apart but their status and finalizers. -/
structure Alike (a b : FrameNode) : Prop where
  key : b.key = a.key
  uid : b.uid = a.uid
  createdAt : b.createdAt = a.createdAt
  deleting : b.deleting = a.deleting
  spec : b.spec = a.spec

/-- The later of them has the finalizer if the earlier has. -/
structure Same (a b : FrameNode) : Prop extends Alike a b where
  finalizer : frameNodeFinalizer ∈ a.finalizers → frameNodeFinalizer ∈ b.finalizers

theorem alike_refl (a : FrameNode) : Alike a a := ⟨rfl, rfl, rfl, rfl, rfl⟩

theorem Alike.nodeName {a b : FrameNode} (h : Alike a b) : b.nodeName = a.nodeName := by
  rw [FrameNode.nodeName, FrameNode.nodeName, h.spec, h.key]

theorem same_refl (a : FrameNode) : Same a a := ⟨alike_refl a, id⟩

/-- A step that writes no label and takes no finalizer. -/
structure Aside (s t : Cluster) : Prop where
  nodes : t.nodes = s.nodes
  projected : t.projected = s.projected
  seen : t.seenFrameNodes = s.seenFrameNodes
  frameNodes : ∀ k, Option.Rel Same (s.frameNodes.get? k) (t.frameNodes.get? k)

theorem rel_refl (a : Option FrameNode) : Option.Rel Same a a := by
  cases a with
  | none => exact .none
  | some a => exact .some (same_refl a)

theorem aside_refl (s : Cluster) : Aside s s := ⟨rfl, rfl, rfl, fun _ => rel_refl _⟩

theorem aside_modify (k : NamespacedName) {f : FrameNode → FrameNode} (hf : ∀ a, (f a).key = a.key)
    (h : ∀ a, s.frameNodes.get? k = some a → Same a (f a)) :
    Aside s { s with frameNodes := s.frameNodes.modify k f hf } := by
  refine ⟨rfl, rfl, rfl, fun j => ?_⟩
  dsimp only
  rw [Keyed.get?_modify]
  split
  · rename_i hj
    subst hj
    cases hget : s.frameNodes.get? j with
    | none => exact .none
    | some a => exact .some (h a hget)
  · exact rel_refl _

theorem aside_patchStatus (fn : FrameNode) (status : V1beta1.FrameNodeStatus) : Aside s (s.patchStatus fn status) :=
  aside_modify _ _ fun _ _ => ⟨⟨rfl, rfl, rfl, rfl, rfl⟩, id⟩

/-- A finalizer is added to the FrameNode that was read, or none is. -/
theorem aside_updateFinalizers {finalizers : List String} (h : frameNodeFinalizer ∈ finalizers) :
    Aside s (s.updateFinalizers fn finalizers).1 := by
  unfold Cluster.updateFinalizers
  split
  · exact aside_refl s
  · split
    · rw [refinalize, if_neg fun hnil => List.ne_nil_of_mem h hnil.2]
      exact aside_modify _ _ fun _ _ => ⟨⟨rfl, rfl, rfl, rfl, rfl⟩, fun _ => h⟩
    · exact aside_refl s

theorem Aside.of_some (h : Aside s t) {k : NamespacedName} {b : FrameNode} (hb : t.frameNodes.get? k = some b) :
    ∃ a, s.frameNodes.get? k = some a ∧ Same a b := by
  have hrel := h.frameNodes k
  rw [hb] at hrel
  generalize s.frameNodes.get? k = x at hrel
  cases hrel with
  | some hsame => exact ⟨_, rfl, hsame⟩

theorem Aside.to_some (h : Aside s t) {k : NamespacedName} {a : FrameNode} (ha : s.frameNodes.get? k = some a) :
    ∃ b, t.frameNodes.get? k = some b ∧ Same a b := by
  have hrel := h.frameNodes k
  rw [ha] at hrel
  generalize t.frameNodes.get? k = x at hrel
  cases hrel with
  | some hsame => exact ⟨_, rfl, hsame⟩

/-! ## Labels and claims -/

/-- What `mayClassify` answers over a list of the FrameNodes. -/
def allowed (list : List FrameNode) (fn : FrameNode) (nodeName : String) : Bool :=
  !classifiesNothing fn.spec && (claimant list fn nodeName).isNone

def Cluster.mayClassify (s : Cluster) : FrameNode → String → Bool := allowed s.frameNodes.items

/-- Who may classify a Node: none of another UID is older. -/
theorem mayClassify_iff : s.mayClassify fn n = true ↔ classifiesNothing fn.spec = false ∧
    ∀ other ∈ s.frameNodes.items, other.uid ≠ fn.uid → other.nodeName = n → fn.createdAt ≤ other.createdAt := by
  simp only [Cluster.mayClassify, allowed, claimant, Bool.and_eq_true, Bool.not_eq_true',
    Option.isNone_iff_eq_none, List.find?_eq_none,
    decide_eq_true_eq, not_and, Nat.not_lt, and_imp]

/-- The labels of a Node, if it is there. -/
def Cluster.labels (s : Cluster) (n : String) : Option Labels := (s.nodes.get? n).map Node.labels

def Cluster.label (s : Cluster) (n l : String) : Option String := (s.labels n).bind (· l)

theorem labels_relabel (m : String) (f : Labels → Labels) (projects : Option Nat) :
    (s.relabel m f projects).labels n = if n = m then (s.labels n).map f else s.labels n := by
  rw [labels, relabel, Keyed.get?_modify, labels]
  split
  · rw [Option.map_map, Option.map_map]
    rfl
  · rfl

/-- The labels after a patch made from the Node read. -/
theorem labels_patchNode (base : Node) (new : Labels) (projects : Option Nat) :
    (s.patchNode base new projects).labels n = if n = base.name then (s.labels n).map (mergeMap base.labels new) else s.labels n := by
  unfold Cluster.patchNode
  split
  · rename_i hnone
    split
    · rename_i hn
      rw [labels, hn, hnone]
      rfl
    · rfl
  · exact labels_relabel _ _ _

theorem label_of_nodes (h : t.nodes = s.nodes) (n l : String) : t.label n l = s.label n l := by
  rw [label, labels, h, label, labels]

theorem label_patchNode_ne {base : Node} (hn : n ≠ base.name) (new : Labels) (projects : Option Nat) (l : String) :
    (s.patchNode base new projects).label n l = s.label n l := by
  rw [label, labels_patchNode, if_neg hn, label]

/-- Nothing but the labels of one Node, and which were projected, is changed by a patch of them. -/
theorem frameNodes_patchNode (base : Node) (new : Labels) (projects : Option Nat) :
    (s.patchNode base new projects).frameNodes = s.frameNodes ∧ s.projected ⊆ (s.patchNode base new projects).projected ∧
      (s.patchNode base new projects).seenFrameNodes = s.seenFrameNodes := by
  unfold Cluster.patchNode
  split
  · exact ⟨rfl, fun _ h => h, rfl⟩
  · exact ⟨rfl, List.subset_append_left _ _, rfl⟩

/-! ## Letting go -/

/-- What is left once a FrameNode that was read is released. -/
def Cluster.letGo (s : Cluster) (fn : FrameNode) : Cluster :=
  (s.updateFinalizers fn (fn.finalizers.filter (· ≠ frameNodeFinalizer))).1

/-- A release is refused, or takes the finalizer off. -/
theorem letGo_cases (s : Cluster) (fn : FrameNode) : s.letGo fn = s ∨
    s.frameNodes.get? fn.key = some fn ∧ s.letGo fn = s.refinalize fn (fn.finalizers.filter (· ≠ frameNodeFinalizer)) := by
  unfold Cluster.letGo Cluster.updateFinalizers
  split
  · exact .inl rfl
  · split
    · rename_i cur hcur heq
      exact .inr ⟨heq ▸ hcur, rfl⟩
    · exact .inl rfl

theorem refinalize_rest (finalizers : List String) : (s.refinalize fn finalizers).nodes = s.nodes ∧
    (s.refinalize fn finalizers).projected = s.projected ∧ (s.refinalize fn finalizers).seenFrameNodes = s.seenFrameNodes := by
  unfold Cluster.refinalize
  split <;> exact ⟨rfl, rfl, rfl⟩

theorem letGo_rest : (s.letGo fn).nodes = s.nodes ∧ (s.letGo fn).projected = s.projected ∧
    (s.letGo fn).seenFrameNodes = s.seenFrameNodes := by
  rcases letGo_cases s fn with h | ⟨-, h⟩
  · rw [h]
    exact ⟨rfl, rfl, rfl⟩
  · rw [h]
    exact refinalize_rest _

theorem get?_refinalize_ne {k : NamespacedName} (hk : k ≠ fn.key) (finalizers : List String) :
    (s.refinalize fn finalizers).frameNodes.get? k = s.frameNodes.get? k := by
  unfold Cluster.refinalize
  split
  · simp only [Keyed.get?_erase, if_neg hk]
  · simp only [Keyed.get?_modify, if_neg hk]

theorem get?_refinalize (hfn : s.frameNodes.get? fn.key = some fn) (finalizers : List String) :
    (s.refinalize fn finalizers).frameNodes.get? fn.key =
      if fn.deleting ∧ finalizers = [] then none else some { fn with finalizers := finalizers } := by
  unfold Cluster.refinalize
  split
  · simp only [Keyed.get?_erase, if_true]
  · simp only [Keyed.get?_modify, if_true, hfn, Option.map_some]

/-! ## Passes -/

/-- What a pass leaves, in the cluster and under the fates it ran in. -/
inductive Does (s : Cluster) (key : NamespacedName) (fates : List (Fate Fault)) (t : Cluster) : Prop where
  | aside (h : Aside s t)
  | projects (fn : FrameNode) (node : Node) (hfn : s.seenFrameNodes.get? key = some fn) (hlive : fn.deleting = false)
      (hfinalizer : frameNodeFinalizer ∈ fn.finalizers) (hmay : allowed s.seenFrameNodes.items fn fn.nodeName = true)
      (hnode : s.seenNodes.get? fn.nodeName = some node)
      (h : Aside (s.patchNode node (project fn.spec node.labels) (some fn.uid)) t)
  | strips (fn : FrameNode) (node : Node) (hfn : s.seenFrameNodes.get? key = some fn) (hdel : fn.deleting = true)
      (hnode : s.seenNodes.get? fn.nodeName = some node)
      (h : t = s.patchNode node (strip node.labels) none ∨ t = (s.patchNode node (strip node.labels) none).letGo fn)
  | forgets (fn : FrameNode) (hfn : s.seenFrameNodes.get? key = some fn) (hdel : fn.deleting = true)
      (hnode : s.seenNodes.get? fn.nodeName = none ∨ ∃ c, fates[1]? = some c ∧ c ≠ .served) (h : t = s.letGo fn)

section Walk

variable {fates all : List (Fate Fault)}

theorem aside_setPhase (phase message : String) : Aside s ((setPhase fn phase message).serve exec s fates) :=
  serve_ask (aside_refl s) fun _ _ _ => serve_last (aside_refl s) fun c => Fate.answer_state c (aside_refl s) (aside_patchStatus _ _)

/-- What a pass over a live FrameNode does. -/
theorem does_online (hfn : s.seenFrameNodes.get? key = some fn) (hlive : fn.deleting = false)
    (hfinalizer : frameNodeFinalizer ∈ fn.finalizers) (hmay : allowed s.seenFrameNodes.items fn fn.nodeName = true) :
    Does s key all ((reconcileOnline fn).serve exec s fates) := by
  refine serve_ask (.aside (aside_refl s)) fun c rest _ => ?_
  have hs : (exec s (.getNode fn.nodeName) c).1 = s := Fate.answer_read c
  rw [hs]
  cases hread : (exec s (.getNode fn.nodeName) c).2 with
  | error e =>
    dsimp only
    split
    · exact .aside (aside_setPhase _ _)
    · exact .aside (aside_refl s)
  | ok node =>
    have hnode : s.seenNodes.get? fn.nodeName = some node := Keyed.get?_of_answer hread
    have hdone {t : Cluster} := @Does.projects s key all t fn node hfn hlive hfinalizer hmay hnode
    refine serve_ask (.aside (aside_refl s)) fun c rest _ => ?_
    have hput : Does s key all (exec s (.patchNode node (project fn.spec node.labels) (some fn.uid)) c).1 :=
      Fate.answer_state c (.aside (aside_refl s)) (hdone (aside_refl _))
    cases hanswer : (exec s (.patchNode node (project fn.spec node.labels) (some fn.uid)) c).2 with
    | error e => exact hput
    | ok patched =>
      refine serve_ask hput fun c' rest _ => serve_last hput fun c' => Fate.answer_state c' hput ?_
      cases c with
      | failed e => cases hanswer
      | lost e => cases hanswer
      | served => exact hdone (aside_patchStatus _ _)

/-- What a pass over a FrameNode being deleted does. -/
theorem does_delete (hfn : s.seenFrameNodes.get? key = some fn) (hdel : fn.deleting = true)
    (hall : ∀ c rest, fates = c :: rest → all[1]? = some c) :
    Does s key all ((reconcileDelete fn).serve exec s fates) := by
  have hrelease : ∀ {t : Cluster} {rest : List (Fate Fault)}, Does s key all t → Does s key all (t.letGo fn) →
      Does s key all ((release fn).serve exec t rest) :=
    fun ht hgo => serve_last ht fun c => Fate.answer_state c ht hgo
  refine serve_ask (.aside (aside_refl s)) fun c rest hc => ?_
  have hs : (exec s (.getNode fn.nodeName) c).1 = s := Fate.answer_read c
  rw [hs]
  cases hread : (exec s (.getNode fn.nodeName) c).2 with
  | error e =>
    refine hrelease (.aside (aside_refl s)) (.forgets fn hfn hdel ?_ rfl)
    cases c with
    | failed | lost => exact .inr ⟨_, hall _ rest hc, by simp⟩
    | served => exact .inl (Keyed.get?_of_read_error hread)
  | ok node =>
    have hnode : s.seenNodes.get? fn.nodeName = some node := Keyed.get?_of_answer hread
    have hdone {t : Cluster} := @Does.strips s key all t fn node hfn hdel hnode
    refine serve_ask (.aside (aside_refl s)) fun c rest _ => ?_
    have hput : Does s key all (exec s (.patchNode node (strip node.labels) none) c).1 :=
      Fate.answer_state c (.aside (aside_refl s)) (hdone (.inl rfl))
    cases hanswer : (exec s (.patchNode node (strip node.labels) none) c).2 with
    | error e => exact hput
    | ok patched =>
      refine hrelease hput ?_
      cases c with
      | failed e => cases hanswer
      | lost e => cases hanswer
      | served => exact hdone (.inr rfl)

/-- Every pass does one of these things, whatever becomes of its requests and wherever it is dropped. -/
theorem pass_does (s : Cluster) (key : NamespacedName) (fates : List (Fate Fault)) :
    Does s key fates ((reconcile key).serve exec s fates) := by
  have hstay : Does s key fates s := .aside (aside_refl s)
  refine serve_ask hstay fun c rest hc => ?_
  have hs : (exec s (.getFrameNode key) c).1 = s := Fate.answer_read c
  rw [hs]
  cases hread : (exec s (.getFrameNode key) c).2 with
  | error e =>
    dsimp only
    split <;> exact hstay
  | ok fn =>
    have hfn : s.seenFrameNodes.get? key = some fn := Keyed.get?_of_answer hread
    dsimp only
    split
    · rename_i hdel
      refine does_delete hfn hdel fun c rest' h => ?_
      rw [hc, h]
      rfl
    rename_i hlive
    rw [Bool.not_eq_true] at hlive
    split
    · rename_i hfinalizer
      refine serve_ask hstay fun c rest _ => ?_
      have hs : (exec s (.getNode fn.nodeName) c).1 = s := Fate.answer_read c
      rw [hs]
      cases (exec s (.getNode fn.nodeName) c).2 with
      | error e =>
        dsimp only
        split
        · exact .aside (aside_setPhase _ _)
        · exact hstay
      | ok node =>
        unfold mayClassify
        by_cases hnothing : classifiesNothing fn.spec = true
        · simp only [hnothing, if_true]
          exact .aside (aside_setPhase _ _)
        simp only [hnothing, Bool.false_eq_true, if_false]
        refine serve_ask hstay fun c rest _ => ?_
        cases c with
        | failed | lost => exact .aside (aside_setPhase _ _)
        | served =>
          cases hclaimant : claimant s.seenFrameNodes.items fn fn.nodeName with
          | some other =>
            simp only [exec, Fate.answer, Fate.apply, Program.bind, hclaimant]
            exact .aside (aside_setPhase _ _)
          | none =>
            simp only [Cluster.exec, Fate.answer, Fate.apply, Program.bind, hclaimant]
            exact does_online hfn hlive hfinalizer (by simp [allowed, hnothing, hclaimant])
    · exact serve_last hstay fun c => Fate.answer_state c hstay (.aside (aside_updateFinalizers (by simp)))

end Walk

end FrameOperator.Nodes
