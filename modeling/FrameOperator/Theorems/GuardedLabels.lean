import FrameOperator.Lemmas.NodePasses

/-!
# Who may change the labels of a Node

`mayClassify` guards the projection alone: the pass that lets a FrameNode go strips the Node it names, whoever classified it. As
long as every FrameNode that is being deleted has a right to its Node, the guard holds on both paths, however many FrameNodes it
refuses.
-/

namespace FrameOperator.Nodes

open Keyed Api

variable {s t : Cluster} {key : NamespacedName} {fates : List (Fate Fault)}

/-- A FrameNode that may classify a Node, or has projected labels onto it. -/
def Cluster.owns (s : Cluster) (fn : FrameNode) (n : String) : Prop := s.mayClassify fn n = true ∨ (fn.uid, n) ∈ s.projected

/-- Every label that differs is of a Node to which the FrameNode of the pass has a right. -/
def LabelsGuarded (s : Cluster) (key : NamespacedName) (t : Cluster) : Prop :=
  ∀ n l, t.label n l ≠ s.label n l → ∃ fn, s.frameNodes.get? key = some fn ∧ s.owns fn n

/-- Every FrameNode that is being deleted has a right to the Node it names. -/
def Rightful (s : Cluster) : Prop := ∀ k fn, s.frameNodes.get? k = some fn → fn.deleting = true → s.owns fn fn.nodeName

/-- No FrameNode without a right to its Node comes to be deleted. -/
def Guarded (s : Cluster) (i : Input) : Prop :=
  match i with
  | .create _ _ _ | .edit _ _ | .delete _ => Rightful (s.current i)
  | _ => True

/-- Each FrameNode was there as it is, and what was projected is not forgotten. -/
structure Origin (s t : Cluster) : Prop where
  frameNodes : ∀ k b, t.frameNodes.get? k = some b → ∃ a, s.frameNodes.get? k = some a ∧ Alike a b
  projected : s.projected ⊆ t.projected

theorem origin_of_eq (h : t.frameNodes = s.frameNodes) (hp : s.projected ⊆ t.projected) : Origin s t :=
  ⟨fun _ b hb => ⟨b, h ▸ hb, alike_refl b⟩, hp⟩

theorem Origin.trans {u : Cluster} (h : Origin s t) (h' : Origin t u) : Origin s u where
  frameNodes := by
    intro k c hc
    obtain ⟨b, hb, hbc⟩ := h'.frameNodes k c hc
    obtain ⟨a, ha, hab⟩ := h.frameNodes k b hb
    exact ⟨a, ha, hbc.key.trans hab.key, hbc.uid.trans hab.uid, hbc.createdAt.trans hab.createdAt, hbc.deleting.trans hab.deleting,
      hbc.spec.trans hab.spec⟩
  projected := List.Subset.trans h.projected h'.projected

/-- A right is lost only to a FrameNode that comes to name the Node. -/
theorem Origin.owns (h : Origin s t) {a b : FrameNode} (hab : Alike a b) {n : String} (ho : s.owns a n) : t.owns b n := by
  rcases ho with hmay | hproj
  · rw [mayClassify_iff] at hmay
    refine .inl (mayClassify_iff.mpr ⟨hab.spec ▸ hmay.1, fun d hd huid hname => ?_⟩)
    obtain ⟨c, hc, hcd⟩ := h.frameNodes _ d (get?_of_mem hd)
    rw [hab.createdAt, hcd.createdAt]
    exact hmay.2 c (mem_of_get? hc) (by rwa [← hcd.uid, ← hab.uid]) (hcd.nodeName.symm.trans hname)
  · exact .inr (h.projected (hab.uid ▸ hproj))

/-- Rights last where FrameNodes come from what there was. -/
theorem Rightful.of_origin (h : Rightful s) (ho : Origin s t) : Rightful t := by
  intro k b hb hdel
  obtain ⟨a, ha, hab⟩ := ho.frameNodes k b hb
  rw [hab.nodeName]
  exact ho.owns hab (h k a ha (hab.deleting ▸ hdel))

theorem Aside.origin (h : Aside s t) : Origin s t where
  frameNodes := by
    intro k b hb
    obtain ⟨a, ha, hsame⟩ := h.of_some hb
    exact ⟨a, ha, hsame.toAlike⟩
  projected := h.projected ▸ List.Subset.refl _

theorem origin_patchNode (base : Node) (labels : Labels) (projects : Option Nat) : Origin s (s.patchNode base labels projects) := by
  obtain ⟨hframe, hproj, -⟩ := frameNodes_patchNode (s := s) base labels projects
  exact origin_of_eq hframe hproj

theorem origin_letGo (fn : FrameNode) : Origin s (s.letGo fn) := by
  rcases letGo_cases s fn with h | ⟨hfn, h⟩
  · rw [h]
    exact origin_of_eq rfl (List.Subset.refl _)
  · refine ⟨fun k b hb => ?_, letGo_rest.2.1 ▸ List.Subset.refl _⟩
    rw [h] at hb
    by_cases hk : k = fn.key
    · subst hk
      rw [get?_refinalize hfn] at hb
      obtain ⟨-, hb⟩ := Option.ite_none_left_eq_some.mp hb
      cases hb
      exact ⟨fn, hfn, rfl, rfl, rfl, rfl, rfl⟩
    · rw [get?_refinalize_ne hk] at hb
      exact ⟨b, hb, alike_refl b⟩

/-- A pass adds no FrameNode and takes no projection back. -/
theorem Does.origin (h : Does s key fates t) : Origin s t := by
  cases h with
  | aside h => exact h.origin
  | projects fn node hfn hlive hfinalizer hmay hnode h => exact (origin_patchNode _ _ _).trans h.origin
  | strips fn node hfn hdel hnode h =>
    rcases h with rfl | rfl
    · exact origin_patchNode _ _ _
    · exact (origin_patchNode _ _ _).trans (origin_letGo fn)
  | forgets fn hfn hdel hnode h => exact h ▸ origin_letGo fn

/-- A pass changes only its Node's labels, if it may classify it or is being deleted. -/
theorem Does.label (h : Does s key fates t) {n l : String} (hne : t.label n l ≠ s.label n l) :
    ∃ fn, s.seenFrameNodes.get? key = some fn ∧ fn.nodeName = n ∧
      (allowed s.seenFrameNodes.items fn n = true ∨ fn.deleting = true) := by
  have hat : ∀ {u : Cluster} {fn : FrameNode} {node : Node} {labels : Labels} {projects : Option Nat},
      s.seenNodes.get? fn.nodeName = some node → u.nodes = (s.patchNode node labels projects).nodes →
      u.label n l ≠ s.label n l → fn.nodeName = n := by
    intro u fn node labels projects hnode hu hne
    by_contra hn
    refine hne ((label_of_nodes hu n l).trans (label_patchNode_ne ?_ labels projects l))
    rw [key_of_get? hnode]
    exact Ne.symm hn
  cases h with
  | aside h => exact absurd (label_of_nodes h.nodes n l) hne
  | projects fn node hfn hlive hfinalizer hmay hnode h =>
    have hn : fn.nodeName = n := hat hnode h.nodes hne
    exact ⟨fn, hfn, hn, .inl (hn ▸ hmay)⟩
  | strips fn node hfn hdel hnode h =>
    have hnodes : t.nodes = (s.patchNode node (strip node.labels) none).nodes := by
      rcases h with rfl | rfl
      · rfl
      · exact letGo_rest.1
    exact ⟨fn, hfn, hat hnode hnodes hne, .inr hdel⟩
  | forgets fn hfn hdel hnode h => exact absurd (label_of_nodes (h ▸ letGo_rest.1) n l) hne

/-- A guarded step keeps every deletion rightful. -/
theorem Rightful.current (h : Rightful s) {i : Input} (hi : Guarded s i) : Rightful (s.current i) := by
  cases i with
  | create | edit | delete => exact hi
  | pass key fates => exact Rightful.of_origin (s := s.sync) h (pass_does s.sync key fates).origin
  | syncFrameNodes | syncNodes | join | leave => exact h.of_origin (origin_of_eq rfl (List.Subset.refl _))
  | label name key value =>
    refine h.of_origin ?_
    simp only [Cluster.current, Cluster.step]
    split
    · exact origin_of_eq rfl (List.Subset.refl _)
    · exact origin_of_eq rfl (List.subset_append_left _ _)

/-- A pass that changes a label is of a FrameNode that may classify the Node or projected onto it, as those deleted are. -/
theorem labels_guarded (is : List Input) (hm : Meets (silent Cluster.current) Guarded {} is) (key : NamespacedName)
    (fates : List (Fate Fault)) :
    LabelsGuarded (run (silent Cluster.current) {} is).1 key ((run (silent Cluster.current) {} is).1.current (.pass key fates)) := by
  have h : Rightful (run (silent Cluster.current) ({} : Cluster) is).1 := by
    refine silent_induct (I := Rightful) ?_ (fun s i hs hi => hs.current hi) is hm
    intro k fn hfn
    cases hfn
  intro n l hne
  obtain ⟨fn, hfn, rfl, hright⟩ := (pass_does _ key fates).label hne
  exact ⟨fn, hfn, hright.elim .inl (h key fn hfn)⟩

namespace NodeFixture

def rack : NamespacedName := ⟨"infra", "rack"⟩

def bare : NamespacedName := ⟨"tenant", "worker-1"⟩

/-- A Node is classified, and a FrameNode that classifies nothing comes to name it too. -/
def classified : List Input :=
  [.join "worker-1", .create rack 1 { hostname := "worker-1", role := "worker" }, .pass rack (List.replicate 2 .served),
    .pass rack (List.replicate 7 .served), .create bare 2 {}, .pass bare (List.replicate 2 .served)]

end NodeFixture

open NodeFixture in
/-- A FrameNode that classifies nothing is deleted, and its last pass takes a label off that another projected. -/
theorem stripped_by_stranger :
    let s := (run (silent Cluster.current) ({} : Cluster) (classified ++ [.delete bare])).1
    let t := s.current (.pass bare (List.replicate 4 .served))
    s.label "worker-1" nodeLabelRole = some "worker" ∧ t.label "worker-1" nodeLabelRole = none ∧ ¬LabelsGuarded s bare t := by
  intro s t
  have hbefore : s.label "worker-1" nodeLabelRole = some "worker" := by decide +kernel
  have hafter : t.label "worker-1" nodeLabelRole = none := by decide +kernel
  refine ⟨hbefore, hafter, fun h => ?_⟩
  obtain ⟨fn, hfn, hmay⟩ := h "worker-1" nodeLabelRole (by rw [hbefore, hafter]; simp)
  have hrefused : ((s.frameNodes.get? bare).map fun fn => s.mayClassify fn "worker-1" || (fn.uid, "worker-1") ∈ s.projected) =
      some false := by
    decide +kernel
  rw [hfn] at hrefused
  simp only [Option.map_some, Option.some.injEq, Bool.or_eq_false_iff, decide_eq_false_iff_not] at hrefused
  rcases hmay with hmay | hmay
  · rw [hrefused.1] at hmay
    cases hmay
  · exact hrefused.2 hmay

open NodeFixture in
/-- A pass over a Node that two FrameNodes name. -/
theorem labels_guarded_classified : Meets (silent Cluster.current) Guarded {} classified ∧
    LabelsGuarded (run (silent Cluster.current) {} classified).1 rack
      ((run (silent Cluster.current) {} classified).1.current (.pass rack (List.replicate 7 .served))) := by
  have hlive : ∀ s : Cluster, s.frameNodes.items.all (!·.deleting) = true → Rightful s := by
    intro s hall k fn hfn hdel
    have hfalse := List.all_eq_true.mp hall fn (mem_of_get? hfn)
    rw [hdel] at hfalse
    cases hfalse
  have hm : Meets (silent Cluster.current) Guarded {} classified :=
    ⟨trivial, hlive _ (by decide +kernel), trivial, trivial, hlive _ (by decide +kernel), trivial, trivial⟩
  exact ⟨hm, labels_guarded classified hm rack _⟩

end FrameOperator.Nodes
