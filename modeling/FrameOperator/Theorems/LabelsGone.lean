import FrameOperator.Lemmas.NodePasses

/-!
# Labels that outlive their FrameNode

The pass that lets a FrameNode go strips the Node that its spec names then, of the labels that it read there. Labels that were
projected under an earlier hostname stay, and so do those of a Node whose read fails or is behind.
-/

namespace FrameOperator.Nodes

open Api
open Cluster Keyed

variable {s t : Cluster} {key : NamespacedName} {fates : List (Fate Fault)} {fn : FrameNode} {n : String}

/-- No Node carries a label of FrameNode's own. -/
def Unlabelled (s : Cluster) : Prop := ∀ n, ∀ l ∈ ownLabels, s.label n l = none

/-- The cache has, of a Node, every label of FrameNode's own that the Node carries. -/
def Cluster.shows (s : Cluster) (n : String) : Prop :=
  ∀ l ∈ ownLabels, s.label n l ≠ none → ∃ node, s.seenNodes.get? n = some node ∧ node.labels l ≠ none

/-- A finalized FrameNode keeps its Node, and its last pass reads the Node's labels. -/
def Steady (s : Cluster) : Input → Prop
  | .edit key spec => ∀ fn, s.frameNodes.get? key = some fn → frameNodeFinalizer ∈ fn.finalizers → named key spec = fn.nodeName
  | .pass key fates => ∀ fn, s.seenFrameNodes.get? key = some fn → fn.deleting = true →
    (∀ c, fates[1]? = some c → c = .served) ∧ s.shows fn.nodeName
  | _ => True

/-- A FrameNode that has yet to let a Node go. -/
def Cluster.holds (s : Cluster) (k : NamespacedName) (n : String) : Prop :=
  ∃ fn, s.frameNodes.get? k = some fn ∧ fn.nodeName = n ∧ frameNodeFinalizer ∈ fn.finalizers

/-- A Node with such a label, or seen held and live, has yet to be let go. -/
structure Kept (s : Cluster) : Prop where
  labelled : ∀ n, ∀ l ∈ ownLabels, s.label n l ≠ none → ∃ k, s.holds k n
  seen : ∀ k fn, s.seenFrameNodes.get? k = some fn → fn.deleting = false → frameNodeFinalizer ∈ fn.finalizers → s.holds k fn.nodeName

/-- A cache that is up to date shows every Node. -/
theorem shows_of_current (h : s.seenNodes = s.nodes) (n : String) : s.shows n := by
  intro l _ hne
  obtain ⟨v, hv⟩ := Option.ne_none_iff_exists'.mp hne
  obtain ⟨labels, hlabels, hl⟩ := Option.bind_eq_some_iff.mp hv
  obtain ⟨node, hnode, rfl⟩ := Option.map_eq_some_iff.mp hlabels
  exact ⟨node, h ▸ hnode, by rw [hl]; simp⟩

theorem strip_ownLabels {l : String} (hl : l ∈ ownLabels) (labels : Labels) : strip labels l = none := by
  have hmem : l ∈ frameNodeLabels ∨ l = oldLabelRack := by
    revert l
    decide
  exact if_pos hmem

/-- A patch that strips a Node as it is shown leaves none of the labels. -/
theorem label_strip {node : Node} (hnode : s.seenNodes.get? n = some node) (hshows : s.shows n) {l : String} (hl : l ∈ ownLabels) :
    (s.patchNode node (strip node.labels) none).label n l = none := by
  rw [label, labels_patchNode, key_of_get? hnode, if_pos rfl]
  cases hlabels : s.labels n with
  | none => rfl
  | some labels =>
    have hlabel : s.label n l = labels l := by rw [label, hlabels]; rfl
    have hmerge : mergeMap node.labels (strip node.labels) labels l = mergePart (node.labels l) none (labels l) := by
      rw [mergeMap, strip_ownLabels hl]
    rw [Option.map_some, Option.bind_some, hmerge, mergePart]
    split
    · rename_i hbase
      by_contra hcur
      obtain ⟨node', hnode', hne⟩ := hshows l hl (hlabel ▸ hcur)
      rw [hnode] at hnode'
      cases hnode'
      exact hne hbase
    · rfl

theorem Aside.holds {k : NamespacedName} (h : Aside s t) (hn : s.holds k n) : t.holds k n := by
  obtain ⟨a, ha, hname, hfin⟩ := hn
  obtain ⟨b, hb, hsame⟩ := h.to_some ha
  exact ⟨b, hb, hsame.nodeName.trans hname, hsame.finalizer hfin⟩

/-- To let a FrameNode go leaves every other, and the Nodes that it does not name. -/
theorem letGo_holds {k : NamespacedName} (hn : k ≠ fn.key ∨ n ≠ fn.nodeName) (h : s.holds k n) : (s.letGo fn).holds k n := by
  rcases letGo_cases s fn with heq | ⟨hfn, heq⟩
  · rwa [heq]
  obtain ⟨a, ha, hname, hfin⟩ := h
  have hk : k ≠ fn.key := by
    rintro rfl
    rw [hfn] at ha
    cases ha
    exact hn.elim (fun hne => hne rfl) fun hne => hne hname.symm
  exact ⟨a, by rw [heq, get?_refinalize_ne hk, ha], hname, hfin⟩

theorem Kept.of_le (h : Kept s) (hholds : ∀ k n, s.holds k n → t.holds k n) (hseen : t.seenFrameNodes = s.seenFrameNodes)
    (hlabel : ∀ n, ∀ l ∈ ownLabels, s.label n l = none → t.label n l = none) : Kept t where
  labelled n l hl hne := (h.labelled n l hl fun hnone => hne (hlabel n l hl hnone)).imp fun k => hholds k n
  seen k fn hfn hlive hfin := hholds k _ (h.seen k fn (hseen ▸ hfn) hlive hfin)

/-- A FrameNode is let go that was seen being deleted, of a Node without labels. -/
theorem Kept.letGo (h : Kept s) (hfn : s.seenFrameNodes.get? key = some fn) (hdel : fn.deleting = true)
    (hnone : ∀ l ∈ ownLabels, s.label fn.nodeName l = none) : Kept (s.letGo fn) where
  labelled := by
    intro n l hl hlabel
    rw [label_of_nodes letGo_rest.1] at hlabel
    refine (h.labelled n l hl hlabel).imp fun k hk => letGo_holds (.inr ?_) hk
    rintro rfl
    exact hlabel (hnone l hl)
  seen := by
    intro k a ha hlive hfin
    rw [letGo_rest.2.2] at ha
    refine letGo_holds (.inl ?_) (h.seen k a ha hlive hfin)
    rintro rfl
    rw [key_of_get? hfn, hfn] at ha
    cases ha
    rw [hdel] at hlive
    cases hlive

/-- A pass that reads its Node's labels loses none of them. -/
theorem Kept.does (h : Kept s) (hd : Does s key fates t) (hread : Steady s (.pass key fates)) : Kept t := by
  have haside : ∀ {u : Cluster}, Kept u → Aside u t → Kept t := fun hu ha =>
    hu.of_le (fun _ _ => ha.holds) ha.seen fun n l _ hnone => (label_of_nodes ha.nodes n l).trans hnone
  cases hd with
  | aside ha => exact haside h ha
  | projects fn node hfn hlive hfinalizer hmay hnode ha =>
    refine haside ⟨fun n l hl hlabel => ?_, ?_⟩ ha
    all_goals simp only [holds, frameNodes_patchNode]
    · by_cases hn : n = fn.nodeName
      · exact ⟨key, hn ▸ h.seen key fn hfn hlive hfinalizer⟩
      · rw [label_patchNode_ne (by rwa [key_of_get? hnode])] at hlabel
        exact h.labelled n l hl hlabel
    · exact h.seen
  | strips fn node hfn hdel hnode ht =>
    have hnone : ∀ l ∈ ownLabels, (s.patchNode node (strip node.labels) none).label fn.nodeName l = none :=
      fun l hl => label_strip hnode (hread fn hfn hdel).2 hl
    have hstripped : Kept (s.patchNode node (strip node.labels) none) := by
      refine h.of_le (fun k n => ?_) (frameNodes_patchNode _ _ _).2.2 fun n l hl hwas => ?_
      · simp only [holds, frameNodes_patchNode, imp_self]
      · by_cases hn : n = fn.nodeName
        · exact hn ▸ hnone l hl
        · rwa [label_patchNode_ne (by rwa [key_of_get? hnode])]
    rcases ht with rfl | rfl
    · exact hstripped
    · exact hstripped.letGo ((frameNodes_patchNode _ _ _).2.2 ▸ hfn) hdel hnone
  | forgets fn hfn hdel hnode ht =>
    obtain ⟨hserved, hshows⟩ := hread fn hfn hdel
    subst ht
    refine h.letGo hfn hdel fun l hl => ?_
    by_contra hlabel
    obtain ⟨node, hsome, -⟩ := hshows l hl hlabel
    rcases hnode with hnone | ⟨c, hc, hne⟩
    · rw [hsome] at hnone
      cases hnone
    · exact hne (hserved c hc)

theorem holds_modify (key : NamespacedName) {f : FrameNode → FrameNode} (hf : ∀ a, (f a).key = a.key)
    (h : ∀ a, s.frameNodes.get? key = some a → frameNodeFinalizer ∈ a.finalizers → (f a).nodeName = a.nodeName ∧
      frameNodeFinalizer ∈ (f a).finalizers) (k : NamespacedName) (n : String) (hn : s.holds k n) :
    { s with frameNodes := s.frameNodes.modify key f hf }.holds k n := by
  obtain ⟨a, ha, hname, hfin⟩ := hn
  by_cases hk : k = key
  · subst hk
    obtain ⟨hsame, hstill⟩ := h a ha hfin
    exact ⟨f a, by simp [get?_modify, ha], hsame.trans hname, hstill⟩
  · exact ⟨a, by simp [get?_modify, hk, ha], hname, hfin⟩

/-- Every steady step keeps account of the labels. -/
theorem Kept.step (h : Kept s) {i : Input} (hi : Steady s i) : Kept (s.step i) := by
  cases i with
  | pass key fates => exact h.does (pass_does s key fates) hi
  | syncFrameNodes => exact ⟨h.labelled, fun k fn hfn _ hfin => ⟨fn, hfn, rfl, hfin⟩⟩
  | syncNodes => exact h.of_le (fun k n hn => hn) rfl fun n l _ hnone => hnone
  | create key createdAt spec =>
    refine h.of_le (fun k n hn => ?_) rfl fun n l _ hnone => hnone
    obtain ⟨fn, hfn, hrest⟩ := hn
    exact ⟨fn, get?_insertNew_of_some hfn _, hrest⟩
  | edit key spec =>
    refine h.of_le (holds_modify key _ fun a ha hfin => ⟨?_, hfin⟩) rfl fun n l _ hnone => hnone
    rw [← hi a ha hfin, FrameNode.nodeName, key_of_get? ha]
  | delete key =>
    simp only [Cluster.step]
    split
    · rename_i a ha
      split
      · rename_i hnone
        refine h.of_le (fun k n hn => ?_) rfl fun n l _ hnone => hnone
        obtain ⟨fn, hfn, hname, hfin⟩ := hn
        refine ⟨fn, ?_, hname, hfin⟩
        simp only [get?_erase]
        rw [if_neg, hfn]
        rintro rfl
        rw [hfn] at ha
        cases ha
        exact List.ne_nil_of_mem hfin hnone
      · exact h.of_le (holds_modify key _ fun a _ hfin => ⟨rfl, hfin⟩) rfl fun n l _ hnone => hnone
    · exact h
  | join name =>
    refine h.of_le (fun k n hn => hn) rfl fun n l _ hnone => ?_
    simp only [Cluster.label, Cluster.labels, Cluster.step, get?_insertNew]
    split
    · rfl
    · exact hnone
  | leave name =>
    refine h.of_le (fun k n hn => hn) rfl fun n l _ hnone => ?_
    simp only [Cluster.label, Cluster.labels, Cluster.step, get?_erase]
    split
    · rfl
    · exact hnone
  | label name key value =>
    simp only [Cluster.step]
    split
    · exact h
    rename_i hown
    refine h.of_le (fun k n hn => hn) rfl fun n l hl hnone => ?_
    have hlk : l ≠ key := fun he => hown (he ▸ hl)
    rw [label] at hnone
    rw [label, labels_relabel]
    split
    · cases hlabels : s.labels n with
      | none => rfl
      | some labels =>
        rw [hlabels] at hnone
        exact (if_neg hlk).trans hnone
    · exact hnone

/-- Without FrameNodes no Node carries their labels, if they keep their Node and their last passes read its labels. -/
theorem labels_gone (is : List Input) (hm : Meets (silent Cluster.step) Steady {} is)
    (hgone : (run (silent Cluster.step) ({} : Cluster) is).1.frameNodes.items = []) :
    Unlabelled (run (silent Cluster.step) {} is).1 := by
  have hinit : Kept {} := ⟨fun n l _ hlabel => absurd rfl hlabel, fun k fn hfn => by cases hfn⟩
  have h := silent_induct (I := Kept) hinit (fun s i hs hi => hs.step hi) is hm
  intro n l hl
  by_contra hlabel
  obtain ⟨k, fn, hfn, -⟩ := h.labelled n l hl hlabel
  have hmem := mem_of_get? hfn
  rw [hgone] at hmem
  cases hmem

namespace NodeFixture

def gpu : NamespacedName := ⟨"infra", "gpu"⟩

/-- A pass with the caches up to date. -/
def fresh (fates : Nat) : List Input := [.syncFrameNodes, .syncNodes, .pass gpu (List.replicate fates .served)]

def life : List Input :=
  [.join "worker-1", .join "worker-2", .create gpu 1 { hostname := "worker-1", role := "worker" }] ++ fresh 2 ++ fresh 7

def ending : List Input := .delete gpu :: fresh 4

def moved : List Input := life ++ .edit gpu { hostname := "worker-2", role := "worker" } :: ending

end NodeFixture

open NodeFixture in
/-- The hostname of a FrameNode is edited before it is deleted, and the labels of the other Node stay for good. -/
theorem label_outlives : (run (silent Cluster.step) ({} : Cluster) moved).1.frameNodes.items.length = 0 ∧
    (run (silent Cluster.step) ({} : Cluster) moved).1.label "worker-1" nodeLabelRole = some "worker" ∧
      ¬Unlabelled (run (silent Cluster.step) ({} : Cluster) moved).1 := by
  have hstays : (run (silent step) ({} : Cluster) moved).1.label "worker-1" nodeLabelRole = some "worker" := by decide +kernel
  refine ⟨by decide +kernel, hstays, fun h => ?_⟩
  have hnone := h "worker-1" nodeLabelRole (by decide)
  rw [hstays] at hnone
  cases hnone

open NodeFixture in
/-- A FrameNode that projects and is deleted. -/
theorem labels_gone_life : Meets (silent Cluster.step) Steady {} (life ++ ending) ∧
    (run (silent Cluster.step) ({} : Cluster) (life ++ ending)).1.frameNodes.items = [] ∧
      Unlabelled (run (silent Cluster.step) ({} : Cluster) (life ++ ending)).1 := by
  have hlive : ∀ (is : List Input), ((run (silent step) ({} : Cluster) is).1.seenFrameNodes.get? gpu).all (!·.deleting) = true →
      ∀ fates, Steady (run (silent step) ({} : Cluster) is).1 (.pass gpu fates) := by
    intro is h fates fn hfn hdel
    rw [hfn] at h
    simp [hdel] at h
  have hlast : Steady (run (silent step) ({} : Cluster) ((life ++ ending).take 12)).1 (.pass gpu (List.replicate 4 .served)) := by
    intro fn hfn _
    exact ⟨fun c hc => by cases hc; rfl, shows_of_current rfl _⟩
  have hm : Meets (silent step) Steady {} (life ++ ending) :=
    ⟨trivial, trivial, trivial, trivial, trivial, hlive (life.take 5) (by decide +kernel) _, trivial, trivial,
      hlive (life.take 8) (by decide +kernel) _, trivial, trivial, trivial, hlast, trivial⟩
  have hgone : (run (silent step) ({} : Cluster) (life ++ ending)).1.frameNodes.items = [] :=
    List.length_eq_zero_iff.mp (by decide +kernel)
  exact ⟨hm, hgone, labels_gone _ hm hgone⟩

end FrameOperator.Nodes
