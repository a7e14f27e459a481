import FrameOperator.Lemmas.Passes

/-!
# What the steps other than a pass do

A step that is no pass commits no write of the controller, and does to each Node what `Action.onNode` says.
-/

namespace FrameOperator

def Action.isPass : Action → Bool
  | .pass _ _ => true
  | _ => false

def Action.onNode (a : Action) (n : Node) : Node :=
  match a with
  | .publish node unit activeEnter migProfile => if n.name = node then setNodeState unit activeEnter migProfile n else n
  | .setConditions node conditions => if n.name = node then { n with conditions := conditions } else n
  | .relabel node labels => if n.name = node then { n with labels := labels } else n
  | .approve node value =>
    if n.name = node then { n with annotations := Function.update n.annotations .approval value } else n
  | .clearStarted node => if n.name = node then deleteKey .rolloutStarted n else n
  | _ => n

theorem Server.get?_editNode (s : Server) (name : String) (f : Node → Node) (hf : ∀ n, (f n).name = n.name) (x : String) :
    (s.editNode name f hf).nodes.get? x = (s.nodes.get? x).map (fun n => if n.name = name then f n else n) := by
  have h : (s.editNode name f hf).nodes = s.nodes.modify name f hf := rfl
  rw [h, Keyed.get?_modify]
  cases hx : s.nodes.get? x with
  | none => simp
  | some n =>
    have hn : n.name = x := Keyed.key_of_get? hx
    by_cases hname : x = name
    · simp [hname, hn]
    · simp [hname, hn]

theorem Server.nodes_delete (s : Server) (name : String) (now : Time) : (s.delete name now).nodes = s.nodes := by
  unfold Server.delete
  split
  · rfl
  split
  · rfl
  · rfl

variable (r : NodeTuningReconciler)

/-- Anything but a pass edits nodes one by one. -/
theorem step_other {s : Server} {a : Action} (h : a.isPass = false) :
    (step r s a).2 = [] ∧ ∀ x, (step r s a).1.nodes.get? x = (s.nodes.get? x).map a.onNode := by
  -- the steps that touch no Node
  have hsame : ∀ s' : Server, s'.nodes = s.nodes → (∀ n, a.onNode n = n) → ∀ x, s'.nodes.get? x = (s.nodes.get? x).map a.onNode := by
    intro s' hs' ha x
    rw [hs']
    cases s.nodes.get? x with
    | none => rfl
    | some n => rw [Option.map_some, ha]
  cases a with
  | pass version env => cases h
  | publish node unit activeEnter migProfile | setConditions node conditions | relabel node labels | approve node value
  | clearStarted node => exact ⟨rfl, s.get?_editNode node _ _⟩
  | patchObserved | create | editSpec => exact ⟨rfl, hsame _ rfl (fun _ => rfl)⟩
  | delete tuning now => exact ⟨rfl, hsame _ (s.nodes_delete tuning now) (fun _ => rfl)⟩

/-- A pass starts from a version that was committed. -/
theorem step_pass (s : Server) (version : Nat) (env : PassEnv) :
    (step r s (.pass version env) = (s, []) ∧ s.tunings.past[version]? = none) ∨
      ∃ copy ∈ s.tunings.past, s.tunings.past[version]? = some copy ∧
        step r s (.pass version env) = ((r.reconcile env s copy).1.server, (r.reconcile env s copy).1.log) := by
  cases hv : s.tunings.past[version]? with
  | none => exact .inl ⟨by simp only [step, hv], rfl⟩
  | some copy => exact .inr ⟨copy, List.mem_of_getElem? hv, rfl, by simp only [step, hv]⟩

theorem name_onNode (a : Action) (n : Node) : (a.onNode n).name = n.name := by
  cases a <;> simp only [Action.onNode] <;> split <;> first | rfl | exact name_setNodeState _ _ _ n

theorem annotations_setNodeState (unit : String) (activeEnter : Option Time) (migProfile : String) (n : Node) {k : AnnKey}
    (h1 : k ≠ .unit) (h2 : k ≠ .unitActiveEnter) :
    (setNodeState unit activeEnter migProfile n).annotations k = n.annotations k := by
  unfold setNodeState
  cases activeEnter <;> by_cases hm : migProfile = "" <;> simp [hm, h1, h2]

/-- Others write the agent's annotations and the approval, and take the started one away. -/
theorem annotations_onNode (a : Action) (n : Node) {k : AnnKey} (h1 : k ≠ .unit) (h2 : k ≠ .unitActiveEnter)
    (h3 : k ≠ .approval) :
    (a.onNode n).annotations k = n.annotations k ∨
      (k = .rolloutStarted ∧ a = .clearStarted n.name ∧ (a.onNode n).annotations k = none) := by
  cases a with
  | publish node unit activeEnter migProfile =>
    simp only [Action.onNode]
    split
    · exact .inl (annotations_setNodeState unit activeEnter migProfile n h1 h2)
    · exact .inl rfl
  | setConditions | relabel => simp only [Action.onNode]; split <;> exact .inl rfl
  | approve node value =>
    simp only [Action.onNode]
    split
    · exact .inl (by simp [h3])
    · exact .inl rfl
  | clearStarted node =>
    simp only [Action.onNode]
    split
    · rename_i hn
      by_cases hk : k = .rolloutStarted
      · exact .inr ⟨hk, by rw [hn], by simp [hk]⟩
      · exact .inl (by simp [hk])
    · exact .inl rfl
  | pass | patchObserved | create | editSpec | delete => exact .inl rfl

/-- Nobody but the controller puts a node in flight. -/
theorem inFlight_of_onNode {a : Action} {n : Node} (h : rolloutInFlight (a.onNode n) = true) : rolloutInFlight n = true := by
  rcases annotations_onNode a n (k := .rolloutStarted) (by simp) (by simp) (by simp) with heq | ⟨-, -, hnone⟩
  · simpa [rolloutInFlight, heq] using h
  · simp [rolloutInFlight, hnone] at h

end FrameOperator
