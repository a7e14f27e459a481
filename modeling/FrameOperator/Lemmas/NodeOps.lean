import FrameOperator.Tuning.Cluster

/-!
# What the controller's edits do to a Node

Each edit touches the unschedulable flag and the annotations of the restart protocol. A patch computed from the live node leaves the
edited node (`Server.get?_patchNode`).
-/

namespace FrameOperator

open NodeOp

/-! ## The edits, annotation by annotation -/

@[simp] theorem annotations_setKey (k : AnnKey) (v : AnnValue) (n : Node) :
    ( setNodeAnnotation k v n).annotations = Function.update n.annotations k (some v) := rfl

@[simp] theorem annotations_deleteKey (k : AnnKey) (n : Node) :
    (deleteKey k n).annotations = Function.update n.annotations k none := rfl

theorem annotations_foldl_delete (ks : List AnnKey) (n : Node) (k : AnnKey) :
    (ks.foldl (fun n k => deleteKey k n) n).annotations k = if k ∈ ks then none else n.annotations k := by
  induction ks generalizing n with
  | nil => simp
  | cons j ks ih =>
    rw [List.foldl_cons, ih, annotations_deleteKey]
    by_cases hks : k ∈ ks
    · simp [hks]
    by_cases hj : k = j
    · simp [hj]
    · simp [hks, hj]

theorem annotations_clearRolloutAnnotations (n : Node) (k : AnnKey) :
    (clearRolloutAnnotations n).annotations k = if k ∈ rolloutKeys then none else n.annotations k :=
  annotations_foldl_delete rolloutKeys n k

theorem foldl_delete_keeps (ks : List AnnKey) (n : Node) :
    (ks.foldl (fun n k => deleteKey k n) n).name = n.name ∧ (ks.foldl (fun n k => deleteKey k n) n).labels = n.labels ∧
      (ks.foldl (fun n k => deleteKey k n) n).conditions = n.conditions := by
  induction ks generalizing n with
  | nil => exact ⟨rfl, rfl, rfl⟩
  | cons j ks ih => exact ih (deleteKey j n)

variable (op : NodeOp)

theorem mutate_keeps (n : Node) :
    (op.mutate n).name = n.name ∧ (op.mutate n).labels = n.labels ∧ (op.mutate n).conditions = n.conditions := by
  cases op with
  | cordon now owner => simp only [mutate, setNodeAnnotation, deleteKey, and_self]
  | request | fail => exact ⟨rfl, rfl, rfl⟩
  | uncordon | release => exact foldl_delete_keeps rolloutKeys { n with unschedulable := false }

@[simp] theorem name_mutate (n : Node) : (op.mutate n).name = n.name := (mutate_keeps op n).1

/-- An edit changes only rollout annotations. -/
theorem annotations_mutate_of_notMem (n : Node) {k : AnnKey} (hk : k ∉ rolloutKeys) :
    (op.mutate n).annotations k = n.annotations k := by
  have hne : k ≠ .rolloutStarted ∧ k ≠ .rolloutOwner ∧ k ≠ .rolloutFailed ∧ k ≠ .restartBaseline ∧ k ≠ .restartRequested := by
    simpa [rolloutKeys] using hk
  obtain ⟨h1, h2, h3, h4, h5⟩ := hne
  cases op with
  | cordon now owner => simp [mutate, h1, h2, h3, h4, h5]
  | request baseline now => simp [mutate, h4, h5]
  | fail now => simp [mutate, h3]
  | uncordon | release => exact (annotations_clearRolloutAnnotations _ k).trans (if_neg hk)

def NodeOp.leavesInFlight (op : NodeOp) (n : Node) : Bool :=
  match op with
  | .cordon _ _ => true
  | .request _ _ => rolloutInFlight n
  | .fail _ => rolloutInFlight n
  | .uncordon => false
  | .release => false

/-- Which nodes an edit leaves in flight. -/
theorem rolloutInFlight_mutate (n : Node) : rolloutInFlight (op.mutate n) = op.leavesInFlight n := by
  cases op with
  | cordon | request | fail => simp [mutate, rolloutInFlight, leavesInFlight]
  | uncordon | release =>
    simp [mutate, rolloutInFlight, leavesInFlight, annotations_clearRolloutAnnotations, rolloutKeys]

def NodeOp.leavesOwner (op : NodeOp) (n : Node) : Option AnnValue :=
  match op with
  | .cordon _ owner => some (.text owner)
  | .request _ _ => n.annotations .rolloutOwner
  | .fail _ => n.annotations .rolloutOwner
  | .uncordon => none
  | .release => none

/-- Whose rollout an edit leaves a node in. -/
theorem owner_mutate (n : Node) : (op.mutate n).annotations .rolloutOwner = op.leavesOwner n := by
  cases op with
  | cordon | request | fail => simp [mutate, leavesOwner]
  | uncordon | release => simp [mutate, leavesOwner, annotations_clearRolloutAnnotations, rolloutKeys]

theorem rolloutOwnedBy_iff (n : Node) (name : String) :
    rolloutOwnedBy n name = true ↔ rolloutInFlight n = true ∧ n.annotations.raw .rolloutOwner = name := by
  simp [rolloutOwnedBy]

theorem inFlight_of_ownedBy {n : Node} {name : String} (h : rolloutOwnedBy n name = true) : rolloutInFlight n = true :=
  ((rolloutOwnedBy_iff n name).mp h).1

theorem ownedBy_cordon (now : Time) (owner : String) (n : Node) :
    rolloutOwnedBy ((cordon now owner).mutate n) owner = true := by
  rw [rolloutOwnedBy_iff, rolloutInFlight_mutate, Annotations.raw, owner_mutate]
  exact ⟨rfl, rfl⟩

theorem annotationTime_eq_ok {n : Node} {k : AnnKey} {t : Time} : annotationTime n k = .ok t ↔ n.annotations k = some (.stamp t) := by
  unfold annotationTime
  cases n.annotations k with
  | none => simp
  | some v => cases v <;> simp

/-! ## Patches on the server -/

theorem mergeFrom_self (n : Node) : n.mergeFrom (op.mutate n) n = op.mutate n := by
  obtain ⟨hn, hl, hc⟩ := mutate_keeps op n
  have h : ∀ m : Node, m.name = n.name → m.labels = n.labels → m.conditions = n.conditions → n.mergeFrom m n = m := by
    rintro ⟨name, labels, annotations, unschedulable, conditions, named⟩ hn hl hc
    simp only at hn hl hc
    subst hn hl hc
    simp [Node.mergeFrom]
  exact h (op.mutate n) hn hl hc

theorem Server.nodes_patchNode (s : Server) (n : Node) (op : NodeOp) :
    (s.patchNode n op).nodes = s.nodes.modify n.name (n.mergeFrom (op.mutate n)) (n.name_mergeFrom _) := rfl

theorem Server.get?_patchNode {s : Server} {n : Node} (h : s.nodes.get? n.name = some n) (op : NodeOp) (x : String) :
    (s.patchNode n op).nodes.get? x = if x = n.name then some (op.mutate n) else s.nodes.get? x := by
  rw [Server.nodes_patchNode, Keyed.get?_modify]
  by_cases hx : x = n.name
  · rw [if_pos hx, if_pos hx, hx, h, Option.map_some, mergeFrom_self]
  · rw [if_neg hx, if_neg hx]

/-- The nodes after a patch of one of them. -/
theorem Server.mem_patchNode {s : Server} {n m : Node} (h : s.nodes.get? n.name = some n) {op : NodeOp}
    (hm : m ∈ (s.patchNode n op).nodes.items) : m = op.mutate n ∨ (m ∈ s.nodes.items ∧ m.name ≠ n.name) := by
  have hg := Keyed.get?_of_mem hm
  rw [Server.get?_patchNode h] at hg
  by_cases hx : m.name = n.name
  · rw [if_pos hx] at hg
    exact .inl (Option.some.inj hg).symm
  · rw [if_neg hx] at hg
    exact .inr ⟨Keyed.mem_of_get? hg, hx⟩

end FrameOperator
