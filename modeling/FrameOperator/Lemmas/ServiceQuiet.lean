import FrameOperator.Services.Controller

/-!
# The controller's own calls

Apart from the provider's three programs, a pass of the FrameService controller makes no call of the provider's (`Quiet`).
-/

namespace FrameOperator.Services

open Api
open V1beta1 (ProjectedSecretRef ProvisionedRef Sizing)

variable {π α β : Type} {B : π → Type}

def Quiet : Prog B α → Prop
  | .done _ => True
  | .call r next => (∀ r', r ≠ .side r') ∧ ∀ a, Quiet (next a)

theorem Quiet.bind {p : Prog B α} {f : α → Prog B β} (h : Quiet p) (hf : ∀ a, Quiet (f a)) : Quiet (p >>= f) := by
  induction p with
  | done a => exact hf a
  | call r next ih => exact ⟨h.1, fun a => ih a (h.2 a)⟩

@[simp] theorem quiet_done (a : α) : Quiet (.done a : Prog B α) := trivial

@[simp] theorem quiet_own {r : Request} {next : r.Resp → Prog B α} : Quiet (.call (.own r) next : Prog B α) ↔ ∀ a, Quiet (next a) :=
  and_iff_right fun _ h => by cases h

@[simp] theorem quiet_drop {ref : ProvisionedRef} {next : Except Error Unit → Prog B α} :
    Quiet (.call (.drop ref) next : Prog B α) ↔ ∀ a, Quiet (next a) :=
  and_iff_right fun _ h => by cases h

@[simp] theorem quiet_ite {c : Prop} [Decidable c] {p q : Prog B α} : Quiet (if c then p else q) ↔ if c then Quiet p else Quiet q := by
  split <;> rfl

section Traced

variable {given : (r : Call π) → Call.Resp B r → Prop} {may : List (Called (Call.Resp B)) → Call π → Prop}

/-- A quiet program asks nothing of the provider's side. -/
theorem Quiet.traced (hmay : ∀ past r, (∀ r', r ≠ Call.side r') → may past r) {p : Prog B α} (h : Quiet p)
    (past : List (Called (Call.Resp B))) : p.Traced given may (fun _ _ => True) past := by
  induction p generalizing past with
  | done a => trivial
  | call r next ih => exact ⟨hmay past r h.1, fun a _ => ih a (h.2 a) _⟩

def ofSide (c : Called B) : Called (Call.Resp B) := ⟨.side c.1, c.2⟩

theorem traced_side {may' : List (Called B) → π → Prop} {before : List (Called (Call.Resp B))}
    (hmay : ∀ calls r, may' calls r → may (before ++ calls.map ofSide) (.side r)) {p : Program B α} {calls : List (Called B)}
    (h : p.Traced (fun _ _ => True) may' (fun _ _ => True) calls) :
    (Prog.side p).Traced given may (fun _ _ => True) (before ++ calls.map ofSide) := by
  induction p generalizing calls with
  | done a => trivial
  | call r next ih =>
    refine ⟨hmay calls r h.1, fun a _ => ?_⟩
    have hnext := ih a (h.2 a trivial)
    rw [List.map_append, ← List.append_assoc] at hnext
    exact hnext

end Traced

/-! ## Binding -/

variable (isDNS1123Label : String → List String)

theorem checkNamespaceExists_quiet (ns : String) :
    Quiet (checkNamespaceExists isDNS1123Label ns : Prog B _) := by
  simp [checkNamespaceExists]

theorem projectedCoords_quiet (own name : String) (projectTo : List String) :
    Quiet (projectedCoords isDNS1123Label own name projectTo : Prog B _) := by
  induction projectTo with
  | nil => trivial
  | cons ns rest ih =>
    unfold projectedCoords
    split
    · exact ih
    · exact (checkNamespaceExists_quiet isDNS1123Label ns).bind (by simp [ih.bind])

variable (svc : FrameService)

theorem claimNewCoordinates_quiet (coords : List ProjectedSecretRef) :
    Quiet (claimNewCoordinates svc coords : Prog B _) := by
  induction coords with
  | nil => trivial
  | cons coord rest ih => simp [claimNewCoordinates, ih]

theorem persistBindingStatus_quiet : Quiet (persistBindingStatus svc : Prog B _) := by
  simp [persistBindingStatus]

variable (coord : ProjectedSecretRef) (data : GoMap String Bytes)

theorem createOrUpdate_quiet :
    Quiet (createOrUpdate svc coord data : Prog B _) := by
  simp only [createOrUpdate, Program.ask_bind, quiet_own, forall_except, quiet_ite]
  refine ⟨fun e => ?_, fun existing => ?_⟩
  · cases secretOf svc data { coord := coord } <;> simp
  · cases secretOf svc data existing.val <;> simp

theorem writeSecret_quiet :
    Quiet (writeSecret svc coord data : Prog B _) :=
  (createOrUpdate_quiet svc coord data).bind fun _ => trivial

theorem writeSecrets_quiet (coords : List ProjectedSecretRef) :
    Quiet (writeSecrets svc data coords : Prog B _) := by
  induction coords with
  | nil => trivial
  | cons coord rest ih => exact (writeSecret_quiet svc coord data).bind (by simp [ih])

theorem deleteSecrets_quiet (service : NamespacedName) (coords : List ProjectedSecretRef) :
    Quiet (deleteSecrets service coords : Prog B _) := by
  induction coords with
  | nil => trivial
  | cons coord rest ih => simp [deleteSecrets, ih]

theorem recordNew_quiet (toAdd : List ProjectedSecretRef) : Quiet (recordNew svc toAdd : Prog B _) := by
  unfold recordNew
  split
  · trivial
  · exact (claimNewCoordinates_quiet svc toAdd).bind (by simp [(persistBindingStatus_quiet _).bind])

theorem reconcileBinding_quiet (svc : FrameService) (binding : Binding) :
    Quiet (reconcileBinding isDNS1123Label svc binding : Prog B _) := by
  unfold reconcileBinding
  refine (projectedCoords_quiet isDNS1123Label _ _ _).bind fun a => ?_
  cases a with
  | error e => trivial
  | ok others =>
    refine (recordNew_quiet svc _).bind fun b => ?_
    match b with
    | (recorded, .error e) => trivial
    | (recorded, .ok ()) =>
      exact (writeSecrets_quiet recorded _ _).bind (by simp [(deleteSecrets_quiet svc.key _).bind])

/-! ## The controller -/

theorem finish_quiet (after : Requeue) (svc : FrameService) (status reason message : String) (sizing : Option Sizing)
    (provisioned : Slice ProvisionedRef) : Quiet (finish after svc status reason message sizing provisioned : Prog B _) := by
  unfold finish setStatus
  exact Quiet.bind (by simp) fun a => trivial

theorem deleteProvisioned_quiet (refs : List ProvisionedRef) : Quiet (deleteProvisioned refs : Prog B _) := by
  induction refs with
  | nil => trivial
  | cons ref rest ih => simp [deleteProvisioned, ih]

theorem reconcileDelete_quiet (svc : Stamped FrameService) : Quiet (reconcileDelete svc : Prog B _) := by
  unfold reconcileDelete deleteAllProjections
  refine (deleteSecrets_quiet svc.val.key _).bind fun a => ?_
  match a with
  | .error (.degradation reason message) => exact finish_quiet _ _ _ _ _ _ _
  | .error (.failed message) => trivial
  | .ok () => exact Quiet.bind (by simp [deleteProvisioned_quiet]) (by simp)

theorem reconcileReady_quiet (M : Manager B) (svc : FrameService) (sizing : Sizing) (result : Result) (binding : Binding) :
    Quiet (reconcileReady M svc sizing result binding) := by
  unfold reconcileReady
  split
  · exact finish_quiet _ _ _ _ _ _ _
  refine (reconcileBinding_quiet M.isDNS1123Label svc binding).bind fun a => ?_
  match a with
  | (svc, .error (.degradation reason message)) => exact finish_quiet _ _ _ _ _ _ _
  | (_, .error (.failed message)) => trivial
  | (svc, .ok name) => exact finish_quiet _ _ _ _ _ _ _

end FrameOperator.Services
