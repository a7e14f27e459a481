import FrameOperator.Storage.NetworkHealth

/-!
# What an assessment says

Which keys an assessment finds something wrong with (`Assessment.finds`), which alerts it holds (`Assessment.holds`), and which
scopes it read in part or not at all.
-/

namespace FrameOperator.Storage

open List

namespace Assessment

/-- Something is wrong with what a key names. -/
def finds (a : Assessment) (k : Key) : Prop := ∃ f ∈ a.findings, f.toKey = k

def holds (a : Assessment) (k : Key) : Prop := k ∈ a.held

def cuts (a : Assessment) (scope : Scope) : Prop := ∃ why, (scope, why) ∈ a.cut

def misses (a : Assessment) (scope : Scope) : Prop := ∃ why, (scope, why) ∈ a.unread

variable {a b : Assessment} {k : Key} {scope : Scope}

@[simp] theorem findings_append : (a ++ b).findings = a.findings ++ b.findings := rfl

@[simp] theorem held_append : (a ++ b).held = a.held ++ b.held := rfl

@[simp] theorem wearUnreported_append : (a ++ b).wearUnreported = a.wearUnreported + b.wearUnreported := rfl

@[simp] theorem smartSilent_append : (a ++ b).smartSilent = a.smartSilent ++ b.smartSilent := rfl

@[simp] theorem speedUnreported_append : (a ++ b).speedUnreported = a.speedUnreported + b.speedUnreported := rfl

@[simp] theorem capacityUnreported_append :
    (a ++ b).capacityUnreported = a.capacityUnreported + b.capacityUnreported := rfl

@[simp] theorem finds_append : (a ++ b).finds k ↔ a.finds k ∨ b.finds k := by simp [finds, or_and_right, exists_or]

@[simp] theorem holds_append : (a ++ b).holds k ↔ a.holds k ∨ b.holds k := by simp [holds]

@[simp] theorem cuts_append : (a ++ b).cuts scope ↔ a.cuts scope ∨ b.cuts scope := by
  have h : (a ++ b).cut = a.cut ++ b.cut := rfl
  simp [cuts, h, exists_or]

@[simp] theorem misses_append : (a ++ b).misses scope ↔ a.misses scope ∨ b.misses scope := by
  have h : (a ++ b).unread = a.unread ++ b.unread := rfl
  simp [misses, h, exists_or]

/-! ## Over a list -/

section Gather

variable {α : Type} {f : α → Assessment} {l : List α}

theorem findings_gather : (gather f l).findings = l.flatMap fun x => (f x).findings := by
  induction l with
  | nil => rfl
  | cons x l ih => rw [flatMap_cons, ← ih]; rfl

/-- What a union preserves, a gathering has from one element. -/
theorem gather_iff (P : Assessment → Prop) (hnil : ¬P {}) (happend : ∀ a b, P (a ++ b) ↔ P a ∨ P b) :
    P (gather f l) ↔ ∃ x ∈ l, P (f x) := by
  induction l with
  | nil => simp [gather, hnil]
  | cons x l ih =>
    rw [show gather f (x :: l) = f x ++ gather f l from rfl, happend, ih]
    simp

@[simp] theorem finds_gather : (gather f l).finds k ↔ ∃ x ∈ l, (f x).finds k :=
  gather_iff (finds · k) (by simp [finds]) fun _ _ => finds_append

@[simp] theorem holds_gather : (gather f l).holds k ↔ ∃ x ∈ l, (f x).holds k :=
  gather_iff (holds · k) (by simp [holds]) fun _ _ => holds_append

@[simp] theorem cuts_gather : (gather f l).cuts scope ↔ ∃ x ∈ l, (f x).cuts scope :=
  gather_iff (cuts · scope) (by simp [cuts]) fun _ _ => cuts_append

@[simp] theorem misses_gather : (gather f l).misses scope ↔ ∃ x ∈ l, (f x).misses scope :=
  gather_iff (misses · scope) (by simp [misses]) fun _ _ => misses_append

theorem wearUnreported_gather : 0 < (gather f l).wearUnreported ↔ ∃ x ∈ l, 0 < (f x).wearUnreported :=
  gather_iff (fun a => 0 < a.wearUnreported) (by simp) fun _ _ => Nat.add_pos_iff_pos_or_pos

theorem smartSilent_gather : (gather f l).smartSilent ≠ [] ↔ ∃ x ∈ l, (f x).smartSilent ≠ [] :=
  gather_iff (fun a => a.smartSilent ≠ []) (by simp) fun a b => by simp [or_iff_not_imp_left]

theorem speedUnreported_gather : 0 < (gather f l).speedUnreported ↔ ∃ x ∈ l, 0 < (f x).speedUnreported :=
  gather_iff (fun a => 0 < a.speedUnreported) (by simp) fun _ _ => Nat.add_pos_iff_pos_or_pos

theorem capacityUnreported_gather : 0 < (gather f l).capacityUnreported ↔ ∃ x ∈ l, 0 < (f x).capacityUnreported :=
  gather_iff (fun a => 0 < a.capacityUnreported) (by simp) fun _ _ => Nat.add_pos_iff_pos_or_pos

end Gather

/-! ## Single entries -/

section Entries

variable {u c : List (Scope × String)} {h : List Key} {w sp cp : Nat} {s : List String} {fs : List Finding}

@[simp] theorem finds_mk_nil : ¬(mk [] u c h w s sp cp).finds k := by simp [finds]

@[simp] theorem holds_mk : (mk fs u c h w s sp cp).holds k ↔ k ∈ h := Iff.rfl

@[simp] theorem cuts_mk : (mk fs u c h w s sp cp).cuts scope ↔ ∃ why, (scope, why) ∈ c := Iff.rfl

@[simp] theorem misses_mk : (mk fs u c h w s sp cp).misses scope ↔ ∃ why, (scope, why) ∈ u := Iff.rfl

variable {check : Check} {device message : String} {scope' : Scope} {severity : Severity}

@[simp] theorem finds_add : (add check device scope' severity message).finds k ↔ ⟨check, device⟩ = k := by simp [finds, add]

@[simp] theorem holds_add : ¬(add check device scope' severity message).holds k := by simp [add]

@[simp] theorem cuts_add : ¬(add check device scope' severity message).cuts scope := by simp [add]

@[simp] theorem misses_add : ¬(add check device scope' severity message).misses scope := by simp [add]

variable (p : Prop) [Decidable p]

@[simp] theorem finds_ite : (if p then a else b).finds k ↔ if p then a.finds k else b.finds k := by split <;> rfl

@[simp] theorem holds_ite : (if p then a else b).holds k ↔ if p then a.holds k else b.holds k := by split <;> rfl

@[simp] theorem cuts_ite : (if p then a else b).cuts scope ↔ if p then a.cuts scope else b.cuts scope := by split <;> rfl

@[simp] theorem misses_ite : (if p then a else b).misses scope ↔ if p then a.misses scope else b.misses scope := by split <;> rfl

end Entries

end Assessment

open Assessment

/-! ## What is held -/

variable {opened : Open} {k k' : Key} {scope scope' : Scope}

@[simp] theorem finds_hold : ¬(hold opened k').finds k := by simp [hold]

@[simp] theorem holds_hold : (hold opened k').holds k ↔ k = k' ∧ opened.has k = true := by
  unfold hold
  by_cases h : opened.has k' = true
  · simp only [h, if_true, holds_mk, mem_singleton]
    exact ⟨fun hk => ⟨hk, hk ▸ h⟩, And.left⟩
  simp only [h, Bool.false_eq_true, if_false, holds_mk, not_mem_nil, false_iff]
  rintro ⟨rfl, hk⟩
  exact h hk

@[simp] theorem cuts_hold : ¬(hold opened k').cuts scope := by simp [hold]

@[simp] theorem misses_hold : ¬(hold opened k').misses scope := by simp [hold]

variable {listed : List String}

@[simp] theorem finds_holdUnlisted : ¬(holdUnlisted opened scope listed).finds k := by simp [holdUnlisted]

@[simp] theorem cuts_holdUnlisted : ¬(holdUnlisted opened scope listed).cuts scope' := by simp [holdUnlisted]

@[simp] theorem misses_holdUnlisted : ¬(holdUnlisted opened scope listed).misses scope' := by
  simp [holdUnlisted]

theorem holds_holdUnlisted {o : OpenAlert} (ho : o ∈ opened.items) :
    (holdUnlisted opened scope listed).holds o.key ↔ o.scope = scope ∧ o.key.device ∉ listed := by
  simp only [holdUnlisted, holds_mk, mem_map, mem_filter, Bool.and_eq_true, decide_eq_true_eq, Bool.not_eq_true',
    contains_eq_mem, decide_eq_false_iff_not]
  constructor
  · rintro ⟨o', ⟨ho', hscope, hlisted⟩, hkey⟩
    rw [← opened.eq_of_key ho' ho hkey]
    exact ⟨hscope, hlisted⟩
  · rintro ⟨hscope, hlisted⟩
    exact ⟨o, ⟨ho, hscope, hlisted⟩, rfl⟩

/-- An alert that is open is found open by its key. -/
theorem has_of_mem {o : OpenAlert} (ho : o ∈ opened.items) : opened.has o.key = true := by
  rw [Open.has, Keyed.get?_of_mem ho]
  rfl

theorem isSome_why? {written : List (Scope × String)} : (why? written scope).isSome = true ↔ ∃ why, (scope, why) ∈ written := by
  simp [why?, find?_isSome]

theorem isUnread_iff {a : Assessment} : a.isUnread scope = true ↔ a.misses scope := isSome_why?

end FrameOperator.Storage
