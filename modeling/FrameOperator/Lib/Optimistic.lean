import FrameOperator.Lib.Versioned
import FrameOperator.Lib.Runs

/-!
# Optimistic writers

Any number of callers who each read a value of a versioned table, compute a patch, and send it with the revision they read; a caller
who loses reads again. Whatever the interleaving, the committed calls are atomic (`contend_atomic`, `contend_induct`).
-/

namespace FrameOperator

open Versioned

universe u v w x y

/-- What a call writes on `cur`, what it comes to, what others do, and what is admitted. -/
structure Resource (α : Type u) {κ : Type v} (key : α → κ) (γ : Type w) (η : Type x) where
  apply : γ → α → α
  patch : γ → α → α → α
  edit : η → α → α
  valid : α → Bool
  key_patch : ∀ c base cur, key (patch c base cur) = key cur
  key_edit : ∀ e a, key (edit e a) = key a
  patch_base : ∀ c a, patch c a a = apply c a

/-- A call in progress: its tries left, and the version read for the next. -/
structure Attempt (α : Type u) (κ : Type v) (γ : Type w) where
  call : γ
  on : κ
  left : Nat
  read : Option (Stamped α)

structure Contended (α : Type u) {κ : Type v} (key : α → κ) (γ : Type w) (ι : Type y) where
  table : Versioned α key
  calls : ι → Option (Attempt α κ γ)

/-- A committed call, with the value before and after it. -/
structure Commit (α : Type u) (κ : Type v) (γ : Type w) where
  call : γ
  on : κ
  before : α
  after : α

/-- A caller sets out, reads, sends, or gives up; or somebody edits. Calls may fail. -/
inductive Contend (κ : Type v) (γ : Type w) (η : Type x) (ι : Type y) where
  | begin (i : ι) (call : γ) (on : κ)
  | read (i : ι) (ok : Bool)
  | send (i : ι) (ok : Bool)
  | giveUp (i : ι)
  | edit (on : κ) (e : η)

variable {α : Type u} {κ : Type v} {key : α → κ} {γ : Type w} {η : Type x} {ι : Type y}

/-! ## What a caller has read -/

/-- Whatever a caller has read is a version of the table's history. -/
def ReadsPast (s : Contended α key γ ι) : Prop :=
  ∀ i a base, s.calls i = some a → a.read = some base → base ∈ s.table.past

variable {s : Contended α key γ ι}

theorem readsPast_of_idle (h : ∀ i, s.calls i = none) : ReadsPast s := by
  intro i a base hi
  rw [h i] at hi
  cases hi

theorem ReadsPast.of_table (h : ReadsPast s) {t : Versioned α key}
    (ht : ∀ a ∈ s.table.past, a ∈ t.past) : ReadsPast { s with table := t } := by
  intro i a base hi ha
  exact ht base (h i a base hi ha)

variable [DecidableEq ι]

/-- The caller is at this point of its call, or through with it. -/
def Contended.put (s : Contended α key γ ι) (i : ι) (a : Option (Attempt α κ γ)) : Contended α key γ ι :=
  { s with calls := Function.update s.calls i a }

theorem ReadsPast.put (h : ReadsPast s) (i : ι) {a : Option (Attempt α κ γ)}
    (ha : ∀ b base, a = some b → b.read = some base → base ∈ s.table.past) : ReadsPast (s.put i a) := by
  intro j b base hj hb
  simp only [Contended.put] at hj
  by_cases hji : j = i
  · subst hji
    rw [Function.update_self] at hj
    exact ha b base hj hb
  · rw [Function.update_of_ne hji] at hj
    exact h j b base hj hb

/-! ## The steps -/

variable [DecidableEq α] [DecidableEq κ]

namespace Contended

/-- A caller reads the live version; one that finds nothing, or cannot read, is through. -/
def read (s : Contended α key γ ι) (i : ι) (ok : Bool) : Contended α key γ ι :=
  match s.calls i with
  | none => s
  | some a =>
    match s.table.get? a.on with
    | some cur => if ok then s.put i (some { a with read := some cur }) else s.put i none
    | none => s.put i none

/-- A conflict sends a caller back to its read; any other failure ends the call. -/
def send (R : Resource α key γ η) (s : Contended α key γ ι) (i : ι) (ok : Bool) :
    Contended α key γ ι × List (Commit α κ γ) :=
  match s.calls i with
  | none => (s, [])
  | some a =>
    match a.read, s.table.get? a.on with
    | some base, some cur =>
      if cur.rev ≠ base.rev then
        if a.left ≤ 1 then (s.put i none, []) else (s.put i (some { a with left := a.left - 1, read := none }), [])
      else if ok && R.valid (R.patch a.call base.val cur.val) then
        ({ s.put i none with table := s.table.modify a.on (R.patch a.call base.val) (R.key_patch a.call base.val) },
          [⟨a.call, a.on, cur.val, R.patch a.call base.val cur.val⟩])
      else (s.put i none, [])
    | some _, none => (s.put i none, [])
    | none, _ => (s, [])

end Contended

/-- A step of the callers, who each have `tries` tries; what it leaves, and what is committed in it. -/
def contend (R : Resource α key γ η) (tries : Nat) (s : Contended α key γ ι) :
    Contend κ γ η ι → Contended α key γ ι × List (Commit α κ γ)
  | .begin i call on => (if (s.calls i).isNone then s.put i (some ⟨call, on, tries, none⟩) else s, [])
  | .read i ok => (s.read i ok, [])
  | .send i ok => s.send R i ok
  | .giveUp i => (s.put i none, [])
  | .edit on e =>
    (match s.table.value? on with
      | some a => if R.valid (R.edit e a) then { s with table := s.table.modify on (R.edit e) (R.key_edit e) } else s
      | none => s, [])

def callsOn (k : κ) (log : List (Commit α κ γ)) : List γ := log.filterMap fun c => if c.on = k then some c.call else none

/-! ## Committed calls are atomic -/

/-- All that a step can do: nothing, commit a call on the value it has read, or edit a value. -/
inductive Contends (R : Resource α key γ η) (t : Versioned α key) : Versioned α key → List (Commit α κ γ) → Prop where
  | quiet : Contends R t t []
  | committed (c : γ) {k : κ} {a : α} (f : α → α) (hf : ∀ a, key (f a) = key a) : t.value? k = some a → f a = R.apply c a →
      R.valid (R.apply c a) = true → Contends R t (t.modify k f hf) [⟨c, k, a, R.apply c a⟩]
  | edited (k : κ) (e : η) {a : α} : t.value? k = some a → R.valid (R.edit e a) = true →
      Contends R t (t.modify k (R.edit e) (R.key_edit e)) []

/-- The patch that is let through was computed from the value it is applied to. -/
theorem send_contends (R : Resource α key γ η) (h : ReadsPast s) (i : ι) (ok : Bool) :
    ReadsPast (s.send R i ok).1 ∧ Contends R s.table (s.send R i ok).1.table (s.send R i ok).2 := by
  unfold Contended.send
  cases hi : s.calls i with
  | none => exact ⟨h, .quiet⟩
  | some a =>
    have hnone : ReadsPast (s.put i none) := h.put i fun b base hb => nomatch hb
    cases hr : a.read with
    | none => simp only [hr]; exact ⟨h, .quiet⟩
    | some base =>
      cases hg : s.table.get? a.on with
      | none => simp only [hr, hg]; exact ⟨hnone, .quiet⟩
      | some cur =>
        simp only [hr, hg]
        split
        · split
          · exact ⟨hnone, .quiet⟩
          · exact ⟨h.put i (by rintro b _ ⟨⟩ hb; cases hb), .quiet⟩
        · rename_i hrev
          split
          · rename_i hok
            have hcur : cur = base :=
              s.table.past_inj cur (past_of_get? hg).1 base (h i a base hi hr) (not_not.mp hrev)
            subst hcur
            rw [R.patch_base, Bool.and_eq_true] at hok
            refine ⟨hnone.of_table fun _ ha => mem_past_modify _ _ _ ha, ?_⟩
            have hvalue : s.table.value? a.on = some cur.val := value?_of_get? hg
            have hc := Contends.committed (R := R) a.call (R.patch a.call cur.val) (R.key_patch a.call cur.val) hvalue
              (R.patch_base _ _) hok.2
            rw [R.patch_base]
            exact hc
          · exact ⟨hnone, .quiet⟩

/-- A step is one of `Contends`, and every caller has still read a version of the history. -/
theorem contend_contends (R : Resource α key γ η) (tries : Nat) (h : ReadsPast s)
    (a : Contend κ γ η ι) :
    ReadsPast (contend R tries s a).1 ∧ Contends R s.table (contend R tries s a).1.table (contend R tries s a).2 := by
  cases a with
  | begin i call on =>
    simp only [contend]
    split
    · exact ⟨h.put i (by rintro b _ ⟨⟩ hb; cases hb), .quiet⟩
    · exact ⟨h, .quiet⟩
  | read i ok =>
    simp only [contend]
    unfold Contended.read
    cases hi : s.calls i with
    | none => exact ⟨h, .quiet⟩
    | some a =>
      have hnone : ReadsPast (s.put i none) := h.put i fun b base hb => nomatch hb
      cases hg : s.table.get? a.on with
      | none => simp only [hg]; exact ⟨hnone, .quiet⟩
      | some cur =>
        simp only [hg]
        split
        · refine ⟨h.put i ?_, .quiet⟩
          rintro b _ ⟨⟩ hb
          cases hb
          exact (past_of_get? hg).1
        · exact ⟨hnone, .quiet⟩
  | send i ok => exact send_contends R h i ok
  | giveUp i => exact ⟨h.put i (fun b base hb => nomatch hb), .quiet⟩
  | edit on e =>
    simp only [contend]
    cases hv : s.table.value? on with
    | none => exact ⟨h, .quiet⟩
    | some a =>
      simp only
      split
      · rename_i hvalid
        exact ⟨h.of_table fun _ ha => mem_past_modify _ _ _ ha, .edited on e hv hvalid⟩
      · exact ⟨h, .quiet⟩

/-! ## Runs -/

def Admits (R : Resource α key γ η) (t : Versioned α key) : Prop := ∀ k a, t.value? k = some a → R.valid a = true

theorem Contends.admits {R : Resource α key γ η} {t t' : Versioned α key} {l : List (Commit α κ γ)} (h : Contends R t t' l)
    (ht : Admits R t) : Admits R t' := by
  -- a write of an admitted value under one key
  have hwrite : ∀ k (f : α → α) (hf : ∀ a, key (f a) = key a) b, t.value? k = some b → R.valid (f b) = true →
      Admits R (t.modify k f hf) := by
    intro k f hf b hb hvalid j a ha
    rw [value?_modify] at ha
    by_cases hj : j = k
    · rw [if_pos hj, hj, hb] at ha
      cases ha
      exact hvalid
    · rw [if_neg hj] at ha
      exact ht j a ha
  cases h with
  | quiet => exact ht
  | committed c f hf hb hfb hvalid => exact hwrite _ f hf _ hb (by rw [hfb]; exact hvalid)
  | edited k e hb hvalid => exact hwrite k _ _ _ hb hvalid

/-- Every committed call is applied to the value that is there when it is committed. -/
theorem contend_atomic (R : Resource α key γ η) (tries : Nat) (hidle : ∀ i, s.calls i = none)
    (hadmits : Admits R s.table) (actions : List (Contend κ γ η ι)) :
    ∀ c ∈ (run (contend R tries) s actions).2, c.after = R.apply c.call c.before ∧ R.valid c.before = true := by
  have hrun : (ReadsPast (run (contend R tries) s actions).1 ∧ Admits R (run (contend R tries) s actions).1.table) ∧
      ∀ c ∈ (run (contend R tries) s actions).2, c.after = R.apply c.call c.before ∧ R.valid c.before = true := by
    refine run_induct (I := fun s (l : List (Commit α κ γ)) => (ReadsPast s ∧ Admits R s.table) ∧
      ∀ c ∈ l, c.after = R.apply c.call c.before ∧ R.valid c.before = true)
      ⟨⟨readsPast_of_idle hidle, hadmits⟩, by simp⟩ ?_ actions (meets_true s actions)
    rintro s l a ⟨⟨hs, ht⟩, hl⟩ -
    obtain ⟨hs', hc⟩ := contend_contends R tries hs a
    refine ⟨⟨hs', hc.admits ht⟩, fun c hcl => ?_⟩
    rcases List.mem_append.mp hcl with hcl | hcl
    · exact hl c hcl
    generalize (contend R tries s a).1.table = t at hc
    generalize (contend R tries s a).2 = l' at hc hcl
    cases hc with
    | quiet => cases hcl
    | committed call f hf hb _ _ => rw [List.mem_singleton.mp hcl]; exact ⟨rfl, ht _ _ hb⟩
    | edited k e _ _ => cases hcl
  exact hrun.2

/-- What calls made one at a time, and edits, preserve holds at the end of every run. -/
theorem contend_induct (R : Resource α key γ η) (tries : Nat) {I : α → List γ → Prop}
    (hcall : ∀ a l c, I a l → R.valid (R.apply c a) = true → I (R.apply c a) (l ++ [c]))
    (hedit : ∀ a l e, I a l → R.valid (R.edit e a) = true → I (R.edit e a) l) (hidle : ∀ i, s.calls i = none)
    (k : κ) {a : α} (ha : s.table.value? k = some a) (h0 : I a [])
    (actions : List (Contend κ γ η ι)) :
    ∃ a', (run (contend R tries) s actions).1.table.value? k = some a' ∧
      I a' (callsOn k (run (contend R tries) s actions).2) := by
  have hrun : ReadsPast (run (contend R tries) s actions).1 ∧
      ∃ a', (run (contend R tries) s actions).1.table.value? k = some a' ∧
        I a' (callsOn k (run (contend R tries) s actions).2) := by
    refine run_induct (I := fun s l => ReadsPast s ∧ ∃ a', s.table.value? k = some a' ∧ I a' (callsOn k l))
      ⟨readsPast_of_idle hidle, a, ha, h0⟩ ?_ actions (meets_true s actions)
    rintro s l act ⟨hs, a', ha', hI⟩ -
    obtain ⟨hs', hc⟩ := contend_contends R tries hs act
    refine ⟨hs', ?_⟩
    have happend : ∀ l', callsOn k (l ++ l') = callsOn k l ++ callsOn k l' := fun l' => List.filterMap_append
    rw [happend]
    generalize (contend R tries s act).1.table = t at hc
    generalize (contend R tries s act).2 = l' at hc
    cases hc with
    | quiet => exact ⟨a', ha', by simpa [callsOn] using hI⟩
    | @committed c k' b f hf hb hfb hvalid =>
      by_cases hk : k' = k
      · subst hk
        rw [ha'] at hb
        cases hb
        exact ⟨R.apply c a', by rw [value?_modify, if_pos rfl, ha', Option.map_some, hfb],
          by simpa [callsOn] using hcall a' _ c hI hvalid⟩
      · exact ⟨a', by rw [value?_modify, if_neg (Ne.symm hk)]; exact ha', by simpa [callsOn, hk] using hI⟩
    | @edited k' e b hb hvalid =>
      by_cases hk : k' = k
      · subst hk
        rw [ha'] at hb
        cases hb
        exact ⟨R.edit e a', by rw [value?_modify, if_pos rfl, ha', Option.map_some],
          by simpa [callsOn] using hedit a' _ e hI hvalid⟩
      · exact ⟨a', by rw [value?_modify, if_neg (Ne.symm hk)]; exact ha', by simpa [callsOn] using hI⟩
  exact hrun.2

end FrameOperator
