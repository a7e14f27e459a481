import FrameOperator.Lib.Keyed

/-!
# Versioned tables and optimistic concurrency

A table whose every write gets a new revision, and which remembers each version it ever held. A write that names the revision it was
computed from is let through only while that revision is live (`Versioned.get?_of_current`).
-/

namespace FrameOperator

open Option

universe u v

/-- A value with the revision at which it was written. -/
structure Stamped (α : Type u) where
  rev : Nat
  val : α
  deriving DecidableEq

/-- A keyed table of stamped values, with every version it has held and the last revision handed out. -/
structure Versioned (α : Type u) {κ : Type v} (key : α → κ) where
  live : Keyed (Stamped α) (fun a => key a.val)
  past : List (Stamped α)
  rev : Nat
  live_past : ∀ a ∈ live.items, a ∈ past
  past_le : ∀ a ∈ past, a.rev ≤ rev
  past_inj : ∀ a ∈ past, ∀ b ∈ past, a.rev = b.rev → a = b

namespace Versioned

variable {α : Type u} {κ : Type v} {key : α → κ}

/-- The table with no value and no history. -/
def empty : Versioned α key where
  live := Keyed.empty
  past := []
  rev := 0
  live_past := by simp [Keyed.empty]
  past_le := by simp
  past_inj := by simp

variable [DecidableEq κ]

def get? (s : Versioned α key) (k : κ) : Option (Stamped α) := s.live.get? k

def value? (s : Versioned α key) (k : κ) : Option α := (s.get? k).map Stamped.val

variable {s : Versioned α key} {a : Stamped α} {k : κ}

theorem value?_of_get? (h : s.get? k = some a) : s.value? k = some a.val := by
  rw [value?, h, map_some]

/-- The version read is still the live one: the check a write with a revision precondition is let through by. -/
def Current (s : Versioned α key) (base : Stamped α) : Prop :=
  ∃ cur, s.get? (key base.val) = some cur ∧ cur.rev = base.rev

instance (s : Versioned α key) (base : Stamped α) : Decidable (s.Current base) :=
  match h : s.get? (key base.val) with
  | none => isFalse (by rintro ⟨cur, hc, _⟩; rw [h] at hc; cases hc)
  | some cur =>
    if hr : cur.rev = base.rev then isTrue ⟨cur, h, hr⟩
    else isFalse (by rintro ⟨c, hc, hcr⟩; rw [h] at hc; cases hc; exact hr hcr)

theorem get?_of_current {base : Stamped α} (hp : base ∈ s.past) (hc : s.Current base) :
    s.get? (key base.val) = some base := by
  obtain ⟨cur, hg, hr⟩ := hc
  rw [hg, s.past_inj cur (s.live_past cur (Keyed.mem_of_get? hg)) base hp hr]

/-- The table with a new version of the value under `k`. -/
def push (s : Versioned α key) (k : κ) (f : α → α) (hf : ∀ a, key (f a) = key a) : Versioned α key where
  live := s.live.modify k (fun a => ⟨s.rev + 1, f a.val⟩) (fun a => hf a.val)
  past := s.past ++ ((s.get? k).map (fun a => (⟨s.rev + 1, f a.val⟩ : Stamped α))).toList
  rev := s.rev + 1
  live_past := by
    intro a ha
    rcases Keyed.mem_modify_cases ha with ⟨ha, -⟩ | ⟨b, hb, rfl⟩
    · exact List.mem_append_left _ (s.live_past a ha)
    · exact List.mem_append_right _ (by simp [get?, hb])
  past_le := by
    intro a ha
    rcases List.mem_append.mp ha with ha | ha
    · exact Nat.le_succ_of_le (s.past_le a ha)
    simp only [Option.mem_toList, Option.map_eq_some_iff] at ha
    obtain ⟨b, -, rfl⟩ := ha
    exact Nat.le_refl _
  past_inj := by
    intro a ha b hb hab
    rcases List.mem_append.mp ha with ha | ha <;> rcases List.mem_append.mp hb with hb | hb
    · exact s.past_inj a ha b hb hab
    · simp only [Option.mem_toList, Option.map_eq_some_iff] at hb
      obtain ⟨c, -, rfl⟩ := hb
      have : a.rev ≤ s.rev := s.past_le a ha
      simp only at hab
      omega
    · simp only [Option.mem_toList, Option.map_eq_some_iff] at ha
      obtain ⟨c, -, rfl⟩ := ha
      have : b.rev ≤ s.rev := s.past_le b hb
      simp only at hab
      omega
    · simp only [Option.mem_toList] at ha hb
      exact Option.some.inj (ha.symm.trans hb)

/-- The table after a write under `k`: a new version, or the same if nothing changes. -/
def modify [DecidableEq α] (s : Versioned α key) (k : κ) (f : α → α) (hf : ∀ a, key (f a) = key a) : Versioned α key :=
  if (s.value? k).map f = s.value? k then s else s.push k f hf

/-- The table with a value under a key that was free. -/
def create (s : Versioned α key) (a : α) : Versioned α key :=
  if h : (s.get? (key a)).isSome then s
  else
    { live := s.live.insertNew ⟨s.rev + 1, a⟩
      past := s.past ++ [⟨s.rev + 1, a⟩]
      rev := s.rev + 1
      live_past := by
        intro b hb
        have hg := Keyed.get?_of_mem hb
        rw [Keyed.get?_insertNew] at hg
        split at hg
        · cases hg
          simp
        · exact List.mem_append_left _ (s.live_past b (Keyed.mem_of_get? hg))
      past_le := by
        intro b hb
        rcases List.mem_append.mp hb with hb | hb
        · exact Nat.le_succ_of_le (s.past_le b hb)
        · obtain rfl := List.mem_singleton.mp hb
          exact Nat.le_refl _
      past_inj := by
        intro b hb c hc hbc
        rcases List.mem_append.mp hb with hb | hb <;> rcases List.mem_append.mp hc with hc | hc
        · exact s.past_inj b hb c hc hbc
        · have := s.past_le b hb
          rw [List.mem_singleton.mp hc] at hbc
          simp only at hbc
          omega
        · have := s.past_le c hc
          rw [List.mem_singleton.mp hb] at hbc
          simp only at hbc
          omega
        · rw [List.mem_singleton.mp hb, List.mem_singleton.mp hc] }

/-- The table without the value under `k`; its versions stay in the history. -/
def remove (s : Versioned α key) (k : κ) : Versioned α key where
  live := s.live.erase k
  past := s.past
  rev := s.rev
  live_past := fun a ha => s.live_past a (List.mem_filter.mp ha).1
  past_le := s.past_le
  past_inj := s.past_inj

/-! ## What a write leaves -/

@[simp] theorem past_push (f : α → α) (hf : ∀ a, key (f a) = key a) :
    (s.push k f hf).past = s.past ++ ((s.get? k).map (fun a => (⟨s.rev + 1, f a.val⟩ : Stamped α))).toList := rfl

theorem value?_push (s : Versioned α key) (k : κ) (f : α → α) (hf : ∀ a, key (f a) = key a) (j : κ) :
    (s.push k f hf).value? j = if j = k then (s.value? j).map f else s.value? j := by
  simp only [value?, get?, push, Keyed.get?_modify]
  by_cases h : j = k
  · simp [h, Function.comp_def]
  · simp [h]

/-- What a write leaves under a key: the new value under the key written, the old one elsewhere. -/
theorem value?_modify [DecidableEq α] (s : Versioned α key) (k : κ) (f : α → α) (hf : ∀ a, key (f a) = key a) (j : κ) :
    (s.modify k f hf).value? j = if j = k then (s.value? j).map f else s.value? j := by
  unfold modify
  split
  · rename_i h
    by_cases hj : j = k
    · subst hj
      rw [if_pos rfl, h]
    · rw [if_neg hj]
  · exact value?_push s k f hf j

theorem exists_value?_modify [DecidableEq α] {k j : κ} {f : α → α} {hf : ∀ a, key (f a) = key a} {P : α → Prop} {b : α}
    (h : s.value? j = some b) (hb : P b) (hfb : P (f b)) : ∃ b', (s.modify k f hf).value? j = some b' ∧ P b' := by
  rw [value?_modify, h]
  split
  · exact ⟨f b, rfl, hfb⟩
  · exact ⟨b, rfl, hb⟩

theorem value?_create (s : Versioned α key) (a : α) (j : κ) :
    (s.create a).value? j = if s.value? (key a) = none ∧ j = key a then some a else s.value? j := by
  unfold create
  split
  · rename_i h
    have hne : s.value? (key a) ≠ none := by
      rw [value?, ne_eq, map_eq_none_iff]
      exact isSome_iff_ne_none.mp h
    simp [hne]
  · rename_i h
    have hn : s.get? (key a) = none := by simpa using h
    have hv : s.value? (key a) = none := by simp [value?, hn]
    simp only [value?, get?, Keyed.get?_insertNew] at hn ⊢
    by_cases hj : j = key a
    · simp [hj, hn]
    · simp [hj, hn]

theorem value?_create_of_some {a b : α} {j : κ} (h : s.value? j = some b) : (s.create a).value? j = some b := by
  rw [value?_create, if_neg, h]
  rintro ⟨hfree, rfl⟩
  rw [h] at hfree
  cases hfree

theorem value?_remove (s : Versioned α key) (k j : κ) :
    (s.remove k).value? j = if j = k then none else s.value? j := by
  simp only [value?, get?, remove, Keyed.get?_erase]
  by_cases h : j = k <;> simp [h]

theorem value?_of_remove {a : α} {k j : κ} (h : (s.remove k).value? j = some a) : s.value? j = some a := by
  rw [value?_remove] at h
  split at h
  · cases h
  · exact h

/-- A write adds to the history. -/
theorem mem_past_modify [DecidableEq α] (k : κ) (f : α → α) (hf : ∀ a, key (f a) = key a) (h : a ∈ s.past) :
    a ∈ (s.modify k f hf).past := by
  unfold modify
  split
  · exact h
  · rw [past_push]
    exact List.mem_append_left _ h

theorem mem_past_create (a : α) {b : Stamped α} (h : b ∈ s.past) : b ∈ (s.create a).past := by
  unfold create
  split
  · exact h
  · exact List.mem_append_left _ h

/-- A version in the history of a table after a write is an old one, or the one written. -/
theorem past_modify [DecidableEq α] {f : α → α} {hf : ∀ a, key (f a) = key a} (h : a ∈ (s.modify k f hf).past) :
    a ∈ s.past ∨ ∃ b, s.get? k = some b ∧ a = ⟨s.rev + 1, f b.val⟩ := by
  unfold modify at h
  split at h
  · exact .inl h
  rw [past_push] at h
  rcases List.mem_append.mp h with h | h
  · exact .inl h
  simp only [mem_toList, map_eq_some_iff] at h
  obtain ⟨b, hb, rfl⟩ := h
  exact .inr ⟨b, hb, rfl⟩

/-- A version in the history of a table with a value created is an old one, or the value created. -/
theorem past_create {a : α} {b : Stamped α} (h : b ∈ (s.create a).past) :
    b ∈ s.past ∨ (b = ⟨s.rev + 1, a⟩ ∧ s.value? (key a) = none) := by
  unfold create at h
  split at h
  · exact .inl h
  rename_i hn
  rcases List.mem_append.mp h with h | h
  · exact .inl h
  · exact .inr ⟨List.mem_singleton.mp h, by simpa [value?] using hn⟩

theorem past_of_get? (h : s.get? k = some a) : a ∈ s.past ∧ key a.val = k := by
  obtain ⟨hm, hk⟩ := Keyed.get?_eq_some_iff.mp (show s.live.get? k = some a from h)
  exact ⟨s.live_past a hm, hk⟩

theorem value?_eq_some {a : α} (h : s.value? k = some a) :
    ∃ r, s.get? k = some ⟨r, a⟩ := by
  obtain ⟨b, hb, rfl⟩ := map_eq_some_iff.mp h
  exact ⟨b.rev, hb⟩

end Versioned

end FrameOperator
