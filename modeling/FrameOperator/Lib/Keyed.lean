import Mathlib.Data.List.Nodup

/-!
# Keyed tables

A list of records no two of which have the same key, in the order in which a program walks it.
-/

namespace FrameOperator

open List

universe u v

/-- A list of records with pairwise distinct keys. -/
structure Keyed (α : Type u) {κ : Type v} (key : α → κ) where
  items : List α
  nodup : (items.map key).Nodup

namespace Keyed

variable {α : Type u} {κ : Type v} {key : α → κ}

/-- The table with no record. -/
def empty : Keyed α key := ⟨[], List.nodup_nil⟩

/-- Two records of a table with one key are the same record. -/
theorem eq_of_key (s : Keyed α key) {a b : α} (ha : a ∈ s.items) (hb : b ∈ s.items) (h : key a = key b) : a = b :=
  inj_on_of_nodup_map s.nodup ha hb h

variable [DecidableEq κ]

/-- The record with key `k`, if there is one. -/
def get? (s : Keyed α key) (k : κ) : Option α := s.items.find? (fun a => decide (key a = k))

/-- The table with the record of `k`, if any, replaced by its image, which keeps keys. -/
def modify (s : Keyed α key) (k : κ) (f : α → α) (hf : ∀ a, key (f a) = key a) : Keyed α key where
  items := s.items.map (fun a => if key a = k then f a else a)
  nodup := by
    have h : (s.items.map (fun a => if key a = k then f a else a)).map key = s.items.map key := by
      rw [List.map_map]
      refine List.map_congr_left fun a _ => ?_
      by_cases ha : key a = k <;> simp [ha, hf]
    rw [h]
    exact s.nodup

/-- The table with one more record at its end, unless its key is taken. -/
def insertNew (s : Keyed α key) (a : α) : Keyed α key :=
  if h : key a ∈ s.items.map key then s
  else ⟨s.items ++ [a], by
    rw [List.map_append, List.nodup_append]
    refine ⟨s.nodup, by simp, ?_⟩
    intro x hx y hy
    simp only [List.map_cons, List.map_nil, List.mem_singleton] at hy
    rintro rfl
    exact h (hy ▸ hx)⟩

/-- The table without the record of key `k`. -/
def erase (s : Keyed α key) (k : κ) : Keyed α key where
  items := s.items.filter (fun a => decide (key a ≠ k))
  nodup := s.nodup.sublist (List.filter_sublist.map key)

variable {s : Keyed α key} {k : κ} {a : α}

theorem get?_eq_some_iff : s.get? k = some a ↔ a ∈ s.items ∧ key a = k := by
  constructor
  · intro h
    have hk := find?_some h
    exact ⟨mem_of_find?_eq_some h, of_decide_eq_true hk⟩
  · rintro ⟨ha, rfl⟩
    cases hg : s.get? (key a) with
    | none =>
      have := find?_eq_none.mp hg a ha
      simp at this
    | some b =>
      have hb := mem_of_find?_eq_some hg
      have hkb := find?_some hg
      rw [s.eq_of_key hb ha (of_decide_eq_true hkb)]

theorem get?_eq_none_iff : s.get? k = none ↔ ∀ a ∈ s.items, key a ≠ k := by
  simp [get?, find?_eq_none]

/-- A record is found under its own key. -/
theorem get?_of_mem (h : a ∈ s.items) : s.get? (key a) = some a :=
  get?_eq_some_iff.mpr ⟨h, rfl⟩

theorem key_of_get? (h : s.get? k = some a) : key a = k :=
  (get?_eq_some_iff.mp h).2

theorem mem_of_get? (h : s.get? k = some a) : a ∈ s.items :=
  (get?_eq_some_iff.mp h).1

variable {f : α → α} {hf : ∀ a, key (f a) = key a} {b : α}

theorem mem_modify :
    b ∈ (s.modify k f hf).items ↔ ∃ a ∈ s.items, (if key a = k then f a else a) = b := by
  simp [modify]

/-- What a modified table holds: the image under the key, the old record elsewhere. -/
theorem get?_modify (s : Keyed α key) (k : κ) (f : α → α) (hf : ∀ a, key (f a) = key a) (j : κ) :
    (s.modify k f hf).get? j = if j = k then (s.get? j).map f else s.get? j := by
  cases hj : s.get? j with
  | none =>
    have hnone : (s.modify k f hf).get? j = none := by
      rw [get?_eq_none_iff] at hj ⊢
      intro b hb
      obtain ⟨a, ha, rfl⟩ := mem_modify.mp hb
      have := hj a ha
      by_cases hk : key a = k <;> simp_all
    simp [hnone]
  | some a =>
    obtain ⟨ha, rfl⟩ := get?_eq_some_iff.mp hj
    by_cases hk : key a = k
    · subst hk
      rw [if_pos rfl, Option.map_some, get?_eq_some_iff]
      exact ⟨mem_modify.mpr ⟨a, ha, by simp⟩, hf a⟩
    · rw [if_neg hk, get?_eq_some_iff]
      exact ⟨mem_modify.mpr ⟨a, ha, by simp [hk]⟩, rfl⟩

theorem get?_modify_self (h : s.get? k = some a) : (s.modify k f hf).get? k = some (f a) := by
  rw [get?_modify, if_pos rfl, h, Option.map_some]

theorem get?_modify_ne {k j : κ} (h : j ≠ k) :
    (s.modify k f hf).get? j = s.get? j := by
  rw [get?_modify, if_neg h]

/-- A record of a modified table is an old one of another key, or the image. -/
theorem mem_modify_cases (h : b ∈ (s.modify k f hf).items) : (b ∈ s.items ∧ key b ≠ k) ∨ ∃ a, s.get? k = some a ∧ f a = b := by
  obtain ⟨a, ha, rfl⟩ := mem_modify.mp h
  by_cases hk : key a = k
  · exact .inr ⟨a, get?_eq_some_iff.mpr ⟨ha, hk⟩, by simp [hk]⟩
  · exact .inl ⟨by simpa [hk] using ha, by simp [hk]⟩

theorem get?_insertNew (s : Keyed α key) (a : α) (j : κ) :
    (s.insertNew a).get? j = if s.get? (key a) = none ∧ j = key a then some a else s.get? j := by
  unfold insertNew
  by_cases h : key a ∈ s.items.map key
  · obtain ⟨b, hb, hkb⟩ := mem_map.mp h
    have hs : s.get? (key a) = some b := get?_eq_some_iff.mpr ⟨hb, hkb⟩
    simp [h, hs]
  · have hs : s.get? (key a) = none := by
      rw [get?_eq_none_iff]
      intro b hb hk
      exact h (mem_map.mpr ⟨b, hb, hk⟩)
    simp only [h, dite_false, get?]
    rw [find?_append]
    by_cases hj : j = key a
    · subst hj
      have : find? (fun b => decide (key b = key a)) s.items = none := hs
      simp [this]
    · simp [hj, Ne.symm hj]

theorem get?_insertNew_of_some {j : κ} (h : s.get? j = some b) (a : α) : (s.insertNew a).get? j = some b := by
  rw [get?_insertNew, if_neg, h]
  rintro ⟨hnone, rfl⟩
  rw [h] at hnone
  cases hnone

theorem get?_erase (s : Keyed α key) (k j : κ) : (s.erase k).get? j = if j = k then none else s.get? j := by
  by_cases hj : j = k
  · subst hj
    rw [if_pos rfl, get?_eq_none_iff]
    intro a ha
    simpa using (mem_filter.mp ha).2
  · rw [if_neg hj]
    cases hs : s.get? j with
    | none =>
      rw [get?_eq_none_iff] at hs ⊢
      intro a ha
      exact hs a (mem_filter.mp ha).1
    | some a =>
      obtain ⟨ha, rfl⟩ := get?_eq_some_iff.mp hs
      exact get?_eq_some_iff.mpr ⟨mem_filter.mpr ⟨ha, by simpa using hj⟩, rfl⟩

end Keyed

end FrameOperator
