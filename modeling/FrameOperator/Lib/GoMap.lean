import Mathlib.Data.Finmap

/-!
# Go's slices and maps

A slice or a map of Go may be nil, which is not the empty one; ranging over either does not see the difference.
-/

namespace FrameOperator

universe u v w

/-- A Go slice: nil, or its elements. -/
abbrev Slice (α : Type u) : Type u := Option (List α)

/-- A Go map: nil, or its entries. -/
abbrev GoMap (κ : Type u) (ν : Type v) : Type (max u v) := Option (Finmap (fun _ : κ => ν))

namespace Slice

def orNil {α : Type u} : Slice α → Slice α
  | some [] => none
  | s => s

end Slice

namespace GoMap

variable {κ : Type u} {ν : Type v} {μ : Type w}

def entries (m : GoMap κ ν) : Finmap (fun _ : κ => ν) := m.getD ∅

/-- Go's `len`. -/
def len (m : GoMap κ ν) : Nat := m.entries.entries.card

def orNil (m : GoMap κ ν) : GoMap κ ν := if m.len = 0 then none else m

/-- The map rebuilt value by value, allocated only when the source is not nil. -/
def mapValues (f : ν → μ) (m : GoMap κ ν) : GoMap κ μ :=
  m.map fun s =>
    ⟨s.entries.map (fun e => ⟨e.1, f e.2⟩), by
      have h : Multiset.keys (s.entries.map (fun e => (⟨e.1, f e.2⟩ : Sigma fun _ : κ => μ))) = s.entries.keys := by
        rw [Multiset.keys, Multiset.keys, Multiset.map_map]
        rfl
      rw [← Multiset.nodup_keys, h, Multiset.nodup_keys]
      exact s.nodupKeys⟩

theorem len_eq_zero_iff {m : GoMap κ ν} : m.len = 0 ↔ m.entries = ∅ := by
  rw [len, Multiset.card_eq_zero, ← Finmap.ext_iff']
  rfl

/-- Rebuilding a map there and back gives the map, nil or not. -/
theorem mapValues_mapValues {f : ν → μ} {g : μ → ν} (h : ∀ x, g (f x) = x) (m : GoMap κ ν) :
    (m.mapValues f).mapValues g = m := by
  cases m with
  | none => rfl
  | some s =>
    refine congrArg some (Finmap.ext ?_)
    change (s.entries.map _).map _ = s.entries
    rw [Multiset.map_map]
    have hid : ((fun e : Sigma fun _ : κ => μ => (⟨e.1, g e.2⟩ : Sigma fun _ : κ => ν)) ∘
        fun e : Sigma fun _ : κ => ν => (⟨e.1, f e.2⟩ : Sigma fun _ : κ => μ)) = id := by
      funext e
      simp [h]
    rw [hid, Multiset.map_id]

variable [DecidableEq κ]

/-- What `m[k]` finds. -/
def get? (m : GoMap κ ν) (k : κ) : Option ν := m.entries.lookup k

/-- A fresh copy of the map with `k` set to `v`. -/
def copySet (m : GoMap κ ν) (k : κ) (v : ν) : GoMap κ ν := some (m.entries.insert k v)

/-- The entries under the keys that `p` holds of. -/
def restrict (p : κ → Bool) (s : Finmap (fun _ : κ => ν)) : Finmap (fun _ : κ => ν) :=
  ⟨s.entries.filter (fun e => p e.1),
    Multiset.nodup_keys.mp (Multiset.nodup_of_le (Multiset.map_le_map (Multiset.filter_le _ _)) (Multiset.nodup_keys.mpr s.nodupKeys))⟩

/-- A merge patch of a map, where an empty map is not written. -/
def merge [DecidableEq ν] (base new cur : GoMap κ ν) : GoMap κ ν :=
  let changed := fun k => decide (base.get? k ≠ new.get? k)
  if new.len = 0 then if base.len = 0 then cur else none
  else some (restrict changed new.entries ∪ restrict (fun k => !changed k) cur.entries)

theorem get?_copySet (m : GoMap κ ν) (k : κ) (v : ν) : (m.copySet k v).get? k = some v :=
  Finmap.lookup_insert _

/-- Taking out a key that was put in where it was free gives the map back. -/
theorem erase_insert_self {s : Finmap (fun _ : κ => ν)} {k : κ} {v : ν} (h : s.lookup k = none) :
    (s.insert k v).erase k = s := by
  refine Finmap.ext_lookup fun x => ?_
  by_cases hx : x = k
  · subst hx
    rw [Finmap.lookup_erase, h]
  · rw [Finmap.lookup_erase_ne hx, Finmap.lookup_insert_of_ne _ hx]

end GoMap

/-- `m[k]` of a map of strings: what is not there is empty. -/
def valueOf (m : GoMap String String) (k : String) : String := (m.get? k).getD ""

end FrameOperator
