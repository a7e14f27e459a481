import Mathlib.Logic.Function.Basic

/-!
# Merge patches

A merge patch carries the difference between a value as it was read (`base`) and as it should be (`new`), and is applied to the
value that is there (`cur`).
-/

namespace FrameOperator

universe u v

/-- One part of a merge patch: left alone when `base` and `new` agree on it, overwritten otherwise. -/
def mergePart {α : Type u} [DecidableEq α] (base new cur : α) : α := if base = new then cur else new

/-- A merge patch of a map, key by key; a key that `new` lacks is deleted. -/
def mergeMap {κ : Type u} {ν : Type v} [DecidableEq ν] (base new cur : κ → Option ν) : κ → Option ν :=
  fun k => mergePart (base k) (new k) (cur k)

variable {α : Type u}

/-- A patch applied to the value it was computed from gives the value intended. -/
@[simp] theorem mergePart_base [DecidableEq α] (base new : α) : mergePart base new base = new := by
  unfold mergePart
  split
  · assumption
  · rfl

/-- A patch that changes nothing leaves what is there. -/
@[simp] theorem mergePart_same [DecidableEq α] (base cur : α) : mergePart base base cur = cur := by
  simp [mergePart]

/-- A patch that changes a part overwrites it. -/
theorem mergePart_of_ne [DecidableEq α] {base new : α} (h : base ≠ new) (cur : α) :
    mergePart base new cur = new := by
  simp [mergePart, h]

@[simp] theorem mergeMap_base {κ : Type u} {ν : Type v} [DecidableEq ν] (base new : κ → Option ν) :
    mergeMap base new base = new := by
  funext k
  exact mergePart_base _ _

end FrameOperator
