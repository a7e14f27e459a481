import Mathlib.Logic.Basic

/-!
# Names that are claimed

Claimants record names and make what is found under them. As long as a claimant records only what is nobody else's, and makes things
only under names it has recorded, no name has two claimants.
-/

namespace FrameOperator

/-- Who has recorded which name, and who made what is there. -/
structure Titles (κ ν : Type) where
  records : κ → ν → Prop
  made : κ → ν → Prop

namespace Titles

variable {κ ν : Type} {L M : Titles κ ν} {k : κ} {n : ν}

/-- A recorded name has one claimant, who made what is there. -/
structure Exclusive (L : Titles κ ν) : Prop where
  one : ∀ {k k' n}, L.records k n → L.records k' n → k = k'
  made : ∀ {k maker n}, L.made maker n → L.records k n → k = maker

/-- A name that is nobody else's. -/
structure Unclaimed (L : Titles κ ν) (k : κ) (n : ν) : Prop where
  records : ∀ j, L.records j n → j = k
  made : ∀ maker, L.made maker n → maker = k

/-- A recorded name is nobody else's. -/
theorem Exclusive.unclaimed (h : L.Exclusive) (hr : L.records k n) : L.Unclaimed k n :=
  ⟨fun _ hj => h.one hj hr, fun _ hm => (h.made hm hr).symm⟩

/-- Names may be given up, and things made under recorded names. -/
theorem Exclusive.mono (h : L.Exclusive) (hr : ∀ j n, M.records j n → L.records j n)
    (hm : ∀ j n, M.made j n → L.made j n ∨ L.records j n) : M.Exclusive := by
  refine ⟨fun hj hj' => h.one (hr _ _ hj) (hr _ _ hj'), fun hmade hj => ?_⟩
  rcases hm _ _ hmade with hmade | hrec
  · exact h.made hmade (hr _ _ hj)
  · exact h.one (hr _ _ hj) hrec

/-- One claimant may record what is nobody else's. -/
theorem Exclusive.claim (h : L.Exclusive) (hr : ∀ j n, M.records j n → L.records j n ∨ (j = k ∧ L.Unclaimed k n))
    (hm : ∀ j n, M.made j n → L.made j n) : M.Exclusive := by
  refine ⟨fun hj hj' => ?_, fun hmade hj => ?_⟩
  · rcases hr _ _ hj with hj | ⟨rfl, hfree⟩ <;> rcases hr _ _ hj' with hj' | ⟨rfl, hfree'⟩
    · exact h.one hj hj'
    · exact hfree'.records _ hj
    · exact (hfree.records _ hj').symm
    · rfl
  · rcases hr _ _ hj with hj | ⟨rfl, hfree⟩
    · exact h.made (hm _ _ hmade) hj
    · exact (hfree.made _ (hm _ _ hmade)).symm

/-- A name stays nobody else's where nothing is recorded or made that was not. -/
theorem Unclaimed.mono (h : L.Unclaimed k n) (hr : ∀ j, M.records j n → L.records j n) (hm : ∀ j, M.made j n → L.made j n) :
    M.Unclaimed k n :=
  ⟨fun j hj => h.records j (hr j hj), fun j hj => h.made j (hm j hj)⟩

end Titles

end FrameOperator
