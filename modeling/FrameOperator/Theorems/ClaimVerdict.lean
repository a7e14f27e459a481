import FrameOperator.Storage.Claims

/-!
# The verdict on a volume claim

The first entry that names the class decides, and any number of entries may adopt one class: the verdict is that of every order
exactly if they agree on the usage that is claimed.
-/

namespace FrameOperator.Storage

/-- The claim has a usage, and is of the entry's class. -/
def VolumeClaim.Concerns (pvc : VolumeClaim) (e : FrameStorage) : Prop :=
  pvc.usage ≠ "" ∧ e.storageClassName ≠ "" ∧ pvc.storageClassName = some e.storageClassName
deriving Decidable

/-- The first entry concerned decides on a claim. -/
theorem validate_eq_none (pvc : VolumeClaim) (l : List FrameStorage) :
    pvc.validate (.ok l) = none ↔ ∀ e ∈ l.find? fun e => pvc.Concerns e, pvc.usage ∈ e.content := by
  obtain ⟨usage, _ | cls⟩ := pvc
  · simp only [VolumeClaim.validate, true_iff]
    intro e he
    simpa [VolumeClaim.Concerns] using List.find?_some he
  by_cases hblank : usage = "" ∨ cls = ""
  · have hnone : l.find? (fun e => VolumeClaim.Concerns ⟨usage, some cls⟩ e) = none := by
      rw [List.find?_eq_none]
      intro e _
      simp only [VolumeClaim.Concerns, decide_eq_true_eq, Option.some.injEq]
      grind
    simp [VolumeClaim.validate, hblank, hnone]
  · have hsame : (fun e => decide (VolumeClaim.Concerns ⟨usage, some cls⟩ e)) = fun e => decide (e.storageClassName = cls) := by
      funext e
      simp only [VolumeClaim.Concerns, decide_eq_decide, Option.some.injEq]
      grind
    simp [VolumeClaim.validate, hblank, hsame]

/-- The verdict on a claim is the same in every order exactly if the entries of its class agree on its usage. -/
theorem claim_verdict_stable_iff (t : Entries) (pvc : VolumeClaim) :
    (∀ l, l.Perm t.items → (pvc.validate (.ok l) = none ↔ pvc.validate (.ok t.items) = none)) ↔
      ∀ e ∈ t.items, ∀ e' ∈ t.items, pvc.Concerns e → pvc.Concerns e' → (pvc.usage ∈ e.content ↔ pvc.usage ∈ e'.content) := by
  constructor
  · -- an entry that is listed first decides
    intro h e he e' he' hc hc'
    have hfirst : ∀ e ∈ t.items, pvc.Concerns e → (pvc.usage ∈ e.content ↔ pvc.validate (.ok t.items) = none) := by
      intro e he hc
      obtain ⟨before, after, hitems⟩ := List.append_of_mem he
      rw [← h (e :: (before ++ after)) (hitems ▸ List.perm_middle.symm), validate_eq_none]
      simp [hc]
    rw [hfirst e he hc, hfirst e' he' hc']
  · intro h l hl
    rw [validate_eq_none, validate_eq_none]
    cases hfind : l.find? fun e => pvc.Concerns e with
    | none =>
      have hnone : t.items.find? (fun e => pvc.Concerns e) = none := by
        rw [List.find?_eq_none] at hfind ⊢
        exact fun e he => hfind e (hl.mem_iff.mpr he)
      rw [hnone]
    | some e =>
      have he := hl.mem_iff.mp (List.mem_of_find?_eq_some hfind)
      have hc : pvc.Concerns e := by simpa using List.find?_some hfind
      cases hfind' : t.items.find? fun e => pvc.Concerns e with
      | none => exact absurd (decide_eq_true hc) (List.find?_eq_none.mp hfind' e he)
      | some e' =>
        have hc' : pvc.Concerns e' := by simpa using List.find?_some hfind'
        simpa using h e he e' (List.mem_of_find?_eq_some hfind') hc hc'

namespace Fixture

/-- Two entries that adopt one class. -/
def adopts : List EntryWrite :=
  [.create ⟨"backups", "ceph-rbd", true, ["backup"]⟩ .found, .create ⟨"scratch", "ceph-rbd", true, ["scratch"]⟩ .found]

def backup : VolumeClaim := ⟨"backup", some "ceph-rbd"⟩

end Fixture

open Storage.Fixture in
/-- Listed the other way round, the claim is refused. -/
theorem verdict_by_order :
    let t : Entries := adopts.foldl Entries.step Keyed.empty
    backup.validate (.ok t.items) = none ∧ backup.validate (.ok t.items.reverse) ≠ none := by
  decide +kernel

end FrameOperator.Storage
