import FrameOperator.Lib.GoFormat

/-!
# Requests that carry their moment

A request is acted on when its moment is later than the one recorded for what was done last. Where what is recorded is never earlier
than the request, none is acted on twice.
-/

namespace FrameOperator

universe u

variable {α : Type u} {moment : α → Time} {last : Option Time} {done : List α}

/-- A request of this moment is still to be acted on. -/
def due (last : Option Time) (requestedAt : Time) : Bool :=
  match last with
  | none => true
  | some last => last < requestedAt

/-- Later and later moments, none of them after what is recorded. -/
structure Recorded (moment : α → Time) (last : Option Time) (done : List α) : Prop where
  increasing : done.Pairwise (moment · < moment ·)
  recorded : ∀ q ∈ done, ∃ l, last = some l ∧ moment q ≤ l

theorem recorded_nil (moment : α → Time) (last : Option Time) : Recorded moment last [] := ⟨.nil, by simp⟩

section

variable (h : Recorded moment last done)
include h

theorem Recorded.not_due {q : α} (hq : q ∈ done) : due last (moment q) = false := by
  obtain ⟨l, rfl, hl⟩ := h.recorded q hq
  simp [due, hl]

theorem Recorded.lt_of_due {q p : α} (hq : due last (moment q) = true) (hp : p ∈ done) :
    moment p < moment q := by
  obtain ⟨l, rfl, hl⟩ := h.recorded p hp
  have hlt : l < moment q := by simpa [due] using hq
  exact Int.lt_of_le_of_lt hl hlt

theorem Recorded.advance {q : α} (hq : due last (moment q) = true) {now : Time}
    (hn : moment q ≤ now) : Recorded moment (some now) done :=
  ⟨h.increasing, fun _ hp => ⟨now, rfl, Int.le_of_lt (Int.lt_of_lt_of_le (h.lt_of_due hq hp) hn)⟩⟩

theorem Recorded.act {q : α} (hq : due last (moment q) = true) {now : Time} (hn : moment q ≤ now) :
    Recorded moment (some now) (done ++ [q]) := by
  refine ⟨List.pairwise_append.mpr ⟨h.increasing, List.pairwise_singleton _ _, fun p hp q' hq' => ?_⟩, fun p hp => ?_⟩
  · obtain rfl := List.mem_singleton.mp hq'
    exact h.lt_of_due hq hp
  · rcases List.mem_append.mp hp with hp | hp
    · exact (h.advance hq hn).recorded p hp
    · obtain rfl := List.mem_singleton.mp hp
      exact ⟨now, rfl, hn⟩

theorem Recorded.nodup : done.Nodup :=
  h.increasing.imp fun hlt heq => absurd (heq ▸ hlt) (Int.lt_irrefl _)

end

end FrameOperator
