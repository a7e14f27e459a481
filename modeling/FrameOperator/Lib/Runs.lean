import Mathlib.Data.List.Induction

/-!
# Runs

A system is a function from a state and an input to the state after it and what it did. What one step preserves of the state and the
log, a run preserves (`run_induct`), under a condition on its steps (`Meets`).
-/

namespace FrameOperator

universe u v w

variable {σ : Type u} {ι : Type v} {ε : Type w} (step : σ → ι → σ × List ε)

/-- One step of a run: the state it leaves, and the log with what it did. -/
def advance (c : σ × List ε) (i : ι) : σ × List ε := ((step c.1 i).1, c.2 ++ (step c.1 i).2)

/-- A run from a state: the state it ends in, and all that was done. -/
def run (s : σ) (is : List ι) : σ × List ε := is.foldl (advance step) (s, [])

/-- Every step of the run meets a condition on the state before it and on its input. -/
def Meets (ok : σ → ι → Prop) : σ → List ι → Prop
  | _, [] => True
  | s, i :: is => ok s i ∧ Meets ok (step s i).1 is

instance Meets.decidable (ok : σ → ι → Prop) [∀ s i, Decidable (ok s i)] : ∀ s is, Decidable (Meets step ok s is)
  | _, [] => isTrue trivial
  | s, i :: is =>
    have := Meets.decidable ok (step s i).1 is
    inferInstanceAs (Decidable (ok s i ∧ Meets step ok (step s i).1 is))

variable {step} {ok : σ → ι → Prop} {I : σ → List ε → Prop}

/-- What every step under the condition preserves holds at the end of a run. -/
theorem foldl_advance_induct (hstep : ∀ s l i, I s l → ok s i → I (step s i).1 (l ++ (step s i).2)) :
    ∀ (is : List ι) (s : σ) (l : List ε), I s l → Meets step ok s is →
      I (is.foldl (advance step) (s, l)).1 (is.foldl (advance step) (s, l)).2 := by
  intro is
  induction is with
  | nil => intro s l h _; exact h
  | cons i is ih =>
    intro s l h hm
    rw [List.foldl_cons]
    exact ih _ _ (hstep s l i h hm.1) hm.2

/-- What holds of every entry of a log, and of one more. -/
theorem forall_mem_snoc {P : ε → Prop} {l : List ε} {e : ε} (h : ∀ a ∈ l, P a) (he : P e) : ∀ a ∈ l ++ [e], P a :=
  List.forall_mem_append.mpr ⟨h, List.forall_mem_singleton.mpr he⟩

theorem run_induct {s : σ} (h0 : I s [])
    (hstep : ∀ s l i, I s l → ok s i → I (step s i).1 (l ++ (step s i).2)) (is : List ι) (hm : Meets step ok s is) :
    I (run step s is).1 (run step s is).2 :=
  foldl_advance_induct hstep is s [] h0 hm

/-- A run under no condition meets it. -/
theorem meets_true (s : σ) (is : List ι) : Meets step (fun _ _ => True) s is := by
  induction is generalizing s with
  | nil => trivial
  | cons i is ih => exact ⟨trivial, ih _⟩

theorem Meets.imp {ok ok' : σ → ι → Prop} (h : ∀ s i, ok s i → ok' s i) {s : σ} {is : List ι} (hm : Meets step ok s is) :
    Meets step ok' s is := by
  induction is generalizing s with
  | nil => trivial
  | cons i is ih => exact ⟨h s i hm.1, ih hm.2⟩

/-- Where every step lowers a rank, but for free ones, a run that is not over is short. -/
theorem run_ranked {rank : σ → Nat} {free : ε → Bool} (hdone : ∀ s i, rank s = 0 → rank (step s i).1 = 0)
    (hstep : ∀ s i, rank s ≠ 0 → rank (step s i).1 < rank s + (step s i).2.countP free) (s : σ) (is : List ι)
    (h : rank (run step s is).1 ≠ 0) : rank (run step s is).1 + is.length ≤ rank s + (run step s is).2.countP free := by
  induction is using List.reverseRecOn with
  | nil => exact Nat.le_refl _
  | append_singleton is i ih =>
    have hrun : run step s (is ++ [i]) = advance step (run step s is) i := by simp [run]
    simp only [hrun, advance, List.length_append, List.countP_append, List.length_singleton] at h ⊢
    have hbefore := mt (hdone _ i) h
    have hlen := ih hbefore
    have hone := hstep _ i hbefore
    omega

/-! ## Systems of which only the state is seen -/

/-- A system that logs nothing. -/
def silent (next : σ → ι → σ) (s : σ) (i : ι) : σ × List Empty := (next s i, [])

theorem silent_induct {next : σ → ι → σ} {I : σ → Prop} {s : σ} (h0 : I s)
    (hstep : ∀ s i, I s → ok s i → I (next s i)) (is : List ι) (hm : Meets (silent next) ok s is) :
    I (run (silent next) s is).1 :=
  run_induct (I := fun s _ => I s) h0 (fun s _ i h hi => hstep s i h hi) is hm

/-! ## What each event of a log says about the events before it -/

/-- Every event of a log stands in a relation to the events before it. -/
def Each (P : List ε → ε → Prop) (log : List ε) : Prop := ∀ i, ∀ e ∈ log[i]?, P (log.take i) e

instance Each.decidable (P : List ε → ε → Prop) [∀ l e, Decidable (P l e)] (log : List ε) : Decidable (Each P log) :=
  decidable_of_iff (∀ i : Fin log.length, P (log.take i) (log.get i))
    ⟨fun h i e he => by obtain ⟨hi, rfl⟩ := List.getElem?_eq_some_iff.mp he; exact h ⟨i, hi⟩,
      fun h i => h i (log.get i) (by simp)⟩

theorem each_nil (P : List ε → ε → Prop) : Each P [] := by
  intro i e he
  simp at he

theorem Each.snoc {P : List ε → ε → Prop} {log : List ε} {e : ε} (h : Each P log) (he : P log e) : Each P (log ++ [e]) := by
  intro i e' hi
  rw [Option.mem_def, List.getElem?_append] at hi
  by_cases hlt : i < log.length
  · rw [if_pos hlt] at hi
    rw [List.take_append_of_le_length (Nat.le_of_lt hlt)]
    exact h i e' hi
  · rw [if_neg hlt] at hi
    obtain ⟨hi0, heq⟩ := List.getElem?_eq_some_iff.mp hi
    have hlen : i = log.length := by simp at hi0; omega
    subst hlen
    simp only [Nat.sub_self, List.getElem_cons_zero] at heq
    rw [List.take_append_of_le_length (Nat.le_refl _), List.take_length, ← heq]
    exact he

theorem Each.of_snoc {P : List ε → ε → Prop} {log : List ε} {e : ε} (h : Each P (log ++ [e])) : Each P log ∧ P log e := by
  refine ⟨fun i e' he => ?_, by simpa using h log.length e (by simp)⟩
  have hi := (List.getElem?_eq_some_iff.mp he).1
  simpa [List.take_append_of_le_length (Nat.le_of_lt hi)] using h i e' (by simpa [List.getElem?_append_left hi] using he)

end FrameOperator
