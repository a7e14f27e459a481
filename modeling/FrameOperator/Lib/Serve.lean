import FrameOperator.Lib.Requests

/-!
# Programs served without interference

A program of calls that runs to its end, or until it is dropped, with nothing else happening to the service meanwhile (`serve`), or
with every call carried out (`serveAll`).
-/

namespace FrameOperator

namespace Program

variable {ρ σ χ α β : Type} {Resp : ρ → Type} (exec : σ → (r : ρ) → χ → σ × Resp r)

/-- The state a program leaves, under what becomes of its calls. -/
def serve : Program Resp α → σ → List χ → σ
  | .done _, s, _ => s
  | .call _ _, s, [] => s
  | .call r next, s, c :: cs => (next (exec s r c).2).serve (exec s r c).1 cs

/-- The state a program leaves, where the same becomes of all its calls. -/
def serveAll (c : χ) : Program Resp α → σ → σ
  | .done _, s => s
  | .call r next, s => (next (exec s r c).2).serveAll c (exec s r c).1

variable {exec} {P : σ → Prop}

/-- What holds where a program is dropped at a call and after every answer to it, holds in the end. -/
theorem serve_ask {r : ρ} {f : Resp r → Program Resp β} {s : σ} {cs : List χ} (hs : P s)
    (h : ∀ c rest, cs = c :: rest → P ((f (exec s r c).2).serve exec (exec s r c).1 rest)) : P ((ask r >>= f).serve exec s cs) := by
  cases cs with
  | nil => exact hs
  | cons c rest => exact h c rest rfl

/-- What a program does with its last call. -/
theorem serve_last {r : ρ} {f : Resp r → β} {s : σ} {cs : List χ} (hs : P s) (h : ∀ c, P (exec s r c).1) :
    P ((ask r >>= fun a => pure (f a)).serve exec s cs) :=
  serve_ask hs fun c _ _ => h c

@[simp] theorem serveAll_ask (c : χ) (r : ρ) (f : Resp r → Program Resp β) (s : σ) :
    (ask r >>= f).serveAll exec c s = (f (exec s r c).2).serveAll exec c (exec s r c).1 := rfl

@[simp] theorem serveAll_pure (c : χ) (a : α) (s : σ) : (pure a : Program Resp α).serveAll exec c s = s := rfl

end Program

def Keyed.read {α κ : Type} {key : α → κ} [DecidableEq κ] (t : Keyed α key) (k : κ) : Except Api.Error α :=
  match t.get? k with
  | none => .error .notFound
  | some a => .ok a

theorem Keyed.get?_of_read {α κ : Type} {key : α → κ} [DecidableEq κ] {t : Keyed α key} {k : κ} {a : α} (h : t.read k = .ok a) :
    t.get? k = some a := by
  unfold Keyed.read at h
  split at h
  · cases h
  · cases h
    assumption

/-- What a read was answered with is there. -/
theorem Keyed.get?_of_answer {σ α κ : Type} {key : α → κ} [DecidableEq κ] {t : Keyed α key}
    {s : σ} {k : κ} {a : α} {f : Fate Api.Fault}
    (h : (f.answer s (s, t.read k)).2 = .ok a) : t.get? k = some a :=
  get?_of_read ((congrArg Prod.snd (Fate.answer_ok h)).symm.trans h)

theorem Keyed.get?_of_read_error {α κ : Type} {key : α → κ} [DecidableEq κ] {t : Keyed α key} {k : κ} {e : Api.Error}
    (h : t.read k = .error e) : t.get? k = none := by
  unfold Keyed.read at h
  split at h
  · assumption
  · cases h

end FrameOperator
