import FrameOperator.Lib.Runs

/-!
# Programs of calls

A program of calls is a tree: it has returned, or waits at a call and goes on with the answer (`Program`). A runner runs one after
the other; between two calls anything may happen outside, and the program may be dropped (`Runner.step`).

Two kinds of facts are read off a program: an invariant of the service is kept at every call (`Program.Safe`), and every call is
justified by those before it and their answers (`Program.Traced`).
-/

namespace FrameOperator

universe u v

/-- A program whose calls `r` are answered in `Resp r`. -/
inductive Program {ρ : Type} (Resp : ρ → Type) (α : Type) : Type where
  | done (a : α)
  | call (r : ρ) (next : Resp r → Program Resp α)

namespace Program

variable {ρ α β : Type} {Resp : ρ → Type}

/-- One program and then another, which depends on what the first returned. -/
def bind (p : Program Resp α) (f : α → Program Resp β) : Program Resp β :=
  match p with
  | .done a => f a
  | .call r next => .call r fun a => (next a).bind f

instance : Monad (Program Resp) where
  pure := .done
  bind := bind

def ask (r : ρ) : Program Resp (Resp r) := .call r .done

@[simp] theorem pure_eq (a : α) : (pure a : Program Resp α) = .done a := rfl

@[simp] theorem done_bind (a : α) (f : α → Program Resp β) : (Program.done a >>= f) = f a := rfl

@[simp] theorem call_bind (r : ρ) (next : Resp r → Program Resp α) (f : α → Program Resp β) :
    (Program.call r next >>= f) = .call r fun a => next a >>= f := rfl

theorem bind_done (p : Program Resp α) : (p >>= Program.done) = p := by
  induction p with
  | done a => rfl
  | call r next ih => exact congrArg (Program.call r) (funext ih)

@[simp] theorem ask_bind (r : ρ) (f : Resp r → Program Resp β) : (ask r >>= f) = .call r f := rfl

def embed {ρ' : Type} {Resp' : ρ' → Type} (f : ρ → ρ') (back : ∀ r, Resp' (f r) → Resp r) : Program Resp α → Program Resp' α
  | .done a => .done a
  | .call r next => .call (f r) fun a => (next (back r a)).embed f back

end Program

/-! ## What a program keeps of the service -/

section Safe

variable {ρ σ χ α β : Type} {Resp : ρ → Type}

/-- An invariant, what happens between calls, their answers, and which are made. -/
structure Terms (σ χ ρ : Type) where
  inv : σ → Prop
  rely : σ → σ → Prop
  allow : σ → ρ → χ → Prop
  guar : σ → ρ → Prop

/-- A program makes only allowed calls, keeps the invariant, and returns as it should. -/
def Program.Safe (exec : σ → (r : ρ) → χ → σ × Resp r) (T : Terms σ χ ρ) (post : α → σ → Prop) : Program Resp α → σ → Prop
  | .done a, s => post a s
  | .call r next, s => ∀ t, T.inv t → T.rely s t → T.guar t r ∧ ∀ c, T.allow t r c →
      T.inv (exec t r c).1 ∧ (next (exec t r c).2).Safe exec T post (exec t r c).1

variable {exec : σ → (r : ρ) → χ → σ × Resp r} {T : Terms σ χ ρ} {post : α → σ → Prop} {s : σ}

/-- A call that keeps the invariant where it is made as guaranteed, and what follows it. -/
theorem safe_ask {r : ρ} {f : Resp r → Program Resp α}
    (hkeep : ∀ t c, T.inv t → T.guar t r → T.allow t r c → T.inv (exec t r c).1)
    (h : ∀ t, T.inv t → T.rely s t → T.guar t r ∧ ∀ c, T.allow t r c → T.inv (exec t r c).1 →
      (f (exec t r c).2).Safe exec T post (exec t r c).1) :
    (Program.ask r >>= f).Safe exec T post s := by
  intro t ht hst
  obtain ⟨hguar, hnext⟩ := h t ht hst
  refine ⟨hguar, fun c hc => ?_⟩
  have hinv := hkeep t c ht hguar hc
  exact ⟨hinv, hnext c hc hinv⟩

variable {p : Program Resp α}

theorem Program.Safe.bind {f : α → Program Resp β} {mid : α → σ → Prop} {post : β → σ → Prop}
    (h : p.Safe exec T mid s) (hs : T.inv s) (hf : ∀ a t, T.inv t → mid a t → (f a).Safe exec T post t) :
    (p >>= f).Safe exec T post s := by
  induction p generalizing s with
  | done a => exact hf a s hs h
  | call r next ih =>
    intro t ht hr
    obtain ⟨hguar, hall⟩ := h t ht hr
    refine ⟨hguar, fun c hc => ?_⟩
    obtain ⟨hinv, hnext⟩ := hall c hc
    exact ⟨hinv, ih _ hnext hinv⟩

theorem Program.Safe.imp {mid post : α → σ → Prop} (h : p.Safe exec T mid s) (hs : T.inv s)
    (hp : ∀ a t, T.inv t → mid a t → post a t) : p.Safe exec T post s := by
  rw [← p.bind_done]
  exact h.bind hs hp

/-- A program that nothing is asked of keeps nothing. -/
theorem Program.safe_of_trivial (hinv : ∀ s, T.inv s) (hguar : ∀ s r, T.guar s r) (p : Program Resp α) (s : σ) :
    p.Safe exec T (fun _ _ => True) s := by
  induction p generalizing s with
  | done a => trivial
  | call r next ih => exact fun t _ _ => ⟨hguar t r, fun c _ => ⟨hinv _, ih _ _⟩⟩

/-- A program of one service is safe in a larger one, of whose state that of the service is a part. -/
theorem Program.Safe.embed {ρ' σ' χ' : Type} {Resp' : ρ' → Type} {exec' : σ' → (r : ρ') → χ' → σ' × Resp' r} {T' : Terms σ' χ' ρ'}
    {f : ρ → ρ'} {back : ∀ r, Resp' (f r) → Resp r} (part : σ' → σ) (cut : χ' → χ) {K : σ' → Prop}
    (hexec : ∀ w r c, part (exec' w (f r) c).1 = (exec (part w) r (cut c)).1 ∧
      back r (exec' w (f r) c).2 = (exec (part w) r (cut c)).2)
    (hinv : ∀ w, T'.inv w → T.inv (part w)) (hrely : ∀ w w', T'.rely w w' → T.rely (part w) (part w'))
    (hallow : ∀ w r c, T'.allow w (f r) c → T.allow (part w) r (cut c))
    (hguar : ∀ w r, T'.inv w → K w → T.guar (part w) r → T'.guar w (f r))
    (hkeep : ∀ w r c, T'.inv w → K w → T'.guar w (f r) → T'.allow w (f r) c → T'.inv (exec' w (f r) c).1 ∧ K (exec' w (f r) c).1)
    (hK : ∀ w w', K w → T'.rely w w' → K w') {w : σ'} (h : p.Safe exec T post (part w))
    (hw : K w) : (p.embed f back).Safe exec' T' (fun a w => post a (part w) ∧ K w) w := by
  induction p generalizing w with
  | done a => exact ⟨h, hw⟩
  | call r next ih =>
    intro t ht hwt
    have hKt := hK w t hw hwt
    obtain ⟨hg, hnext⟩ := h (part t) (hinv t ht) (hrely w t hwt)
    have hg' := hguar t r ht hKt hg
    refine ⟨hg', fun c hc => ?_⟩
    obtain ⟨hinv', hK'⟩ := hkeep t r c ht hKt hg' hc
    have hsafe := (hnext (cut c) (hallow t r c hc)).2
    rw [← (hexec t r c).1, ← (hexec t r c).2] at hsafe
    exact ⟨hinv', ih _ hsafe hK'⟩

end Safe

/-! ## What a program's calls have behind them -/

section Traced

variable {ρ α β : Type} {Resp : ρ → Type}

abbrev Called (Resp : ρ → Type) : Type := Sigma Resp

/-- Whatever the answers are, every call is justified by those before it, and so is what is returned. -/
def Program.Traced (given : (r : ρ) → Resp r → Prop) (may : List (Called Resp) → ρ → Prop) (res : List (Called Resp) → α → Prop) :
    List (Called Resp) → Program Resp α → Prop
  | past, .done a => res past a
  | past, .call r next => may past r ∧ ∀ a, given r a → (next a).Traced given may res (past ++ [⟨r, a⟩])

variable {given : (r : ρ) → Resp r → Prop} {may : List (Called Resp) → ρ → Prop}

variable {past : List (Called Resp)} {res : List (Called Resp) → α → Prop}

theorem traced_ask {r : ρ} {f : Resp r → Program Resp α} (hr : may past r)
    (hf : ∀ a, given r a → (f a).Traced given may res (past ++ [⟨r, a⟩])) :
    (Program.ask r >>= f).Traced given may res past := ⟨hr, hf⟩

@[simp] theorem traced_done {a : α} :
    (Program.done a).Traced given may res past ↔ res past a := Iff.rfl

@[simp] theorem traced_call {r : ρ} {next : Resp r → Program Resp α} :
    (Program.call r next).Traced given may res past ↔
      may past r ∧ ∀ a, given r a → (next a).Traced given may res (past ++ [⟨r, a⟩]) := Iff.rfl

@[simp] theorem traced_ite {c : Prop} [Decidable c] {p q : Program Resp α} :
    (if c then p else q).Traced given may res past ↔ if c then p.Traced given may res past else q.Traced given may res past := by
  split <;> rfl

/-- The answers to a call that may fail. -/
@[simp] theorem forall_except {ε γ : Type} {P : Except ε γ → Prop} : (∀ a, P a) ↔ (∀ e, P (.error e)) ∧ ∀ a, P (.ok a) :=
  ⟨fun h => ⟨fun e => h _, fun a => h _⟩, fun h a => by cases a; exact h.1 _; exact h.2 _⟩

variable {p : Program Resp α} {res : List (Called Resp) → β → Prop}

theorem Program.Traced.bind {f : α → Program Resp β} {mid : List (Called Resp) → α → Prop} (h : p.Traced given may mid past)
    (hf : ∀ a later, past <+: later → mid later a → (f a).Traced given may res later) : (p >>= f).Traced given may res past := by
  induction p generalizing past with
  | done a => exact hf a past (List.prefix_refl _) h
  | call r next ih =>
    refine ⟨h.1, fun a ha => ih a (h.2 a ha) fun b later hl hm => hf b later ?_ hm⟩
    exact (List.prefix_append _ _).trans hl

theorem Program.Traced.imp {mid res : List (Called Resp) → α → Prop} (h : p.Traced given may mid past)
    (hr : ∀ later a, mid later a → res later a) : p.Traced given may res past := by
  induction p generalizing past with
  | done a => exact hr past a h
  | call r next ih => exact ⟨h.1, fun a ha => ih a (h.2 a ha)⟩

theorem Program.Traced.reaches {f : α → Program Resp β} (hgiven : ∀ r, ∃ a, given r a) (h : (p >>= f).Traced given may res past) :
    ∃ a later, past <+: later ∧ (f a).Traced given may res later := by
  induction p generalizing past with
  | done a => exact ⟨a, past, List.prefix_refl _, h⟩
  | call r next ih =>
    obtain ⟨a, ha⟩ := hgiven r
    obtain ⟨b, later, hl, hb⟩ := ih a (h.2 a ha)
    exact ⟨b, later, (List.prefix_append _ _).trans hl, hb⟩

end Traced

/-! ## A runner -/

/-- A task to begin, the answer to a call, a crash, and what happens outside. -/
inductive Drive (κ χ ω : Type) where
  | start (k : κ)
  | answer (c : χ)
  | crash
  | outside (o : ω)

/-- What a runner does: it begins a task, makes a call, returns from a task or drops it. -/
inductive Deed {ρ : Type} (κ : Type) (Resp : ρ → Type) (α : Type) where
  | began (k : κ)
  | called (k : κ) (c : Called Resp)
  | returned (k : κ) (a : α)
  | dropped (k : κ)

/-- What a task returned. -/
def Deed.result? {ρ κ α : Type} {Resp : ρ → Type} : Deed κ Resp α → Option (κ × α)
  | .returned k a => some (k, a)
  | .began _ | .called _ _ | .dropped _ => none

/-- The service, and the task the runner is at with what is left of its program. -/
structure Work {ρ : Type} (κ σ : Type) (Resp : ρ → Type) (α : Type) where
  server : σ
  task : Option (κ × Program Resp α) := none

/-- The programs of a runner, the service they call, and what else happens to the service. -/
structure Runner {ρ : Type} (κ σ χ ω : Type) (Resp : ρ → Type) (α : Type) where
  pass : κ → Program Resp α
  exec : σ → (r : ρ) → χ → σ × Resp r
  outside : σ → ω → σ

section Runner

variable {ρ κ σ χ ω α : Type} {Resp : ρ → Type}

def settle (k : κ) : Program Resp α → Option (κ × Program Resp α) × List (Deed κ Resp α)
  | .done a => (none, [.returned k a])
  | .call r next => (some (k, .call r next), [])

/-- One step of a runner: a task is begun only when none is under way. -/
def Runner.step (H : Runner κ σ χ ω Resp α) (w : Work κ σ Resp α) : Drive κ χ ω → Work κ σ Resp α × List (Deed κ Resp α)
  | .start k =>
    match w.task with
    | some _ => (w, [])
    | none => (⟨w.server, (settle k (H.pass k)).1⟩, .began k :: (settle k (H.pass k)).2)
  | .answer c =>
    match w.task with
    | some (k, .call r next) =>
      let done := H.exec w.server r c
      (⟨done.1, (settle k (next done.2)).1⟩, .called k ⟨r, done.2⟩ :: (settle k (next done.2)).2)
    | _ => (w, [])
  | .crash =>
    match w.task with
    | some (k, _) => (⟨w.server, none⟩, [.dropped k])
    | none => (w, [])
  | .outside o => (⟨H.outside w.server o, w.task⟩, [])

/-- Which tasks begin, how calls are answered, where tasks drop, and what happens outside. -/
structure Conditions (κ σ χ ω ρ : Type) where
  start : κ → σ → Prop := fun _ _ => True
  answer : κ → σ → ρ → χ → Prop := fun _ _ _ _ => True
  crash : κ → σ → ρ → Prop := fun _ _ _ => True
  outside : σ → ω → Prop := fun _ _ => True

def Conditions.Ok (C : Conditions κ σ χ ω ρ) (w : Work κ σ Resp α) : Drive κ χ ω → Prop
  | .start k => C.start k w.server
  | .answer c =>
    match w.task with
    | some (k, .call r _) => C.answer k w.server r c
    | _ => True
  | .crash =>
    match w.task with
    | some (k, .call r _) => C.crash k w.server r
    | _ => True
  | .outside o => C.outside w.server o

/-- Conditions that can be decided. -/
class Conditions.Decides (C : Conditions κ σ χ ω ρ) where
  start : ∀ k s, Decidable (C.start k s) := by exact fun _ _ => isTrue trivial
  answer : ∀ k s r c, Decidable (C.answer k s r c) := by exact fun _ _ _ _ => isTrue trivial
  crash : ∀ k s r, Decidable (C.crash k s r) := by exact fun _ _ _ => isTrue trivial
  outside : ∀ s o, Decidable (C.outside s o) := by exact fun _ _ => isTrue trivial

instance (C : Conditions κ σ χ ω ρ) [D : C.Decides] (w : Work κ σ Resp α) (d : Drive κ χ ω) : Decidable (C.Ok w d) :=
  match w, d with
  | ⟨s, _⟩, .start k => D.start k s
  | ⟨s, some (k, .call r _)⟩, .answer c => D.answer k s r c
  | ⟨_, some (_, .done _)⟩, .answer _ | ⟨_, none⟩, .answer _ => isTrue trivial
  | ⟨s, some (k, .call r _)⟩, .crash => D.crash k s r
  | ⟨_, some (_, .done _)⟩, .crash | ⟨_, none⟩, .crash => isTrue trivial
  | ⟨s, _⟩, .outside o => D.outside s o

/-! ## What a log says of the task under way -/

def callsUnderWay : List (Deed κ Resp α) → List (Called Resp) :=
  List.foldl (fun past d =>
    match d with
    | .began _ => []
    | .called _ c => past ++ [c]
    | _ => past) []

@[simp] theorem callsUnderWay_began (log : List (Deed κ Resp α)) (k : κ) : callsUnderWay (log ++ [.began k]) = [] := by
  simp [callsUnderWay]

@[simp] theorem callsUnderWay_returned (log : List (Deed κ Resp α)) (k : κ) (a : α) :
    callsUnderWay (log ++ [.returned k a]) = callsUnderWay log := by
  simp [callsUnderWay]

@[simp] theorem callsUnderWay_called (log : List (Deed κ Resp α)) (k : κ) (c : Called Resp) :
    callsUnderWay (log ++ [.called k c]) = callsUnderWay log ++ [c] := by
  simp [callsUnderWay]

def Justified (may : κ → List (Called Resp) → ρ → Prop) (res : κ → List (Called Resp) → α → Prop) (log : List (Deed κ Resp α)) :
    Deed κ Resp α → Prop
  | .called k c => may k (callsUnderWay log) c.1
  | .returned k a => res k (callsUnderWay log) a
  | _ => True

end Runner

/-! ## Calls that may fail -/

/-- A call is carried out and answered, carried out and failed, or not carried out. -/
inductive Fate (ε : Type) where
  | served
  | lost (e : ε)
  | failed (e : ε)
  deriving DecidableEq

def Fate.apply {ε ε' σ α : Type} (fail : ε → ε') (f : Fate ε) (s : σ) (call : σ × Except ε' α) : σ × Except ε' α :=
  match f with
  | .served => call
  | .lost e => (call.1, .error (fail e))
  | .failed e => (s, .error (fail e))

end FrameOperator
