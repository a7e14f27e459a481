import FrameOperator.Lib.Program

/-!
# Programs and what they have done

`Program.Honours` is the safety of a program, with what it has done carried along. A runner whose programs all keep a round keeps
its invariants over every run (`Round.run_sound`). A `Charter`, a `Contract` and a `Cycle` are rounds that ask for less.
-/

namespace FrameOperator

open List

section Honours

variable {ρ σ χ α β : Type} {Resp : ρ → Type}

/-- What a program may count on and has to keep, of its calls and of what it has done before. -/
structure Duties (σ χ : Type) {ρ : Type} (Resp : ρ → Type) where
  inv : σ → Prop
  rely : σ → σ → Prop
  allow : σ → ρ → χ → Prop
  guar : List (Called Resp) → σ → ρ → Prop

/-- A program keeps its duties at every call, and returns under the postcondition. -/
def Program.Honours (exec : σ → (r : ρ) → χ → σ × Resp r) (D : Duties σ χ Resp) (post : List (Called Resp) → α → σ → Prop) :
    List (Called Resp) → Program Resp α → σ → Prop
  | past, .done a, s => post past a s
  | past, .call r next, s => ∀ t, D.inv t → D.rely s t → D.guar past t r ∧ ∀ c, D.allow t r c →
      D.inv (exec t r c).1 ∧ (next (exec t r c).2).Honours exec D post (past ++ [⟨r, (exec t r c).2⟩]) (exec t r c).1

variable {exec : σ → (r : ρ) → χ → σ × Resp r} {D : Duties σ χ Resp} {past : List (Called Resp)}

variable {post : List (Called Resp) → α → σ → Prop} {s : σ}

/-- A call that keeps the invariant where it is made as it has to be, and what follows it. -/
theorem honours_ask {r : ρ} {f : Resp r → Program Resp α}
    (hkeep : ∀ past t c, D.inv t → D.guar past t r → D.allow t r c → D.inv (exec t r c).1)
    (h : ∀ t, D.inv t → D.rely s t → D.guar past t r ∧ ∀ c, D.allow t r c → D.inv (exec t r c).1 →
      (f (exec t r c).2).Honours exec D post (past ++ [⟨r, (exec t r c).2⟩]) (exec t r c).1) :
    (Program.ask r >>= f).Honours exec D post past s := by
  intro t ht hst
  obtain ⟨hguar, hnext⟩ := h t ht hst
  refine ⟨hguar, fun c hc => ?_⟩
  have hinv := hkeep past t c ht hguar hc
  exact ⟨hinv, hnext c hc hinv⟩

variable {p : Program Resp α}

theorem Program.Honours.bind {f : α → Program Resp β} {mid : List (Called Resp) → α → σ → Prop}
    {post : List (Called Resp) → β → σ → Prop} (h : p.Honours exec D mid past s) (hs : D.inv s)
    (hf : ∀ later a t, D.inv t → mid later a t → (f a).Honours exec D post later t) : (p >>= f).Honours exec D post past s := by
  induction p generalizing past s with
  | done a => exact hf past a s hs h
  | call r next ih =>
    intro t ht hr
    obtain ⟨hguar, hall⟩ := h t ht hr
    refine ⟨hguar, fun c hc => ?_⟩
    obtain ⟨hinv, hnext⟩ := hall c hc
    exact ⟨hinv, ih _ hnext hinv⟩

theorem Program.Honours.imp {mid post : List (Called Resp) → α → σ → Prop} (h : p.Honours exec D mid past s)
    (hs : D.inv s) (hp : ∀ later a t, D.inv t → mid later a t → post later a t) :
    p.Honours exec D post past s := by
  rw [← p.bind_done]
  exact h.bind hs hp

theorem Program.Honours.weaken {guar : List (Called Resp) → σ → ρ → Prop} (hg : ∀ past s r, D.guar past s r → guar past s r)
    (h : p.Honours exec D post past s) :
    p.Honours exec { D with guar := guar } post past s := by
  induction p generalizing past s with
  | done a => exact h
  | call r next ih =>
    intro t ht hr
    obtain ⟨hguar, hall⟩ := h t ht hr
    refine ⟨hg past t r hguar, fun c hc => ?_⟩
    obtain ⟨hinv, hnext⟩ := hall c hc
    exact ⟨hinv, ih _ hnext⟩

/-- A safe program, whatever it has done. -/
theorem Program.Safe.honours {T : Terms σ χ ρ} {post : α → σ → Prop} (h : p.Safe exec T post s)
    (past : List (Called Resp)) : p.Honours exec ⟨T.inv, T.rely, T.allow, fun _ => T.guar⟩ (fun _ => post) past s := by
  induction p generalizing past s with
  | done a => exact h
  | call r next ih =>
    intro t ht hr
    obtain ⟨hguar, hall⟩ := h t ht hr
    refine ⟨hguar, fun c hc => ?_⟩
    obtain ⟨hinv, hnext⟩ := hall c hc
    exact ⟨hinv, ih _ hnext _⟩

/-- What its calls justify a program keeps, along with what ties them to the service. -/
theorem Program.Traced.honours {given : (r : ρ) → Resp r → Prop} {may : List (Called Resp) → ρ → Prop}
    {res : List (Called Resp) → α → Prop} {J : List (Called Resp) → σ → Prop} (hgiven : ∀ t r c, given r (exec t r c).2)
    (hrely : ∀ past s t, J past s → D.inv t → D.rely s t → J past t)
    (hguar : ∀ past t r, D.inv t → J past t → may past r → D.guar past t r)
    (hcall : ∀ past t r c, D.inv t → J past t → may past r → D.allow t r c →
      D.inv (exec t r c).1 ∧ J (past ++ [⟨r, (exec t r c).2⟩]) (exec t r c).1) (h : p.Traced given may res past) (hJ : J past s) :
    p.Honours exec D (fun later a t => res later a ∧ J later t) past s := by
  induction p generalizing past s with
  | done a => exact ⟨h, hJ⟩
  | call r next ih =>
    intro t ht hst
    have hJt := hrely past s t hJ ht hst
    refine ⟨hguar past t r ht hJt h.1, fun c hc => ?_⟩
    obtain ⟨hinv, hJ'⟩ := hcall past t r c ht hJt h.1 hc
    exact ⟨hinv, ih _ (h.2 _ (hgiven t r c)) hJ'⟩

/-- A program can be carried through to its end, from where it is. -/
theorem Program.Honours.finishes (le : σ → σ → Prop) (hrefl : ∀ s, D.rely s s)
    (hallow : ∀ t r, ∃ c, D.allow t r c) (hle : ∀ t r c, le t (exec t r c).1) (le_refl : ∀ s, le s s)
    (le_trans : ∀ {a b c}, le a b → le b c → le a c) (h : p.Honours exec D post past s) (hs : D.inv s) :
    ∃ later a t, le s t ∧ post later a t := by
  induction p generalizing past s with
  | done a => exact ⟨past, a, s, le_refl s, h⟩
  | call r next ih =>
    obtain ⟨c, hc⟩ := hallow s r
    obtain ⟨hinv, hnext⟩ := (h s hs (hrefl s)).2 c hc
    obtain ⟨later, a, t, hst, hpost⟩ := ih _ hnext hinv
    exact ⟨later, a, t, le_trans (hle s r c) hst, hpost⟩

end Honours

section Round

variable {ρ κ σ χ ω α : Type} {Resp : ρ → Type}

/-- One invariant that is always kept, and one that a task may break and restores. -/
structure Round (H : Runner κ σ χ ω Resp α) (ok : Work κ σ Resp α → Drive κ χ ω → Prop) where
  inv : σ → Prop
  rest : σ → Prop
  rely : κ → σ → σ → Prop
  allow : κ → σ → ρ → χ → Prop
  guar : κ → List (Called Resp) → σ → ρ → Prop
  post : κ → List (Called Resp) → α → σ → Prop
  refl : ∀ k s, rely k s s
  trans : ∀ {k a b c}, rely k a b → rely k b c → rely k a c
  outside_idle : ∀ s o, inv s → rest s → ok ⟨s, none⟩ (.outside o) → inv (H.outside s o) ∧ rest (H.outside s o)
  outside_busy : ∀ k p s o, inv s → ok ⟨s, some (k, p)⟩ (.outside o) → inv (H.outside s o) ∧ rely k s (H.outside s o)
  answered : ∀ k r next s c, ok ⟨s, some (k, .call r next)⟩ (.answer c) → allow k s r c
  crash_rest : ∀ k past r next s, inv s → guar k past s r → ok ⟨s, some (k, .call r next)⟩ .crash → rest s
  pass : ∀ k s, inv s → rest s → ok ⟨s, none⟩ (.start k) →
    (H.pass k).Honours H.exec ⟨inv, rely k, allow k, guar k⟩ (fun past a t => rest t ∧ post k past a t) [] s

namespace Round

variable {H : Runner κ σ χ ω Resp α} {ok : Work κ σ Resp α → Drive κ χ ω → Prop} (R : Round H ok)

/-- What is asked of a task. -/
def duties (k : κ) : Duties σ χ Resp := ⟨R.inv, R.rely k, R.allow k, R.guar k⟩

/-- How a task ends. -/
def ends (k : κ) (past : List (Called Resp)) (a : α) (t : σ) : Prop := R.rest t ∧ R.post k past a t

/-- What is done is in order, after what was done before. -/
def Lawful : List (Deed κ Resp α) → Deed κ Resp α → Prop :=
  fun log d => Justified (fun k past r => ∃ s, R.guar k past s r) (fun k past a => ∃ s, R.post k past a s) log d

/-- The invariants hold, or the task under way restores the second; all was in order. -/
structure Sound (w : Work κ σ Resp α) (log : List (Deed κ Resp α)) : Prop where
  inv : R.inv w.server
  idle : w.task = none → R.rest w.server
  busy : ∀ k p, w.task = some (k, p) →
    (∃ r next, p = .call r next) ∧ p.Honours H.exec (R.duties k) (R.ends k) (callsUnderWay log) w.server
  done : Each R.Lawful log

def Returns (log : List (Deed κ Resp α)) (s : σ) (ds : List (Deed κ Resp α)) : Prop :=
  ∀ k a, Deed.returned k a ∈ ds → R.post k (callsUnderWay log) a s

variable {R} {w : Work κ σ Resp α} {log : List (Deed κ Resp α)} {s : σ} {p : Program Resp α} {k : κ}

theorem Sound.settle (hs : R.inv s) (hl : Each R.Lawful log)
    (hp : p.Honours H.exec (R.duties k) (R.ends k) (callsUnderWay log) s) :
    R.Sound ⟨s, (FrameOperator.settle k p).1⟩ (log ++ (FrameOperator.settle k p).2) ∧
      R.Returns (log ++ (FrameOperator.settle k p).2) s (FrameOperator.settle k p).2 := by
  cases p with
  | done a =>
    have hdone : R.Lawful log (.returned k a) := ⟨s, hp.2⟩
    refine ⟨⟨hs, fun _ => hp.1, fun k' p' h => (by cases h), hl.snoc hdone⟩, fun k' a' h => ?_⟩
    cases mem_singleton.mp h
    simpa [FrameOperator.settle] using hp.2
  | call r next =>
    refine ⟨⟨hs, fun h => (by cases h), fun k' p' h => ?_, by simpa [FrameOperator.settle] using hl⟩, nofun⟩
    cases h
    exact ⟨⟨r, next, rfl⟩, by simpa [FrameOperator.settle] using hp⟩

/-- A task that is gone on with after something was done, and what it returns. -/
theorem Sound.goes {d : Deed κ Resp α} (hs : R.inv s) (hl : Each R.Lawful log) (hd : R.Lawful log d)
    (hne : ∀ k a, d ≠ .returned k a) (hp : p.Honours H.exec (R.duties k) (R.ends k) (callsUnderWay (log ++ [d])) s) :
    R.Sound ⟨s, (FrameOperator.settle k p).1⟩ (log ++ d :: (FrameOperator.settle k p).2) ∧
      R.Returns (log ++ d :: (FrameOperator.settle k p).2) s (d :: (FrameOperator.settle k p).2) := by
  have hsettle := Sound.settle hs (hl.snoc hd) hp
  rw [append_assoc] at hsettle
  refine ⟨hsettle.1, fun k' a' hmem => ?_⟩
  rcases mem_cons.mp hmem with heq | hmem
  · exact absurd heq.symm (hne k' a')
  · exact hsettle.2 k' a' hmem

/-- A step under the condition keeps the invariants, and what it returns is in order. -/
theorem Sound.step (h : R.Sound w log) {d : Drive κ χ ω} (hok : ok w d) :
    R.Sound (H.step w d).1 (log ++ (H.step w d).2) ∧ R.Returns (log ++ (H.step w d).2) (H.step w d).1.server (H.step w d).2 := by
  have hsame : R.Sound w (log ++ []) ∧ R.Returns (log ++ []) w.server [] :=
    ⟨by rwa [append_nil], nofun⟩
  obtain ⟨s, task⟩ := w
  cases task with
  | none =>
    cases d with
    | start k =>
      refine Sound.goes h.inv h.done (d := .began k) trivial (fun _ _ => nofun) ?_
      rw [callsUnderWay_began]
      exact R.pass k s h.inv (h.idle rfl) hok
    | answer c | crash => exact hsame
    | outside o =>
      obtain ⟨hinv, hrest⟩ := R.outside_idle s o h.inv (h.idle rfl) hok
      exact ⟨⟨hinv, fun _ => hrest, fun k p hp => (by cases hp), hsame.1.done⟩, nofun⟩
  | some kp =>
    obtain ⟨k, p⟩ := kp
    obtain ⟨⟨r, next, rfl⟩, hp⟩ := h.busy k p rfl
    have hguar := (hp s h.inv (R.refl k s)).1
    cases d with
    | start k' => exact hsame
    | answer c =>
      obtain ⟨hinv, hnext⟩ := (hp s h.inv (R.refl k s)).2 c (R.answered k r next s c hok)
      refine Sound.goes hinv h.done (d := .called k ⟨r, (H.exec s r c).2⟩) ⟨s, hguar⟩ (fun _ _ => nofun) ?_
      rw [callsUnderWay_called]
      exact hnext
    | crash =>
      have hdropped : R.Lawful log (.dropped k) := trivial
      refine ⟨⟨h.inv, fun _ => R.crash_rest k _ r next s h.inv hguar hok, fun k' p' hp' => (by cases hp'), h.done.snoc hdropped⟩,
        fun k' a' hmem => ?_⟩
      cases mem_singleton.mp hmem
    | outside o =>
      obtain ⟨hinv, hrely⟩ := R.outside_busy k _ s o h.inv hok
      refine ⟨⟨hinv, fun hn => (by cases hn), fun k' p' hp' => ?_, hsame.1.done⟩, nofun⟩
      cases hp'
      simp only [Runner.step, append_nil]
      exact ⟨⟨r, next, rfl⟩, fun t ht hst => hp t ht (R.trans hrely hst)⟩

/-- The call that a task waits at is made as the round has it. -/
theorem Sound.guar (h : R.Sound w log) {r : ρ} {next : Resp r → Program Resp α} (ht : w.task = some (k, .call r next)) :
    R.guar k (callsUnderWay log) w.server r :=
  ((h.busy k _ ht).2 w.server h.inv (R.refl k w.server)).1

/-- A run under the condition, from a state in which no task is under way, keeps the invariants. -/
theorem run_sound (h0 : R.inv s) (h1 : R.rest s) (ds : List (Drive κ χ ω)) (hm : Meets H.step ok ⟨s, none⟩ ds) :
    R.Sound (run H.step ⟨s, none⟩ ds).1 (run H.step ⟨s, none⟩ ds).2 := by
  have hsound : R.Sound ⟨s, none⟩ [] := ⟨h0, fun _ => h1, fun k p h => (by cases h), each_nil _⟩
  exact run_induct (I := R.Sound) hsound (fun _ _ _ h hok => (h.step hok).1) ds hm

variable {may : κ → List (Called Resp) → ρ → Prop}

theorem Sound.justified (h : R.Sound w log) {res : κ → List (Called Resp) → α → Prop}
    (hmay : ∀ k past s r, R.guar k past s r → may k past r) (hres : ∀ k past a s, R.post k past a s → res k past a) :
    Each (Justified may res) log := by
  intro i d hd
  have hlawful := h.done i d hd
  cases d with
  | began k | dropped k => trivial
  | called k c =>
    obtain ⟨s, hg⟩ := hlawful
    exact hmay k _ s _ hg
  | returned k a =>
    obtain ⟨s, hp⟩ := hlawful
    exact hres k _ a s hp

theorem run_justified (hmay : ∀ k past s r, R.guar k past s r → may k past r)
    (h0 : R.inv s) (h1 : R.rest s) (ds : List (Drive κ χ ω)) (hm : Meets H.step ok ⟨s, none⟩ ds) :
    Each (Justified may fun _ _ _ => True) (run H.step ⟨s, none⟩ ds).2 :=
  (R.run_sound h0 h1 ds hm).justified hmay fun _ _ _ _ _ => trivial

end Round

variable {H : Runner κ σ χ ω Resp α}

/-- From a state with no task under way, all that the runner does is justified by the calls its task made before. -/
theorem run_traced {given : (r : ρ) → Resp r → Prop} {may : κ → List (Called Resp) → ρ → Prop}
    {res : κ → List (Called Resp) → α → Prop}
    (hgiven : ∀ s r c, given r (H.exec s r c).2) (hpass : ∀ k, (H.pass k).Traced given (may k) (res k) [])
    {w : Work κ σ Resp α} (hw : w.task = none) (ds : List (Drive κ χ ω)) : Each (Justified may res) (run H.step w ds).2 := by
  let R : Round H fun _ _ => True :=
    { inv := fun _ => True
      rest := fun _ => True
      rely := fun _ _ _ => True
      allow := fun _ _ _ _ => True
      guar := fun k past _ r => may k past r
      post := fun k past a _ => res k past a
      refl := fun _ _ => trivial
      trans := fun _ _ => trivial
      outside_idle := fun _ _ _ _ _ => ⟨trivial, trivial⟩
      outside_busy := fun _ _ _ _ _ _ => ⟨trivial, trivial⟩
      answered := fun _ _ _ _ _ _ => trivial
      crash_rest := fun _ _ _ _ _ _ _ _ => trivial
      pass := fun k s _ _ _ => ((hpass k).honours (J := fun _ _ => True) hgiven (fun _ _ _ _ _ _ => trivial) (fun _ _ _ _ _ h => h)
        (fun _ _ _ _ _ _ _ _ => ⟨trivial, trivial⟩) trivial).imp trivial fun _ _ _ _ h => ⟨trivial, h.1⟩ }
  obtain ⟨s, task⟩ := w
  cases hw
  exact (R.run_sound trivial trivial ds (meets_true _ _)).justified (fun _ _ _ _ h => h) fun _ _ _ _ h => h

end Round

section Charter

variable {ρ κ σ χ ω α : Type} {Resp : ρ → Type}

/-- An invariant that every program keeps, with what each may count on between its calls and has to keep. -/
structure Charter (H : Runner κ σ χ ω Resp α) (C : Conditions κ σ χ ω ρ) where
  inv : σ → Prop
  rely : κ → σ → σ → Prop
  guar : κ → List (Called Resp) → σ → ρ → Prop
  post : κ → List (Called Resp) → α → σ → Prop
  refl : ∀ k s, rely k s s
  trans : ∀ {k a b c}, rely k a b → rely k b c → rely k a c
  outside_inv : ∀ s o, inv s → C.outside s o → inv (H.outside s o)
  outside_rely : ∀ k s o, inv s → C.outside s o → rely k s (H.outside s o)
  pass : ∀ k s, inv s → C.start k s → (H.pass k).Honours H.exec ⟨inv, rely k, C.answer k, guar k⟩ (post k) [] s

namespace Charter

variable {H : Runner κ σ χ ω Resp α} {C : Conditions κ σ χ ω ρ} (K : Charter H C)

/-- A charter is a round with nothing to restore. -/
def round : Round H C.Ok where
  inv := K.inv
  rest _ := True
  rely := K.rely
  allow := C.answer
  guar := K.guar
  post := K.post
  refl := K.refl
  trans := K.trans
  outside_idle s o hs _ ho := ⟨K.outside_inv s o hs ho, trivial⟩
  outside_busy k _ s o hs ho := ⟨K.outside_inv s o hs ho, K.outside_rely k s o hs ho⟩
  answered _ _ _ _ _ hok := hok
  crash_rest _ _ _ _ _ _ _ _ := trivial
  pass k s hs _ hok := (K.pass k s hs hok).imp hs fun _ _ _ _ h => ⟨trivial, h⟩

abbrev Sound (w : Work κ σ Resp α) (log : List (Deed κ Resp α)) : Prop := K.round.Sound w log

variable {K}

/-- The call that a task waits at is made as the charter has it. -/
theorem Sound.guar {w : Work κ σ Resp α} {log : List (Deed κ Resp α)} (h : K.Sound w log) {k : κ} {r : ρ}
    {next : Resp r → Program Resp α} (ht : w.task = some (k, .call r next)) : K.guar k (callsUnderWay log) w.server r :=
  Round.Sound.guar h ht

/-- A run under the conditions, from a state in which no task is under way, keeps the charter. -/
theorem run_sound {s : σ} (h0 : K.inv s) (ds : List (Drive κ χ ω)) (hm : Meets H.step C.Ok ⟨s, none⟩ ds) :
    K.Sound (run H.step ⟨s, none⟩ ds).1 (run H.step ⟨s, none⟩ ds).2 :=
  K.round.run_sound h0 trivial ds hm

end Charter

/-- An invariant that every program keeps, with what each may count on between its calls. -/
structure Contract (H : Runner κ σ χ ω Resp α) (C : Conditions κ σ χ ω ρ) where
  inv : σ → Prop
  rely : κ → σ → σ → Prop
  guar : κ → σ → ρ → Prop
  post : κ → α → σ → Prop
  refl : ∀ k s, rely k s s
  trans : ∀ {k a b c}, rely k a b → rely k b c → rely k a c
  outside_inv : ∀ s o, inv s → C.outside s o → inv (H.outside s o)
  outside_rely : ∀ k s o, inv s → C.outside s o → rely k s (H.outside s o)
  pass : ∀ k s, inv s → C.start k s → (H.pass k).Safe H.exec ⟨inv, rely k, C.answer k, guar k⟩ (post k) s

namespace Contract

variable {H : Runner κ σ χ ω Resp α} {C : Conditions κ σ χ ω ρ} (K : Contract H C)

/-- A contract is a charter that does not look at what was done. -/
def charter : Charter H C where
  inv := K.inv
  rely := K.rely
  guar k _ := K.guar k
  post k _ := K.post k
  refl := K.refl
  trans := K.trans
  outside_inv := K.outside_inv
  outside_rely := K.outside_rely
  pass k s hs hok := (K.pass k s hs hok).honours []

/-- The invariant holds, and the call that a task waits at is made as guaranteed. -/
structure Sound (w : Work κ σ Resp α) : Prop where
  inv : K.inv w.server
  guar : ∀ {k r next}, w.task = some (k, .call r next) → K.guar k w.server r

variable {K}

/-- A run under the conditions, from a state in which no task is under way, keeps the contract. -/
theorem run_sound {w : Work κ σ Resp α} (hw : w.task = none) (h0 : K.inv w.server) (ds : List (Drive κ χ ω))
    (hm : Meets H.step C.Ok w ds) : K.Sound (run H.step w ds).1 := by
  obtain ⟨s, task⟩ := w
  cases hw
  have h := K.charter.run_sound h0 ds hm
  exact ⟨h.inv, fun ht => Charter.Sound.guar h ht⟩

end Contract

/-- A contract whose invariant a task may break, and restores where it may end. -/
structure Cycle (H : Runner κ σ χ ω Resp α) (C : Conditions κ σ χ ω ρ) where
  rest : σ → Prop
  rely : κ → σ → σ → Prop
  guar : κ → σ → ρ → Prop
  post : κ → α → Prop
  refl : ∀ k s, rely k s s
  trans : ∀ {k a b c}, rely k a b → rely k b c → rely k a c
  outside_rest : ∀ s o, rest s → C.outside s o → rest (H.outside s o)
  outside_rely : ∀ k s o, C.outside s o → rely k s (H.outside s o)
  crash_rest : ∀ k s r, guar k s r → C.crash k s r → rest s
  pass : ∀ k s, rest s → C.start k s →
    (H.pass k).Safe H.exec ⟨fun _ => True, rely k, C.answer k, guar k⟩ (fun a t => rest t ∧ post k a) s

namespace Cycle

variable {H : Runner κ σ χ ω Resp α} {C : Conditions κ σ χ ω ρ} (K : Cycle H C)

/-- A cycle is a round without an invariant that is always kept. -/
def round : Round H C.Ok where
  inv _ := True
  rest := K.rest
  rely := K.rely
  allow := C.answer
  guar k _ := K.guar k
  post k _ a _ := K.post k a
  refl := K.refl
  trans := K.trans
  outside_idle s o _ hs ho := ⟨trivial, K.outside_rest s o hs ho⟩
  outside_busy k _ s o _ ho := ⟨trivial, K.outside_rely k s o ho⟩
  answered _ _ _ _ _ hok := hok
  crash_rest k _ r _ s _ hg hok := K.crash_rest k s r hg hok
  pass k s _ hs hok := (K.pass k s hs hok).honours []

/-- What a step returns is in order. -/
def Returns (ds : List (Deed κ Resp α)) : Prop := ∀ k a, Deed.returned k a ∈ ds → K.post k a

variable {K}

/-- From a state at rest under the invariant, what is returned is in order. -/
theorem run_returns {s : σ} (h0 : K.rest s) (ds : List (Drive κ χ ω)) (hm : Meets H.step C.Ok ⟨s, none⟩ ds) :
    K.Returns (run H.step ⟨s, none⟩ ds).2 := by
  intro k a hmem
  obtain ⟨i, hi⟩ := mem_iff_getElem?.mp hmem
  have h : Each (Justified (fun _ _ _ => True) fun k _ a => K.post k a) (run H.step ⟨s, none⟩ ds).2 :=
    (K.round.run_sound trivial h0 ds hm).justified (fun _ _ _ _ _ => trivial) fun _ _ _ _ h => h
  exact h i _ hi

end Cycle

end Charter

end FrameOperator
