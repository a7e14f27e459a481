import FrameOperator.Lib.Runs
import FrameOperator.Provision.Install

/-!
# What an installation does, in order

What a step of `provision.Install` came to (`verdict`) is read off that step alone. The calls are made in the order of `program`,
each only once those before it are done; the cleanup is two calls and what is left over after them.
-/

namespace FrameOperator.Provision

open Install Option

variable {i : Install} {pc : Pc} {p : Phase} {k n r : Nat} {eject : Answers}

/-- One step of an installation: what it did, and what the collaborators answered. -/
structure Moment where
  pc : Pc
  answers : Answers

/-- What a step came to. -/
inductive Verdict where
  | done
  | waits
  | fails (p : Phase)

def Verdict.failure : Verdict → Option Phase
  | fails p => some p
  | done | waits => none

variable (v : Spec → String → Option String) (s : Spec) (o : Options)

/-- What a step comes to. A wait is one step however often it asks. -/
def verdict (m : Moment) : Verdict :=
  let done := fun (ok : Bool) (p : Phase) => if ok then Verdict.done else .fails p
  match m.pc with
  | .validate => done ((validateOptions o).isNone && (v s o.nodeAddress).isNone) .pending
  | .serial =>
    match m.answers.serial with
    | .error _ => .fails .pending
    | .ok serial => done (checkConfirmedSerial serial o.confirmSerial).isNone .pending
  | .build => done m.answers.build.isOk .preparing
  | .beforeMediaAttached => done m.answers.beforeMediaAttached.isNone .preparing
  | .insertMedia => done m.answers.insertMedia.isNone .mediaAttached
  | .mediaInserted =>
    match m.answers.mediaInserted with
    | .error _ => .fails .mediaAttached
    | .ok inserted => done inserted .mediaAttached
  | .setBootOnce => done m.answers.setBootOnce.isNone .mediaAttached
  | .reset => done m.answers.reset.isNone .mediaAttached
  | .waitForOurSystem =>
    if trimSpace s.uid = "" ∨ m.answers.context ≠ none then .fails .installing
    else if (ourSystem (joinHostPort o.nodeAddress "22") (trimSpace s.uid) m.answers.attempt).isOk then .done else .waits
  | .dial => done m.answers.dial.isNone .joining
  | .join => done (join s.cluster m.answers).isOk .joining
  | .nodeReady =>
    match m.answers.nodeReady with
    | .ok true => .done
    | _ => if m.answers.context = none then .waits else .fails .ready
  | .ejectMedia => done m.answers.ejectMedia.isNone .ready
  | .clearBootOverride => done m.answers.clearBootOverride.isNone .ready
  | .removeImage => done m.answers.removeImage.isNone .ready
  | .report _ | .returned => .done

def Install.step (i : Install) (a : Answers) : Install × List Moment :=
  match i.pc with
  | .report _ => (i.reported, [⟨i.pc, a⟩])
  | .returned => (i, [])
  | _ => (i.next v a, [⟨i.pc, a⟩])

/-- The phases in the order a success goes through them. -/
def phases : List Phase := [.pending, .preparing, .mediaAttached, .installing, .installed, .joining, .ready]

/-- The steps in the order a success takes them, up to the cleanup. -/
def program : List Pc :=
  [.validate, .serial, .build, .beforeMediaAttached, .insertMedia, .mediaInserted, .setBootOnce, .reset, .waitForOurSystem, .dial,
    .join, .nodeReady]

def reports (t : List Moment) : List Phase :=
  t.filterMap fun m =>
    match m.pc with
    | .report p => some p
    | _ => none

def Pc.callsBMC (pc : Pc) : Bool :=
  pc ∈ [.serial, .insertMedia, .mediaInserted, .setBootOnce, .reset, .ejectMedia, .clearBootOverride]

def Pc.cleansUp (pc : Pc) : Bool := pc ∈ [.ejectMedia, .clearBootOverride, .removeImage]

/-- The cleanup ejects the media and clears the boot override once, and removes the image exactly if the media came out. -/
def CleansOnce (t : List Moment) : Prop :=
  ∃ before eject clear after, t = before ++ ⟨.ejectMedia, eject⟩ :: ⟨.clearBootOverride, clear⟩ :: after ∧
    (∀ m ∈ before, m.pc.cleansUp = false) ∧ (∀ m ∈ after, m.pc.callsBMC = false) ∧
    after.countP (·.pc = .removeImage) = if eject.ejectMedia = none then 1 else 0

/-- A step that is done is among some. -/
def Done (t : List Moment) (pc : Pc) : Prop := ∃ m ∈ t, m.pc = pc ∧ verdict v s o m = .done

/-- A step of the program comes after all the steps before it are done. -/
def InOrder (before : List Moment) (m : Moment) : Prop :=
  m.pc ∈ program → ∀ pc ∈ program.takeWhile (· ≠ m.pc), Done v s o before pc

def firstFailure (t : List Moment) : Option Phase := t.findSome? fun m => (verdict v s o m).failure

/-- What holds of an installation at every moment, of the steps so far and the state they left. -/
structure TraceSafe (i : Install) (t : List Moment) : Prop where
  /-- The machine is not touched unless the request was accepted and the machine is the one it names. -/
  touches : Each (fun before m => m.pc ∈ [.insertMedia, .setBootOnce, .reset] →
    validateOptions o = none ∧ v s o.nodeAddress = none ∧ o.confirmSerial ≠ "" ∧
      ∃ m' ∈ before, m'.pc = .serial ∧ m'.answers.serial = .ok o.confirmSerial) t
  /-- It is restarted only with the media in and set to boot from it. -/
  resets : Each (fun before m => m.pc = .reset →
    (∃ m' ∈ before, m'.pc = .mediaInserted ∧ m'.answers.mediaInserted = .ok true) ∧
      ∃ m' ∈ before, m'.pc = .setBootOnce ∧ m'.answers.setBootOnce = none) t
  cleans : i.pc = .returned → (∃ m ∈ t, m.pc = .build ∧ m.answers.build.isOk) → CleansOnce t
  told : ∃ n k, k ≤ 2 ∧ reports t = phases.take n ++ List.replicate k .failed
  /-- A success is a run without a failure, and then every step was taken and is done. -/
  succeeds : i.pc = .returned → (i.err = none ↔ i.res.phase = .ready) ∧
    (i.res.phase = .ready ↔ ∀ m ∈ t, (verdict v s o m).failure = none) ∧
    (i.res.phase = .ready → ∀ pc ∈ program ++ [.ejectMedia, .clearBootOverride, .removeImage], Done v s o t pc)
  fails : i.pc = .returned → i.err ≠ none → i.res.phase = .failed ∧
    ∃ p, i.res.failedPhase = some p ∧ firstFailure v s o t = some p

/-! ## One step before the cleanup -/

def Pc.following : Pc → Pc
  | .validate => .serial
  | .serial => .report .preparing
  | .build => .beforeMediaAttached
  | .beforeMediaAttached => .report .mediaAttached
  | .insertMedia => .mediaInserted
  | .mediaInserted => .setBootOnce
  | .setBootOnce => .reset
  | .reset => .report .installing
  | .waitForOurSystem => .report .installed
  | .dial => .join
  | .join => .nodeReady
  | .nodeReady => .report .ready
  | pc => pc

structure Advanced (i i' : Install) : Prop where
  pc : i'.pc = i.pc.following
  spec : i'.spec = i.spec
  opts : i'.opts = i.opts
  err : i'.err = i.err
  failedPhase : i'.res.failedPhase = i.res.failedPhase
  phase : ∀ p, i'.pc = .report p → i'.res.phase = p
  cleaned : i'.cleaned = i.cleaned
  built : i'.built = (i.built || i.pc = .build)

theorem advanced_goes (hpc : i.pc = pc) (hr : ∀ p, pc.following ≠ .report p) (hb : pc ≠ .build) :
    Advanced i { i with pc := pc.following } :=
  ⟨hpc ▸ rfl, rfl, rfl, rfl, rfl, fun p hp => absurd hp (hr p), rfl, by simp [hpc, hb]⟩

theorem advanced_enter (hpc : i.pc = pc) (hostKey : String) (last : Option String) (hf : pc.following = .report p)
    (hb : pc ≠ .build) : Advanced i ({ i with res.hostKey := hostKey, last := last }.enter p) :=
  ⟨hpc ▸ hf.symm, rfl, rfl, rfl, rfl, fun _ hp => (Pc.report.inj hp), rfl, by simp [hpc, hb, enter]⟩

/-- What one call comes to. -/
inductive Goes (i : Install) (a : Answers) : Install → Prop where
  | fails {p : Phase} (h : verdict v i.spec i.opts ⟨i.pc, a⟩ = .fails p) (e : String) : Goes i a (i.fail p e)
  | waits (h : verdict v i.spec i.opts ⟨i.pc, a⟩ = .waits) (last : Option String) : Goes i a { i with last := last }
  | done (h : verdict v i.spec i.opts ⟨i.pc, a⟩ = .done) {i' : Install} (h' : Advanced i i') : Goes i a i'

/-- A call goes on, fails, waits or ends. -/
theorem next_goes (a : Answers) (hp : i.pc ∈ program) : Goes v i a (i.next v a) := by
  cases hpc : i.pc with
  | report p => simp [hpc, program] at hp
  | returned | ejectMedia | clearBootOverride | removeImage => simp [hpc, program] at hp
  | validate =>
    simp only [next, hpc]
    split
    · rename_i e he
      exact .fails (by simp [verdict, hpc, he]) e
    rename_i ho
    split
    · rename_i e he
      exact .fails (by simp [verdict, hpc, he]) e
    · rename_i hs
      exact .done (by simp [verdict, hpc, ho, hs]) (advanced_goes hpc (by simp [Pc.following]) nofun)
  | serial =>
    simp only [next, hpc]
    split
    · rename_i e he
      exact .fails (by simp [verdict, hpc, he]) _
    rename_i serial hok
    split
    · rename_i e he
      exact .fails (by simp [verdict, hpc, hok, he]) e
    · rename_i hs
      exact .done (by simp [verdict, hpc, hok, hs]) (advanced_enter hpc i.res.hostKey i.last rfl nofun)
  | build =>
    simp only [next, hpc]
    split
    · rename_i e he
      exact .fails (by simp [verdict, hpc, he, Except.isOk, Except.toBool]) _
    rename_i hok
    exact .done (by simp [verdict, hpc, hok, Except.isOk, Except.toBool])
      ⟨by rw [hpc]; rfl, rfl, rfl, rfl, rfl, fun _ hr => by simp at hr, rfl, by simp [hpc]⟩
  | beforeMediaAttached | reset =>
    simp only [next, hpc]
    split
    · rename_i e he
      exact .fails (by simp [verdict, hpc, he]) _
    · rename_i hok
      exact .done (by simp [verdict, hpc, hok]) (advanced_enter hpc i.res.hostKey i.last rfl nofun)
  | insertMedia | setBootOnce | dial =>
    simp only [next, hpc]
    split
    · rename_i e he
      exact .fails (by simp [verdict, hpc, he]) _
    · rename_i hok
      exact .done (by simp [verdict, hpc, hok]) (advanced_goes hpc (by simp [Pc.following]) nofun)
  | mediaInserted =>
    simp only [next, hpc]
    split
    · rename_i e he
      exact .fails (by simp [verdict, hpc, he]) _
    · rename_i hno
      exact .fails (by simp [verdict, hpc, hno]) _
    · rename_i hok
      exact .done (by simp [verdict, hpc, hok]) (advanced_goes hpc (by simp [Pc.following]) nofun)
  | waitForOurSystem =>
    simp only [next, hpc]
    split
    · rename_i hu
      exact .fails (by simp [verdict, hpc, hu]) _
    rename_i hu
    split
    · rename_i hctx
      split
      · exact .fails (by simp [verdict, hpc, hctx]) _
      · exact .fails (by simp [verdict, hpc, hctx]) _
    · rename_i hctx
      split
      · rename_i he
        rw [← hpc]
        exact .waits (by simp [verdict, hpc, hu, hctx, he, Except.isOk, Except.toBool]) _
      · rename_i hok
        exact .done (by simp [verdict, hpc, hu, hctx, hok, Except.isOk, Except.toBool])
          (advanced_enter hpc _ none rfl nofun)
  | join =>
    simp only [next, hpc]
    split
    · rename_i he
      exact .fails (by simp [verdict, hpc, he, Except.isOk, Except.toBool]) _
    rename_i hok
    exact .done (by simp [verdict, hpc, hok, Except.isOk, Except.toBool])
      ⟨by rw [hpc]; rfl, rfl, rfl, rfl, rfl, fun _ hr => by simp at hr, rfl, by simp [hpc]⟩
  | nodeReady =>
    simp only [next, hpc]
    split
    · rename_i hok
      exact .done (by simp [verdict, hpc, hok]) (advanced_enter hpc i.res.hostKey i.last rfl nofun)
    rename_i hno
    split
    · rename_i hctx
      exact .fails (by simp [verdict, hpc, hctx]) _
    rename_i hctx
    rw [← hpc]
    exact .waits (by simp [verdict, hpc, hctx]) _

/-! ## Where a run can stand -/

/-- How many steps are done, and how many phases are reported, before any failure. -/
def Pc.progress : Pc → Option (Nat × Nat)
  | .report .pending => some (0, 0)
  | .validate => some (0, 1)
  | .serial => some (1, 1)
  | .report .preparing => some (2, 1)
  | .build => some (2, 2)
  | .beforeMediaAttached => some (3, 2)
  | .report .mediaAttached => some (4, 2)
  | .insertMedia => some (4, 3)
  | .mediaInserted => some (5, 3)
  | .setBootOnce => some (6, 3)
  | .reset => some (7, 3)
  | .report .installing => some (8, 3)
  | .waitForOurSystem => some (8, 4)
  | .report .installed => some (9, 4)
  | .report .joining => some (9, 5)
  | .dial => some (9, 6)
  | .join => some (10, 6)
  | .nodeReady => some (11, 6)
  | .report .ready => some (12, 6)
  | _ => none

theorem progress_call (h : pc.progress = some (n, r)) (hp : pc ∈ program) :
    program.takeWhile (· ≠ pc) = program.take n ∧ program.take (n + 1) = program.take n ++ [pc] ∧
      pc.following.progress = some (n + 1, r) := by
  simp only [program, List.mem_cons, List.not_mem_nil, or_false] at hp
  rcases hp with rfl | rfl | rfl | rfl | rfl | rfl | rfl | rfl | rfl | rfl | rfl | rfl <;>
    (obtain ⟨rfl, rfl⟩ := Prod.mk.inj (some.inj h); decide)

theorem progress_report (h : (Pc.report p).progress = some (n, r)) :
    phases.take (r + 1) = phases.take r ++ [p] := by
  cases p with
  | failed => cases h
  | _ => obtain ⟨rfl, rfl⟩ := Prod.mk.inj (some.inj h); decide

theorem progress_reported (hp : i.pc = .report p) (h : i.pc.progress = some (n, r))
    (hr : p ≠ .ready) : i.reported.pc.progress = some (n, r + 1) := by
  rw [hp] at h
  cases p with
  | ready => exact absurd rfl hr
  | failed => cases h
  | _ => obtain ⟨rfl, rfl⟩ := Prod.mk.inj (some.inj h); simp [reported, hp, Pc.progress, enter]

theorem reports_append (t u : List Moment) : reports (t ++ u) = reports t ++ reports u := List.filterMap_append

variable {m : Moment}

theorem reports_call (h : ∀ p, m.pc ≠ .report p) : reports [m] = [] := by
  cases hp : m.pc with
  | report p => exact absurd hp (h p)
  | _ => simp [reports, hp]

def Reported (t : List Moment) (k : Nat) : Prop := ∃ n j, j ≤ k ∧ reports t = phases.take n ++ List.replicate j .failed

variable {t : List Moment}

theorem Reported.call (h : Reported t k) (hm : ∀ p, m.pc ≠ .report p) :
    Reported (t ++ [m]) k := by
  obtain ⟨n, j, hj, heq⟩ := h
  exact ⟨n, j, hj, by rw [reports_append, reports_call hm, List.append_nil, heq]⟩

theorem Reported.failed (h : Reported t k) (a : Answers) :
    Reported (t ++ [⟨.report .failed, a⟩]) (k + 1) := by
  obtain ⟨n, j, hj, heq⟩ := h
  refine ⟨n, j + 1, Nat.succ_le_succ hj, ?_⟩
  rw [reports_append, heq, List.append_assoc, List.replicate_succ']
  rfl

theorem Reported.mono {l : Nat} (h : Reported t k) (hkl : k ≤ l) : Reported t l := by
  obtain ⟨n, j, hj, heq⟩ := h
  exact ⟨n, j, Nat.le_trans hj hkl, heq⟩

def Untidied (t : List Moment) : Prop := ∀ m ∈ t, m.pc.cleansUp = false

theorem Untidied.snoc (h : Untidied t) (hm : m.pc.cleansUp = false) : Untidied (t ++ [m]) :=
  forall_mem_snoc h hm

/-- What the installation has come to so far: a success, or a failure in the phase of the first of them. -/
inductive Outcome (i : Install) (t : List Moment) : Prop where
  | ready (herr : i.err = none) (hphase : i.res.phase = .ready) (hfailed : i.res.failedPhase = none)
      (hfirst : firstFailure v s o t = none) (hdone : ∀ pc ∈ program, Done v s o t pc)
  | failed (herr : i.err ≠ none) (hphase : i.res.phase = .failed) {p : Phase} (hfailed : i.res.failedPhase = some p)
      (hfirst : firstFailure v s o t = some p)

theorem firstFailure_append (t u : List Moment) : firstFailure v s o (t ++ u) = (firstFailure v s o t).or (firstFailure v s o u) :=
  List.findSome?_append

theorem firstFailure_cons :
    firstFailure v s o (m :: t) = (verdict v s o m).failure.or (firstFailure v s o t) := by
  cases h : (verdict v s o m).failure <;> simp [firstFailure, h]

theorem firstFailure_nil : firstFailure v s o [] = none := rfl

theorem firstFailure_snoc :
    firstFailure v s o (t ++ [m]) = (firstFailure v s o t).or (verdict v s o m).failure := by
  rw [firstFailure_append, firstFailure_cons, firstFailure_nil, or_none]

variable {v s o}

theorem Done.append (h : Done v s o t pc) (u : List Moment) : Done v s o (t ++ u) pc := by
  obtain ⟨m, hm, h'⟩ := h
  exact ⟨m, List.mem_append_left _ hm, h'⟩

/-- Steps that do not fail leave the outcome as it is. -/
theorem Outcome.append {i' : Install} {t u : List Moment} (h : Outcome v s o i t) (hu : firstFailure v s o u = none)
    (he : i'.err = i.err) (hr : i'.res = i.res) : Outcome v s o i' (t ++ u) := by
  have hf : firstFailure v s o (t ++ u) = firstFailure v s o t := by rw [firstFailure_append, hu, or_none]
  cases h with
  | ready herr hphase hfailed hfirst hdone =>
    exact .ready (he ▸ herr) (hr ▸ hphase) (hr ▸ hfailed) (hf ▸ hfirst) fun pc hpc => (hdone pc hpc).append _
  | failed herr hphase hfailed hfirst => exact .failed (he ▸ herr) (hr ▸ hphase) (hr ▸ hfailed) (hf ▸ hfirst)

theorem Outcome.keep {i' : Install} {t : List Moment} (h : Outcome v s o i t) (he : i'.err = i.err) (hr : i'.res = i.res) :
    Outcome v s o i' t := t.append_nil ▸ h.append rfl he hr

variable (v s o)

structure OnItsWay (n r : Nat) (i : Install) (t : List Moment) : Prop where
  progress : i.pc.progress = some (n, r)
  err : i.err = none
  failedPhase : i.res.failedPhase = none
  phase : ∀ p, i.pc = .report p → i.res.phase = p
  cleaned : i.cleaned = false
  done : ∀ pc ∈ program.take n, Done v s o t pc
  first : firstFailure v s o t = none
  told : reports t = phases.take r
  tidy : Untidied t

/-- Where an installation stands after its calls. -/
inductive Stand (i : Install) (t : List Moment) : Prop where
  | before {n r : Nat} (h : OnItsWay v s o n r i t)
  | fails (hp : i.pc = .report .failed) (hcleaned : i.cleaned = false) (hout : Outcome v s o i t) (hreports : Reported t 0)
      (htidy : Untidied t)
  | ejects (hp : i.pc = .ejectMedia) (hout : Outcome v s o i t) (hreports : Reported t 1) (htidy : Untidied t)
  | clears (hp : i.pc = .clearBootOverride) {t₀ : List Moment} {eject : Answers} (ht : t = t₀ ++ [⟨.ejectMedia, eject⟩])
      (heject : i.ejectErr = eject.ejectMedia) (hout : Outcome v s o i t₀) (hreports : Reported t 1) (htidy : Untidied t₀)
  | removes (hp : i.pc = .removeImage) {t₀ : List Moment} {eject clear : Answers}
      (ht : t = t₀ ++ [⟨.ejectMedia, eject⟩, ⟨.clearBootOverride, clear⟩]) (heject : i.ejectErr = none)
      (heject' : eject.ejectMedia = none) (hclear : i.clearErr = clear.clearBootOverride) (hout : Outcome v s o i t₀)
      (hreports : Reported t 1) (htidy : Untidied t₀)
  | failsAgain (hp : i.pc = .report .failed) (hcleaned : i.cleaned = true) (hout : Outcome v s o i t) (hreports : Reported t 1)
      (hclean : CleansOnce t)
  | returned (hp : i.pc = .returned) (hout : Outcome v s o i t) (hreports : Reported t 2) (hclean : i.built = true → CleansOnce t)

variable {v s o} {removeErr : Option String}

theorem Outcome.cleanedUp {t₀ t₁ : List Moment} (h : Outcome v s o i t₀) (h₁ : firstFailure v s o t₁ =
      if i.ejectErr = none ∧ i.clearErr = none ∧ removeErr = none then none else some .ready) :
    Outcome v s o (i.cleanedUp removeErr) (t₀ ++ t₁) := by
  unfold Install.cleanedUp
  by_cases hc : i.ejectErr = none ∧ i.clearErr = none ∧ removeErr = none
  · rw [if_pos hc] at h₁ ⊢
    exact h.append h₁ rfl rfl
  · rw [if_neg hc] at h₁ ⊢
    cases h with
    | ready herr hphase hfailed hfirst hdone =>
      refine .failed (by simp [enter]) rfl (p := .ready) ?_ ?_
      · simp [enter, hfailed, hphase]
      · rw [firstFailure_append, hfirst, h₁, none_or]
    | @failed herr hphase p hfailed hfirst =>
      refine .failed (by simp [enter]) rfl (p := p) ?_ ?_
      · simp [enter, hfailed]
      · rw [firstFailure_append, hfirst, some_or]

theorem stand_cleanedUp {t₀ after : List Moment} {clear : Answers}
    (hout : Outcome v s o i t₀) (htidy : Untidied t₀) (hafter : ∀ m ∈ after, m.pc.callsBMC = false)
    (hcount : after.countP (·.pc = .removeImage) = if eject.ejectMedia = none then 1 else 0)
    (hreports : Reported (t₀ ++ ⟨.ejectMedia, eject⟩ :: ⟨.clearBootOverride, clear⟩ :: after) 1)
    (hfirst : firstFailure v s o (⟨.ejectMedia, eject⟩ :: ⟨.clearBootOverride, clear⟩ :: after) =
      if i.ejectErr = none ∧ i.clearErr = none ∧ removeErr = none then none else some .ready) :
    Stand v s o (i.cleanedUp removeErr) (t₀ ++ ⟨.ejectMedia, eject⟩ :: ⟨.clearBootOverride, clear⟩ :: after) := by
  have hout' := hout.cleanedUp hfirst
  have hclean : CleansOnce (t₀ ++ ⟨.ejectMedia, eject⟩ :: ⟨.clearBootOverride, clear⟩ :: after) :=
    ⟨t₀, eject, clear, after, rfl, htidy, hafter, hcount⟩
  by_cases hc : i.ejectErr = none ∧ i.clearErr = none ∧ removeErr = none
  · exact .returned (by rw [cleanedUp, if_pos hc]) hout' (hreports.mono (by decide)) fun _ => hclean
  · exact .failsAgain (by rw [cleanedUp, if_neg hc]; rfl) (by rw [cleanedUp, if_neg hc]; rfl) hout' hreports hclean

theorem program_plain (h : pc ∈ program) : (∀ p, pc ≠ .report p) ∧ pc ≠ .returned ∧ pc.cleansUp = false := by
  simp only [program, List.mem_cons, List.not_mem_nil, or_false] at h
  rcases h with rfl | rfl | rfl | rfl | rfl | rfl | rfl | rfl | rfl | rfl | rfl | rfl <;> exact ⟨by simp, by simp, rfl⟩

/-- A call keeps an installation on its way, or ends it. -/
theorem OnItsWay.call (h : OnItsWay v s o n r i t) (a : Answers) (hs : i.spec = s)
    (ho : i.opts = o) (hpc : i.pc ∈ program) : Stand v s o (i.next v a) (t ++ [⟨i.pc, a⟩]) := by
  obtain ⟨-, hnext, hfollowing⟩ := progress_call h.progress hpc
  obtain ⟨hcall, -, hclean⟩ := program_plain hpc
  have hreports : reports (t ++ [⟨i.pc, a⟩]) = phases.take r := by
    rw [reports_append, reports_call hcall, List.append_nil, h.told]
  have htidy : Untidied (t ++ [⟨i.pc, a⟩]) := h.tidy.snoc hclean
  have hfirst : firstFailure v s o (t ++ [⟨i.pc, a⟩]) = (verdict v s o ⟨i.pc, a⟩).failure := by
    rw [firstFailure_snoc, h.first, none_or]
  have hgoes := next_goes v a hpc
  generalize i.next v a = i' at hgoes ⊢
  cases hgoes with
  | fails hv e =>
    rw [hs, ho] at hv
    refine .fails rfl h.cleaned ?_ ⟨r, 0, Nat.le_refl 0, by simpa using hreports⟩ htidy
    exact .failed (by simp [fail, enter]) rfl rfl (by rw [hfirst, hv]; rfl)
  | waits hv last =>
    rw [hs, ho] at hv
    exact .before ⟨h.progress, h.err, h.failedPhase, h.phase, h.cleaned, fun pc hm => (h.done pc hm).append _, by rw [hfirst, hv]; rfl,
      hreports, htidy⟩
  | done hv h' =>
    rw [hs, ho] at hv
    refine .before ⟨h'.pc ▸ hfollowing, h'.err ▸ h.err, h'.failedPhase ▸ h.failedPhase, h'.phase, h'.cleaned ▸ h.cleaned, ?_,
      by rw [hfirst, hv]; rfl, hreports, htidy⟩
    rw [hnext]
    exact forall_mem_snoc (fun pc hm => (h.done pc hm).append _) ⟨_, List.mem_append_right _ List.mem_cons_self, rfl, hv⟩

theorem reported_kept (i : Install) : i.reported.spec = i.spec ∧ i.reported.opts = i.opts ∧ i.reported.err = i.err ∧
    i.reported.res.failedPhase = i.res.failedPhase ∧ i.reported.cleaned = i.cleaned ∧ i.reported.built = i.built := by
  unfold reported
  split <;> exact ⟨rfl, rfl, rfl, rfl, rfl, rfl⟩

/-- So does a report. -/
theorem OnItsWay.report (h : OnItsWay v s o n r i t) (a : Answers) (hp : i.pc = .report p) :
    Stand v s o i.reported (t ++ [⟨i.pc, a⟩]) := by
  have hverdict : verdict v s o ⟨i.pc, a⟩ = .done := by simp only [verdict, hp]
  have hfirst : firstFailure v s o (t ++ [⟨i.pc, a⟩]) = none := by
    rw [firstFailure_snoc, h.first, hverdict]
    rfl
  have hreports : reports (t ++ [⟨i.pc, a⟩]) = phases.take (r + 1) := by
    rw [reports_append, h.told, progress_report (hp ▸ h.progress), hp]
    rfl
  have htidy : Untidied (t ++ [⟨i.pc, a⟩]) := h.tidy.snoc (by rw [hp]; rfl)
  obtain ⟨-, -, herr, hfailed, hcleaned, -⟩ := reported_kept i
  by_cases hr : p = .ready
  · subst hr
    have hi : i.reported = { i with pc := .ejectMedia } := by rw [reported, hp]
    have hn : n = 12 := by
      have hprogress := h.progress
      rw [hp] at hprogress
      exact (Prod.mk.inj (some.inj hprogress)).1.symm
    have hdone : ∀ pc ∈ program, Done v s o (t ++ [⟨i.pc, a⟩]) pc := fun pc hm => (h.done pc (hn ▸ hm)).append _
    rw [hi]
    exact .ejects rfl (.ready h.err (h.phase _ hp) h.failedPhase hfirst hdone) ⟨r + 1, 0, by decide, by simpa using hreports⟩ htidy
  · refine .before ⟨progress_reported hp h.progress hr, herr ▸ h.err, hfailed ▸ h.failedPhase, ?_, hcleaned ▸ h.cleaned,
      fun pc hm => (h.done pc hm).append _, hfirst, hreports, htidy⟩
    intro q hq
    have hprogress := h.progress
    cases p with
    | failed => rw [hp] at hprogress; cases hprogress
    | installed =>
      simp only [reported, hp, enter] at hq ⊢
      exact Pc.report.inj hq
    | _ => simp [reported, hp] at hq

theorem progress_cases (h : pc.progress = some (n, r)) : pc ∈ program ∨ ∃ p, pc = .report p := by
  cases pc with
  | report p => exact .inr ⟨p, rfl⟩
  | ejectMedia | clearBootOverride | removeImage | returned => cases h
  | _ => exact .inl (by decide)

theorem step_report (hp : i.pc = .report p) (a : Answers) :
    i.step v a = (i.reported, [⟨i.pc, a⟩]) := by
  simp only [step, hp]

theorem step_call (hr : ∀ p, i.pc ≠ .report p) (hret : i.pc ≠ .returned) (a : Answers) :
    i.step v a = (i.next v a, [⟨i.pc, a⟩]) := by
  unfold step
  split
  · rename_i p hp
    exact absurd hp (hr p)
  · rename_i hp
    exact absurd hp hret
  · rfl

theorem stand_failed (a : Answers) (hp : i.pc = .report .failed) (hcleaned : i.cleaned = false)
    (hout : Outcome v s o i t) (hreports : Reported t 0) (htidy : Untidied t) :
    Stand v s o i.reported (t ++ [⟨i.pc, a⟩]) := by
  have hi : i.reported = { i with pc := if i.built then .ejectMedia else .returned } := by
    simp only [reported, hp, hcleaned, Bool.not_false, Bool.and_true]
  have hout' : ∀ pc, Outcome v s o { i with pc := pc } (t ++ [⟨i.pc, a⟩]) := fun pc =>
    hout.append (by rw [hp]; rfl) rfl rfl
  have hreports' : Reported (t ++ [⟨i.pc, a⟩]) 1 := hp ▸ hreports.failed a
  rw [hi]
  by_cases hb : i.built = true
  · rw [if_pos hb]
    exact .ejects rfl (hout' _) hreports' (htidy.snoc (by rw [hp]; rfl))
  · rw [if_neg hb]
    exact .returned rfl (hout' _) (hreports'.mono (by decide)) fun h => absurd h hb

theorem CleansOnce.report (h : CleansOnce t) (p : Phase) (a : Answers) : CleansOnce (t ++ [⟨.report p, a⟩]) := by
  obtain ⟨t₀, eject, clear, after, rfl, htidy, hafter, hcount⟩ := h
  exact ⟨t₀, eject, clear, after ++ [⟨.report p, a⟩], by simp, htidy, forall_mem_snoc hafter rfl, by simpa using hcount⟩

theorem stand_clears {t₀ : List Moment} (clear : Answers) (hp : i.pc = .clearBootOverride)
    (heject : i.ejectErr = eject.ejectMedia) (hout : Outcome v s o i t₀) (hreports : Reported (t₀ ++ [⟨.ejectMedia, eject⟩]) 1)
    (htidy : Untidied t₀) :
    Stand v s o (i.next v clear) (t₀ ++ [⟨.ejectMedia, eject⟩] ++ [⟨.clearBootOverride, clear⟩]) := by
  have hreports' := hreports.call (m := ⟨.clearBootOverride, clear⟩) (by simp)
  have hout' : ∀ pc, Outcome v s o { i with clearErr := clear.clearBootOverride, pc := pc } t₀ := fun _ => hout.keep rfl rfl
  rw [List.append_assoc] at hreports' ⊢
  simp only [next, hp]
  by_cases he : i.ejectErr = none
  · rw [if_pos he]
    exact .removes rfl rfl he (heject ▸ he) rfl (hout' _) hreports' htidy
  rw [if_neg he]
  have hej : eject.ejectMedia ≠ none := heject ▸ he
  refine stand_cleanedUp (hout' .clearBootOverride) htidy (by simp) (by simp [hej]) hreports' ?_
  simp [firstFailure, verdict, he, isNone_iff_eq_none, hej, Verdict.failure]

theorem stand_removes {t₀ : List Moment} {clear : Answers} (a : Answers) (hp : i.pc = .removeImage)
    (heject : i.ejectErr = none) (heject' : eject.ejectMedia = none) (hclear : i.clearErr = clear.clearBootOverride)
    (hout : Outcome v s o i t₀) (hreports : Reported (t₀ ++ [⟨.ejectMedia, eject⟩, ⟨.clearBootOverride, clear⟩]) 1)
    (htidy : Untidied t₀) :
    Stand v s o (i.next v a) (t₀ ++ [⟨.ejectMedia, eject⟩, ⟨.clearBootOverride, clear⟩] ++ [⟨.removeImage, a⟩]) := by
  have hreports' := hreports.call (m := ⟨.removeImage, a⟩) (by simp)
  rw [List.append_assoc] at hreports' ⊢
  simp only [next, hp]
  refine stand_cleanedUp hout htidy (by simp [Pc.callsBMC]) (by simp [heject']) hreports' ?_
  cases hc : clear.clearBootOverride <;> cases hr : a.removeImage <;>
    simp [firstFailure, verdict, heject, heject', hclear, hc, hr, Verdict.failure]

/-- Every step keeps the stand of an installation. -/
theorem Stand.step (h : Stand v s o i t) (hs : i.spec = s) (ho : i.opts = o) (a : Answers) :
    Stand v s o (i.step v a).1 (t ++ (i.step v a).2) := by
  cases h with
  | before h =>
    rcases progress_cases h.progress with hp | ⟨p, hp⟩
    · obtain ⟨hr, hret, -⟩ := program_plain hp
      rw [step_call hr hret]
      exact h.call a hs ho hp
    · rw [step_report hp]
      exact h.report a hp
  | fails hp hcleaned hout hreports htidy =>
    rw [step_report hp]
    exact stand_failed a hp hcleaned hout hreports htidy
  | ejects hp hout hreports htidy =>
    rw [step_call (by simp [hp]) (by simp [hp]), hp]
    refine .clears ?_ rfl ?_ ?_ (hreports.call (by simp)) htidy
    · simp only [next, hp]
    · simp only [next, hp]
    · simp only [next, hp]
      exact hout.keep rfl rfl
  | clears hp ht heject hout hreports htidy =>
    subst ht
    rw [step_call (by simp [hp]) (by simp [hp]), hp]
    exact stand_clears a hp heject hout hreports htidy
  | removes hp ht heject heject' hclear hout hreports htidy =>
    subst ht
    rw [step_call (by simp [hp]) (by simp [hp]), hp]
    exact stand_removes a hp heject heject' hclear hout hreports htidy
  | failsAgain hp hcleaned hout hreports hclean =>
    rw [step_report hp]
    have hi : i.reported = { i with pc := .returned } := by
      simp only [reported, hp, hcleaned, Bool.not_true, Bool.and_false, Bool.false_eq_true, if_false]
    rw [hi, hp]
    exact .returned rfl (hout.append rfl rfl rfl) (hreports.failed a) fun _ => hclean.report _ _
  | returned hp hout hreports hclean =>
    have hi : i.step v a = (i, []) := by simp only [Install.step, hp]
    rw [hi, List.append_nil]
    exact .returned hp hout hreports hclean

/-! ## A whole run -/

theorem cleanedUp_kept (i : Install) (removeErr : Option String) : (i.cleanedUp removeErr).spec = i.spec ∧
    (i.cleanedUp removeErr).opts = i.opts ∧ (i.cleanedUp removeErr).built = i.built := by
  unfold cleanedUp
  split <;> exact ⟨rfl, rfl, rfl⟩

theorem next_kept (i : Install) (a : Answers) : (i.next v a).spec = i.spec ∧ (i.next v a).opts = i.opts ∧
    (i.built = true ∨ (i.pc = .build ∧ a.build.isOk) → (i.next v a).built = true) := by
  by_cases hp : i.pc ∈ program
  · have hgoes := next_goes v a hp
    generalize i.next v a = i' at hgoes ⊢
    cases hgoes with
    | fails hv e =>
      refine ⟨rfl, rfl, ?_⟩
      rintro (hb | ⟨hb, hok⟩)
      · exact hb
      · simp [verdict, hb, hok] at hv
    | waits hv last =>
      refine ⟨rfl, rfl, ?_⟩
      rintro (hb | ⟨hb, hok⟩)
      · exact hb
      · simp [verdict, hb, hok] at hv
    | done hv h =>
      refine ⟨h.spec, h.opts, fun hb => ?_⟩
      rw [h.built]
      rcases hb with hb | ⟨hb, -⟩ <;> simp [hb]
  · have hb : i.pc ≠ .build := by
      intro hb
      simp [hb, program] at hp
    suffices h : (i.next v a).spec = i.spec ∧ (i.next v a).opts = i.opts ∧ (i.next v a).built = i.built from
      ⟨h.1, h.2.1, fun h' => h.2.2.trans (h'.resolve_right fun h'' => hb h''.1)⟩
    cases hpc : i.pc with
    | report p => simp only [next, hpc, and_self]
    | returned | ejectMedia => simp only [next, hpc, and_self]
    | clearBootOverride =>
      simp only [next, hpc]
      split
      · exact ⟨rfl, rfl, rfl⟩
      · exact cleanedUp_kept _ _
    | removeImage =>
      simp only [next, hpc]
      exact cleanedUp_kept _ _
    | _ => simp [hpc, program] at hp

variable (v s o)

structure Trail (i : Install) (t : List Moment) : Prop where
  spec : i.spec = s
  opts : i.opts = o
  stand : Stand v s o i t
  ordered : Each (InOrder v s o) t
  built : (∃ m ∈ t, m.pc = .build ∧ m.answers.build.isOk) → i.built = true

variable {v s o}

theorem trail_start (s : Spec) (o : Options) : Trail v (start s o).spec o (start s o) [] where
  spec := rfl
  opts := rfl
  stand := .before ⟨rfl, rfl, rfl, fun _ hp => Pc.report.inj hp, rfl, by simp, rfl, rfl, by simp [Untidied]⟩
  ordered := each_nil _
  built := by simp

theorem Stand.done (h : Stand v s o i t) (hp : i.pc ∈ program) :
    ∀ pc ∈ program.takeWhile (· ≠ i.pc), Done v s o t pc := by
  cases h with
  | before h =>
    rw [(progress_call h.progress hp).1]
    exact h.done
  | fails hp' | ejects hp' | clears hp' | removes hp' | failsAgain hp' | returned hp' => simp [hp', program] at hp

/-- Every step keeps the trail. -/
theorem Trail.step (h : Trail v s o i t) (a : Answers) :
    Trail v s o (i.step v a).1 (t ++ (i.step v a).2) := by
  have hstand := h.stand.step h.spec h.opts a
  have hordered : Each (InOrder v s o) (t ++ [⟨i.pc, a⟩]) := h.ordered.snoc h.stand.done
  have hbuilt : (∃ m ∈ t ++ [⟨i.pc, a⟩], m.pc = .build ∧ m.answers.build.isOk) →
      i.built = true ∨ (i.pc = .build ∧ a.build.isOk) := by
    rintro ⟨m, hm, hb⟩
    rcases List.mem_append.mp hm with hm | hm
    · exact .inl (h.built ⟨m, hm, hb⟩)
    · obtain rfl := List.mem_singleton.mp hm
      exact .inr hb
  cases hp : i.pc with
  | report p =>
    obtain ⟨hs, ho, -, -, -, hb⟩ := reported_kept i
    rw [step_report hp] at hstand ⊢
    exact ⟨hs.trans h.spec, ho.trans h.opts, hstand, hordered, fun hm => hb.trans ((hbuilt hm).resolve_right (by simp [hp]))⟩
  | returned =>
    have hi : i.step v a = (i, []) := by simp only [Install.step, hp]
    rw [hi, List.append_nil]
    exact h
  | _ =>
    obtain ⟨hs, ho, hb⟩ := next_kept (v := v) i a
    rw [step_call (by simp [hp]) (by simp [hp])] at hstand ⊢
    exact ⟨hs.trans h.spec, ho.trans h.opts, hstand, hordered, fun hm => hb (hbuilt hm)⟩

theorem checkConfirmedSerial_none {serial confirmed : String} (h : checkConfirmedSerial serial confirmed = none) :
    confirmed ≠ "" ∧ serial = confirmed := by
  unfold checkConfirmedSerial at h
  by_cases h1 : confirmed = ""
  · simp [h1] at h
  by_cases h2 : serial = confirmed
  · exact ⟨h1, h2⟩
  · by_cases h3 : serial = "" <;> simp [h1, h2, h3] at h

theorem Done.accepted (h : Done v s o t .validate) : validateOptions o = none ∧ v s o.nodeAddress = none := by
  obtain ⟨m, -, hp, hv⟩ := h
  simpa [verdict, hp] using hv

/-- A serial that was checked is the one confirmed. -/
theorem Done.confirmed (h : Done v s o t .serial) :
    o.confirmSerial ≠ "" ∧ ∃ m ∈ t, m.pc = .serial ∧ m.answers.serial = .ok o.confirmSerial := by
  obtain ⟨m, hm, hp, hv⟩ := h
  cases hs : m.answers.serial with
  | error e => simp [verdict, hp, hs] at hv
  | ok serial =>
    have hc : checkConfirmedSerial serial o.confirmSerial = none := by simpa [verdict, hp, hs] using hv
    obtain ⟨hne, rfl⟩ := checkConfirmedSerial_none hc
    exact ⟨hne, m, hm, hp, hs⟩

theorem Done.inserted (h : Done v s o t .mediaInserted) :
    ∃ m ∈ t, m.pc = .mediaInserted ∧ m.answers.mediaInserted = .ok true := by
  obtain ⟨m, hm, hp, hv⟩ := h
  cases ha : m.answers.mediaInserted with
  | error e => simp [verdict, hp, ha] at hv
  | ok inserted =>
    have hi : inserted = true := by simpa [verdict, hp, ha] using hv
    exact ⟨m, hm, hp, hi ▸ ha⟩

theorem Done.bootsOnce (h : Done v s o t .setBootOnce) :
    ∃ m ∈ t, m.pc = .setBootOnce ∧ m.answers.setBootOnce = none := by
  obtain ⟨m, hm, hp, hv⟩ := h
  exact ⟨m, hm, hp, by simpa [verdict, hp] using hv⟩

theorem Done.built (h : Done v s o t .build) : ∃ m ∈ t, m.pc = .build ∧ m.answers.build.isOk := by
  obtain ⟨m, hm, hp, hv⟩ := h
  exact ⟨m, hm, hp, by simpa [verdict, hp] using hv⟩

theorem CleansOnce.done (h : CleansOnce t) (hnone : ∀ m ∈ t, (verdict v s o m).failure = none)
    (hpc : pc ∈ [Pc.ejectMedia, .clearBootOverride, .removeImage]) : Done v s o t pc := by
  obtain ⟨t₀, eject, clear, after, rfl, -, -, hcount⟩ := h
  have hof : ∀ m ∈ t₀ ++ ⟨.ejectMedia, eject⟩ :: ⟨.clearBootOverride, clear⟩ :: after, m.pc = pc →
      Done v s o (t₀ ++ ⟨.ejectMedia, eject⟩ :: ⟨.clearBootOverride, clear⟩ :: after) pc := by
    intro m hm hp
    refine ⟨m, hm, hp, ?_⟩
    have hv := hnone m hm
    simp only [List.mem_cons, List.not_mem_nil, or_false] at hpc
    rcases hpc with rfl | rfl | rfl <;> (simp only [verdict, hp] at hv ⊢; split at hv <;> simp_all [Verdict.failure])
  simp only [List.mem_cons, List.not_mem_nil, or_false] at hpc
  rcases hpc with rfl | rfl | rfl
  · exact hof ⟨.ejectMedia, eject⟩ (by simp) rfl
  · exact hof ⟨.clearBootOverride, clear⟩ (by simp) rfl
  have hej : eject.ejectMedia = none := by
    have hv := hnone ⟨.ejectMedia, eject⟩ (by simp)
    cases he : eject.ejectMedia with
    | none => rfl
    | some e => simp [verdict, he, Verdict.failure] at hv
  rw [if_pos hej] at hcount
  obtain ⟨m, hm, hp⟩ := List.countP_pos_iff.mp (hcount ▸ Nat.one_pos)
  exact hof m (by simp [hm]) (by simpa using hp)

theorem Stand.reported (h : Stand v s o i t) : Reported t 2 := by
  cases h with
  | before h => exact ⟨_, 0, by decide, by simpa using h.told⟩
  | fails _ _ _ hreports => exact hreports.mono (by decide)
  | ejects _ _ hreports => exact hreports.mono (by decide)
  | clears _ _ _ _ hreports => exact hreports.mono (by decide)
  | removes _ _ _ _ _ _ hreports => exact hreports.mono (by decide)
  | failsAgain _ _ _ hreports => exact hreports.mono (by decide)
  | returned _ _ hreports => exact hreports

/-- What returns has its outcome, and cleaned up once. -/
theorem Stand.returns (h : Stand v s o i t) (hp : i.pc = .returned) :
    Outcome v s o i t ∧ (i.built = true → CleansOnce t) := by
  cases h with
  | before h =>
    have hprogress := h.progress
    rw [hp] at hprogress
    cases hprogress
  | returned _ hout _ hclean => exact ⟨hout, hclean⟩
  | fails hp' | ejects hp' | clears hp' | removes hp' | failsAgain hp' => simp [hp] at hp'

theorem Trail.safe (h : Trail v s o i t) : TraceSafe v s o i t where
  touches j m hm hp := by
    have hdone : InOrder v s o (t.take j) m := h.ordered j m hm
    have hmem : m.pc ∈ program ∧ .validate ∈ program.takeWhile (· ≠ m.pc) ∧ .serial ∈ program.takeWhile (· ≠ m.pc) := by
      simp only [List.mem_cons, List.not_mem_nil, or_false] at hp
      rcases hp with hp | hp | hp <;> rw [hp] <;> decide
    obtain ⟨ho, hs⟩ := (hdone hmem.1 _ hmem.2.1).accepted
    exact ⟨ho, hs, (hdone hmem.1 _ hmem.2.2).confirmed⟩
  resets j m hm hp := by
    have hdone : InOrder v s o (t.take j) m := h.ordered j m hm
    rw [InOrder, hp] at hdone
    exact ⟨(hdone (by decide) .mediaInserted (by decide)).inserted, (hdone (by decide) .setBootOnce (by decide)).bootsOnce⟩
  cleans hp hb := (h.stand.returns hp).2 (h.built hb)
  told := h.stand.reported
  succeeds hp := by
    have hnone : firstFailure v s o t = none ↔ ∀ m ∈ t, (verdict v s o m).failure = none := List.findSome?_eq_none_iff
    rw [← hnone]
    cases (h.stand.returns hp).1 with
    | ready herr hphase hfailed hfirst hdone =>
      have hclean := (h.stand.returns hp).2 (h.built (hdone .build (by decide)).built)
      refine ⟨by simp [herr, hphase], by simp [hphase, hfirst], fun _ => ?_⟩
      exact List.forall_mem_append.mpr ⟨hdone, fun pc hpc => hclean.done (hnone.mp hfirst) hpc⟩
    | failed herr hphase hfailed hfirst => simp [herr, hphase, hfirst]
  fails hp he := by
    cases (h.stand.returns hp).1 with
    | ready herr => exact absurd herr he
    | failed _ hphase hfailed hfirst => exact ⟨hphase, _, hfailed, hfirst⟩

/-- An installation is safe at every moment, whatever is asked of it and whatever the collaborators answer. -/
theorem install_trace_safe (v : Spec → String → Option String) (s : Spec) (o : Options) (answers : List Answers) :
    TraceSafe v { s with bootMode := o.bootMode } o (run (Install.step v) (Install.start s o) answers).1
      (run (step v) (start s o) answers).2 := by
  have htrail : Trail v (start s o).spec o (run (step v) (start s o) answers).1
      (run (step v) (start s o) answers).2 :=
    run_induct (I := Trail v (start s o).spec o) (trail_start s o) (fun _ _ a h _ => h.step a) answers (meets_true _ _)
  exact htrail.safe

/-! ## An installation returns -/

/-- An attempt of a wait whose context is not over. -/
def Moment.attempts (m : Moment) : Bool := m.pc ∈ [.waitForOurSystem, .nodeReady] && m.answers.context.isNone

/-- The steps that are left at most, besides attempts. -/
def Install.left (i : Install) : Nat :=
  match i.pc, i.pc.progress with
  | _, some (n, r) => 23 - (n + r)
  | .report _, _ => if i.cleaned then 1 else 5
  | .ejectMedia, _ => 4
  | .clearBootOverride, _ => 3
  | .removeImage, _ => 2
  | _, _ => 0

theorem left_of_progress (h : i.pc.progress = some (n, r)) : i.left = 23 - (n + r) := by
  simp only [left, h]

theorem left_cleanedUp (i : Install) (e : Option String) : (i.cleanedUp e).left ≤ 1 := by
  unfold cleanedUp
  split <;> simp [left, enter, Pc.progress]

theorem left_next (a : Answers) (hp : i.pc ∈ program) :
    (i.next v a).left < i.left + [(⟨i.pc, a⟩ : Moment)].countP Moment.attempts := by
  obtain ⟨n, r, hprogress, hle⟩ : ∃ n r, i.pc.progress = some (n, r) ∧ n + r ≤ 17 := by
    simp only [program, List.mem_cons, List.not_mem_nil, or_false] at hp
    rcases hp with h | h | h | h | h | h | h | h | h | h | h | h <;> exact ⟨_, _, by rw [h]; rfl, by decide⟩
  have hleft := left_of_progress hprogress
  have hgoes := next_goes v a hp
  generalize i.next v a = i' at hgoes ⊢
  cases hgoes with
  | @fails p h e =>
    -- the report of a failure and the cleanup are five steps at most
    have hfail : (i.fail p e).left ≤ 5 := by cases hc : i.cleaned <;> simp [left, fail, enter, Pc.progress, hc]
    omega
  | waits h last =>
    have hwait : (⟨i.pc, a⟩ : Moment).attempts = true := by
      unfold verdict at h
      unfold Moment.attempts
      grind
    simp [hwait, left]
  | done h hi =>
    have hnext := left_of_progress (hi.pc ▸ (progress_call hprogress hp).2.2)
    omega

/-- No answers are left exactly where it returned. -/
theorem left_eq_zero : i.left = 0 ↔ i.pc = .returned := by
  cases hpc : i.pc with
  | report p => cases p <;> cases hc : i.cleaned <;> simp [left, hpc, hc, Pc.progress]
  | _ => simp [left, hpc, Pc.progress]

theorem left_step (i : Install) (a : Answers) (h : i.left ≠ 0) :
    (i.step v a).1.left < i.left + (i.step v a).2.countP Moment.attempts := by
  cases hpc : i.pc with
  | returned => exact absurd (left_eq_zero.mpr hpc) h
  | report p =>
    refine Nat.lt_add_right _ ?_
    cases p with
    | failed => cases hb : i.built <;> cases hc : i.cleaned <;> simp [Install.step, hpc, reported, left, Pc.progress, hb, hc]
    | _ => simp [Install.step, hpc, reported, left, Pc.progress, enter]
  | ejectMedia => exact Nat.lt_add_right _ (by simp [Install.step, hpc, next, left, Pc.progress])
  | clearBootOverride =>
    have hclean := left_cleanedUp { i with clearErr := a.clearBootOverride } none
    refine Nat.lt_add_right _ ?_
    simp only [Install.step, hpc, next]
    split <;> simp_all [left, Pc.progress]
    omega
  | removeImage =>
    have hclean := left_cleanedUp i a.removeImage
    have hleft : i.left = 2 := by simp [left, hpc, Pc.progress]
    simp only [Install.step, hpc, next]
    omega
  | _ => simpa only [Install.step, hpc] using left_next (i := i) a (by simp [hpc, program])

variable (v s o)

/-- Whatever is answered, an installation has returned unless it was given less than 23 answers besides those of attempts. -/
theorem install_returns (answers : List Answers) :
    (run (Install.step v) (Install.start s o) answers).1.pc = .returned ∨
      answers.length < 23 + (run (Install.step v) (Install.start s o) answers).2.countP Moment.attempts := by
  refine or_iff_not_imp_left.mpr fun h => ?_
  have hlen := run_ranked (fun i a hz => by simp [Install.step, left_eq_zero.mp hz, hz]) left_step (Install.start s o) answers
    (mt left_eq_zero.mp h)
  exact Nat.lt_of_lt_of_le (Nat.lt_add_of_pos_left (Nat.pos_of_ne_zero (mt left_eq_zero.mp h))) hlen

end FrameOperator.Provision
