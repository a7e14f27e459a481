import FrameOperator.Console.Watch

/-!
# Changes that the console's watch misses, and watches it never gives up

A stream that ends is followed by a fresh list, and a change between the last event and the list is signalled by nothing. And a list
that succeeds clears the count of failures: a path that can be listed but not watched never falls back to polling.
-/

namespace FrameOperator.Console

open List

variable {w : Watched} {log : List Event}

/-! ## The changes that are signalled -/

/-- The changes that no signal has followed. -/
def unsignalled (log : List Event) : List Nat :=
  log.foldl (fun cs e => match e with
    | .committed c => cs ++ [c]
    | .signals => []
    | _ => cs) []

def firstWatch (log : List Event) : Option Nat :=
  log.findSome? fun
    | .watches v => some v
    | _ => none

/-- When a watch is sent, every change since the first list has been signalled. -/
def MissesNone (past : List Event) : Event → Prop
  | .watches v => ∀ first ∈ firstWatch past, ∀ c ∈ unsignalled past, first < c → v < c
  | _ => True

/-- A list is answered only when the last stream has delivered every change. -/
def CaughtUp (w : Watched) : Input → Prop
  | .list _ _ => ∀ k ∈ w.cursor, ∀ c ∈ w.changes, c ≤ k
  | _ => True

structure Kept (w : Watched) (log : List Event) : Prop where
  mem : ∀ c ∈ unsignalled log, c ∈ w.changes
  le : ∀ c ∈ w.changes, c ≤ w.now
  cursor : ∀ k ∈ w.cursor, k ≤ w.now
  unlisted : w.cursor = none → firstWatch log = none
  ahead : ∀ k ∈ w.cursor, ∀ first ∈ firstWatch log, ∀ c ∈ unsignalled log, first < c → k < c
  each : Each MissesNone log

/-- A signal follows every change so far. -/
theorem Kept.signals (h : Kept w log) (l : Loop) {k : Option Nat} (hk : ∀ c ∈ k, c ≤ w.now) (hnone : k = none → w.cursor = none) :
    Kept { w with loop := l, cursor := k } (log ++ [.signals]) := by
  have hnil : unsignalled (log ++ [.signals]) = [] := by simp [unsignalled]
  exact ⟨by simp [hnil], h.le, hk, fun hn => by simpa [firstWatch, findSome?_append] using h.unlisted (hnone hn), by simp [hnil],
    h.each.snoc trivial⟩

theorem fetched_ok {α : Type} {status : Option Nat} {body : Option α} {a : α} (h : fetched status body = .ok a) : body = some a := by
  revert h
  fun_cases fetched status body <;> simp

/-- A list that finds the stream at its end misses none. -/
theorem Kept.watches (h : Kept w log) (hi : ∀ k ∈ w.cursor, ∀ c ∈ w.changes, c ≤ k) (l : Loop) :
    Kept { w with loop := l, cursor := some w.now } (log ++ [.watches w.now]) := by
  have hnone : ∀ first ∈ firstWatch log, ∀ c ∈ unsignalled log, first < c → w.now < c := by
    intro first hf c hc hlt
    cases hk : w.cursor with
    | none => cases (h.unlisted hk).symm.trans hf
    | some k => exact absurd (h.ahead k hk first hf c hc hlt) (Nat.not_lt.mpr (hi k hk c (h.mem c hc)))
  have hsame : unsignalled (log ++ [.watches w.now]) = unsignalled log := by simp [unsignalled]
  refine ⟨hsame ▸ h.mem, h.le, by simp, nofun, ?_, h.each.snoc hnone⟩
  rw [hsame]
  rintro _ ⟨⟩ first hf c hc hlt
  rw [firstWatch, findSome?_append, Option.mem_def, Option.or_eq_some_iff] at hf
  rcases hf with hf | ⟨-, hf⟩
  · exact hnone first hf c hc hlt
  · -- this is the first list, and only changes above it count
    cases hf
    exact hlt

theorem Kept.attempted (h : Kept w log) (a : Attempt) : Kept (w.attempted a).1 (log ++ (w.attempted a).2) := by
  have hsame : unsignalled (log ++ (w.attempted a).2) = unsignalled log := by simp [unsignalled, Watched.attempted]
  have hfirst : firstWatch (log ++ (w.attempted a).2) = firstWatch log := by simp [firstWatch, findSome?_append, Watched.attempted]
  exact ⟨hsame ▸ h.mem, h.le, h.cursor, hfirst ▸ h.unlisted, hsame ▸ hfirst ▸ h.ahead, h.each.snoc trivial⟩

/-- Every step keeps account of what is signalled. -/
theorem Kept.step {i : Input} (h : Kept w log) (hi : CaughtUp w i) : Kept (w.step i).1 (log ++ (w.step i).2) := by
  fun_cases Watched.step w i
  case case1 =>
    have hnew : unsignalled (log ++ [.committed (w.now + 1)]) = unsignalled log ++ [w.now + 1] := by simp [unsignalled]
    have hfirst : firstWatch (log ++ [.committed (w.now + 1)]) = firstWatch log := by simp [firstWatch, findSome?_append]
    refine ⟨?_, ?_, fun k hk => Nat.le_succ_of_le (h.cursor k hk), hfirst ▸ h.unlisted, ?_, h.each.snoc trivial⟩
    · rw [hnew]
      exact fun c hc => mem_append.mpr ((mem_append.mp hc).imp_left (h.mem c))
    · exact forall_mem_append.mpr ⟨fun c hc => Nat.le_succ_of_le (h.le c hc), by simp⟩
    · rw [hnew, hfirst]
      intro k hk first hf
      exact forall_mem_append.mpr ⟨h.ahead k hk first hf, by simpa using fun _ => Nat.lt_succ_of_le (h.cursor k hk)⟩
  case case2 =>
    rw [append_nil]
    exact ⟨h.mem, fun c hc => Nat.le_succ_of_le (h.le c hc), fun k hk => Nat.le_succ_of_le (h.cursor k hk),
      h.unlisted, h.ahead, h.each⟩
  case case5 hwaits status versioned v hv =>
    obtain rfl : w.now = v := by
      have hbody := fetched_ok hv
      split at hbody
      · exact Option.some.inj hbody
      · cases hbody
    exact h.watches hi _
  case case12 hwaits c hc =>
    exact h.signals _ (fun _ hc' => by cases hc'; exact h.le c (mem_filter.mp (min?_mem hc)).1) nofun
  case case16 => exact h.signals _ h.cursor id
  case case4 | case6 | case10 | case13 | case14 => exact h.attempted _
  all_goals
    rw [append_nil]
    exact ⟨h.mem, h.le, h.cursor, h.unlisted, h.ahead, h.each⟩

/-- Where every list finds the stream before it at its end, no change is missed. -/
theorem watch_misses_none (is : List Input) (hm : Meets Watched.step CaughtUp {} is) :
    Each MissesNone (run Watched.step {} is).2 :=
  (run_induct (I := Kept) ⟨by simp [unsignalled], by simp, by simp, fun _ => rfl, by simp,
    each_nil _⟩ (fun _ _ _ h hi => h.step hi) is hm).each

def established : List Input := [.list (some 200) true, .watch (some 200) true]

/-- A change that the stream delivers. -/
theorem watch_misses_none_delivered :
    Each MissesNone (run Watched.step {} (established ++ [.commit, .line .change, .done] ++ established)).2 :=
  watch_misses_none _ (by simp [established, Meets, CaughtUp, Watched.step, Watched.attempted, fetched, Watched.next])

/-- A change between the end of the stream and the list. -/
theorem change_before_list_missed : ¬ Each MissesNone (run Watched.step {} (established ++ [.done, .commit] ++ established)).2 := by
  intro h
  have hmissed := h 3 (.watches 1) rfl 0 rfl 1 (by decide) (by decide)
  exact absurd hmissed (by decide)

/-! ## The attempts that are given up -/

/-- An attempt that could not establish its watch. -/
def Attempt.failed : Attempt → Bool
  | .listFailed _ => true
  | .watchFailed err seen => !seen && !isExpiredResourceVersion err
  | .ended => false

/-- A failed attempt that the loop counts: a list that is expired is not. -/
def Attempt.counted : Attempt → Bool
  | .listFailed err | .watchFailed err _ => !isExpiredResourceVersion err
  | .ended => false

/-- An attempt whose list failed, and not as expired. -/
def Attempt.unlisted : Attempt → Bool
  | .listFailed err => !isExpiredResourceVersion err
  | _ => false

/-- After as many failed attempts as the loop allows, it polls. -/
def FallsBack (before attempts : List Attempt) : Prop :=
  attempts.length = fallbackAfterFailures → (∀ a ∈ attempts, a.failed = true) → (runWatchLoop (before ++ attempts)).waits = .poll

/-- The loop polls, or its count covers the last attempts and is below what it allows. -/
def Counted (l : Loop) (n : Nat) : Prop := l.waits = .poll ∨ n ≤ l.failures ∧ l.failures < fallbackAfterFailures

variable {l : Loop} {n : Nat} {a : Attempt}

theorem counted_caught {err : Thrown} (hlt : l.failures < fallbackAfterFailures)
    (hn : n ≤ if isExpiredResourceVersion err then l.failures else l.failures + 1) : Counted (l.caught err) n := by
  unfold Loop.caught
  split
  · exact .inr ⟨by simpa [*] using hn, hlt⟩
  split
  · exact .inl rfl
  · exact .inr ⟨by simpa [*] using hn, Nat.not_le.mp ‹_›⟩

theorem failures_woken (l : Loop) : l.woken.failures = l.failures := by
  unfold Loop.woken
  split <;> rfl

theorem counted_of_unlisted (h : a.unlisted = true) : a.counted = true := by
  cases a with
  | listFailed err => exact h
  | watchFailed | ended => cases h

/-- What a failed attempt makes of the count, and where it makes the loop poll. -/
theorem failures_iterate (hl : l.waits ≠ .poll) (ha : a.failed = true) :
    (l.iterate a).failures = (if a.unlisted then l.failures + 1 else if a.counted then 1 else l.failures) ∧
      ((l.iterate a).waits = .poll → a.unlisted = true ∧ fallbackAfterFailures ≤ l.failures + 1) := by
  rw [Loop.iterate, if_neg hl]
  cases a with
  | listFailed err =>
    cases h : isExpiredResourceVersion err <;> simp [Loop.attempted, Loop.caught, Attempt.unlisted, Attempt.counted, failures_woken, h]
    split <;> simp_all
  | watchFailed err seen =>
    have herr : isExpiredResourceVersion err = false := by simp_all [Attempt.failed]
    simp [Loop.attempted, Loop.caught, Attempt.unlisted, Attempt.counted, fallbackAfterFailures, herr]
  | ended => cases ha

theorem Counted.iterate (h : Counted l n) (a : Attempt) : Counted (l.iterate a) (if a.counted then 1 else 0) := by
  unfold Loop.iterate
  split
  · exact .inl ‹_›
  obtain ⟨-, hlt⟩ := h.resolve_left ‹_›
  cases a with
  | listFailed err =>
    exact counted_caught ((failures_woken l).symm ▸ hlt)
      (by cases h : isExpiredResourceVersion err <;> simp [Attempt.counted, h])
  | watchFailed err seen => exact counted_caught (by decide) (by cases h : isExpiredResourceVersion err <;> simp [Attempt.counted, h])
  | ended => exact .inr ⟨Nat.zero_le _, Nat.zero_lt_succ _⟩

/-- An attempt whose list fails counts one more. -/
theorem Counted.unlisted (h : Counted l n) (ha : a.unlisted = true) : Counted (l.iterate a) (n + 1) := by
  unfold Loop.iterate
  split
  · exact .inl ‹_›
  obtain ⟨hle, hlt⟩ := h.resolve_left ‹_›
  cases a with
  | listFailed err =>
    have herr : isExpiredResourceVersion err = false := by simpa [Attempt.unlisted] using ha
    exact counted_caught ((failures_woken l).symm ▸ hlt) (by simpa [herr, failures_woken] using hle)
  | watchFailed err seen | ended => cases ha

theorem Counted.foldl {attempts : List Attempt} (ha : ∀ a ∈ attempts, a.unlisted = true) (h : Counted l n) :
    Counted (attempts.foldl Loop.iterate l) (n + attempts.length) := by
  induction attempts generalizing l n with
  | nil => exact h
  | cons a attempts ih =>
    rw [length_cons, Nat.add_comm attempts.length, ← Nat.add_assoc]
    exact ih (fun b hb => ha b (.tail _ hb)) (h.unlisted (ha a (.head _)))

/-- After failed attempts, whatever came before, the loop polls exactly if the first counts and the rest fail to list. -/
theorem watch_falls_back (attempts : List Attempt) :
    (∀ before, FallsBack before attempts) ↔
      (attempts.length = fallbackAfterFailures → (∀ a ∈ attempts, a.failed = true) →
        (∀ a ∈ attempts.head?, a.counted = true) ∧ ∀ a ∈ attempts.tail, a.unlisted = true) := by
  constructor
  · intro h hlen hf
    have hpoll := h [] hlen hf
    match attempts, hlen with
    | [a, b, c], _ =>
      simp only [mem_cons, not_mem_nil, or_false, forall_eq_or_imp, forall_eq] at hf
      obtain ⟨ha, hb, hc⟩ := hf
      obtain ⟨hfa, hpa⟩ := failures_iterate (l := {}) (by decide) ha
      obtain ⟨hfb, hpb⟩ := failures_iterate (fun h => absurd (hpa h).2 (by decide)) hb
      change _ = (if a.unlisted then 1 else if a.counted then 1 else 0) at hfa
      have hle : (({} : Loop).iterate a).failures ≤ 1 := by grind
      obtain ⟨hlast, hthree⟩ := (failures_iterate (fun h => absurd (hpb h).2 (by unfold fallbackAfterFailures; omega)) hc).2 hpoll
      -- the count before the last is two, which only the failed list of the second attempt makes of one
      simp only [head?_cons, Option.mem_def, Option.some.injEq, forall_eq', tail_cons, mem_cons, not_mem_nil, or_false,
        forall_eq_or_imp, forall_eq, hlast, and_true]
      rw [fallbackAfterFailures] at hthree
      grind [counted_of_unlisted]
  · intro h before hlen hf
    obtain ⟨hfirst, hrest⟩ := h hlen hf
    cases attempts with
    | nil => cases hlen
    | cons a rest =>
      have hbefore : Counted (runWatchLoop before) 0 :=
        foldlRecOn (motive := (Counted · 0)) before _ (.inr ⟨Nat.le_refl _, by decide⟩) fun _ h a _ =>
          (h.iterate a).imp_right (.imp_left fun _ => Nat.zero_le _)
      have hone := hbefore.iterate a
      rw [if_pos (hfirst a rfl)] at hone
      have hafter := hone.foldl hrest
      rw [runWatchLoop, foldl_append]
      exact hafter.resolve_right fun h => by simp only [length_cons, tail_cons] at hlen h; omega

/-- A path that cannot be listed. -/
theorem watch_falls_back_unlistable : FallsBack [] (replicate 3 (.listFailed (.watchError 503))) :=
  (watch_falls_back _).mpr (fun _ _ => by simp [Attempt.unlisted, Attempt.counted, isExpiredResourceVersion]) []

/-- A path that may be listed and not watched. -/
theorem refused_watch_never_given_up : ¬ FallsBack [] (List.replicate 3 (.watchFailed (.watchError 403) false)) := by
  intro h
  exact absurd (h rfl (by decide)) (by decide)

/-! ## The loop by its attempts, and by single answers -/

/-- How the attempts went that are over. -/
def attemptsOf (log : List Event) : List Attempt :=
  log.filterMap fun
    | .attempted a => some a
    | _ => none

/-- Between attempts the loop is as they leave it; one begins only if it does not poll. -/
def ByAttempts (m l : Loop) : Prop :=
  match m.waits with
  | .list => m = l.woken
  | .watch | .stream _ => l.waits ≠ .poll
  | .sleep _ | .poll => m = l
  | .returned => True

theorem byAttempts_self (l : Loop) : ByAttempts l l := by
  unfold ByAttempts Loop.woken
  split <;> simp_all

theorem waits_ne_poll {m : Loop} (h : ByAttempts m l) (hm : m.waits = .list) : l.waits ≠ .poll := by
  intro hl
  obtain rfl : m = l.woken := by simpa [ByAttempts, hm] using h
  simp [Loop.woken, hl] at hm

theorem ByAttempts.attempted (hl : (runWatchLoop (attemptsOf log)).waits ≠ .poll)
    (ha : w.loop.attempted a = (runWatchLoop (attemptsOf log)).woken.attempted a) :
    ByAttempts (w.attempted a).1.loop (runWatchLoop (attemptsOf (log ++ (w.attempted a).2))) := by
  have hloop : runWatchLoop (attemptsOf (log ++ (w.attempted a).2)) = w.loop.attempted a := by
    rw [Watched.attempted, attemptsOf, filterMap_append, runWatchLoop, foldl_append, ha]
    exact if_neg hl
  rw [hloop]
  exact byAttempts_self _

/-- Every step keeps the loop where its attempts have it. -/
theorem ByAttempts.step (h : ByAttempts w.loop (runWatchLoop (attemptsOf log))) (i : Input) :
    ByAttempts (w.step i).1.loop (runWatchLoop (attemptsOf (log ++ (w.step i).2))) := by
  fun_cases Watched.step w i
  case case3 => trivial
  case case4 hwaits _ _ =>
    have hwoken : w.loop = (runWatchLoop (attemptsOf log)).woken := by simpa [ByAttempts, hwaits] using h
    exact ByAttempts.attempted (waits_ne_poll h hwaits) (by rw [← hwoken])
  case case5 hwaits _ _ => simpa [ByAttempts, attemptsOf] using waits_ne_poll h hwaits
  case case6 | case10 | case13 | case14 => exact ByAttempts.attempted (by simpa [ByAttempts, *] using h) rfl
  case case15 hwaits =>
    have hloop : w.loop = runWatchLoop (attemptsOf log) := by simpa [ByAttempts, hwaits] using h
    simp [ByAttempts, Loop.woken, ← hloop, hwaits]
  all_goals simpa [ByAttempts, attemptsOf, *] using h

/-- A loop that is not aborted polls exactly if it does by its attempts. -/
theorem polls_by_attempts (is : List Input) (h : (run Watched.step {} is).1.loop.waits ≠ .returned) :
    (run Watched.step {} is).1.loop.waits = .poll ↔ (runWatchLoop (attemptsOf (run Watched.step {} is).2)).waits = .poll := by
  have hby := run_induct (I := fun (w : Watched) log => ByAttempts w.loop (runWatchLoop (attemptsOf log))) (s := {})
    (byAttempts_self {}) (fun _ _ i h _ => h.step i) is (meets_true _ _)
  have hne := waits_ne_poll hby
  unfold ByAttempts at hby
  split at hby <;> simp_all

end FrameOperator.Console
