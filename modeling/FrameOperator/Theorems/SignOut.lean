import FrameOperator.Console.Auth

/-!
# What signing out leaves behind

A call for a session that is under way when a sign-out completes is not told of it: its answer puts the session and the token back.
-/

namespace FrameOperator.Console

variable {t : Tab} {log : List Told}

/-- The calls made since the last sign-out, as long as none of them was granted a session. -/
def signedOut (log : List Told) : Option (List Nat) :=
  log.foldl (fun o e => match e with
    | .loggedOut => some []
    | .started id => o.map (id :: ·)
    | .resolved id _ => o.filter (id ∉ ·)
    | .returned _ => o) none

/-- While signed out, a session is granted only to a call made since. -/
def GrantedSince (past : List Told) : Told → Prop
  | .resolved id _ => ∀ ids ∈ signedOut past, id ∈ ids
  | _ => True

/-- As long as no other call is granted a session, there is none while signed out. -/
def Final (t : Tab) (log : List Told) : Prop :=
  Each GrantedSince log → (signedOut log).isSome → t.session = none ∧ t.published = none

/-- A sign-out stays final in every step. -/
theorem Final.step (h : Final t log) (i : Act) : Final (t.step i).1 (log ++ (t.step i).2) := by
  fun_cases Tab.step t i
  case case1 | case3 | case4 => exact fun he hout => h he.of_snoc.1 (by simpa [Tab.start, signedOut] using hout)
  case case2 => exact fun he hout => h he.of_snoc.1 (by simpa [signedOut] using hout)
  case case6 | case9 => exact fun _ _ => ⟨rfl, rfl⟩
  case case12 id _ token _ hid =>
    -- the call was made since the sign-out, and ends it
    intro he hout
    obtain ⟨ids, hids⟩ := Option.isSome_iff_exists.mp hout
    obtain ⟨hids, hnew⟩ : signedOut log = some ids ∧ id ∉ ids := by simpa [signedOut, Option.filter_eq_some_iff] using hids
    exact absurd (he.of_snoc.2 ids hids) hnew
  all_goals simpa [Final, Tab.wait] using h

def granted (id : Nat) : List Act := [.answered id (some ⟨200, false⟩), .parsed id (some ("eyJ", 600)) 0]

instance (past : List Told) (e : Told) : Decidable (GrantedSince past e) := by
  cases e <;> unfold GrantedSince <;> infer_instance

/-- A session asked for again before the sign-out, and refused after it. -/
def refusedLate : List Act :=
  .currentSession :: granted 0 ++ [.currentSession, .logout, .answered 2 none, .answered 1 (some ⟨401, false⟩)]

/-- A session asked for before the sign-out, and granted after it. -/
def grantedLate : List Act := [.currentSession, .logout, .answered 1 (some ⟨204, false⟩)] ++ granted 0

/-- The token last granted, unless a sign-out has completed since. -/
def lastGranted (log : List Told) : Option String :=
  log.foldl (fun o e => match e with
    | .resolved _ token => some token
    | .loggedOut => none
    | .started _ | .returned _ => o) none

def ReturnsGranted (past : List Told) : Told → Prop
  | .returned token => lastGranted past = some token
  | _ => True

/-- Tokens published or returned were granted. -/
structure Honest (t : Tab) (log : List Told) : Prop where
  published : t.published = t.session.map Session.token
  granted : ∀ s ∈ t.session, lastGranted log = some s.token
  returns : Each ReturnsGranted log

theorem Honest.step (h : Honest t log) (i : Act) : Honest (t.step i).1 (log ++ (t.step i).2) := by
  fun_cases Tab.step t i
  case case2 now token hcached =>
    obtain ⟨s, hs, rfl⟩ := Option.map_eq_some_iff.mp hcached
    have hlast := h.granted s (Option.filter_eq_some_iff.mp hs).1
    exact ⟨h.published, by simpa [lastGranted] using h.granted, h.returns.snoc hlast⟩
  case case6 => exact ⟨rfl, nofun, by simpa using h.returns⟩
  case case9 => exact ⟨rfl, nofun, h.returns.snoc trivial⟩
  case case12 => exact ⟨rfl, by rintro _ ⟨⟩; simp [lastGranted], h.returns.snoc trivial⟩
  case case1 | case3 | case4 =>
    exact ⟨h.published, by simpa [lastGranted, Tab.start, Tab.wait] using h.granted, h.returns.snoc trivial⟩
  all_goals exact ⟨h.published, by simpa [Tab.wait] using h.granted, by simpa using h.returns⟩

/-- The token published is that of the session, and what is returned without a fetch was granted last. -/
theorem token_last_granted (is : List Act) :
    (run Tab.step {} is).1.published = (run Tab.step {} is).1.session.map Session.token ∧
      Each ReturnsGranted (run Tab.step {} is).2 := by
  have h := run_induct (s := ({} : Tab)) (I := Honest) ⟨rfl, nofun, each_nil _⟩ (fun _ _ i h _ => h.step i) is (meets_true _ _)
  exact ⟨h.published, h.returns⟩

end FrameOperator.Console
