import FrameOperator.Theorems.CredentialStore

/-!
# The first key

An invitation is accepted only for an account that has no credential. The enrolment cookie it gives is not checked against that
again: while it lasts, it enrols a second key, and a third.
-/

namespace FrameOperator.Authd

open List Accounts
open V1beta1 (WebAuthnCredential)

variable {τ σ : Type} {S : Server τ σ}

variable {k : Key} {events : List Event} {w : World}

/-- Whether the account's enrolment cookie is still to be used, after an event. -/
def spend (k : Key) (unspent : Bool) : Event → Bool
  | .sealed s subject => if s.purpose = purposeEnrol ∧ subject = some k then true else unspent
  | .enrolled _ k' _ _ => if k' = k then false else unspent
  | _ => unspent

/-- Nothing has been enrolled for the account since an enrolment cookie was last given out for it. -/
def unspent (k : Key) (log : List Event) : Bool := log.foldl (spend k) false

/-- The account that a registration is for, if it carries an enrolment cookie. -/
def Action.enrols (S : Server τ σ) : Action τ → Option Key
  | .request _ (.registerFinish cookie _ _ _ _) items now =>
    match sessionUserFor S (list S.cfg.namespaceName items) now cookie [purposeSession, purposeEnrol] with
    | .ok (via, u) => if via = purposeEnrol then some u.val.key else none
    | .error _ => none
  | _ => none

/-- A registration with an enrolment cookie is the first one since a cookie was given out. -/
def FirstUse (S : Server τ σ) (w : World) (a : Action τ) : Prop := ∀ k ∈ a.enrols S, unspent k w.log = true
deriving Decidable

def Action.presents : Action τ → List τ
  | .request _ r _ _ => r.presents
  | _ => []

/-- Each token that is presented has been given out. -/
def Genuine (w : World) (a : Action Sealing) : Prop := ∀ t ∈ a.presents, t ∈ w.sealings
deriving Decidable

/-! ## The cookie that is still to be used -/

theorem foldl_spend {b : Bool} (h : events.foldl (spend k) b = true) :
    (b = true ∧ ∀ via before cred, .enrolled via k before cred ∉ events) ∨
      ∃ s, s.purpose = purposeEnrol ∧ .sealed s (some k) ∈ events := by
  induction events generalizing b with
  | nil => exact .inl ⟨h, fun via before cred he => nomatch he⟩
  | cons e events ih =>
    rw [foldl_cons] at h
    rcases ih h with ⟨hb, hnone⟩ | ⟨s, hs, hmem⟩
    · cases e with
      | sealed s subject =>
        by_cases he : s.purpose = purposeEnrol ∧ subject = some k
        · exact .inr ⟨s, he.1, by rw [he.2]; exact mem_cons_self⟩
        refine .inl ⟨by simpa only [spend, if_neg he] using hb, fun via before cred hmem => ?_⟩
        rcases mem_cons.mp hmem with heq | hmem
        · cases heq
        · exact hnone via before cred hmem
      | enrolled via k' before cred =>
        by_cases hk : k' = k
        · rw [spend, if_pos hk] at hb
          cases hb
        refine .inl ⟨by simpa only [spend, if_neg hk] using hb, fun via before cred hmem => ?_⟩
        rcases mem_cons.mp hmem with heq | hmem
        · cases heq
          exact hk rfl
        · exact hnone via before cred hmem
      | minted held token | created route held key | counted key credID count | removed key credID | wrote key left =>
        refine .inl ⟨hb, fun via before cred hmem => ?_⟩
        rcases mem_cons.mp hmem with heq | hmem
        · cases heq
        · exact hnone via before cred hmem
    · exact .inr ⟨s, hs, mem_cons_of_mem _ hmem⟩

variable {a : Action τ}

/-- What is unspent after a step was before, or its account is bare. -/
theorem Serves.unspent {w' : World} (h : Serves S w a w') (hk : unspent k w'.log = true) (hlog : w'.log = w.log ++ events) :
    (unspent k w.log = true ∧ ∀ via before cred, .enrolled via k before cred ∉ events) ∨
      ∃ u, w.users.value? k = some u ∧ u.credentials = [] ∧ w'.users = w.users := by
  rw [hlog, Authd.unspent, foldl_append] at hk
  rcases foldl_spend hk with hold | ⟨s, hs, hmem⟩
  · exact .inl hold
  cases h.happens hlog _ hmem with
  | seals he hgrant =>
    cases he
    obtain ⟨husers, u, hlive, hsubject, hnone⟩ := hgrant hs
    cases hsubject
    exact .inr ⟨u.val, hlive.value?, hnone, husers⟩
  | mints he | creates he => cases he
  | @writes held op base obj he => cases op <;> cases he
  | wrote he => cases he

/-! ## A run -/

structure FirstKeys (S : Server τ σ) (w : World) : Prop where
  sound : Sound S w
  /-- An account whose cookie is still to be used has no credential. -/
  bare : ∀ k u, unspent k w.log = true → w.users.value? k = some u → u.credentials = []
  /-- A request about to enrol on an enrolment cookie has read no credential. -/
  reading : ∀ held cred base obj, ⟨held, .write (.enrol purposeEnrol cred) base obj⟩ ∈ w.pending → base.val.credentials = []
  first : ∀ k before cred, .enrolled purposeEnrol k before cred ∈ w.log → before = []

theorem Fate.bare {u' : FrameUser} (h : Fate w events k u')
    (hbare : ∀ u, w.users.value? k = some u → u.credentials = []) (hnone : ∀ via before cred, .enrolled via k before cred ∉ events) :
    u'.credentials = [] := by
  cases h with
  | kept hu hsame => rw [hsame, hbare _ hu]
  | fresh hfree hnil => exact hnil
  | @written held op base hticket hbase hcomputes hevent =>
    have hnil := hbare base.val (Versioned.value?_of_get? hbase)
    cases op with
    | enrol via cred => exact absurd hevent (hnone via _ cred)
    | count cred =>
      obtain ⟨-, rfl⟩ := recordLoginCounter_ok hcomputes
      simp only [hnil, setSignCount]
    | remove credID =>
      obtain ⟨hkept, rfl⟩ := removeCredential_ok hcomputes
      rw [hnil] at hkept
      exact absurd rfl hkept

variable {cred : WebAuthnCredential}

theorem FirstUse.reading (hok : FirstUse S w a) {held : List Sealing} {base : Account}
    {obj : FrameUser} (hb : Begun S w a ⟨held, .write (.enrol purposeEnrol cred) base obj⟩) :
    unspent base.val.key w.log = true ∧ w.users.value? base.val.key = some base.val := by
  cases hb with
  | asking htask => rcases htask with ⟨email, heq⟩ | ⟨email, credID, heq⟩ <;> cases heq
  | enrolling hlive huser hcred hobj =>
    exact ⟨hok base.val.key (by simp only [Action.enrols, huser, if_true, Option.mem_def]), hlive.value?⟩

theorem Serves.enrolled {w' : World} (h : Serves S w a w') (hs : Sound S w) (hlog : w'.log = w.log ++ events)
    {via : Purpose} {before : List WebAuthnCredential} (hmem : .enrolled via k before cred ∈ events) :
    ∃ held base obj, ⟨held, .write (.enrol via cred) base obj⟩ ∈ w.pending ∧ before = base.val.credentials := by
  cases h.happens hlog _ hmem with
  | @writes held op base obj he hticket hcurrent =>
    obtain ⟨hpast, -⟩ := hs _ hticket
    rw [Versioned.value?_of_get? (Versioned.get?_of_current hpast hcurrent), Option.map_some, Option.getD_some] at he
    cases op with
    | enrol via' cred' =>
      cases he
      exact ⟨held, base, obj, hticket, rfl⟩
    | count | remove => cases he
  | seals he | mints he | creates he | wrote he => cases he

/-- Every step of first uses keeps first keys first. -/
theorem FirstKeys.step (h : FirstKeys S w) (a : Action τ) (hok : FirstUse S w a) : FirstKeys S (w.serve S a).1 := by
  have hserves := serve_serves S w a
  obtain ⟨events, hlog, hfate⟩ := hserves.fate h.sound
  refine ⟨h.sound.serves hserves, fun k u hk hu => ?_, fun held cred base obj ht => ?_, fun k before cred hmem => ?_⟩
  · rcases hserves.unspent hk hlog with ⟨hold, hnone⟩ | ⟨u₀, hu₀, hnil, husers⟩
    · exact (hfate k u hu).bare (fun u₀ hu₀ => h.bare k u₀ hold hu₀) hnone
    · rw [husers, hu₀] at hu
      cases hu
      exact hnil
  · rcases hserves.pending ht with ht | hb
    · exact h.reading held cred base obj ht
    · obtain ⟨hunspent, hval⟩ := hok.reading hb
      exact h.bare _ _ hunspent hval
  · rw [hlog] at hmem
    rcases mem_append.mp hmem with hmem | hmem
    · exact h.first k before cred hmem
    · obtain ⟨held, base, obj, ht, rfl⟩ := hserves.enrolled h.sound hlog hmem
      exact h.reading held cred base obj ht

/-- Where no cookie outlives an enrolment for its account, it enrols a key only for an account without one. -/
theorem enrols_first_key (S : Server τ σ) (w : World) (hidle : w.pending = []) (hlog : w.log = []) (actions : List (Action τ))
    (hok : Meets (World.serve S) (FirstUse S) w actions) (k : Key) (before : List WebAuthnCredential) (cred : WebAuthnCredential)
    (henrolled : .enrolled purposeEnrol k before cred ∈ (run (World.serve S) w actions).1.log) : before = [] := by
  have h0 : FirstKeys S w := by
    refine ⟨sound_of_idle hidle, fun k u hk _ => ?_, fun held cred base obj ht => ?_, fun k before cred hmem => ?_⟩
    · rw [hlog] at hk
      cases hk
    · rw [hidle] at ht
      cases ht
    · rw [hlog] at hmem
      cases hmem
  have h : FirstKeys S (run (World.serve S) w actions).1 :=
    run_induct (I := fun w (_ : List Reply) => FirstKeys S w) h0 (fun w _ a h hok => h.step a hok) actions hok
  exact h.first k before cred henrolled

namespace Fixture

def newcomer : World :=
  world [account "alice" "alice@example.com" "admin" 1, { account "bob" "bob@example.com" "viewer" 2 with credentials := [] }]

def invited : List (World → Action Sealing) :=
  [ask [] (.loginBegin 0), login 7 1, goOn,
    ask [session "alice@example.com"] (.inviteLink (some (session "alice@example.com")) (some "bob@example.com")), goOn,
    ask [invitation "bob@example.com"] (.inviteAccept (some (invitation "bob@example.com"))),
    ask [enrolment "bob@example.com"] (.registerBegin (some (enrolment "bob@example.com")) 0)]

def onCookie (id : UInt8) : List (World → Action Sealing) := [enrol (enrolment "bob@example.com") id, goOn]

def heldBefore (w : World) : List Nat :=
  w.log.filterMap fun
    | .enrolled via _ before _ => if via = purposeEnrol then some before.length else none
    | _ => none

end Fixture

set_option maxRecDepth 8000

open Fixture in
/-- The cookie that enrolled the first key enrols a second one. -/
theorem second_key_on_cookie :
    let actions := play server newcomer (invited ++ onCookie 2 ++ onCookie 3)
    Meets (World.serve server) Genuine newcomer actions ∧
      heldBefore (run (World.serve server) newcomer actions).1 = [0, 1] := by
  refine ⟨?_, ?_⟩ <;> decide +kernel

open Fixture in
/-- An invitation that is used once. -/
theorem enrols_first_key_once :
    let actions := play server newcomer (invited ++ onCookie 2)
    heldBefore (run (World.serve server) newcomer actions).1 = [0] ∧
      ∀ k before cred, .enrolled purposeEnrol k before cred ∈ (run (World.serve server) newcomer actions).1.log →
        before = [] :=
  ⟨by decide +kernel, fun k before cred h =>
    enrols_first_key server newcomer rfl rfl _ (by decide +kernel) k before cred h⟩

end FrameOperator.Authd
