import FrameOperator.Lemmas.AuthdSteps

/-!
# Requests in progress, and what becomes of an account

A request that waits to write a status has read a version of the account that the table once held (`Sound`). So a write that is let
through is computed from the account as it is (`Serves.fate`).
-/

namespace FrameOperator.Authd

open Accounts
open V1beta1 (WebAuthnCredential)
open List Versioned

variable {τ σ : Type} {S : Server τ σ}

variable {w w' : World} {d : Directory} {obj u : FrameUser} {events : List Event}

def StatusWrite.Checked (S : Server τ σ) (base : FrameUser) : StatusWrite → Prop
  | enrol _ cred => ∃ rawID, cred.id = encodeID rawID
  | count cred => ∃ session body, S.auth.web.validateLogin (webauthnUser base) session body = .ok cred
  | remove _ => True

def Task.Sound (S : Server τ σ) (d : Directory) : Task → Prop
  | write op base obj =>
    base ∈ d.past ∧ base.val.key.namespaceName = S.cfg.namespaceName ∧ op.Computes base.val obj ∧ op.Checked S base.val
  | review route user | create route user =>
    user.credentials = [] ∧ user.key.namespaceName = S.cfg.namespaceName ∧ (route = .bootstrap → user.enabledAdmin = true)
  | _ => True

def Sound (S : Server τ σ) (w : World) : Prop := ∀ t ∈ w.pending, t.task.Sound S w.users

theorem sound_of_idle (h : w.pending = []) : Sound S w := by
  intro t ht
  rw [h] at ht
  cases ht

theorem Task.Sound.mono {d' : Directory} {task : Task} (h : task.Sound S d) (hpast : ∀ u ∈ d.past, u ∈ d'.past) :
    task.Sound S d' := by
  cases task with
  | write op base obj => exact ⟨hpast base h.1, h.2⟩
  | review | create => exact h
  | inviteExists | linkAccount | revokeSubject => trivial

variable {a : Action τ}

/-- A request that goes on to wait is sound. -/
theorem Begun.sound {t : Ticket} (h : Begun S w a t) (hs : Sound S w) : t.task.Sound S w.users := by
  cases h with
  | bootstrapping hadmin hnone hns => exact ⟨hnone, hns, fun _ => hadmin⟩
  | inviting hcaller email role => trivial
  | asking htask => rcases htask with ⟨email, rfl⟩ | ⟨email, credID, rfl⟩ <;> trivial
  | enrolling hlive huser hcred hobj =>
    obtain ⟨rawID, -, hid⟩ := finishRegistration_ok hcred
    exact ⟨hlive.past, hlive.2, hobj, rawID, hid⟩
  | counting hlive hlogin hobj =>
    obtain ⟨session, -, -, hvalidate⟩ := finishLogin_ok hlogin
    exact ⟨hlive.past, hlive.2, hobj, session, _, hvalidate⟩
  | revoking hlive hobj => exact ⟨hlive.past, hlive.2, hobj, trivial⟩
  | reviewing hi hnone hns => exact ⟨hnone, hns, nofun⟩
  | creating hi hfits hok =>
    have hreview := hs _ (mem_of_getElem? hi)
    exact hreview

variable {req : Option AdmissionRequest}

theorem Wrote.past {U : Unicode} {d' : Directory} {wr : Write} (h : Wrote U d req wr d') :
    ∀ u ∈ d.past, u ∈ d'.past := by
  intro u hu
  cases h with
  | refused => exact hu
  | created hfree hok => exact mem_past_create _ hu
  | updated hold hok => exact mem_past_modify _ _ _ hu
  | deleted hold hok => exact hu

/-- What waits after a step waited, or began in it. -/
theorem Serves.pending (h : Serves S w a w') {t : Ticket} (ht : t ∈ w'.pending) :
    t ∈ w.pending ∨ Begun S w a t := by
  cases h with
  | quiet hrest hevents => exact .inl (hrest.subset ht)
  | begins hrest hb =>
    rcases mem_append.mp ht with ht | ht
    · exact .inl (hrest.subset ht)
    · rw [mem_singleton.mp ht]
      exact .inr hb
  | mints hrest ha hlive huser hmint => exact .inl (hrest.subset ht)
  | creates hpending hfree hevents
  | writes hpending hcurrent hevents => exact .inl (hpending.mem_iff.mpr (mem_cons_of_mem _ ht))
  | outside hwrote => exact .inl ht

/-- A step forgets no version of an account. -/
theorem Serves.past (h : Serves S w a w') : ∀ u ∈ w.users.past, u ∈ w'.users.past := by
  cases h with
  | quiet | begins | mints => exact fun u hu => hu
  | creates hpending hfree hevents => exact fun u hu => mem_past_create _ hu
  | writes hpending hcurrent hevents => exact fun u hu => mem_past_modify _ _ _ hu
  | outside hwrote => exact Wrote.past hwrote

/-- Every step keeps what is waiting sound. -/
theorem Sound.serves (hs : Sound S w) (h : Serves S w a w') : Sound S w' := by
  intro t ht
  rcases h.pending ht with ht | hb
  · exact (hs t ht).mono h.past
  · exact (hb.sound hs).mono h.past

/-! ## What a status write computes -/

theorem addCredential_ok {cred : WebAuthnCredential} (h : addCredential u cred = .ok obj) :
    (∀ c ∈ u.credentials, c.id ≠ cred.id) ∧ obj = { u with credentials := u.credentials ++ [cred] } := by
  unfold addCredential at h
  split at h
  · cases h
  rename_i hany
  cases h
  refine ⟨fun c hc hid => hany (any_eq_true.mpr ⟨c, hc, decide_eq_true hid⟩), rfl⟩

theorem recordLoginCounter_ok {cred : Credential} (h : recordLoginCounter u cred = .ok obj) :
    cred.cloneWarning = false ∧ obj = { u with credentials := setSignCount (encodeID cred.id) cred.signCount u.credentials } := by
  unfold recordLoginCounter updateSignCount at h
  split at h
  · cases h
  rename_i hclone
  split at h
  · cases h
  rename_i hcount
  cases h
  split at hcount
  · cases hcount
    exact ⟨by simpa using hclone, rfl⟩
  · cases hcount

theorem removeCredential_ok {credID : String} (h : removeCredential u credID = .ok obj) :
    u.credentials.filter (·.id ≠ credID) ≠ [] ∧ obj = { u with credentials := u.credentials.filter (·.id ≠ credID) } := by
  unfold removeCredential at h
  extract_lets kept at h
  split at h
  · cases h
  split at h
  · cases h
  rename_i hkept
  cases h
  exact ⟨hkept, rfl⟩

theorem StatusWrite.Computes.eq {op : StatusWrite} (h : op.Computes u obj) :
    obj = { u with credentials := obj.credentials } := by
  cases op with
  | enrol via cred => obtain ⟨-, rfl⟩ := addCredential_ok h; rfl
  | count cred => obtain ⟨-, rfl⟩ := recordLoginCounter_ok h; rfl
  | remove credID => obtain ⟨-, rfl⟩ := removeCredential_ok h; rfl

/-! ## What becomes of an account -/

/-- How the account under a key came to be what it is after a step in which these events happened. -/
inductive Fate (w : World) (events : List Event) (k : Key) (after : FrameUser) : Prop where
  | kept {u : FrameUser} (hu : w.users.value? k = some u) (hsame : after.credentials = u.credentials) : Fate w events k after
  | fresh (hfree : w.users.value? k = none) (hnone : after.credentials = []) : Fate w events k after
  | written {held : List Sealing} {op : StatusWrite} {base : Account} (hticket : ⟨held, .write op base after⟩ ∈ w.pending)
      (hbase : w.users.get? k = some base) (hcomputes : op.Computes base.val after)
      (hevent : op.event k base.val.credentials ∈ events) : Fate w events k after

theorem Fate.of_same {k : Key} (hu : w.users.value? k = some u) : Fate w events k u :=
  .kept hu rfl

theorem fate_of_wrote {U : Unicode} {wr : Write} (h : Wrote U w.users req wr d) {k : Key}
    (hu : d.value? k = some u) : Fate w events k u := by
  rcases h.cases hu with hu | ⟨spec, hash, -, hfree, rfl, -⟩ | ⟨old, spec, hash, -, hold, rfl, -⟩
  · exact .of_same hu
  · exact .fresh hfree rfl
  · exact .kept hold rfl

/-- How each account came to be as a step leaves it. -/
theorem Serves.fate (h : Serves S w a w') (hs : Sound S w) :
    ∃ events, w'.log = w.log ++ events ∧ ∀ k u, w'.users.value? k = some u → Fate w events k u := by
  cases h with
  | quiet hrest hevents => exact ⟨_, rfl, fun k u hu => .of_same hu⟩
  | begins hrest hb => exact ⟨[], (append_nil _).symm, fun k u hu => .of_same hu⟩
  | mints hrest ha hlive huser hmint => exact ⟨_, rfl, fun k u hu => .of_same hu⟩
  | @creates rest held route user events hpending hfree hevents =>
    refine ⟨_, rfl, fun k u hu => ?_⟩
    obtain ⟨hnone, -⟩ := hs _ (hpending.mem_iff.mpr mem_cons_self)
    rw [value?_create] at hu
    split at hu
    · rename_i hk
      cases hu
      exact .fresh (hk.2 ▸ hfree) hnone
    · exact .of_same hu
  | @writes rest held op base obj events hpending hcurrent hevents =>
    refine ⟨_, rfl, fun k u hu => ?_⟩
    have hticket := hpending.mem_iff.mpr (mem_cons_self (a := (⟨held, .write op base obj⟩ : Ticket)))
    obtain ⟨hpast, -, hcomputes, -⟩ := hs _ hticket
    have hget := get?_of_current hpast hcurrent
    have hval : w.users.value? base.val.key = some base.val := value?_of_get? hget
    rw [value?_modify] at hu
    split at hu
    · rename_i hk
      subst hk
      rw [hval] at hu
      have hobj : u = obj := by
        rw [hcomputes.eq]
        exact (Option.some.inj hu).symm.trans (by rw [hcomputes.eq])
      subst hobj
      refine .written hticket hget hcomputes ?_
      rw [hval]
      exact mem_cons_self
    · exact .of_same hu
  | outside hwrote => exact ⟨_, rfl, fun k u hu => fate_of_wrote hwrote hu⟩

/-! ## What happens -/

inductive Happens (S : Server τ σ) (w : World) (a : Action τ) (w' : World) (e : Event) : Prop where
  | seals {s : Sealing} {subject : Option Key} (he : e = .sealed s subject)
      (hgrant : s.purpose = purposeEnrol →
        w'.users = w.users ∧ ∃ u, Live S w.users u ∧ subject = some u.val.key ∧ u.val.credentials = []) : Happens S w a w' e
  | mints {held : List Sealing} {cookie : Option τ} {items : Except String (List Account)} {now : Instant} {u : Account}
      {token : IDToken} (he : e = .minted held token) (ha : a = .request held (.token cookie) items now) (hlive : Live S w.users u)
      (huser : sessionUser S (list S.cfg.namespaceName items) now cookie = .ok u)
      (hmint : mint u.val.spec.email u.val.spec.role = some token) : Happens S w a w' e
  | creates {held : List Sealing} {route : Route} {user : FrameUser} (he : e = .created route held user.key)
      (hticket : ⟨held, .create route user⟩ ∈ w.pending) : Happens S w a w' e
  | writes {held : List Sealing} {op : StatusWrite} {base : Account} {obj : FrameUser}
      (he : e = op.event base.val.key (((w.users.value? base.val.key).map (·.credentials)).getD []))
      (hticket : ⟨held, .write op base obj⟩ ∈ w.pending) (hcurrent : w.users.Current base) : Happens S w a w' e
  | wrote {key : Key} {left : Option FrameUser} (he : e = .wrote key left) : Happens S w a w' e

theorem Ordinary.happens {e : Event} (h : Ordinary e) : Happens S w a w' e := by
  obtain ⟨s, subject, rfl, hne⟩ := h
  exact .seals rfl fun hp => absurd hp hne

theorem Serves.grows (h : Serves S w a w') : ∃ events, w'.log = w.log ++ events := by
  cases h with
  | begins hrest hb => exact ⟨[], (append_nil _).symm⟩
  | quiet | mints | creates | writes | outside => exact ⟨_, rfl⟩

/-- Each event of a step has its grounds in the step. -/
theorem Serves.happens (h : Serves S w a w') (hlog : w'.log = w.log ++ events) :
    ∀ e ∈ events, Happens S w a w' e := by
  intro e he
  cases h with
  | quiet hrest hevents =>
    rw [← append_cancel_left hlog] at he
    obtain ⟨s, subject, rfl, hgrant⟩ := hevents e he
    exact .seals rfl fun hp => ⟨rfl, hgrant hp⟩
  | begins hrest hb =>
    rw [self_eq_append_right.mp hlog] at he
    cases he
  | mints hrest ha hlive huser hmint =>
    rw [← append_cancel_left hlog] at he
    exact .mints (mem_singleton.mp he) ha hlive huser hmint
  | creates hpending hfree hevents =>
    rw [← append_cancel_left hlog] at he
    rcases mem_cons.mp he with he | he
    · exact .creates he (hpending.mem_iff.mpr mem_cons_self)
    · exact (hevents e he).happens
  | writes hpending hcurrent hevents =>
    rw [← append_cancel_left hlog] at he
    rcases mem_cons.mp he with he | he
    · exact .writes he (hpending.mem_iff.mpr mem_cons_self) hcurrent
    · exact (hevents e he).happens
  | outside hwrote =>
    rw [← append_cancel_left hlog] at he
    exact .wrote (mem_singleton.mp he)

end FrameOperator.Authd
