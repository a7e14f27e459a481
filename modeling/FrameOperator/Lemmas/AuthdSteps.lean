import FrameOperator.Authd.Server
import FrameOperator.Lemmas.Admission

/-!
# What a step of authd does

One lemma for each function a request runs through, then all that a request can come to (`Begun`) and all that a step can do to the
world (`Serves`).
-/

namespace FrameOperator.Authd

open Accounts
open V1beta1 (WebAuthnCredential)
open List

variable {τ σ : Type} {S : Server τ σ}

variable {d : Directory} {u : Account} {purposes : List Purpose} {r : Reply} {body : Bytes} {i : Nat} {rest : List Ticket}

/-! ## What was read -/

def Live (S : Server τ σ) (d : Directory) (u : Account) : Prop :=
  d.get? u.val.key = some u ∧ u.val.key.namespaceName = S.cfg.namespaceName

theorem Live.value? (h : Live S d u) : d.value? u.val.key = some u.val :=
  Versioned.value?_of_get? h.1

theorem Live.past (h : Live S d u) : u ∈ d.past := (Versioned.past_of_get? h.1).1

theorem live_of_list {items : Except String (List Account)} {served : List Account} (hfits : fits d items = true)
    (h : list S.cfg.namespaceName items = .ok served) : ∀ u ∈ served, Live S d u := by
  cases items with
  | error err => cases h
  | ok items =>
    cases h
    intro u hu
    obtain ⟨hmem, hns⟩ := mem_filter.mp hu
    have hlive : u ∈ d.live.items := (isPerm_iff.mp hfits).mem_iff.mp hmem
    exact ⟨Keyed.get?_of_mem hlive, of_decide_eq_true hns⟩

variable {items : Except StoreError (List Account)} {email : Bytes}

theorem byEmail_ok (h : byEmail items email = .ok u) :
    ∃ served, items = .ok served ∧ u ∈ served ∧ utf8 u.val.spec.email = email := by
  unfold byEmail at h
  split at h
  · cases h
  split at h
  · rename_i hfind
    cases h
    have hp := List.find?_some hfind
    exact ⟨_, rfl, mem_of_find?_eq_some hfind, of_decide_eq_true hp⟩
  · cases h

theorem byCredentialID_ok {credID : String} (h : byCredentialID items credID = .ok u) :
    ∃ served, items = .ok served ∧ u ∈ served ∧ ∃ c ∈ u.val.credentials, c.id = credID := by
  unfold byCredentialID at h
  split at h
  · cases h
  split at h
  · rename_i hfind
    cases h
    have hp := List.find?_some hfind
    obtain ⟨c, hc, hid⟩ := any_eq_true.mp hp
    exact ⟨_, rfl, mem_of_find?_eq_some hfind, c, hc, of_decide_eq_true hid⟩
  · cases h

variable {now : Instant} {cookie : Option τ}

/-- A session is good for an enabled account it names. -/
theorem sessionUserFor_ok {p : Purpose} (h : sessionUserFor S items now cookie purposes = .ok (p, u)) :
    p ∈ purposes ∧ requireIssuable u.val = true ∧
      ∃ c, cookie = some c ∧ S.auth.codec.openToken p now c = some (utf8 u.val.spec.email) ∧
        ∃ served, items = .ok served ∧ u ∈ served := by
  unfold sessionUserFor at h
  split at h
  · cases h
  split at h
  · cases h
  rename_i hopen
  obtain ⟨p', hp', hmap⟩ := exists_of_findSome?_eq_some hopen
  obtain ⟨email, hemail, heq⟩ := Option.map_eq_some_iff.mp hmap
  cases heq
  split at h
  · cases h
  rename_i hby
  obtain ⟨served, hitems, hu, he⟩ := byEmail_ok hby
  split at h
  · rename_i hissuable
    cases h
    exact ⟨hp', hissuable, _, rfl, by rw [he]; exact hemail, served, hitems, hu⟩
  · cases h

theorem sessionUser_ok (h : sessionUser S items now cookie = .ok u) : sessionUserFor S items now cookie [purposeSession] = .ok
    (purposeSession, u) := by
  unfold sessionUser at h
  split at h
  · cases h
  rename_i p u' hs
  cases h
  have hp := (sessionUserFor_ok hs).1
  rw [hs, mem_singleton.mp hp]

theorem adminUser_ok (h : adminUser S items now cookie = .ok u) : sessionUser S items now cookie = .ok u := by
  unfold adminUser at h
  split at h
  · cases h
  split at h
  · cases h
  rename_i hs _
  cases h
  exact hs

theorem mint_some {email role : String} {token : IDToken} (h : mint email role = some token) :
    token.email = email ∧ token.groups = [groupForRole role] := by
  unfold mint at h
  split at h
  · cases h
  · cases h
    exact ⟨rfl, rfl⟩

theorem spendable_ok {u : FrameUser} (h : spendable u = .ok ()) : u.credentials = [] := by
  unfold spendable at h
  split at h
  · cases h
  split at h
  · cases h
  rename_i hne
  simp only [Bool.or_eq_true, Bool.not_eq_true', not_or] at hne
  simpa using hne.1

def Reply.Plain (r : Reply) : Prop := r.grants = [] ∧ r.minted = none

theorem sessionUserFor_error (h : sessionUserFor S items now cookie purposes = .error r) : r.Plain := by
  unfold sessionUserFor at h
  repeat' split at h
  all_goals cases h
  all_goals exact ⟨rfl, rfl⟩

theorem sessionUser_error (h : sessionUser S items now cookie = .error r) : r.Plain := by
  unfold sessionUser at h
  split at h
  · rename_i hs
    cases h
    exact sessionUserFor_error hs
  · cases h

theorem adminUser_error (h : adminUser S items now cookie = .error r) : r.Plain := by
  unfold adminUser at h
  split at h
  · rename_i hs
    cases h
    exact sessionUser_error hs
  · split at h
    · cases h
      exact ⟨rfl, rfl⟩
    · cases h

theorem spendable_error {u : FrameUser} (h : spendable u = .error r) : r.Plain := by
  unfold spendable at h
  repeat' split at h
  all_goals cases h
  all_goals exact ⟨rfl, rfl⟩

theorem challenge_ne_enrol : purposeChallenge ≠ purposeEnrol := by decide
theorem invite_ne_enrol : purposeInvite ≠ purposeEnrol := by decide
theorem session_ne_enrol : purposeSession ≠ purposeEnrol := by decide

variable {a : Authenticator τ σ} {cred : Credential} {c : τ}

theorem finishLogin_ok (h : finishLogin a now items c body = .ok (u, cred)) :
    ∃ session credID, byCredentialID items credID = .ok u ∧ a.web.validateLogin (webauthnUser u.val) session body = .ok cred := by
  unfold finishLogin at h
  cases hs : openSession a now c with
  | error err => rw [hs] at h; cases h
  | ok session =>
    rw [hs] at h
    simp only [bind, Except.bind] at h
    split at h
    · cases h
    split at h
    · cases h
    split at h
    · cases h
    rename_i hby
    split at h
    · cases h
    rename_i hlogin
    split at h
    · cases h
    · cases h
      exact ⟨_, _, hby, hlogin⟩

/-- What a registration that succeeds was given. -/
theorem finishRegistration_ok {u : FrameUser} {label : String}
    {addedAt : Time} {cred : WebAuthnCredential} (h : finishRegistration a now u c body label addedAt = .ok cred) :
    ∃ rawID, a.web.parseCreation body = .ok rawID ∧ cred.id = encodeID rawID := by
  unfold finishRegistration at h
  cases hs : openSession a now c with
  | error err => rw [hs] at h; cases h
  | ok session =>
    rw [hs] at h
    simp only [bind, Except.bind] at h
    split at h
    · cases h
    rename_i rawID hparse
    split at h
    · cases h
    rename_i hcreate
    split at h
    · cases h
    · cases h
      exact ⟨rawID, hparse, by rw [a.web.createCredential_id _ _ _ _ _ hcreate hparse]⟩

/-! ## What a request comes to -/

def Grantable (S : Server τ σ) (d : Directory) (e : Event) : Prop :=
  ∃ s subject, e = .sealed s subject ∧
    (s.purpose = purposeEnrol → ∃ u, Live S d u ∧ subject = some u.val.key ∧ u.val.credentials = [])

def Ordinary (e : Event) : Prop := ∃ s subject, e = .sealed s subject ∧ s.purpose ≠ purposeEnrol

theorem Ordinary.grantable {e : Event} (h : Ordinary e) : Grantable S d e := by
  obtain ⟨s, subject, he, hne⟩ := h
  exact ⟨s, subject, he, fun hp => absurd hp hne⟩

def StatusWrite.Computes (base obj : FrameUser) : StatusWrite → Prop
  | enrol _ cred => addCredential base cred = .ok obj
  | count cred => recordLoginCounter base cred = .ok obj
  | remove credID => removeCredential base credID = .ok obj

inductive Begun (S : Server τ σ) (w : World) : Action τ → Ticket → Prop where
  | bootstrapping {held : List Sealing} {body : Option (String × String)} {items : Except String (List Account)} {now : Instant}
      {user : FrameUser} (hadmin : user.enabledAdmin = true) (hnone : user.credentials = [])
      (hns : user.key.namespaceName = S.cfg.namespaceName) :
      Begun S w (.request held (.bootstrap body) items now) ⟨held, .review .bootstrap user⟩
  | inviting {held : List Sealing} {cookie : Option τ} {body : Option (String × String)} {items : Except String (List Account)}
      {now : Instant} {caller : Account} (hcaller : sessionUser S (list S.cfg.namespaceName items) now cookie = .ok caller)
      (email role : String) : Begun S w (.request held (.invite cookie body) items now) ⟨held, .inviteExists email role⟩
  | asking {held : List Sealing} {r : Request τ} {items : Except String (List Account)} {now : Instant} {task : Task}
      (htask : (∃ email, task = .linkAccount email) ∨ ∃ email credID, task = .revokeSubject email credID) :
      Begun S w (.request held r items now) ⟨held, task⟩
  | enrolling {held : List Sealing} {cookie challenge : Option τ} {label : String} {body : Bytes} {addedAt : Time}
      {items : Except String (List Account)} {now : Instant} {via : Purpose} {u : Account} {c : τ} {cred : WebAuthnCredential}
      {obj : FrameUser} (hlive : Live S w.users u)
      (huser : sessionUserFor S (list S.cfg.namespaceName items) now cookie [purposeSession, purposeEnrol] = .ok (via, u))
      (hcred : finishRegistration S.auth now u.val c body label addedAt = .ok cred) (hobj : addCredential u.val cred = .ok obj) :
      Begun S w (.request held (.registerFinish cookie challenge label (some body) addedAt) items now)
        ⟨held, .write (.enrol via cred) u obj⟩
  | counting {held : List Sealing} {challenge : Option τ} {body : Bytes} {items : Except String (List Account)} {now : Instant}
      {u : Account} {c : τ} {cred : Credential} {obj : FrameUser} (hlive : Live S w.users u)
      (hlogin : finishLogin S.auth now (list S.cfg.namespaceName items) c body = .ok (u, cred))
      (hobj : recordLoginCounter u.val cred = .ok obj) :
      Begun S w (.request held (.loginFinish challenge (some body)) items now) ⟨held, .write (.count cred) u obj⟩
  | revoking {a : Action τ} {held : List Sealing} {u : Account} {credID : String} {obj : FrameUser} (hlive : Live S w.users u)
      (hobj : removeCredential u.val credID = .ok obj) : Begun S w a ⟨held, .write (.remove credID) u obj⟩
  | reviewing {i : Nat} {items : Except String (List Account)} {now : Instant} {ok : Bool} {held : List Sealing} {email role : String}
      {user : FrameUser} (hi : w.pending[i]? = some ⟨held, .inviteExists email role⟩) (hnone : user.credentials = [])
      (hns : user.key.namespaceName = S.cfg.namespaceName) : Begun S w (.proceed i items now ok) ⟨held, .review .invite user⟩
  | creating {i : Nat} {items : Except String (List Account)} {now : Instant} {ok : Bool} {held : List Sealing} {route : Route}
      {user : FrameUser} (hi : w.pending[i]? = some ⟨held, .review route user⟩) (hfits : fits w.users items = true)
      (hok : validateCreate S.unicode (some (serviceAccount S.cfg.namespaceName)) (items.map (·.map Stamped.val)) user = .ok ()) :
      Begun S w (.proceed i items now ok) ⟨held, .create route user⟩

inductive Comes (S : Server τ σ) (w : World) (a : Action τ) (held : List Sealing) : Outcome → Prop where
  | replies {r : Reply} (hgrants : ∀ e ∈ r.grants, Grantable S w.users (.sealed e.1 e.2)) (hminted : r.minted = none) :
      Comes S w a held (.reply r)
  | mints {r : Reply} {cookie : Option τ} {items : Except String (List Account)} {now : Instant} {u : Account} {token : IDToken}
      (ha : a = .request held (.token cookie) items now) (hlive : Live S w.users u)
      (huser : sessionUser S (list S.cfg.namespaceName items) now cookie = .ok u)
      (hmint : mint u.val.spec.email u.val.spec.role = some token) (hgrants : r.grants = []) (hminted : r.minted = some token) :
      Comes S w a held (.reply r)
  | awaits {task : Task} (h : Begun S w a ⟨held, task⟩) : Comes S w a held (.await task)

section

variable {w : World} {a : Action τ} {held : List Sealing}

theorem Comes.refuses (h : r.Plain) : Comes S w a held (.reply r) := .replies (by rw [h.1]; simp) h.2

theorem Comes.grants {code : Nat} {g : Sealing × Option Key} (hpurpose : g.1.purpose ≠ purposeEnrol) :
    Comes S w a held (.reply { code := code, grants := [g] }) :=
  .replies (fun e he => ⟨e.1, e.2, rfl, fun h => absurd (by rwa [mem_singleton.mp he] at h) hpurpose⟩) rfl

theorem revokeFrom_comes (a : Action τ) (held : List Sealing) (hlive : Live S w.users u) (credID : String) :
    Comes S w a held (revokeFrom u credID) := by
  unfold revokeFrom
  split
  · exact .refuses ⟨rfl, rfl⟩
  · exact .refuses ⟨rfl, rfl⟩
  · exact .refuses ⟨rfl, rfl⟩
  · exact .awaits (.revoking hlive ‹_›)

end

section

variable {w : World} {held : List Sealing} {items : Except String (List Account)} {now : Instant}

theorem handleBootstrap_comes (body : Option (String × String)) :
    Comes S w (.request held (.bootstrap body) items now) held (handleBootstrap S (list S.cfg.namespaceName items) body) := by
  unfold handleBootstrap
  split
  · exact .refuses ⟨rfl, rfl⟩
  split
  · exact .refuses ⟨rfl, rfl⟩
  split
  · exact .refuses ⟨rfl, rfl⟩
  split
  · exact .refuses ⟨rfl, rfl⟩
  split
  · exact .refuses ⟨rfl, rfl⟩
  split
  · exact .refuses ⟨rfl, rfl⟩
  extract_lets name
  split
  · exact .refuses ⟨rfl, rfl⟩
  refine .awaits (.bootstrapping ?_ ?_ ?_)
  · rfl
  · rfl
  · rfl

theorem handleRegisterBegin_comes (cookie : Option τ) (entropy : Nat) :
    Comes S w (.request held (.registerBegin cookie entropy) items now) held
      (handleRegisterBegin S (list S.cfg.namespaceName items) now cookie entropy) := by
  unfold handleRegisterBegin
  split
  · exact .refuses (sessionUserFor_error ‹_›)
  split
  · exact .refuses ⟨rfl, rfl⟩
  · exact .grants challenge_ne_enrol

theorem handleInvite_comes (cookie : Option τ) (body : Option (String × String)) :
    Comes S w (.request held (.invite cookie body) items now) held
      (handleInvite S (list S.cfg.namespaceName items) now cookie body) := by
  unfold handleInvite
  cases hu : adminUser S (list S.cfg.namespaceName items) now cookie with
  | error r => exact .refuses (adminUser_error hu)
  | ok u =>
    cases body with
    | none => exact .refuses ⟨rfl, rfl⟩
    | some body =>
      simp only
      split
      · exact .refuses ⟨rfl, rfl⟩
      split
      · exact .refuses ⟨rfl, rfl⟩
      · exact .awaits (.inviting (adminUser_ok hu) _ _)

theorem handleInviteLink_comes (cookie : Option τ) (body : Option String) :
    Comes S w (.request held (.inviteLink cookie body) items now) held
      (handleInviteLink S (list S.cfg.namespaceName items) now cookie body) := by
  unfold handleInviteLink
  split
  · exact .refuses (adminUser_error ‹_›)
  · exact .refuses ⟨rfl, rfl⟩
  · exact .awaits (.asking (.inl ⟨_, rfl⟩))

theorem resumeInvite_comes {ok : Bool} {email role : String} (hi : w.pending[i]? = some ⟨held, .inviteExists email role⟩) :
    Comes S w (.proceed i items now ok) held (resumeInvite S (list S.cfg.namespaceName items) email role) := by
  unfold resumeInvite
  split
  · exact .refuses ⟨rfl, rfl⟩
  split
  · exact .refuses ⟨rfl, rfl⟩
  extract_lets name
  split
  · exact .refuses ⟨rfl, rfl⟩
  refine .awaits (.reviewing hi ?_ ?_)
  · rfl
  · rfl

theorem resumeInviteLink_comes (a : Action τ) (email : String) :
    Comes S w a held (resumeInviteLink S (list S.cfg.namespaceName items) now email) := by
  unfold resumeInviteLink
  split
  · exact .refuses ⟨rfl, rfl⟩
  · exact .refuses ⟨rfl, rfl⟩
  split
  · exact .refuses (spendable_error ‹_›)
  · exact .grants invite_ne_enrol

section

variable (hfits : fits w.users items = true)
include hfits

theorem live_of_byEmail (h : byEmail (list S.cfg.namespaceName items) email = .ok u) :
    Live S w.users u := by
  obtain ⟨served, hlist, hu, -⟩ := byEmail_ok h
  exact live_of_list hfits hlist u hu

theorem live_of_sessionUserFor {cookie : Option τ} {p : Purpose}
    (h : sessionUserFor S (list S.cfg.namespaceName items) now cookie purposes = .ok (p, u)) : Live S w.users u := by
  obtain ⟨-, -, c, -, -, served, hlist, hu⟩ := sessionUserFor_ok h
  exact live_of_list hfits hlist u hu

theorem live_of_finishLogin
    (h : finishLogin S.auth now (list S.cfg.namespaceName items) c body = .ok (u, cred)) : Live S w.users u := by
  obtain ⟨_, credID, hby, -⟩ := finishLogin_ok h
  obtain ⟨served, hlist, hu, -⟩ := byCredentialID_ok hby
  exact live_of_list hfits hlist u hu

theorem handleToken_comes (cookie : Option τ) :
    Comes S w (.request held (.token cookie) items now) held (handleToken S (list S.cfg.namespaceName items) now cookie) := by
  unfold handleToken
  split
  · exact .refuses (sessionUser_error ‹_›)
  rename_i u hu
  split
  · exact .refuses ⟨rfl, rfl⟩
  · exact .mints rfl (live_of_sessionUserFor hfits (sessionUser_ok hu)) hu ‹_› rfl rfl

theorem handleLoginFinish_comes (challenge : Option τ) (body : Option Bytes) :
    Comes S w (.request held (.loginFinish challenge body) items now) held
      (handleLoginFinish S (list S.cfg.namespaceName items) now challenge body) := by
  unfold handleLoginFinish
  split
  · exact .refuses ⟨rfl, rfl⟩
  · exact .refuses ⟨rfl, rfl⟩
  split
  · exact .refuses ⟨rfl, rfl⟩
  rename_i u cred hlogin
  split
  · exact .refuses ⟨rfl, rfl⟩
  · exact .awaits (.counting (live_of_finishLogin hfits hlogin) hlogin ‹_›)

theorem handleRegisterFinish_comes (cookie challenge : Option τ) (label : String)
    (body : Option Bytes) (addedAt : Time) :
    Comes S w (.request held (.registerFinish cookie challenge label body addedAt) items now) held
      (handleRegisterFinish S (list S.cfg.namespaceName items) now cookie challenge label body addedAt) := by
  unfold handleRegisterFinish
  split
  · exact .refuses (sessionUserFor_error ‹_›)
  rename_i via u huser
  split
  · exact .refuses ⟨rfl, rfl⟩
  · exact .refuses ⟨rfl, rfl⟩
  split
  · exact .refuses ⟨rfl, rfl⟩
  rename_i hcred
  split
  · exact .refuses ⟨rfl, rfl⟩
  · exact .awaits (.enrolling (live_of_sessionUserFor hfits huser) huser hcred ‹_›)

theorem handleInviteAccept_comes (body : Option τ) :
    Comes S w (.request held (.inviteAccept body) items now) held
      (handleInviteAccept S (list S.cfg.namespaceName items) now body) := by
  unfold handleInviteAccept
  split
  · exact .refuses ⟨rfl, rfl⟩
  split
  · exact .refuses ⟨rfl, rfl⟩
  split
  · exact .refuses ⟨rfl, rfl⟩
  rename_i u hby
  split
  · exact .refuses (spendable_error ‹_›)
  rename_i hspend
  refine .replies (fun e he => ⟨e.1, e.2, rfl, fun _ => ⟨u, live_of_byEmail hfits hby, ?_, spendable_ok hspend⟩⟩) rfl
  rw [mem_singleton.mp he]
  rfl

theorem handleRevokeCredential_comes (cookie : Option τ) (user credID : String) :
    Comes S w (.request held (.revokeCredential cookie user credID) items now) held
      (handleRevokeCredential S (list S.cfg.namespaceName items) now cookie user credID) := by
  unfold handleRevokeCredential
  split
  · exact .refuses (sessionUser_error ‹_›)
  rename_i caller hcaller
  split
  · exact revokeFrom_comes _ _ (live_of_sessionUserFor hfits (sessionUser_ok hcaller)) credID
  split
  · exact .refuses ⟨rfl, rfl⟩
  · exact .awaits (.asking (.inr ⟨_, _, rfl⟩))

theorem start_comes (r : Request τ) :
    Comes S w (.request held r items now) held (start S (list S.cfg.namespaceName items) now r) := by
  cases r with
  | bootstrap body => exact handleBootstrap_comes body
  | token cookie => exact handleToken_comes hfits cookie
  | loginBegin entropy =>
    show Comes S w _ held (handleLoginBegin S now entropy)
    unfold handleLoginBegin
    split
    · exact .refuses ⟨rfl, rfl⟩
    · exact .grants challenge_ne_enrol
  | loginFinish challenge body => exact handleLoginFinish_comes hfits challenge body
  | registerBegin cookie entropy => exact handleRegisterBegin_comes cookie entropy
  | registerFinish cookie challenge label body addedAt => exact handleRegisterFinish_comes hfits cookie challenge label body addedAt
  | invite cookie body => exact handleInvite_comes cookie body
  | inviteLink cookie body => exact handleInviteLink_comes cookie body
  | inviteAccept body => exact handleInviteAccept_comes hfits body
  | revokeCredential cookie user credID => exact handleRevokeCredential_comes hfits cookie user credID

theorem resumeRevoke_comes (a : Action τ) (email credID : String) :
    Comes S w a held (resumeRevoke (list S.cfg.namespaceName items) email credID) := by
  unfold resumeRevoke
  split
  · exact .refuses ⟨rfl, rfl⟩
  · exact revokeFrom_comes a held (live_of_byEmail hfits ‹_›) credID

theorem review_comes {ok : Bool} {route : Route} {user : FrameUser}
    (hi : w.pending[i]? = some ⟨held, .review route user⟩) :
    Comes S w (.proceed i items now ok) held
      (match validateCreate S.unicode (some (serviceAccount S.cfg.namespaceName)) (items.map (·.map Stamped.val)) user with
      | .error _ => .reply internalError
      | .ok () => .await (.create route user)) := by
  split
  · exact .refuses ⟨rfl, rfl⟩
  · exact .awaits (.creating hi hfits ‹_›)

end

end

/-! ## What a step does -/

inductive Serves (S : Server τ σ) (w : World) (a : Action τ) : World → Prop where
  | quiet {rest : List Ticket} {events : List Event} (hrest : rest.Sublist w.pending)
      (hevents : ∀ e ∈ events, Grantable S w.users e) : Serves S w a { w with pending := rest, log := w.log ++ events }
  | begins {rest : List Ticket} {t : Ticket} (hrest : rest.Sublist w.pending) (h : Begun S w a t) :
      Serves S w a { w with pending := rest ++ [t] }
  | mints {rest : List Ticket} {held : List Sealing} {cookie : Option τ} {items : Except String (List Account)} {now : Instant}
      {u : Account} {token : IDToken} (hrest : rest.Sublist w.pending) (ha : a = .request held (.token cookie) items now)
      (hlive : Live S w.users u) (huser : sessionUser S (list S.cfg.namespaceName items) now cookie = .ok u)
      (hmint : mint u.val.spec.email u.val.spec.role = some token) :
      Serves S w a { w with pending := rest, log := w.log ++ [.minted held token] }
  | creates {rest : List Ticket} {held : List Sealing} {route : Route} {user : FrameUser} {events : List Event}
      (hpending : w.pending.Perm (⟨held, .create route user⟩ :: rest)) (hfree : w.users.value? user.key = none)
      (hevents : ∀ e ∈ events, Ordinary e) :
      Serves S w a
        { users := w.users.create user, pending := rest, log := w.log ++ .created route held user.key :: events }
  | writes {rest : List Ticket} {held : List Sealing} {op : StatusWrite} {base : Account} {obj : FrameUser} {events : List Event}
      (hpending : w.pending.Perm (⟨held, .write op base obj⟩ :: rest)) (hcurrent : w.users.Current base)
      (hevents : ∀ e ∈ events, Ordinary e) :
      Serves S w a
        { users := w.users.modify base.val.key
            (fun u => { u with passwordHash := obj.passwordHash, credentials := obj.credentials }) fun _ => rfl
          pending := rest
          log := w.log ++ op.event base.val.key (((w.users.value? base.val.key).map (·.credentials)).getD []) :: events }
  | outside {req : Option AdmissionRequest} {wr : Write} {users : Directory} (hwrote : Wrote S.unicode w.users req wr users) :
      Serves S w a { w with users := users, log := w.log ++ [.wrote wr.key (users.value? wr.key)] }

section

variable {w : World} {a : Action τ} {held : List Sealing}

theorem forall_events {P : Event → Prop} (hgrants : ∀ g ∈ r.grants, P (.sealed g.1 g.2)) (hminted : r.minted = none) :
    ∀ e ∈ r.events held, P e := by
  intro e he
  rw [Reply.events, hminted, Option.map_none, Option.toList_none, append_nil] at he
  obtain ⟨g, hg, rfl⟩ := mem_map.mp he
  exact hgrants g hg

theorem outcome_serves (hrest : rest.Sublist w.pending) {o : Outcome} (h : Comes S w a held o) :
    Serves S w a (({ w with pending := rest } : World).outcome held o).1 := by
  cases h with
  | replies hgrants hminted => exact .quiet hrest (forall_events hgrants hminted)
  | @mints r cookie items now u token ha hlive huser hmint hgrants hminted =>
    have hevents : r.events held = [.minted held token] := by
      rw [Reply.events, hgrants, hminted]
      rfl
    have hs := Serves.mints hrest ha hlive huser hmint
    rw [← hevents] at hs
    exact hs
  | awaits h => exact .begins hrest h

theorem drops_serves (hrest : rest.Sublist w.pending) : Serves S w a { w with pending := rest } := by
  have hnone : ∀ e ∈ ([] : List Event), Grantable S w.users e := fun e he => nomatch he
  have hs := Serves.quiet (S := S) (a := a) hrest hnone
  rwa [append_nil] at hs

theorem ordinary_of_ne {g : Sealing × Option Key} (h : g.1.purpose ≠ purposeEnrol) : Ordinary (.sealed g.1 g.2) :=
  ⟨g.1, g.2, rfl, h⟩

theorem created_ordinary (route : Route) (now : Instant) (user : FrameUser) :
    ∀ e ∈ (route.created S now user).events held, Ordinary e := by
  cases route with
  | bootstrap => exact forall_events (fun g hg => mem_singleton.mp hg ▸ ordinary_of_ne session_ne_enrol) rfl
  | invite => exact forall_events (fun g hg => mem_singleton.mp hg ▸ ordinary_of_ne invite_ne_enrol) rfl

theorem written_ordinary (op : StatusWrite) (now : Instant) (u : FrameUser) : ∀ e ∈ (op.written S now u).events held, Ordinary e := by
  cases op with
  | enrol via cred => exact forall_events (fun g hg => nomatch hg) rfl
  | count cred =>
    unfold StatusWrite.written
    by_cases hissuable : requireIssuable u = true
    · rw [if_pos hissuable]
      exact forall_events (fun g hg => mem_singleton.mp hg ▸ ordinary_of_ne session_ne_enrol) rfl
    · rw [if_neg hissuable]
      exact forall_events (fun g hg => nomatch hg) rfl
  | remove credID => exact forall_events (fun g hg => nomatch hg) rfl

theorem create_serves {route : Route} {user : FrameUser}
    (hpending : w.pending.Perm (⟨held, .create route user⟩ :: rest)) (hrest : rest.Sublist w.pending) (now : Instant) (ok : Bool) :
    Serves S w a (({ w with pending := rest } : World).create S held now ok route user).1 := by
  unfold World.create
  split
  · exact drops_serves hrest
  split
  · exact drops_serves hrest
  · rename_i hfree
    exact .creates hpending (by simpa using hfree) (created_ordinary route now user)

theorem write_serves {op : StatusWrite} {base : Account} {obj : FrameUser}
    (hpending : w.pending.Perm (⟨held, .write op base obj⟩ :: rest)) (hrest : rest.Sublist w.pending) (now : Instant) (ok : Bool) :
    Serves S w a (({ w with pending := rest } : World).write S held now ok op base obj).1 := by
  unfold World.write
  split
  · rename_i hok
    rw [Bool.and_eq_true, decide_eq_true_eq] at hok
    exact .writes hpending hok.2 (written_ordinary op now base.val)
  · exact drops_serves hrest

theorem resume_serves {t : Ticket} (hi : w.pending[i]? = some t) {items : Except String (List Account)}
    (hfits : fits w.users items = true) (now : Instant) (ok : Bool) :
    Serves S w (.proceed i items now ok) (({ w with pending := w.pending.eraseIdx i } : World).resume S t items now ok).1 := by
  have hrest : (w.pending.eraseIdx i).Sublist w.pending := eraseIdx_sublist _ _
  have hperm : w.pending.Perm (t :: w.pending.eraseIdx i) := by
    obtain ⟨hlt, heq⟩ := List.getElem?_eq_some_iff.mp hi
    rw [← heq]
    exact (getElem_cons_eraseIdx_perm hlt).symm
  obtain ⟨held, task⟩ := t
  unfold World.resume
  cases task with
  | inviteExists email role => exact outcome_serves hrest (resumeInvite_comes hi)
  | linkAccount email => exact outcome_serves hrest (resumeInviteLink_comes _ email)
  | revokeSubject email credID => exact outcome_serves hrest (resumeRevoke_comes hfits _ email credID)
  | review route user => exact outcome_serves hrest (review_comes hfits hi)
  | create route user => exact create_serves hperm hrest now ok
  | write op base obj => exact write_serves hperm hrest now ok

end

/-- Every step is one of `Serves`. -/
theorem serve_serves (S : Server τ σ) (w : World) (a : Action τ) : Serves S w a (w.serve S a).1 := by
  have hidle : Serves S w a w := drops_serves (List.Sublist.refl _)
  cases a with
  | request held r items now =>
    simp only [World.serve]
    split
    · exact outcome_serves (List.Sublist.refl _) (start_comes ‹_› r)
    · exact hidle
  | proceed i items now ok =>
    simp only [World.serve]
    cases hi : w.pending[i]? with
    | none => exact hidle
    | some t =>
      simp only
      split
      · exact resume_serves hi ‹_› now ok
      · exact hidle
  | abandon i => exact drops_serves (eraseIdx_sublist _ _)
  | outside req wr => exact .outside (write_wrote S.unicode w.users (req, wr))

end FrameOperator.Authd
