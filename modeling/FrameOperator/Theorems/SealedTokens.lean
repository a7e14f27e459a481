import FrameOperator.Lemmas.Codec
import FrameOperator.Theorems.CredentialStore

/-!
# What a sealed token is good for

A token opens under the purpose it was sealed under until its second is over, and what opens under a purpose was sealed under it, up
to how its signature is written. This is all that keeps an invitation or an enrolment cookie from being a session.
-/

namespace FrameOperator.Authd

open List Accounts

variable {σ : Type} {S : Server Bytes σ} {tag : Bytes → Bytes}

/-- Each token presented has a signature from a token that the requester holds. -/
def Presented (tag : Bytes → Bytes) : Action Bytes → Prop
  | .request held r _ _ => ∀ t ∈ r.presents, Unforged tag held t
  | _ => True

/-- A session is among the tokens. -/
def HoldsSession (held : List Sealing) : Prop := ∃ s ∈ held, s.purpose = purposeSession

/-- What the events of a step from a world say of the tokens behind them. -/
structure Vouched (S : Server Bytes σ) (before : World) (events : List Event) : Prop where
  minted : ∀ held token, .minted held token ∈ events →
    ∃ s ∈ held, s.purpose = purposeSession ∧ s.data = utf8 token.email ∧
      ∃ u ∈ before.users.users, u.key.namespaceName = S.cfg.namespaceName ∧ u.spec.email = token.email ∧
        isEnabled u.spec.state = true ∧ token.groups = [groupForRole u.spec.role]
  invited : ∀ held key, .created .invite held key ∈ events → HoldsSession held

/-! ## One step -/

variable {held : List Sealing}

theorem unforged_sealToken (htag : Function.Injective tag) {s : Sealing} (hs : s ∈ held) :
    Unforged tag held (sealToken tag s) := by
  intro m hm
  rw [sealToken, cut_append (show dot ∉ s.encoded from dot_notMem_encode _), Option.bind_some, Alphabet.decode_encode] at hm
  exact ⟨s, hs, (htag (Option.some.inj hm)).symm⟩

theorem session_of_sessionUser (hcodec : S.auth.codec = challengeCodec tag)
    {items : Except StoreError (List Account)} {now : Instant} {cookie : Option Bytes} {u : Account}
    (hheld : ∀ t ∈ cookie.toList, Unforged tag held t) (h : sessionUser S items now cookie = .ok u) :
    isEnabled u.val.spec.state = true ∧ ∃ s ∈ held, s.purpose = purposeSession ∧ s.data = utf8 u.val.spec.email := by
  obtain ⟨-, hissuable, c, rfl, hopen, -⟩ := sessionUserFor_ok (sessionUser_ok h)
  rw [hcodec] at hopen
  obtain ⟨s, hs, hpurpose, -, hdata, -⟩ := openToken_unforged (hheld c (mem_singleton_self c)) hopen
  exact ⟨hissuable, s, hs, hpurpose, hdata.symm⟩

def Ticket.Backed (t : Ticket) : Prop :=
  match t.task with
  | .inviteExists _ _ | .review .invite _ | .create .invite _ => HoldsSession t.held
  | _ => True

/-- What begins is backed by tokens that are held. -/
theorem Begun.backed (hcodec : S.auth.codec = challengeCodec tag) {w : World} {a : Action Bytes} {t : Ticket} (h : Begun S w a t)
    (ha : Presented tag a) (hold : ∀ t ∈ w.pending, t.Backed) : t.Backed := by
  cases h with
  | inviting hcaller email role =>
    obtain ⟨-, s, hs, hpurpose, -⟩ := session_of_sessionUser hcodec ha hcaller
    exact ⟨s, hs, hpurpose⟩
  | reviewing hi hnone hns =>
    have hsession := hold _ (mem_of_getElem? hi)
    exact hsession
  | @creating i items now ok held route user hi hfits hok =>
    have hreview := hold _ (mem_of_getElem? hi)
    cases route with
    | invite => exact hreview
    | bootstrap => trivial
  | asking htask => rcases htask with ⟨email, rfl⟩ | ⟨email, credID, rfl⟩ <;> trivial
  | bootstrapping | enrolling | counting | revoking => trivial

/-- What a step mints is vouched for. -/
theorem Serves.vouched (hcodec : S.auth.codec = challengeCodec tag) {w w' : World} {a : Action Bytes} (h : Serves S w a w')
    (ha : Presented tag a) (hold : ∀ t ∈ w.pending, t.Backed) {events : List Event} (hlog : w'.log = w.log ++ events) :
    Vouched S w events := by
  refine ⟨fun held token hmem => ?_, fun held key hmem => ?_⟩
  · cases h.happens hlog _ hmem with
    | @mints held' cookie items now u token' he hact hlive huser hmint =>
      cases he
      subst hact
      obtain ⟨hemail, hgroups⟩ := mint_some hmint
      obtain ⟨henabled, s, hs, hpurpose, hdata⟩ := session_of_sessionUser hcodec ha huser
      exact ⟨s, hs, hpurpose, by rw [hdata, hemail], u.val, Directory.mem_users.mpr hlive.value?,
        hlive.2, hemail.symm, henabled, hgroups⟩
    | seals he | creates he => cases he
    | @writes held op base obj he => cases op <;> cases he
    | wrote he => cases he
  · cases h.happens hlog _ hmem with
    | creates he hticket =>
      have hbacked := hold _ hticket
      cases he
      exact hbacked
    | seals he | mints he => cases he
    | @writes held op base obj he => cases op <;> cases he
    | wrote he => cases he

/-! ## A run -/

/-- What is kept at every step: who is behind the requests in progress, and behind what has been done. -/
structure Accounted (w : World) : Prop where
  backed : ∀ t ∈ w.pending, t.Backed
  minted : ∀ held token, .minted held token ∈ w.log → HoldsSession held
  invited : ∀ held key, .created .invite held key ∈ w.log → HoldsSession held

/-- Every step without forgery is accounted for. -/
theorem Accounted.step (hcodec : S.auth.codec = challengeCodec tag) {w : World} (h : Accounted w) (a : Action Bytes)
    (ha : Presented tag a) : Accounted (w.serve S a).1 := by
  have hserves := serve_serves S w a
  obtain ⟨events, hlog⟩ := hserves.grows
  have hvouched := hserves.vouched hcodec ha h.backed hlog
  refine ⟨fun t ht => ?_, fun held token he => ?_, fun held key he => ?_⟩
  · rcases hserves.pending ht with ht | hb
    · exact h.backed t ht
    · exact hb.backed hcodec ha h.backed
  · rw [hlog] at he
    rcases mem_append.mp he with he | he
    · exact h.minted held token he
    · obtain ⟨s, hs, hpurpose, -⟩ := hvouched.minted held token he
      exact ⟨s, hs, hpurpose⟩
  · rw [hlog] at he
    rcases mem_append.mp he with he | he
    · exact h.invited held key he
    · exact hvouched.invited held key he

theorem Accounted.run (hcodec : S.auth.codec = challengeCodec tag) {w : World} (h0 : Accounted w) {actions : List (Action Bytes)}
    (hpresented : Meets (World.serve S) (fun _ a => Presented tag a) w actions) : Accounted (run (World.serve S) w actions).1 :=
  run_induct (I := fun w (_ : List Reply) => Accounted w) h0 (fun _ _ a h ha => h.step hcodec a ha) actions hpresented

/-- The tokens that are no session. -/
def lesser : List Purpose := [purposeInvite, purposeChallenge, purposeEnrol]

theorem not_holdsSession (h : ∀ s ∈ held, s.purpose ∈ lesser) : ¬ HoldsSession held := by
  rintro ⟨s, hs, hpurpose⟩
  have hmem := h s hs
  rw [hpurpose] at hmem
  exact absurd hmem (by decide)

/-- Tokens open as sealed under an injective tag, and where none is forged, what is minted is for a session held. -/
theorem sealed_tokens (tag : Bytes → Bytes) (htag : Function.Injective tag) :
    (∀ (p q : Purpose) (d : Bytes) (ttl : Duration) (sealedAt now : Instant),
      openToken tag q now (sealToken tag ⟨p, d, ttl, sealedAt⟩) = some d ↔
        p = q ∧ now.after (.ofUnix (Sealing.second ⟨p, d, ttl, sealedAt⟩)) = false) ∧
    (∀ (held : List Sealing) (q : Purpose) (now : Instant) (t d : Bytes), Unforged tag held t → openToken tag q now t = some d →
      ∃ s ∈ held, s.purpose = q ∧ firstPart t = s.encoded) ∧
    ∀ {σ : Type} (S : Server Bytes σ), S.auth.codec = challengeCodec tag → ∀ w : World, w.pending = [] → w.log = [] →
      ∀ actions : List (Action Bytes), Meets (World.serve S) (fun _ a => Presented tag a) w actions →
        let before := (run (World.serve S) w actions).1
        (∀ held : List Sealing, (∀ s ∈ held, s.purpose ∈ lesser) →
          (∀ token, .minted held token ∉ before.log) ∧ ∀ key, .created .invite held key ∉ before.log) ∧
        ∀ a : Action Bytes, Presented tag a → ∃ events, (before.serve S a).1.log = before.log ++ events ∧ Vouched S before events := by
  refine ⟨fun p q d ttl sealedAt now => ?_, fun held q now t d hu hopen => ?_, fun S hcodec w hidle hlog actions hpresented => ?_⟩
  · rw [openToken_sealToken htag]
    simp [idealCodec]
  · obtain ⟨s, hs, hpurpose, hfirst, -⟩ := openToken_unforged hu hopen
    exact ⟨s, hs, hpurpose, hfirst⟩
  · have h0 : Accounted w := by
      refine ⟨fun t ht => ?_, fun held token he => ?_, fun held key he => ?_⟩
      · rw [hidle] at ht
        cases ht
      · rw [hlog] at he
        cases he
      · rw [hlog] at he
        cases he
    have h := h0.run hcodec hpresented
    refine ⟨fun held hlesser => ⟨fun token he => ?_, fun key he => ?_⟩, fun a ha => ?_⟩
    · exact not_holdsSession hlesser (h.minted held token he)
    · exact not_holdsSession hlesser (h.invited held key he)
    · obtain ⟨events, hgrows⟩ := (serve_serves S _ a).grows
      exact ⟨events, hgrows, (serve_serves S _ a).vouched hcodec ha h.backed hgrows⟩

namespace Fixture

def wire : Server Bytes Unit where
  cfg := server.cfg
  auth := { web := library, codec := challengeCodec id, requiresUV := false, sha256 := fun bs => bs }
  unicode := .ascii

def askToken : Action Bytes :=
  .request [session "alice@example.com"] (.token (some (sealToken id (session "alice@example.com")))) (.ok alone.users.live.items) noon

theorem askToken_presented : Presented id askToken := by
  intro t ht
  rw [mem_singleton.mp ht]
  exact unforged_sealToken Function.injective_id (mem_singleton_self _)

end Fixture

set_option maxRecDepth 8000 in
/-- A session is good for an ID token, and the ID token says what the session does. -/
theorem sealed_tokens_session :
    (Fixture.alone.serve Fixture.wire Fixture.askToken).1.log =
        [.minted [Fixture.session "alice@example.com"] ⟨"alice@example.com", ["admins"]⟩] ∧
      ∃ events, (Fixture.alone.serve Fixture.wire Fixture.askToken).1.log = Fixture.alone.log ++ events ∧
        Vouched Fixture.wire Fixture.alone events :=
  ⟨by decide +kernel,
    ((sealed_tokens id Function.injective_id).2.2 Fixture.wire rfl Fixture.alone rfl rfl [] trivial).2 _ Fixture.askToken_presented⟩

end FrameOperator.Authd
