import FrameOperator.Accounts.Admission
import FrameOperator.Authd.Store

/-!
# The requests of authd

The routes of `authd` that read or write accounts (`internal/authd/server*.go`), over any number of replicas, which keep nothing
between requests. A request runs up to its next call of the API server and waits there. A list may come in any order.

Each request is made by somebody who holds some tokens. The log has what the server has sealed, minted and written, and for a
credential that is enrolled the ones that the account had before.
-/

namespace FrameOperator.Authd

open Accounts
open V1beta1 (WebAuthnCredential)

/-- The configuration as `NewServer` leaves it. -/
structure ServerConfig where
  namespaceName : String
  bootstrapSecret : String
  sessionTTL : Duration
  inviteTTL : Duration

structure Server (τ σ : Type) where
  cfg : ServerConfig
  auth : Authenticator τ σ
  unicode : Unicode

def challengeTTL : Duration := 300000000000
def enrolSessionTTL : Duration := 900000000000

/-- An ID token: whose it is, and the groups that it carries. -/
structure IDToken where
  email : String
  groups : List String
  deriving DecidableEq

/-- `GroupForRole`. -/
def groupForRole (role : String) : String :=
  if role = roleAdmin then "admins" else if role = roleOperator then "operators" else if role = roleViewer then "viewers" else ""

/-- `Issuer.Mint`: no token for a role that there is not. -/
def mint (email role : String) : Option IDToken :=
  if groupForRole role = "" then none else some { email := email, groups := [groupForRole role] }

/-- `requireIssuable`. -/
def requireIssuable (u : FrameUser) : Bool := u.spec.state ≠ stateDisabled

/-- The status and the text, the tokens handed out, each with its account, and an ID token. -/
structure Reply where
  code : Nat
  body : String := ""
  grants : List (Sealing × Option Key) := []
  minted : Option IDToken := none
  deriving DecidableEq

/-- The two routes that create an account. -/
inductive Route where
  | bootstrap
  | invite
  deriving DecidableEq

/-- The enrolment of a key on a cookie of some purpose, a login's counter, or a revocation. -/
inductive StatusWrite where
  | enrol (via : Purpose) (cred : WebAuthnCredential)
  | count (cred : Credential)
  | remove (credID : String)
  deriving DecidableEq

/-- The call that a request waits at; `write` has the version read and the object. -/
inductive Task where
  | inviteExists (email role : String)
  | linkAccount (email : String)
  | revokeSubject (email credID : String)
  | review (route : Route) (user : FrameUser)
  | create (route : Route) (user : FrameUser)
  | write (op : StatusWrite) (base : Account) (obj : FrameUser)
  deriving DecidableEq

inductive Outcome where
  | reply (r : Reply)
  | await (task : Task)
  deriving DecidableEq

/-- A request, with its cookies and what its body decodes to. -/
inductive Request (τ : Type) where
  | bootstrap (body : Option (String × String))
  | token (cookie : Option τ)
  | loginBegin (entropy : Nat)
  | loginFinish (challenge : Option τ) (body : Option Bytes)
  | registerBegin (cookie : Option τ) (entropy : Nat)
  | registerFinish (cookie challenge : Option τ) (label : String) (body : Option Bytes) (addedAt : Time)
  | invite (cookie : Option τ) (body : Option (String × String))
  | inviteLink (cookie : Option τ) (body : Option String)
  | inviteAccept (body : Option τ)
  | revokeCredential (cookie : Option τ) (user credID : String)

def Request.presents {τ : Type} : Request τ → List τ
  | bootstrap _ => []
  | token cookie => cookie.toList
  | loginBegin _ => []
  | loginFinish challenge _ => challenge.toList
  | registerBegin cookie _ => cookie.toList
  | registerFinish cookie challenge _ _ _ => cookie.toList ++ challenge.toList
  | invite cookie _ => cookie.toList
  | inviteLink cookie _ => cookie.toList
  | inviteAccept body => body.toList
  | revokeCredential cookie _ _ => cookie.toList

def unauthorized : Reply := { code := 401, body := "unauthorized" }
def forbidden : Reply := { code := 403, body := "forbidden" }
def notFound : Reply := { code := 404, body := "404 page not found" }
def invalidRequest : Reply := { code := 400, body := "invalid request" }
def invalidEmail : Reply := { code := 400, body := "invalid request: email" }
def internalError : Reply := { code := 500, body := "internal error" }
def accountDisabled : Reply := { code := 403, body := "this account is disabled" }
def alreadyHasCredential : Reply := { code := 410, body := "this account already has a credential" }
def invalidInvitation : Reply := { code := 401, body := "this invitation link is invalid or has expired" }

section

variable {τ σ : Type} (S : Server τ σ) (items : Except StoreError (List Account)) (now : Instant)

/-! ## Cookies -/

/-- `setSessionFor`, and the token of an invitation: the address of an account, sealed. -/
def grantFor (purpose : Purpose) (ttl : Duration) (u : FrameUser) : Sealing × Option Key :=
  (⟨purpose, utf8 u.spec.email, ttl, now⟩, some u.key)

/-- The state of a ceremony, sealed. -/
def grantChallenge (session : SessionData σ) : Sealing × Option Key :=
  (⟨purposeChallenge, S.auth.web.marshal session, challengeTTL, now⟩, none)

/-- `sessionUserFor`: the account that the cookie names, and the first purpose that opens it. -/
def sessionUserFor (cookie : Option τ) (purposes : List Purpose) : Except Reply (Purpose × Account) :=
  match cookie with
  | none => .error unauthorized
  | some c =>
    match purposes.findSome? fun p => (S.auth.codec.openToken p now c).map fun email => (p, email) with
    | none => .error unauthorized
    | some (p, email) =>
      match byEmail items email with
      | .error _ => .error unauthorized
      | .ok u => if requireIssuable u.val then .ok (p, u) else .error unauthorized

/-- `sessionUser`. -/
def sessionUser (cookie : Option τ) : Except Reply Account :=
  match sessionUserFor S items now cookie [purposeSession] with
  | .error r => .error r
  | .ok (_, u) => .ok u

def adminUser (cookie : Option τ) : Except Reply Account :=
  match sessionUser S items now cookie with
  | .error r => .error r
  | .ok u => if u.val.spec.role ≠ roleAdmin then .error forbidden else .ok u

/-! ## The routes -/

def handleToken (cookie : Option τ) : Outcome :=
  match sessionUser S items now cookie with
  | .error r => .reply r
  | .ok u =>
    match mint u.val.spec.email u.val.spec.role with
    | none => .reply internalError
    | some token => .reply { code := 200, minted := some token }

/-- What the options of a ceremony ask for. -/
def requestedUV : String := if S.auth.requiresUV then verificationRequired else ""

def handleLoginBegin (entropy : Nat) : Outcome :=
  match S.auth.web.beginDiscoverableLogin (requestedUV S) entropy with
  | .error _ => .reply internalError
  | .ok session => .reply { code := 200, grants := [grantChallenge S now session] }

def handleLoginFinish (challenge : Option τ) (body : Option Bytes) : Outcome :=
  match challenge, body with
  | none, _ => .reply unauthorized
  | some _, none => .reply invalidRequest
  | some c, some body =>
    match finishLogin S.auth now items c body with
    | .error _ => .reply unauthorized
    | .ok (u, cred) =>
      match recordLoginCounter u.val cred with
      | .error _ => .reply unauthorized
      | .ok obj => .await (.write (.count cred) u obj)

def handleRegisterBegin (cookie : Option τ) (entropy : Nat) : Outcome :=
  match sessionUserFor S items now cookie [purposeSession, purposeEnrol] with
  | .error r => .reply r
  | .ok (_, u) =>
    match S.auth.web.beginRegistration (webauthnUser u.val) (requestedUV S) entropy with
    | .error _ => .reply internalError
    | .ok session => .reply { code := 200, grants := [grantChallenge S now session] }

def registrationFailed : Reply := { code := 400, body := "registration failed" }

def handleRegisterFinish (cookie challenge : Option τ) (label : String) (body : Option Bytes) (addedAt : Time) : Outcome :=
  match sessionUserFor S items now cookie [purposeSession, purposeEnrol] with
  | .error r => .reply r
  | .ok (via, u) =>
    match challenge, body with
    | none, _ => .reply unauthorized
    | some _, none => .reply invalidRequest
    | some c, some body =>
      match finishRegistration S.auth now u.val c body label addedAt with
      | .error _ => .reply registrationFailed
      | .ok cred =>
        match addCredential u.val cred with
        | .error _ => .reply registrationFailed
        | .ok obj => .await (.write (.enrol via cred) u obj)

def refusedRole (role : String) : Reply where
  code := 400
  body := "an invitation may only create an operator or a viewer." ++
    if role = roleAdmin then
      " Create the account as one of those, then promote it from the Accounts screen, " ++
        "which acts under your own identity rather than authd's"
    else ""

def handleInvite (cookie : Option τ) (body : Option (String × String)) : Outcome :=
  match adminUser S items now cookie, body with
  | .error r, _ => .reply r
  | .ok _, none => .reply invalidRequest
  | .ok _, some (email, role) =>
    if !validEmail email then .reply invalidEmail
    else if role ≠ roleOperator && role ≠ roleViewer then .reply (refusedRole role)
    else .await (.inviteExists email role)

/-- `handleInvite` from its second list on: `inviteeAlreadyExists`, up to the create. -/
def resumeInvite (email role : String) : Outcome :=
  match items with
  | .error _ => .reply internalError
  | .ok items =>
    if items.any (S.unicode.equalFold ·.val.spec.email email) then
      .reply { code := 409, body := "an account with that email already exists" }
    else
      let name := frameUserNameForEmail S.unicode S.auth.sha256 email
      if name = "" then .reply invalidEmail
      else
        .await (.review .invite
          { key := ⟨S.cfg.namespaceName, name⟩
            spec := { email := email, role := role, state := stateEnabled, passwordAuth := passwordDisabled } })

def handleInviteLink (cookie : Option τ) (body : Option String) : Outcome :=
  match adminUser S items now cookie, body with
  | .error r, _ => .reply r
  | .ok _, none => .reply invalidRequest
  | .ok _, some email => .await (.linkAccount email)

/-- The account may be given a first credential. -/
def spendable (u : FrameUser) : Except Reply Unit :=
  if !requireIssuable u then .error accountDisabled
  else if !u.credentials.isEmpty || u.passwordHash ≠ "" then .error alreadyHasCredential
  else .ok ()

/-- `handleInviteLink` from its second list on. -/
def resumeInviteLink (email : String) : Outcome :=
  match byEmail items (utf8 email) with
  | .error .userNotFound => .reply { code := 404, body := "no account with that email" }
  | .error _ => .reply internalError
  | .ok u =>
    match spendable u.val with
    | .error r => .reply r
    | .ok () => .reply { code := 200, grants := [grantFor now purposeInvite S.cfg.inviteTTL u.val] }

def handleInviteAccept (body : Option τ) : Outcome :=
  match body with
  | none => .reply invalidRequest
  | some token =>
    match S.auth.codec.openToken purposeInvite now token with
    | none => .reply invalidInvitation
    | some email =>
      match byEmail items email with
      | .error _ => .reply invalidInvitation
      | .ok u =>
        match spendable u.val with
        | .error r => .reply r
        | .ok () => .reply { code := 204, grants := [grantFor now purposeEnrol enrolSessionTTL u.val] }

/-- `handleRevokeCredential`, on the account it is about. -/
def revokeFrom (u : Account) (credID : String) : Outcome :=
  match removeCredential u.val credID with
  | .error .userNotFound => .reply { code := 404, body := "no such credential" }
  | .error (.lastCredential _) =>
    .reply { code := 409, body := "refusing to remove this account's last credential: it would become unreachable" }
  | .error _ => .reply internalError
  | .ok obj => .await (.write (.remove credID) u obj)

/-- `handleRevokeCredential`, with `subjectOf`. -/
def handleRevokeCredential (cookie : Option τ) (user credID : String) : Outcome :=
  match sessionUser S items now cookie with
  | .error r => .reply r
  | .ok caller =>
    if user = "" || user = caller.val.spec.email then revokeFrom caller credID
    else if caller.val.spec.role ≠ roleAdmin then .reply forbidden
    else .await (.revokeSubject user credID)

/-- `handleRevokeCredential` from its second list on. -/
def resumeRevoke (email credID : String) : Outcome :=
  match byEmail items (utf8 email) with
  | .error _ => .reply { code := 404, body := "no such account" }
  | .ok u => revokeFrom u credID

def handleBootstrap (body : Option (String × String)) : Outcome :=
  match adminCount items with
  | .error _ => .reply notFound
  | .ok n =>
    if n > 0 then .reply notFound
    else if S.cfg.bootstrapSecret = "" then .reply notFound
    else
      match body with
      | none => .reply invalidRequest
      | some (token, email) =>
        if token ≠ S.cfg.bootstrapSecret then .reply unauthorized
        else if !validEmail email then .reply invalidRequest
        else
          let name := frameUserNameForEmail S.unicode S.auth.sha256 email
          if name = "" then .reply invalidRequest
          else
            .await (.review .bootstrap
              { key := ⟨S.cfg.namespaceName, name⟩, spec := { email := email, role := roleAdmin, passwordAuth := passwordDisabled } })

/-- A request up to its first call that is not its first list. -/
def start : Request τ → Outcome
  | .bootstrap body => handleBootstrap S items body
  | .token cookie => handleToken S items now cookie
  | .loginBegin entropy => handleLoginBegin S now entropy
  | .loginFinish challenge body => handleLoginFinish S items now challenge body
  | .registerBegin cookie entropy => handleRegisterBegin S items now cookie entropy
  | .registerFinish cookie challenge label body addedAt => handleRegisterFinish S items now cookie challenge label body addedAt
  | .invite cookie body => handleInvite S items now cookie body
  | .inviteLink cookie body => handleInviteLink S items now cookie body
  | .inviteAccept body => handleInviteAccept S items now body
  | .revokeCredential cookie user credID => handleRevokeCredential S items now cookie user credID

end

/-! ## The world -/

/-- What was done, in order; `wrote` is a write that is not the server's. -/
inductive Event where
  | sealed (s : Sealing) (subject : Option Key)
  | minted (held : List Sealing) (token : IDToken)
  | created (route : Route) (held : List Sealing) (key : Key)
  | enrolled (via : Purpose) (key : Key) (before : List WebAuthnCredential) (cred : WebAuthnCredential)
  | counted (key : Key) (credID : String) (count : UInt32)
  | removed (key : Key) (credID : String)
  | wrote (key : Key) (left : Option FrameUser)
  deriving DecidableEq

/-- A request in progress: the tokens that whoever makes it holds, and where it waits. -/
structure Ticket where
  held : List Sealing
  task : Task

structure World where
  users : Directory
  pending : List Ticket := []
  log : List Event := []

def World.sealings (w : World) : List Sealing :=
  w.log.filterMap fun
    | .sealed s _ => some s
    | _ => none

/-- A request comes in; one in progress is answered or given up; or somebody else writes. -/
inductive Action (τ : Type) where
  | request (held : List Sealing) (r : Request τ) (items : Except String (List Account)) (now : Instant)
  | proceed (i : Nat) (items : Except String (List Account)) (now : Instant) (ok : Bool)
  | abandon (i : Nat)
  | outside (req : Option AdmissionRequest) (w : Write)

/-- The API server's answer to a list: the accounts as they are, in some order, or an error. -/
def fits (d : Directory) : Except String (List Account) → Bool
  | .error _ => true
  | .ok items => items.isPerm d.live.items

/-- Who the API server takes `authd` for. -/
def serviceAccount (ns : String) : AdmissionRequest where
  username := "system:serviceaccount:" ++ ns ++ ":cluster-control-auth"
  groups := ["system:serviceaccounts", "system:serviceaccounts:" ++ ns, "system:authenticated"]

def Reply.events (held : List Sealing) (r : Reply) : List Event :=
  (r.grants.map fun g => .sealed g.1 g.2) ++ (r.minted.map fun t => Event.minted held t).toList

def StatusWrite.event (key : Key) (before : List WebAuthnCredential) : StatusWrite → Event
  | enrol via cred => .enrolled via key before cred
  | count cred => .counted key (encodeID cred.id) cred.signCount
  | remove credID => .removed key credID

/-- What a create is answered if there is an account of that name. -/
def Route.taken : Route → Reply
  | bootstrap => internalError
  | invite => { code := 409, body := "an account with that name already exists" }

/-- What follows a create: the session of the first admin, or an invitation. -/
def Route.created {τ σ : Type} (S : Server τ σ) (now : Instant) (user : FrameUser) : Route → Reply
  | bootstrap => { code := 204, grants := [grantFor now purposeSession S.cfg.sessionTTL user] }
  | invite => { code := 200, grants := [grantFor now purposeInvite S.cfg.inviteTTL user] }

def StatusWrite.failed : StatusWrite → Reply
  | enrol _ _ => registrationFailed
  | count _ => unauthorized
  | remove _ => internalError

def StatusWrite.written {τ σ : Type} (S : Server τ σ) (now : Instant) (u : FrameUser) : StatusWrite → Reply
  | enrol _ _ => { code := 204 }
  | count _ =>
    if requireIssuable u then { code := 204, grants := [grantFor now purposeSession S.cfg.sessionTTL u] } else unauthorized
  | remove _ => { code := 204 }

namespace World

def answer (w : World) (held : List Sealing) (r : Reply) : World := { w with log := w.log ++ r.events held }

/-- A request has come to a reply or to its next call. -/
def outcome (w : World) (held : List Sealing) : Outcome → World × List Reply
  | .reply r => (w.answer held r, [r])
  | .await task => ({ w with pending := w.pending ++ [⟨held, task⟩] }, [])

variable {τ σ : Type} (S : Server τ σ)

def create (w : World) (held : List Sealing) (now : Instant) (ok : Bool) (route : Route) (user : FrameUser) : World × List Reply :=
  if !ok then (w, [internalError])
  else if (w.users.value? user.key).isSome then (w, [route.taken])
  else
    let r := route.created S now user
    ({ w with users := w.users.create user, log := w.log ++ .created route held user.key :: r.events held }, [r])

/-- `Status().Update`. -/
def write (w : World) (held : List Sealing) (now : Instant) (ok : Bool) (op : StatusWrite) (base : Account) (obj : FrameUser) :
    World × List Reply :=
  if ok && decide (w.users.Current base) then
    let before := ((w.users.value? base.val.key).map (·.credentials)).getD []
    let r := op.written S now base.val
    ({ w with
        users := w.users.modify base.val.key
          (fun u => { u with passwordHash := obj.passwordHash, credentials := obj.credentials }) fun _ => rfl
        log := w.log ++ op.event base.val.key before :: r.events held }, [r])
  else (w, [op.failed])

/-- A request goes on from the call it waits at. -/
def resume (w : World) (t : Ticket) (items : Except String (List Account)) (now : Instant) (ok : Bool) : World × List Reply :=
  match t.task with
  | .inviteExists email role => w.outcome t.held (resumeInvite S (list S.cfg.namespaceName items) email role)
  | .linkAccount email => w.outcome t.held (resumeInviteLink S (list S.cfg.namespaceName items) now email)
  | .revokeSubject email credID => w.outcome t.held (resumeRevoke (list S.cfg.namespaceName items) email credID)
  | .review route user =>
    w.outcome t.held
      (match validateCreate S.unicode (some (serviceAccount S.cfg.namespaceName)) (items.map (·.map Stamped.val)) user with
      | .error _ => .reply internalError
      | .ok () => .await (.create route user))
  | .create route user => w.create S t.held now ok route user
  | .write op base obj => w.write S t.held now ok op base obj

/-- A step, and the reply that is made in it. -/
def serve (w : World) : Action τ → World × List Reply
  | .request held r items now =>
    if fits w.users items then w.outcome held (start S (list S.cfg.namespaceName items) now r) else (w, [])
  | .proceed i items now ok =>
    match w.pending[i]? with
    | none => (w, [])
    | some t =>
      if fits w.users items then ({ w with pending := w.pending.eraseIdx i } : World).resume S t items now ok else (w, [])
  | .abandon i => ({ w with pending := w.pending.eraseIdx i }, [])
  | .outside req wr =>
    let users := Accounts.write S.unicode w.users (req, wr)
    ({ w with users := users, log := w.log ++ [.wrote wr.key (users.value? wr.key)] }, [])

end World

end FrameOperator.Authd
