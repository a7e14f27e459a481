import FrameOperator.Accounts.Types
import FrameOperator.Authd.Codec

/-!
# The store and the ceremonies

`Store` (`internal/authd/store.go`) and `Authenticator` (`internal/authd/webauthn.go`). A status is written later, and only over the
version that was read.

The library that checks the ceremonies, `go-webauthn`, is a parameter, with the one law that a new credential has the ID which the
authenticator presents.
-/

namespace FrameOperator.Authd

open Accounts
open V1beta1 (WebAuthnCredential)

/-- An account as a request has read it, at its revision. -/
abbrev Account : Type := Stamped FrameUser

inductive StoreError where
  | userNotFound
  | lastCredential (email : String)
  | alreadyEnrolled (id : String)
  | listing (err : String)

def StoreError.text : StoreError → String
  | userNotFound => "no such user"
  | lastCredential email => "refusing to remove an account's last credential: " ++ email ++ " would become unreachable"
  | alreadyEnrolled id => "credential " ++ id ++ " is already enrolled"
  | listing err => "listing users: " ++ err

/-- `Store.list`: the accounts of the served namespace, of what the API server answers. -/
def list (ns : String) (items : Except String (List Account)) : Except StoreError (List Account) :=
  match items with
  | .error err => .error (.listing err)
  | .ok items => .ok (items.filter (·.val.key.namespaceName = ns))

/-- `Store.ByEmail`: the first account with exactly this address. -/
def byEmail (items : Except StoreError (List Account)) (email : Bytes) : Except StoreError Account :=
  match items with
  | .error err => .error err
  | .ok items =>
    match items.find? (utf8 ·.val.spec.email = email) with
    | some u => .ok u
    | none => .error .userNotFound

/-- `Store.ByCredentialID`: the first account with a credential of this ID. -/
def byCredentialID (items : Except StoreError (List Account)) (credID : String) : Except StoreError Account :=
  match items with
  | .error err => .error err
  | .ok items =>
    match items.find? (·.val.credentials.any (·.id = credID)) with
    | some u => .ok u
    | none => .error .userNotFound

/-- `Store.AdminCount`. -/
def adminCount (items : Except StoreError (List Account)) : Except StoreError Nat :=
  match items with
  | .error err => .error err
  | .ok items => .ok (items.filter (·.val.spec.role = roleAdmin)).length

/-- `Store.AddCredential`, up to the write: an ID is refused only if this account has it. -/
def addCredential (u : FrameUser) (cred : WebAuthnCredential) : Except StoreError FrameUser :=
  if u.credentials.any (·.id = cred.id) then .error (.alreadyEnrolled cred.id)
  else .ok { u with credentials := u.credentials ++ [cred] }

def setSignCount (credID : String) (count : UInt32) : List WebAuthnCredential → List WebAuthnCredential
  | [] => []
  | c :: cs => if c.id = credID then { c with signCount := count } :: cs else c :: setSignCount credID count cs

/-- `Store.UpdateSignCount`, up to the write. -/
def updateSignCount (u : FrameUser) (credID : String) (count : UInt32) : Except StoreError FrameUser :=
  if u.credentials.any (·.id = credID) then .ok { u with credentials := setSignCount credID count u.credentials }
  else .error .userNotFound

/-- `Store.RemoveCredential`, up to the write: the last credential of an account is kept. -/
def removeCredential (u : FrameUser) (credID : String) : Except StoreError FrameUser :=
  let kept := u.credentials.filter (·.id ≠ credID)
  if !u.credentials.any (·.id = credID) then .error .userNotFound
  else if kept = [] then .error (.lastCredential u.spec.email)
  else .ok { u with credentials := kept }

/-! ## WebAuthn -/

/-- `webauthn.Credential`, as far as the store keeps it. -/
structure Credential where
  id : Bytes
  publicKey : Bytes
  signCount : UInt32
  cloneWarning : Bool := false
  userVerified : Bool := false
  deriving DecidableEq

/-- What a `webauthn.User` says of itself. -/
structure WebAuthnUser where
  id : Bytes
  name : String
  displayName : String
  credentials : List Credential

/-- `webauthn.SessionData`: whether the user has to be verified, and the rest. -/
structure SessionData (σ : Type) where
  userVerification : String
  rest : σ

/-- `go-webauthn`; `discoverable` is what is checked of an assertion before the account is looked up. -/
structure WebAuthn (σ : Type) where
  marshal : SessionData σ → Bytes
  unmarshal : Bytes → Except String (SessionData σ)
  beginRegistration : WebAuthnUser → String → Nat → Except String (SessionData σ)
  beginDiscoverableLogin : String → Nat → Except String (SessionData σ)
  parseCreation : Bytes → Except String Bytes
  createCredential : WebAuthnUser → SessionData σ → Bytes → Except String Credential
  parseAssertion : Bytes → Except String Bytes
  discoverable : SessionData σ → Bytes → Except String Unit
  validateLogin : WebAuthnUser → SessionData σ → Bytes → Except String Credential
  createCredential_id : ∀ user session response cred id, createCredential user session response = .ok cred →
    parseCreation response = .ok id → cred.id = id

/-- `base64.RawURLEncoding.EncodeToString` of a credential ID. -/
def encodeID (id : Bytes) : String := String.ofList (rawURLEncoding.encode id)

/-- A stored credential as the library takes it; one that cannot be decoded is left out. -/
def toCredential (c : WebAuthnCredential) : Option Credential := do
  let id ← rawURLEncoding.decode c.id.toList
  let publicKey ← rawStdEncoding.decode c.publicKey.toList
  return { id := id, publicKey := publicKey, signCount := c.signCount }

def webauthnUser (u : FrameUser) : WebAuthnUser where
  id := utf8 u.key.name
  name := u.spec.email
  displayName := u.spec.email
  credentials := u.credentials.filterMap toCredential

def verificationRequired : String := "required"
def verificationPreferred : String := "preferred"

def withoutUVRequirement {σ : Type} (session : SessionData σ) : SessionData σ :=
  if session.userVerification = verificationRequired then { session with userVerification := verificationPreferred } else session

/-- `credentialFingerprint`. -/
def credentialFingerprint (sha256 : Bytes → Bytes) (rawID : Bytes) : String := String.ofList ((hexEncode (sha256 rawID)).take 12)

def errBadChallenge : String := "challenge is missing, expired or has been tampered with"
def errUserNotVerified : String := "authenticator did not verify the user"
def errCounterRegression : String := "authenticator sign counter did not advance"

/-- The library, the tokens of a ceremony, and whether the user has to be verified. -/
structure Authenticator (τ σ : Type) where
  web : WebAuthn σ
  codec : Codec τ
  requiresUV : Bool
  sha256 : Bytes → Bytes

section

variable {τ σ : Type} (a : Authenticator τ σ)

/-- `openSession`. -/
def openSession (now : Instant) (sealed : τ) : Except String (SessionData σ) :=
  match a.codec.openToken purposeChallenge now sealed with
  | none => .error errBadChallenge
  | some payload =>
    match a.web.unmarshal payload with
    | .error err => .error ("decoding challenge: " ++ err)
    | .ok session => .ok session

/-- `FinishRegistration`, up to `AddCredential`: the credential to enrol. -/
def finishRegistration (now : Instant) (u : FrameUser) (sealed : τ) (response : Bytes) (label : String) (addedAt : Time) :
    Except String WebAuthnCredential := do
  let session ← openSession a now sealed
  match a.web.parseCreation response with
  | .error err => .error ("parsing registration response: " ++ err)
  | .ok _ =>
    match a.web.createCredential (webauthnUser u) (withoutUVRequirement session) response with
    | .error err => .error ("verifying registration: " ++ err)
    | .ok cred =>
      if a.requiresUV && !cred.userVerified then
        .error (errUserNotVerified ++ ": registration of credential " ++ credentialFingerprint a.sha256 cred.id)
      else
        .ok { id := encodeID cred.id, publicKey := String.ofList (rawStdEncoding.encode cred.publicKey)
              signCount := cred.signCount, addedAt := addedAt, label := label }

/-- `FinishLogin` up to the counter: the account named, and its credential as checked. -/
def finishLogin (now : Instant) (items : Except StoreError (List Account)) (sealed : τ) (response : Bytes) :
    Except String (Account × Credential) := do
  let session ← openSession a now sealed
  match a.web.parseAssertion response with
  | .error err => .error ("parsing assertion: " ++ err)
  | .ok rawID =>
    match a.web.discoverable (withoutUVRequirement session) response with
    | .error err => .error ("verifying assertion: " ++ err)
    | .ok () =>
      match byCredentialID items (encodeID rawID) with
      | .error err => .error ("verifying assertion: " ++ err.text)
      | .ok u =>
        match a.web.validateLogin (webauthnUser u.val) (withoutUVRequirement session) response with
        | .error err => .error ("verifying assertion: " ++ err)
        | .ok cred =>
          if a.requiresUV && !cred.userVerified then
            .error (errUserNotVerified ++ ": credential " ++ credentialFingerprint a.sha256 cred.id)
          else .ok (u, cred)

/-- `recordLoginCounter`, up to the write. -/
def recordLoginCounter (u : FrameUser) (cred : Credential) : Except String FrameUser :=
  if cred.cloneWarning then
    .error (errCounterRegression ++ ": authenticator reported counter " ++ toString cred.signCount.toNat)
  else
    match updateSignCount u (encodeID cred.id) cred.signCount with
    | .error err => .error ("recording sign count: " ++ err.text)
    | .ok u' => .ok u'

end

end FrameOperator.Authd
