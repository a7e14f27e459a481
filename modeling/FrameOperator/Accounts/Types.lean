import FrameOperator.Api.Versions
import FrameOperator.Lib.Bytes
import FrameOperator.Lib.Versioned

/-!
# Accounts

A FrameUser as the admission webhook (`internal/webhook/frame/v1beta1/frameuser_webhook.go`) and `authd` (`internal/authd`) see it.
The case mappings of runes and SHA-256 are Go's; nothing here depends on what they are.
-/

namespace FrameOperator.Accounts

open Versioned

open V1beta1 (FrameUserSpec WebAuthnCredential)

def roleAdmin : String := "admin"
def roleOperator : String := "operator"
def roleViewer : String := "viewer"

def passwordDisabled : String := "disabled"

def stateEnabled : String := "enabled"
def stateDisabled : String := "disabled"

/-- What names an account: its namespace and its name in it. -/
structure Key where
  namespaceName : String
  name : String
  deriving DecidableEq

structure FrameUser where
  key : Key
  spec : FrameUserSpec
  passwordHash : String := ""
  credentials : List WebAuthnCredential := []
  deriving DecidableEq

/-- `isEnabled`: the empty state is enabled. -/
def isEnabled (state : String) : Bool := state ≠ stateDisabled

/-- An account that can sign in and hold the cluster's rights. -/
def FrameUser.enabledAdmin (u : FrameUser) : Bool := u.spec.role = roleAdmin && isEnabled u.spec.state

/-- The accounts of the cluster. -/
abbrev Directory : Type := Versioned FrameUser FrameUser.key

/-- The accounts as a list names them. -/
def Directory.users (d : Directory) : List FrameUser := d.live.items.map Stamped.val

theorem Directory.mem_users {d : Directory} {u : FrameUser} : u ∈ d.users ↔ d.value? u.key = some u := by
  constructor
  · intro h
    obtain ⟨a, ha, rfl⟩ := List.mem_map.mp h
    rw [value?, get?, Keyed.get?_of_mem ha, Option.map_some]
  · intro h
    obtain ⟨a, ha, rfl⟩ := Option.map_eq_some_iff.mp h
    exact List.mem_map.mpr ⟨a, Keyed.mem_of_get? ha, rfl⟩

theorem Directory.key_of_value? {d : Directory} {k : Key} {u : FrameUser} (h : d.value? k = some u) : u.key = k := by
  obtain ⟨r, hr⟩ := value?_eq_some h
  exact (past_of_get? hr).2

/-! ## Addresses -/

/-- Go's `unicode`: the lower case of a rune, and one rune for each orbit of folding. -/
structure Unicode where
  toLower : Char → Char
  fold : Char → Char

/-- The mappings of the ASCII letters. -/
def Unicode.ascii : Unicode where
  toLower := Char.toLower
  fold := Char.toLower

/-- `strings.EqualFold`. -/
def Unicode.equalFold (U : Unicode) (s t : String) : Bool := s.toList.map U.fold = t.toList.map U.fold

theorem Unicode.equalFold_self (U : Unicode) (s : String) : U.equalFold s s = true := decide_eq_true rfl

theorem Unicode.equalFold_symm {U : Unicode} {s t : String} (h : U.equalFold s t = true) : U.equalFold t s = true :=
  decide_eq_true (of_decide_eq_true h).symm

/-- A part of an address: not empty, without `@` and without white space. -/
def isAddressPart (cs : List Char) : Bool :=
  !cs.isEmpty && cs.all fun c => c ≠ '@' && !(['\t', '\n', '\x0c', '\r', ' '].contains c)

/-- `emailPattern`: two parts around one `@`. -/
def emailPattern (email : String) : Bool :=
  match email.toList.span (· ≠ '@') with
  | (localPart, _ :: domain) => isAddressPart localPart && isAddressPart domain
  | (_, []) => false

def maxEmailLength : Nat := 254

/-- An address that the routes which create accounts take. -/
def validEmail (email : String) : Bool := emailPattern email && email.utf8ByteSize ≤ maxEmailLength

def hexDigit (n : Nat) : Char := if n < 10 then Char.ofNat (48 + n) else Char.ofNat (87 + n)

/-- `hex.EncodeToString`. -/
def hexEncode (bs : Bytes) : List Char := bs.flatMap fun b => [hexDigit (b.toNat / 16), hexDigit (b.toNat % 16)]

def isTrimmed (c : Char) : Bool := c = '-' || c = '.'

/-- `strings.TrimRight(s, "-.")`. -/
def trimRight (cs : List Char) : List Char := (cs.reverse.dropWhile isTrimmed).reverse

/-- `frameUserNameForEmail`: the readable part of the name is cut to leave room for the hash. -/
def frameUserNameForEmail (U : Unicode) (sha256 : Bytes → Bytes) (email : String) : String :=
  let lower := email.toList.map U.toLower
  let spelled := lower.flatMap fun c => if c = '@' then "-at-".toList else [c]
  let sanitized := spelled.map fun c =>
    if ('a' ≤ c && c ≤ 'z') || ('0' ≤ c && c ≤ '9') || c = '-' || c = '.' then c else '-'
  let base := trimRight (sanitized.dropWhile isTrimmed)
  if base = [] then ""
  else
    let suffix := '-' :: (hexEncode (sha256 (utf8 (String.ofList lower)))).take 8
    let base := if base.length + suffix.length > 64 then trimRight (base.take (64 - suffix.length)) else base
    String.ofList (base ++ suffix)

end FrameOperator.Accounts
