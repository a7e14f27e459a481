import FrameOperator.Lib.Bytes
import FrameOperator.Lib.GoFormat

/-!
# Sealed tokens

`ChallengeCodec` (`internal/authd/challenge.go`): a token is `<payload>.<signature>`, both in base64, where the payload is the
second until which the token is good, in eight bytes, and the data. The purpose is signed and not part of the token.

The signature is HMAC-SHA256 under the server's key, `tag` here. Go's `time.Time` counts seconds since the start of year 1 in 64
bits.
-/

namespace FrameOperator.Authd

/-! ## The clock -/

/-- A reading of the clock: seconds since the start of year 1, and nanoseconds. -/
structure Instant where
  sec : Int64
  nsec : Nat
  deriving DecidableEq

namespace Instant

def unixToInternal : Int64 := 62135596800

/-- `Time.Add`: a sum out of range is the nearest second in range. -/
def add (t : Instant) (d : Duration) : Instant :=
  let nanos := t.nsec + d
  let sec := t.sec.toInt + nanos / Time.nanosPerSecond
  { sec := Int64.ofInt
      (if sec > Int64.maxValue.toInt then Int64.maxValue.toInt else if sec < Int64.minValue.toInt then -Int64.maxValue.toInt else sec)
    nsec := (nanos % Time.nanosPerSecond).toNat }

/-- `Time.Unix`. -/
def unix (t : Instant) : Int64 := t.sec - unixToInternal

/-- `time.Unix(sec, 0)`. -/
def ofUnix (sec : Int64) : Instant := ⟨sec + unixToInternal, 0⟩

/-- `Time.After`. -/
def after (t u : Instant) : Bool := t.sec > u.sec || (t.sec = u.sec && t.nsec > u.nsec)

end Instant

/-! ## Tokens -/

abbrev Purpose : Type := Bytes

def purposeSession : Purpose := utf8 "session"
def purposeChallenge : Purpose := utf8 "challenge"
def purposeInvite : Purpose := utf8 "invite"
def purposeEnrol : Purpose := utf8 "enrol"

/-- A call of `Seal`, and the moment it is made at. -/
structure Sealing where
  purpose : Purpose
  data : Bytes
  ttl : Duration
  sealedAt : Instant
  deriving DecidableEq

/-- The last second that the token is good in. -/
def Sealing.second (s : Sealing) : Int64 := (s.sealedAt.add s.ttl).unix

/-- What `Seal` makes, and what `Open` finds in a token at a moment. -/
structure Codec (τ : Type) where
  sealToken : Sealing → τ
  openToken : Purpose → Instant → τ → Option Bytes

/-- Tokens that are what they say, and open under their purpose until their second is over. -/
def idealCodec : Codec Sealing where
  sealToken s := s
  openToken purpose now s := if s.purpose = purpose ∧ now.after (.ofUnix s.second) = false then some s.data else none

/-- `base64.RawURLEncoding`. -/
def rawURLEncoding : Alphabet Char where
  symbol i := Char.ofNat (symbolCode 45 95 i)
  value c := codeValue 45 95 c.toNat
  skips c := isLineEnd c.toNat
  value_symbol := by decide +kernel
  skips_symbol := by decide +kernel

/-- `base64.RawStdEncoding`. -/
def rawStdEncoding : Alphabet Char where
  symbol i := Char.ofNat (symbolCode 43 47 i)
  value c := codeValue 43 47 c.toNat
  skips c := isLineEnd c.toNat
  value_symbol := by decide +kernel
  skips_symbol := by decide +kernel

/-- `base64.RawURLEncoding`, for strings that are kept as bytes. -/
def rawURLBytes : Alphabet UInt8 where
  symbol i := UInt8.ofNat (symbolCode 45 95 i)
  value b := codeValue 45 95 b.toNat
  skips b := isLineEnd b.toNat
  value_symbol := by decide +kernel
  skips_symbol := by decide +kernel

def dot : UInt8 := 46

/-- `strings.Cut(s, ".")`. -/
def cut (t : Bytes) : Option (Bytes × Bytes) :=
  match t.dropWhile (· ≠ dot) with
  | [] => none
  | _ :: rest => some (t.takeWhile (· ≠ dot), rest)

/-- The first part of a token. -/
def Sealing.encoded (s : Sealing) : Bytes := rawURLBytes.encode (putUint64 s.second.toUInt64 ++ s.data)

/-- What is signed. -/
def message (purpose : Purpose) (encoded : Bytes) : Bytes := purpose ++ 0 :: encoded

def Sealing.message (s : Sealing) : Bytes := Authd.message s.purpose s.encoded

section

variable (tag : Bytes → Bytes)

/-- `ChallengeCodec.Seal`. -/
def sealToken (s : Sealing) : Bytes := s.encoded ++ dot :: rawURLBytes.encode (tag s.message)

/-- `ChallengeCodec.Open`. -/
def openToken (purpose : Purpose) (now : Instant) (token : Bytes) : Option Bytes := do
  let (encoded, sig) ← cut token
  let gotSig ← rawURLBytes.decode sig
  if gotSig ≠ tag (message purpose encoded) then none
  else
    let payload ← rawURLBytes.decode encoded
    if payload.length < 8 then none
    else if now.after (.ofUnix (uint64 payload).toInt64) then none
    else some (payload.drop 8)

def challengeCodec : Codec Bytes := ⟨sealToken tag, openToken tag⟩

end

end FrameOperator.Authd
