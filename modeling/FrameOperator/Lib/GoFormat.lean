import Mathlib.Algebra.Group.Nat.Defs
import Mathlib.Data.Int.Notation

/-!
# How Go prints and reads values

An instant is a number of nanoseconds since the Unix epoch. `Time.rfc3339` and `Time.rfc3339Nano` are layouts, `Duration.print` the
`String` method, `goQuote` the verb `%q`, `parseInt64` is `strconv.ParseInt` in base 10 and 64 bits.
-/

namespace FrameOperator

/-- An instant, in nanoseconds since the Unix epoch. -/
abbrev Time : Type := Int

abbrev Duration : Type := Int

/-- A number in decimal, padded with zeros on the left to at least `w` digits. -/
def padded (w n : Nat) : String :=
  let digits := toString n
  String.ofList (List.replicate (w - digits.length) '0') ++ digits

/-- The fraction `n / 10^w` after a decimal point, without trailing zeros, and nothing when it is zero. -/
def fraction (w n : Nat) : String :=
  if n = 0 then "" else "." ++ String.ofList ((padded w n).toList.reverse.dropWhile (· = '0')).reverse

namespace Time

def nanosPerSecond : Int := 1000000000

/-- The instant as a second since the epoch, rounded down. -/
def unix (t : Time) : Int := t / nanosPerSecond

/-- The calendar date of a day counted from the epoch: year, month and day, in the proleptic Gregorian calendar. -/
def civil (days : Int) : Int × Int × Int :=
  let z := days + 719468
  let era := z / 146097
  let doe := z - era * 146097
  let yoe := (doe - doe / 1460 + doe / 36524 - doe / 146096) / 365
  let doy := doe - (365 * yoe + yoe / 4 - yoe / 100)
  let mp := (5 * doy + 2) / 153
  let day := doy - (153 * mp + 2) / 5 + 1
  let month := if mp < 10 then mp + 3 else mp - 9
  let year := yoe + era * 400 + (if month ≤ 2 then 1 else 0)
  (year, month, day)

def dateTime (t : Time) : String :=
  let (year, month, day) := civil (t.unix / 86400)
  let second := t.unix % 86400
  padded 4 year.toNat ++ "-" ++ padded 2 month.toNat ++ "-" ++ padded 2 day.toNat ++ "T" ++
    padded 2 (second / 3600).toNat ++ ":" ++ padded 2 (second / 60 % 60).toNat ++ ":" ++ padded 2 (second % 60).toNat

/-- Go's `time.RFC3339`, in UTC. -/
def rfc3339 (t : Time) : String := t.dateTime ++ "Z"

/-- Go's `time.RFC3339Nano`, in UTC. -/
def rfc3339Nano (t : Time) : String := t.dateTime ++ fraction 9 (t % nanosPerSecond).toNat ++ "Z"

end Time

/-- Go's `Duration.Round`: to the nearest multiple, halves away from zero. -/
def Duration.round (d m : Duration) : Duration :=
  let r := (d.natAbs : Int) % m
  let abs := if r + r < m then d.natAbs - r else d.natAbs + (m - r)
  if d < 0 then -abs else abs

/-- Go's `Duration.String`. -/
def Duration.print (d : Duration) : String :=
  let u := d.natAbs
  let sign := if d < 0 then "-" else ""
  let body :=
    if u = 0 then "0s"
    else if u < 1000 then toString u ++ "ns"
    else if u < 1000000 then toString (u / 1000) ++ fraction 3 (u % 1000) ++ "µs"
    else if u < 1000000000 then toString (u / 1000000) ++ fraction 6 (u % 1000000) ++ "ms"
    else
      let seconds := u / 1000000000
      let s := toString (seconds % 60) ++ fraction 9 (u % 1000000000) ++ "s"
      let m := if seconds < 60 then "" else toString (seconds / 60 % 60) ++ "m"
      let h := if seconds < 3600 then "" else toString (seconds / 3600) ++ "h"
      h ++ m ++ s
  sign ++ body

def goQuoteChar (c : Char) : String :=
  match c.toNat with
  | 7 => "\\a"
  | 8 => "\\b"
  | 9 => "\\t"
  | 10 => "\\n"
  | 11 => "\\v"
  | 12 => "\\f"
  | 13 => "\\r"
  | 34 => "\\\""
  | 92 => "\\\\"
  | n =>
    if n < 32 ∨ n = 127 then
      "\\x" ++ String.ofList [Nat.digitChar (n / 16), Nat.digitChar (n % 16)]
    else String.ofList [c]

def goQuote (s : String) : String := "\"" ++ String.join (s.toList.map goQuoteChar) ++ "\""

/-- A non-empty list of decimal digits as a number. -/
def parseDigits (cs : List Char) : Option Nat :=
  if cs = [] then none
  else cs.foldl (fun acc c => acc.bind fun n => if c.isDigit then some (10 * n + (c.toNat - 48)) else none) (some 0)

/-- An optional sign and decimal digits, within the range of a signed 64-bit integer. -/
def parseInt64 (s : String) : Option Int :=
  match s.toList with
  | '-' :: ds => (parseDigits ds).bind fun n => if n ≤ 2 ^ 63 then some (-(n : Int)) else none
  | '+' :: ds => (parseDigits ds).bind fun n => if n < 2 ^ 63 then some (n : Int) else none
  | ds => (parseDigits ds).bind fun n => if n < 2 ^ 63 then some (n : Int) else none

end FrameOperator
