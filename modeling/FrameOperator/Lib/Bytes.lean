import Mathlib.Data.List.Lex
import Mathlib.Data.List.Nodup
import Mathlib.Tactic.Common

/-!
# Bytes

The bytes of a string, a 64-bit number in big-endian order, and base64 without padding over any alphabet of 64 symbols (Go's
`RawStdEncoding` and `RawURLEncoding`). A text of Go is any bytes.

The decoder is Go's, which passes over line ends and ignores spare bits: more texts are decoded than are written (`decode_encode`).
-/

namespace FrameOperator

universe u

abbrev Bytes : Type := List UInt8

def utf8 (s : String) : Bytes := s.toByteArray.data.toList

theorem utf8_inj {s t : String} (h : utf8 s = utf8 t) : s = t :=
  String.toByteArray_inj.mp (ByteArray.ext (Array.toList_inj.mp h))

/-- Go's order of texts: by the first byte at which they differ. -/
def Bytes.le (a b : Bytes) : Prop := a.map UInt8.toNat ≤ b.map UInt8.toNat

instance : DecidableRel Bytes.le := fun a b => inferInstanceAs (Decidable (a.map UInt8.toNat ≤ b.map UInt8.toNat))

theorem Bytes.le_iff {a b : Bytes} : a.le b ↔ a.map UInt8.toNat ≤ b.map UInt8.toNat := Iff.rfl

instance : IsTrans Bytes Bytes.le := ⟨fun _ _ _ hab hbc => Bytes.le_iff.mpr (le_trans (Bytes.le_iff.mp hab) (Bytes.le_iff.mp hbc))⟩

instance : Std.Antisymm Bytes.le :=
  ⟨fun _ _ hab hba =>
    List.map_injective_iff.mpr (fun _ _ => UInt8.toNat_inj.mp) (le_antisymm (Bytes.le_iff.mp hab) (Bytes.le_iff.mp hba))⟩

instance : Std.Total Bytes.le := ⟨fun a b => le_total (a.map UInt8.toNat) (b.map UInt8.toNat)⟩

/-! ## Texts that may not be UTF-8 -/

/-- Whether a text starts with continuation bytes, the first of them in the bounds given. -/
def continues (low high : UInt8) : Nat → Bytes → Bool
  | 0, _ => true
  | _ + 1, [] => false
  | n + 1, b :: rest => (low ≤ b && b ≤ high) && continues 0x80 0xBF n rest

/-- The length of the rune that a text starts with, if it starts with a whole one (`utf8.DecodeRuneInString`). -/
def runeLength : Bytes → Option Nat
  | [] => none
  | b :: rest =>
    if b < 0x80 then some 1
    else if b < 0xC2 then none
    else if b < 0xE0 then if continues 0x80 0xBF 1 rest then some 2 else none
    else if b < 0xF0 then
      -- neither an overlong form nor a surrogate
      if continues (if b = 0xE0 then 0xA0 else 0x80) (if b = 0xED then 0x9F else 0xBF) 2 rest then some 3 else none
    else if b < 0xF5 then
      -- neither an overlong form nor beyond the last code point
      if continues (if b = 0xF0 then 0x90 else 0x80) (if b = 0xF4 then 0x8F else 0xBF) 3 rest then some 4 else none
    else none

/-- `utf8.ValidString` of what follows the bytes of a rune that are still to come. -/
def validFrom : Nat → Bytes → Bool
  | _, [] => true
  | n + 1, _ :: rest => validFrom n rest
  | 0, b :: rest =>
    match runeLength (b :: rest) with
    | some n => validFrom (n - 1) rest
    | none => false

def validUTF8 (bs : Bytes) : Bool := validFrom 0 bs

/-- `strings.ToValidUTF8` of what follows: a run of bytes that are of no rune is replaced once. -/
def toValidFrom (replacement : Bytes) : Nat → Bool → Bytes → Bytes
  | _, _, [] => []
  | n + 1, _, b :: rest => b :: toValidFrom replacement n false rest
  | 0, invalid, b :: rest =>
    match runeLength (b :: rest) with
    | some n => b :: toValidFrom replacement (n - 1) false rest
    | none => (if invalid then [] else replacement) ++ toValidFrom replacement 0 true rest

def toValidUTF8 (replacement bs : Bytes) : Bytes := toValidFrom replacement 0 false bs

/-! ## Numbers -/

/-- `binary.BigEndian.PutUint64`: the eight bytes of a number, the highest first. -/
def putUint64 (n : UInt64) : Bytes :=
  [56, 48, 40, 32, 24, 16, 8, 0].map fun shift => UInt8.ofNat (n.toNat >>> shift)

/-- `binary.BigEndian.Uint64`: the number of the first eight bytes. -/
def uint64 (bs : Bytes) : UInt64 :=
  UInt64.ofNat ((bs.take 8).foldl (fun n b => n * 256 + b.toNat) 0)

@[simp] theorem length_putUint64 (n : UInt64) : (putUint64 n).length = 8 := rfl

theorem read_byte (n : Nat) {above shift : Nat} (h : above = shift + 8) : (n >>> above) * 256 + (n >>> shift) % 256 = n >>> shift := by
  have hbyte : n >>> above = (n >>> shift) / 256 := by
    rw [h, Nat.shiftRight_add]
    exact Nat.shiftRight_eq_div_pow _ 8
  rw [hbyte]
  exact Nat.div_add_mod' _ 256

/-- A number that has been read down to some place is read on down to the last byte. -/
theorem read_bytes (n : Nat) (shifts : List Nat) (above : Nat) (h : (above :: shifts).IsChain fun above shift => above = shift + 8) :
    (shifts.map fun shift => UInt8.ofNat (n >>> shift)).foldl (fun m b => m * 256 + b.toNat) (n >>> above) =
      n >>> shifts.getLastD above := by
  induction shifts generalizing above with
  | nil => rfl
  | cons shift shifts ih =>
    rw [List.isChain_cons_cons] at h
    have hbyte : (n >>> above) * 256 + (UInt8.ofNat (n >>> shift)).toNat = n >>> shift := by
      rw [UInt8.toNat_ofNat']
      exact read_byte n h.1
    rw [List.map_cons, List.foldl_cons, hbyte, ih shift h.2, List.getLastD_cons]

theorem uint64_putUint64 (n : UInt64) (bs : Bytes) : uint64 (putUint64 n ++ bs) = n := by
  have hzero : n.toNat >>> 64 = 0 := by
    rw [Nat.shiftRight_eq_div_pow]
    exact Nat.div_eq_of_lt n.toNat_lt
  have hread := read_bytes n.toNat [56, 48, 40, 32, 24, 16, 8, 0] 64 (by simp)
  rw [hzero, List.getLastD_cons] at hread
  have htake : (putUint64 n ++ bs).take (putUint64 n).length = putUint64 n := List.take_left
  rw [length_putUint64] at htake
  rw [uint64, htake, putUint64, hread]
  exact UInt64.ofNat_toNat

/-! ## Base64 -/

/-- An alphabet of 64 symbols among the characters `χ`, and the characters that a decoder passes over. -/
structure Alphabet (χ : Type u) where
  symbol : Fin 64 → χ
  value : χ → Option (Fin 64)
  skips : χ → Bool
  value_symbol : ∀ i, value (symbol i) = some i
  skips_symbol : ∀ i, skips (symbol i) = false

/-- The code of a symbol in the alphabets of base64: the letters, the digits, and two more. -/
def symbolCode (c62 c63 : Nat) (i : Fin 64) : Nat :=
  if i.val < 26 then 65 + i.val
  else if i.val < 52 then 71 + i.val
  else if i.val < 62 then i.val - 4
  else if i.val = 62 then c62
  else c63

def codeValue (c62 c63 n : Nat) : Option (Fin 64) :=
  if 65 ≤ n ∧ n < 91 then some (Fin.ofNat 64 (n - 65))
  else if 97 ≤ n ∧ n < 123 then some (Fin.ofNat 64 (n - 71))
  else if 48 ≤ n ∧ n < 58 then some (Fin.ofNat 64 (n + 4))
  else if n = c62 then some 62
  else if n = c63 then some 63
  else none

def isLineEnd (n : Nat) : Bool := n = 13 || n = 10

/-- The symbols of bytes: three are four symbols, and a rest of one or two is one more. -/
def sextets : Bytes → List (Fin 64)
  | [] => []
  | [x] => [Fin.ofNat 64 (x.toNat / 4), Fin.ofNat 64 (x.toNat % 4 * 16)]
  | [x, y] => [Fin.ofNat 64 (x.toNat / 4), Fin.ofNat 64 (x.toNat % 4 * 16 + y.toNat / 16), Fin.ofNat 64 (y.toNat % 16 * 4)]
  | x :: y :: z :: rest =>
    Fin.ofNat 64 (x.toNat / 4) :: Fin.ofNat 64 (x.toNat % 4 * 16 + y.toNat / 16) ::
      Fin.ofNat 64 (y.toNat % 16 * 4 + z.toNat / 64) :: Fin.ofNat 64 (z.toNat % 64) :: sextets rest

/-- The bytes of a text of symbols. One symbol alone is no byte. -/
def octets : List (Fin 64) → Option Bytes
  | [] => some []
  | [_] => none
  | [a, b] => some [UInt8.ofNat (a * 4 + b / 16)]
  | [a, b, c] => some [UInt8.ofNat (a * 4 + b / 16), UInt8.ofNat (b % 16 * 16 + c / 4)]
  | a :: b :: c :: d :: rest =>
    (octets rest).map fun bs =>
      UInt8.ofNat (a * 4 + b / 16) :: UInt8.ofNat (b % 16 * 16 + c / 4) :: UInt8.ofNat (c % 4 * 64 + d) :: bs

namespace Alphabet

variable {χ : Type u} (A : Alphabet χ)

/-- `EncodeToString` of an encoding without padding. -/
def encode (bs : Bytes) : List χ := (sextets bs).map A.symbol

/-- `DecodeString` of an encoding without padding. -/
def decode (cs : List χ) : Option Bytes := ((cs.filter fun c => !A.skips c).mapM A.value).bind octets

end Alphabet

/-- The bytes that the symbols of one, two and three bytes come back to. -/
theorem octet_first (x : UInt8) (n : Nat) (hn : n < 16) :
    UInt8.ofNat ((Fin.ofNat 64 (x.toNat / 4)).val * 4 + (Fin.ofNat 64 (x.toNat % 4 * 16 + n)).val / 16) = x := by
  have hx : x.toNat < 256 := x.toNat_lt
  apply UInt8.toNat_inj.mp
  simp only [Fin.val_ofNat, UInt8.toNat_ofNat']
  omega

theorem octet_second (x y : UInt8) (n : Nat) (hn : n < 4) :
    UInt8.ofNat ((Fin.ofNat 64 (x.toNat % 4 * 16 + y.toNat / 16)).val % 16 * 16 +
      (Fin.ofNat 64 (y.toNat % 16 * 4 + n)).val / 4) = y := by
  have hy : y.toNat < 256 := y.toNat_lt
  apply UInt8.toNat_inj.mp
  simp only [Fin.val_ofNat, UInt8.toNat_ofNat']
  omega

theorem octet_third (y z : UInt8) :
    UInt8.ofNat ((Fin.ofNat 64 (y.toNat % 16 * 4 + z.toNat / 64)).val % 4 * 64 + (Fin.ofNat 64 (z.toNat % 64)).val) = z := by
  have hz : z.toNat < 256 := z.toNat_lt
  apply UInt8.toNat_inj.mp
  simp only [Fin.val_ofNat, UInt8.toNat_ofNat']
  omega

theorem octets_sextets (bs : Bytes) : octets (sextets bs) = some bs := by
  fun_induction sextets bs with
  | case1 => rfl
  | case2 x =>
    have h := octet_first x 0 (by decide)
    rw [Nat.add_zero] at h
    rw [octets, h]
  | case3 x y =>
    have hy : y.toNat < 256 := y.toNat_lt
    have h := octet_second x y 0 (by decide)
    rw [Nat.add_zero] at h
    rw [octets, octet_first x _ (by omega), h]
  | case4 x y z rest ih =>
    have hy : y.toNat < 256 := y.toNat_lt
    have hz : z.toNat < 256 := z.toNat_lt
    rw [octets, ih, Option.map_some, octet_first x _ (by omega), octet_second x y _ (by omega), octet_third]

namespace Alphabet

variable {χ : Type u} {A : Alphabet χ}

theorem mem_encode {bs : Bytes} {c : χ} (h : c ∈ A.encode bs) : ∃ i, c = A.symbol i := by
  obtain ⟨i, -, rfl⟩ := List.mem_map.mp h
  exact ⟨i, rfl⟩

theorem decode_encode (bs : Bytes) : A.decode (A.encode bs) = some bs := by
  have hfilter : (A.encode bs).filter (fun c => !A.skips c) = A.encode bs := by
    refine List.filter_eq_self.mpr fun c hc => ?_
    obtain ⟨i, rfl⟩ := mem_encode hc
    rw [A.skips_symbol, Bool.not_false]
  have hvalues : ∀ is : List (Fin 64), (is.map A.symbol).mapM A.value = some is := by
    intro is
    induction is with
    | nil => rfl
    | cons i is ih => simp [ih, A.value_symbol]
  rw [decode, hfilter, encode, hvalues, Option.bind_some, octets_sextets]

theorem isSome_of_mapM {f : χ → Option (Fin 64)} {cs : List χ} {is : List (Fin 64)} (h : cs.mapM f = some is) :
    ∀ c ∈ cs, (f c).isSome = true := by
  induction cs generalizing is with
  | nil => simp
  | cons c cs ih =>
    rw [List.mapM_cons] at h
    obtain ⟨i, hi, h⟩ := Option.bind_eq_some_iff.mp h
    obtain ⟨is', hr, -⟩ := Option.bind_eq_some_iff.mp h
    intro c' hc
    rcases List.mem_cons.mp hc with rfl | hc
    · rw [hi, Option.isSome_some]
    · exact ih hr c' hc

/-- What is decoded is written in the symbols and what is passed over. -/
theorem decode_mem {cs : List χ} {bs : Bytes} (h : A.decode cs = some bs) :
    ∀ c ∈ cs, A.skips c = true ∨ (A.value c).isSome = true := by
  intro c hc
  cases hs : A.skips c with
  | true => exact .inl rfl
  | false =>
    obtain ⟨is, hm, -⟩ := Option.bind_eq_some_iff.mp h
    have hkeep : c ∈ cs.filter fun c => !A.skips c := List.mem_filter.mpr ⟨hc, by rw [hs]; rfl⟩
    exact .inr (isSome_of_mapM hm c hkeep)

end Alphabet

end FrameOperator
