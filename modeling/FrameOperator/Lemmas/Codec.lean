import FrameOperator.Authd.Codec

/-!
# What a token says

A token that was sealed opens as the ideal one does (`openToken_sealToken`), and a token that opens was signed as one that was
sealed (`openToken_unforged`), provided that nobody but the server makes signatures.
-/

namespace FrameOperator.Authd

/-! ## The framing -/

theorem cut_append {encoded sig : Bytes} (h : dot ∉ encoded) : cut (encoded ++ dot :: sig) = some (encoded, sig) := by
  have hne : ∀ b ∈ encoded, decide (b ≠ dot) = true := fun b hb => decide_eq_true fun he => h (he ▸ hb)
  have hdot : decide (dot ≠ dot) = false := decide_eq_false (not_not.mpr rfl)
  unfold cut
  rw [List.dropWhile_append_of_pos hne, List.takeWhile_append_of_pos hne, List.dropWhile_cons_of_neg (by rw [hdot]; simp),
    List.takeWhile_cons_of_neg (by rw [hdot]; simp), List.append_nil]

theorem symbol_ne : ∀ i, rawURLBytes.symbol i ≠ dot ∧ rawURLBytes.symbol i ≠ 0 := by decide +kernel

theorem zero_invalid : rawURLBytes.skips 0 = false ∧ rawURLBytes.value 0 = none := by decide +kernel

theorem dot_notMem_encode (bs : Bytes) : dot ∉ rawURLBytes.encode bs := by
  intro h
  obtain ⟨i, hi⟩ := Alphabet.mem_encode h
  exact (symbol_ne i).1 hi.symm

theorem zero_notMem_encode (bs : Bytes) : 0 ∉ rawURLBytes.encode bs := by
  intro h
  obtain ⟨i, hi⟩ := Alphabet.mem_encode h
  exact (symbol_ne i).2 hi.symm

theorem zero_notMem_of_decode {cs bs : Bytes} (h : rawURLBytes.decode cs = some bs) : 0 ∉ cs := by
  intro hmem
  have hz := Alphabet.decode_mem h 0 hmem
  rw [zero_invalid.1, zero_invalid.2] at hz
  simp at hz

theorem message_inj {p q : Purpose} {e e' : Bytes} (he : 0 ∉ e) (he' : 0 ∉ e') (h : message p e = message q e') : p = q ∧ e = e' := by
  unfold message at h
  rcases List.append_eq_append_iff.mp h with ⟨mid, hq, hm⟩ | ⟨mid, hp, hm⟩
  · -- the purpose opened under is longer: the rest of it would be in the encoded part
    cases mid with
    | nil =>
      rw [List.append_nil] at hq
      rw [List.nil_append] at hm
      exact ⟨hq.symm, (List.cons.inj hm).2⟩
    | cons b mid =>
      obtain ⟨-, hm⟩ := List.cons.inj hm
      exact absurd (by rw [hm]; simp) he
  · cases mid with
    | nil =>
      rw [List.append_nil] at hp
      rw [List.nil_append] at hm
      exact ⟨hp, (List.cons.inj hm).2.symm⟩
    | cons b mid =>
      obtain ⟨-, hm⟩ := List.cons.inj hm
      exact absurd (by rw [hm]; simp) he'

/-! ## Opening a token -/

variable {tag : Bytes → Bytes} {now : Instant}

theorem openToken_some {q : Purpose} {t d : Bytes} (h : openToken tag q now t = some d) :
    ∃ encoded sig payload, cut t = some (encoded, sig) ∧ rawURLBytes.decode sig = some (tag (message q encoded)) ∧
      rawURLBytes.decode encoded = some payload ∧ now.after (.ofUnix (uint64 payload).toInt64) = false ∧ d = payload.drop 8 := by
  unfold openToken at h
  obtain ⟨⟨encoded, sig⟩, hcut, h⟩ := Option.bind_eq_some_iff.mp h
  obtain ⟨gotSig, hsig, h⟩ := Option.bind_eq_some_iff.mp h
  split at h
  · cases h
  rename_i heq
  obtain ⟨payload, hpayload, h⟩ := Option.bind_eq_some_iff.mp h
  split at h
  · cases h
  split at h
  · cases h
  rename_i hafter
  exact ⟨encoded, sig, payload, hcut, by rw [hsig, not_not.mp heq], hpayload, Bool.eq_false_iff.mpr hafter,
    (Option.some.inj h).symm⟩

theorem drop_payload (s : Sealing) : (putUint64 s.second.toUInt64 ++ s.data).drop 8 = s.data := by
  rw [← length_putUint64 s.second.toUInt64]
  exact List.drop_left

theorem openToken_sealToken (htag : Function.Injective tag) (s : Sealing) (q : Purpose) (now : Instant) :
    openToken tag q now (sealToken tag s) = idealCodec.openToken q now s := by
  show _ = if s.purpose = q ∧ now.after (.ofUnix s.second) = false then some s.data else none
  have hcut : cut (sealToken tag s) = some (s.encoded, rawURLBytes.encode (tag s.message)) := cut_append (dot_notMem_encode _)
  have hlen : ¬ (putUint64 s.second.toUInt64 ++ s.data).length < 8 := by simp
  unfold openToken
  simp only [hcut, Option.bind_eq_bind, Option.bind_some, Alphabet.decode_encode]
  by_cases hq : s.purpose = q
  · subst hq
    have hsec : (uint64 (putUint64 s.second.toUInt64 ++ s.data)).toInt64 = s.second := by
      rw [uint64_putUint64, Int64.toInt64_toUInt64]
    rw [if_neg (not_not.mpr (show tag s.message = tag (message s.purpose s.encoded) from rfl)), Sealing.encoded,
      Alphabet.decode_encode, Option.bind_some, if_neg hlen, hsec, drop_payload]
    cases hafter : now.after (.ofUnix s.second) with
    | true | false => simp
  · have hne : tag s.message ≠ tag (message q s.encoded) := fun heq =>
      hq (message_inj (zero_notMem_encode _) (zero_notMem_encode _) (htag heq)).1
    rw [if_pos hne, if_neg fun h => hq h.1]

def firstPart (t : Bytes) : Bytes := t.takeWhile (· ≠ dot)

theorem firstPart_of_cut {t encoded sig : Bytes} (h : cut t = some (encoded, sig)) : firstPart t = encoded := by
  unfold cut at h
  split at h
  · cases h
  · exact congrArg Prod.fst (Option.some.inj h)

/-- Whoever holds these tokens and cannot sign may present this one. -/
def Unforged (tag : Bytes → Bytes) (held : List Sealing) (t : Bytes) : Prop :=
  ∀ m, ((cut t).bind fun p => rawURLBytes.decode p.2) = some (tag m) → ∃ s ∈ held, m = s.message

theorem openToken_unforged {held : List Sealing} {q : Purpose} {t d : Bytes} (hu : Unforged tag held t)
    (h : openToken tag q now t = some d) :
    ∃ s ∈ held, s.purpose = q ∧ firstPart t = s.encoded ∧ d = s.data ∧ now.after (.ofUnix s.second) = false := by
  obtain ⟨encoded, sig, payload, hcut, hsig, hpayload, hafter, rfl⟩ := openToken_some h
  obtain ⟨s, hs, hm⟩ := hu (message q encoded) (by rw [hcut, Option.bind_some, hsig])
  obtain ⟨hpurpose, hencoded⟩ := message_inj (zero_notMem_of_decode hpayload) (zero_notMem_encode _) hm
  have hp : payload = putUint64 s.second.toUInt64 ++ s.data := by
    rw [hencoded, Alphabet.decode_encode] at hpayload
    exact (Option.some.inj hpayload).symm
  rw [hp, uint64_putUint64, Int64.toInt64_toUInt64] at hafter
  refine ⟨s, hs, hpurpose.symm, ?_, ?_, hafter⟩
  · rw [firstPart_of_cut hcut, hencoded, Sealing.encoded]
  · rw [hp, drop_payload]

end FrameOperator.Authd
