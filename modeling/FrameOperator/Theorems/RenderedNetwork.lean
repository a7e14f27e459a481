import FrameOperator.Provision.Netplan

/-!
# The network that is rendered

The netplan gets the gateway as it was typed and the prefix length of the family it was typed in: an IPv4 address written as an IPv6
one passes `validate`, and what is rendered is not IPv4.
-/

namespace FrameOperator.Provision

open List

variable {parseIPv6 : List Char → Option Nat} {s : List Char}

/-- The text of an IPv4 address with its prefix length. -/
def cidrText (addr ones : Nat) : List Char := dotted addr ++ '/' :: (toString ones).toList

/-- Both stanzas have one IPv4 address and its prefix length, and as a gateway, like the lookup, another one of that subnet. -/
def Autoinstall.Routable (a : Autoinstall) : Prop :=
  ∃ addr ones gw, addr < 2 ^ 32 ∧ ones ≤ 32 ∧ gw < 2 ^ 32 ∧ gw ≠ addr ∧ gw / 2 ^ (32 - ones) = addr / 2 ^ (32 - ones) ∧
    a.pin.routeGet = String.ofList (dotted gw) ∧ ∀ e ∈ [a.live, a.pin.stanza],
      e.addresses = [String.ofList (cidrText addr ones)] ∧ e.routes = [("default", String.ofList (dotted gw))]

/-! ## The texts -/

theorem mem_toString {n : Nat} {c : Char} (h : c ∈ (toString n).toList) : c.isDigit = true := by
  rw [Nat.toString_eq_repr, Nat.toList_repr] at h
  exact Nat.isDigit_of_mem_toDigits (by decide) (by decide) h

theorem mem_dotted {a : Nat} {c : Char} (h : c ∈ dotted a) : c = '.' ∨ c.isDigit = true := by
  simp only [dotted, map_cons, map_nil, intercalate, intersperse, flatten_cons, flatten_nil, mem_append, mem_singleton,
    not_mem_nil, or_false] at h
  grind [mem_toString]

theorem colon_notMem_dotted (a : Nat) : ':' ∉ dotted a := fun h => absurd (mem_dotted h) (by decide)

/-- The prefix length is read off the text after the first slash. -/
theorem ones_of_cidrText {a b m n : Nat} (h : cidrText a m = cidrText b n) : m = n := by
  have hdrop : ∀ a m, (cidrText a m).dropWhile (· ≠ '/') = '/' :: (toString m).toList := by
    intro a m
    have hall : ∀ c ∈ dotted a, (c ≠ '/') := fun c hc heq => absurd (mem_dotted hc) (by rw [heq]; decide)
    rw [cidrText, dropWhile_append_of_pos (by simpa using hall), dropWhile_cons_of_neg (by simp)]
  have htail := (cons.inj ((hdrop a m).symm.trans ((congrArg _ h).trans (hdrop b n)))).2
  rw [Nat.toString_eq_repr, Nat.toString_eq_repr, Nat.toList_repr, Nat.toList_repr] at htail
  simpa using congrArg (Nat.ofDigitChars 10 · 0) htail

theorem octet_some {n : Nat} (h : octet s = some n) : n < 256 ∧ (toString n).toList = s :=
  ⟨mem_range.mp (mem_of_find?_eq_some h), by simpa using find?_some h⟩

/-- An IPv4 address is read from its dotted form only. -/
theorem parseIPv4_some {a : Nat} (h : parseIPv4 s = some a) : a < 2 ^ 32 ∧ s = dotted a := by
  unfold parseIPv4 at h
  split at h
  · rename_i w x y z hparts
    obtain ⟨p, q, r, t, hsplit, hp, hq, hr, ht⟩ :
        ∃ p q r t, s.splitOn '.' = [p, q, r, t] ∧ octet p = some w ∧ octet q = some x ∧ octet r = some y ∧ octet t = some z := by
      simp only [map_eq_cons_iff, map_eq_nil_iff] at hparts
      grind
    obtain ⟨hw, rfl⟩ := octet_some hp
    obtain ⟨hx, rfl⟩ := octet_some hq
    obtain ⟨hy, rfl⟩ := octet_some hr
    obtain ⟨hz, rfl⟩ := octet_some ht
    cases h
    refine ⟨by omega, (intercalate_splitOn '.').symm.trans ?_⟩
    rw [hsplit]
    refine congrArg _ ?_
    simp only [map_cons, map_nil, cons.injEq, and_true]
    refine ⟨?_, ?_, ?_, ?_⟩ <;> congr 2 <;> omega
  · cases h

/-- An address is read as IPv4, or it is typed with a colon and has 128 bits. -/
theorem parseAddr_some {ip bits : Nat} (h : parseAddr parseIPv6 s = some (ip, bits)) :
    (∃ a, a < 2 ^ 32 ∧ s = dotted a ∧ ip = 0xffff * 2 ^ 32 + a ∧ bits = 32) ∨ ':' ∈ s ∧ bits = 128 := by
  unfold parseAddr at h
  split at h
  · obtain ⟨a, ha, heq⟩ := Option.map_eq_some_iff.mp h
    cases heq
    exact .inl ⟨a, (parseIPv4_some ha).1, (parseIPv4_some ha).2, rfl, rfl⟩
  · rename_i hfind
    obtain ⟨a, -, heq⟩ := Option.map_eq_some_iff.mp h
    cases heq
    exact .inr ⟨mem_of_find?_eq_some hfind, rfl⟩
  · cases h

/-- A mapped address has the IPv4 form it maps. -/
theorem to4_mapped {a : Nat} (ha : a < 2 ^ 32) : to4 (0xffff * 2 ^ 32 + a) = some a := by
  rw [to4, if_pos (by omega)]
  congr 1
  omega

/-- A subnet is of 32 bits, or typed with a colon. -/
theorem parseCIDR_some {n : IPNet} (h : parseCIDR parseIPv6 s = some n) :
    ((∃ a, a < 2 ^ 32 ∧ n = ⟨0xffff * 2 ^ 32 + a, n.ones, 32⟩) ∧ n.ones ≤ 32 ∧ ':' ∉ s) ∨ ':' ∈ s ∧ n.bits = 128 := by
  unfold parseCIDR at h
  split at h
  · rename_i ip bits c mask haddr hrest
    dsimp only at h
    split at h
    · rename_i hmask
      cases h
      rcases parseAddr_some haddr with ⟨a, ha, htext, rfl, rfl⟩ | ⟨hcolon, rfl⟩
      · refine .inl ⟨⟨a, ha, rfl⟩, hmask.2.2, fun hmem => ?_⟩
        rw [← takeWhile_append_dropWhile (p := (· ≠ '/')) (l := s), htext, hrest, mem_append, mem_cons] at hmem
        have hslash : c = '/' := by
          have hhead := head?_dropWhile_not (· ≠ '/') s
          rw [hrest] at hhead
          simpa using hhead
        rcases hmem with hmem | hmem | hmem
        · exact colon_notMem_dotted a hmem
        · rw [hslash] at hmem
          cases hmem
        · exact absurd (all_eq_true.mp hmask.2.1 _ hmem) (by decide)
      · exact .inr ⟨takeWhile_subset _ hcolon, rfl⟩
    · cases h
  · cases h

theorem mapped_div {ones : Nat} (h : ones ≤ 32) (a : Nat) :
    (0xffff * 2 ^ 32 + a) / 2 ^ (32 - ones) = 0xffff * 2 ^ ones + a / 2 ^ (32 - ones) := by
  rw [← Nat.mul_add_div (Nat.two_pow_pos _), Nat.mul_left_comm, ← Nat.pow_add, Nat.sub_add_cancel h]

/-- A network that `validate` accepts: its subnet and its gateway, and what is rendered of them. -/
theorem render_ok {n : Network} {a : Autoinstall} (h : renderAutoinstall parseIPv6 n = .ok a) :
    ∃ ipnet addr gw bits, parseCIDR parseIPv6 n.address.toList = some ipnet ∧ to4 ipnet.ip = some addr ∧
      parseAddr parseIPv6 n.gateway.toList = some (gw, bits) ∧ gw ≠ ipnet.ip ∧ ipnet.Contains gw ∧ a.pin.routeGet = n.gateway ∧
        ∀ e ∈ [a.live, a.pin.stanza], e.addresses = [String.ofList (cidrText addr ipnet.ones)] ∧
          e.routes = [("default", n.gateway)] := by
  cases hv : n.validate parseIPv6 with
  | error e =>
    rw [renderAutoinstall, hv] at h
    cases h
  | ok v =>
    rw [renderAutoinstall, hv] at h
    cases h
    revert hv
    fun_cases Network.validate parseIPv6 n <;> intro hv <;> try cases hv
    rename_i ipnet hcidr addr hto4 gw bits hgw hne hin _ _
    exact ⟨ipnet, addr, gw, bits, hcidr, hto4, hgw, hne, not_not.mp hin, rfl, by simp [netplanPin, cidrText]⟩

theorem Autoinstall.Routable.gateway {n : Network} {a : Autoinstall} (hr : a.Routable) (h : renderAutoinstall parseIPv6 n = .ok a) :
    ':' ∉ n.gateway.toList := by
  obtain ⟨_, _, gw, -, -, -, -, -, hget, -⟩ := hr
  obtain ⟨-, -, -, -, -, -, -, -, -, hget', -⟩ := render_ok h
  rw [← hget', hget, String.toList_ofList]
  exact colon_notMem_dotted gw

/-- A short prefix of 128 bits leaves nothing of an IPv4 address, so that no IPv4 address is in the subnet. -/
theorem not_contains_of_short {ipnet : IPNet} {addr gw g : Nat} (hto4 : to4 ipnet.ip = some addr) (hbits : ipnet.bits = 128)
    (hones : ipnet.ones ≤ 32) (hg : to4 gw = some g) : ¬ipnet.Contains gw := by
  rintro ⟨hfamily, -⟩
  have hsmall : ipnet.ip < 2 ^ 48 := by
    unfold to4 at hto4
    split at hto4
    · omega
    · cases hto4
  have hzero : ipnet.ip / 2 ^ (128 - ipnet.ones) = 0 :=
    Nat.div_eq_of_lt (Nat.lt_of_lt_of_le hsmall (Nat.pow_le_pow_right (by decide) (by omega)))
  rw [hbits, hzero, hg, Nat.zero_mul] at hfamily
  cases hfamily

/-- What `validate` accepts is rendered as an IPv4 network exactly if neither the address nor the gateway is typed with a colon. -/
theorem rendered_network_valid (parseIPv6 : List Char → Option Nat) (n : Network) (a : Autoinstall)
    (h : renderAutoinstall parseIPv6 n = .ok a) : a.Routable ↔ ':' ∉ n.address.toList ∧ ':' ∉ n.gateway.toList := by
  obtain ⟨ipnet, addr, gw, bits, hcidr, hto4, hgw, hne, hin, hget, hstanzas⟩ := render_ok h
  constructor
  · intro hr
    have hcolon := hr.gateway h
    refine ⟨?_, hcolon⟩
    rcases parseCIDR_some hcidr with ⟨-, -, hfree⟩ | ⟨-, hbits⟩
    · exact hfree
    exfalso
    obtain ⟨addr', ones', _, -, hones, -, -, -, -, hstanzas'⟩ := hr
    have htext := (hstanzas _ mem_cons_self).1.symm.trans (hstanzas' _ mem_cons_self).1
    have hsame := ones_of_cidrText (String.ofList_injective (cons.inj htext).1)
    rcases parseAddr_some hgw with ⟨g, hg, -, rfl, -⟩ | ⟨hmem, -⟩
    · exact not_contains_of_short hto4 hbits (hsame ▸ hones) (to4_mapped hg) hin
    · exact hcolon hmem
  · rintro ⟨hfree, hcolon⟩
    rcases parseCIDR_some hcidr with ⟨⟨b, hb, hnet⟩, hones, -⟩ | ⟨hmem, -⟩
    · rcases parseAddr_some hgw with ⟨g, hg, htext, rfl, -⟩ | ⟨hmem, -⟩
      · rw [hnet] at hto4 hne
        obtain rfl : b = addr := Option.some.inj ((to4_mapped hb).symm.trans hto4)
        have hsame := hin.2
        rw [hnet, mapped_div hones, mapped_div hones] at hsame
        have hgateway : n.gateway = String.ofList (dotted g) := by rw [← htext, String.ofList_toList]
        rw [hgateway] at hget hstanzas
        exact ⟨b, ipnet.ones, g, hb, hones, hg, fun heq => hne (by rw [heq]), Nat.add_left_cancel hsame, hget, hstanzas⟩
      · exact absurd hmem hcolon
    · exact absurd hmem hfree

theorem exists_of_isOk {ε α : Type} {x : Except ε α} (h : x.isOk = true) : ∃ a, x = .ok a := by
  cases x with
  | error e => cases h
  | ok a => exact ⟨a, rfl⟩

def lan : Network := ⟨"10.0.0.5/24", "10.0.0.1", ["10.0.0.1"]⟩

/-- A network that is typed as IPv4. -/
theorem rendered_network_valid_lan : ∃ a, renderAutoinstall (fun _ => none) lan = .ok a ∧ a.Routable := by
  obtain ⟨a, h⟩ := exists_of_isOk (x := renderAutoinstall (fun _ => none) lan) (by decide +kernel)
  exact ⟨a, h, (rendered_network_valid _ lan a h).mpr (by decide +kernel)⟩

/-- The gateway typed as an IPv6 address, read as `net` reads it. -/
def mapped : List Char → Option Nat := fun s => if s = "::ffff:10.0.0.1".toList then some 0xffff0a000001 else none

/-- An IPv4 gateway that is typed as an IPv6 address passes, and is rendered as it was typed. -/
theorem mapped_gateway_rendered :
    ∃ a, renderAutoinstall mapped { lan with gateway := "::ffff:10.0.0.1" } = .ok a ∧
      a.pin.routeGet = "::ffff:10.0.0.1" ∧ ¬a.Routable := by
  obtain ⟨a, h⟩ := exists_of_isOk (x := renderAutoinstall mapped { lan with gateway := "::ffff:10.0.0.1" }) (by decide +kernel)
  obtain ⟨-, -, -, -, -, -, -, -, -, hget, -⟩ := render_ok h
  exact ⟨a, h, hget, fun hr => hr.gateway h (by decide +kernel)⟩

end FrameOperator.Provision
