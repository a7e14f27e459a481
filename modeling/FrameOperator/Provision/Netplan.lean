import FrameOperator.Provision.Install

/-!
# The network of an install

The network part of `validate`, and what `RenderAutoinstall` and `netplanPin` write of it (`internal/provision/autoinstall.go`). An
address is its 128 bits as a number, where an IPv4 address has the last 32. How `net` reads the text of an IPv6 address is a
parameter.
-/

namespace FrameOperator.Provision

/-- A part of a dotted quad: decimal, at most 255, without a leading zero. -/
def octet (s : List Char) : Option Nat := (List.range 256).find? fun n => (toString n).toList = s

def parseIPv4 (s : List Char) : Option Nat :=
  match (s.splitOn '.').map octet with
  | [some a, some b, some c, some d] => some (((a * 256 + b) * 256 + c) * 256 + d)
  | _ => none

/-- `netip.ParseAddr`, without zones: the address, and the bits of its family. -/
def parseAddr (parseIPv6 : List Char → Option Nat) (s : List Char) : Option (Nat × Nat) :=
  match s.find? fun c => c = '.' ∨ c = ':' ∨ c = '%' with
  | some '.' => (parseIPv4 s).map (0xffff * 2 ^ 32 + ·, 32)
  | some ':' => (parseIPv6 s).map (·, 128)
  | _ => none

def to4 (ip : Nat) : Option Nat := if ip / 2 ^ 32 = 0xffff then some (ip % 2 ^ 32) else none

/-- The text of an IPv4 address. -/
def dotted (a : Nat) : List Char :=
  ['.'].intercalate ([a / 2 ^ 24, a / 2 ^ 16 % 256, a / 2 ^ 8 % 256, a % 256].map fun n => (toString n).toList)

/-- A subnet: an address of it, the length of its prefix and the bits of its family. -/
structure IPNet where
  ip : Nat
  ones : Nat
  bits : Nat

def parseCIDR (parseIPv6 : List Char → Option Nat) (s : List Char) : Option IPNet :=
  match parseAddr parseIPv6 (s.takeWhile (· ≠ '/')), s.dropWhile (· ≠ '/') with
  | some (ip, bits), _ :: mask =>
    let ones := mask.foldl (fun n c => n * 10 + (c.toNat - '0'.toNat)) 0
    if mask ≠ [] ∧ mask.all Char.isDigit ∧ ones ≤ bits then some ⟨ip, ones, bits⟩ else none
  | _, _ => none

/-- The address is of the family of the subnet's number, and agrees with it above the host's bits. -/
def IPNet.Contains (n : IPNet) (ip : Nat) : Prop :=
  (to4 (n.ip / 2 ^ (n.bits - n.ones) * 2 ^ (n.bits - n.ones))).isSome = (to4 ip).isSome ∧
    ip / 2 ^ (n.bits - n.ones) = n.ip / 2 ^ (n.bits - n.ones)
deriving Decidable

inductive NetworkError where
  | address
  | notIPv4
  | gateway
  | ownAddress
  | outside
  | noDNS
  | dns
deriving DecidableEq

/-- What `validate` derives. -/
structure Validated where
  cidr : String

def Network.validate (parseIPv6 : List Char → Option Nat) (n : Network) : Except NetworkError Validated :=
  match parseCIDR parseIPv6 n.address.toList with
  | none => .error .address
  | some ipnet =>
    match to4 ipnet.ip with
    | none => .error .notIPv4
    | some addr =>
      match parseAddr parseIPv6 n.gateway.toList with
      | none => .error .gateway
      | some (gw, _) =>
        if gw = ipnet.ip then .error .ownAddress
        else if ¬ipnet.Contains gw then .error .outside
        else if n.dns = [] then .error .noDNS
        else if n.dns.any fun d => (parseAddr parseIPv6 d.toList).isNone then .error .dns
        else .ok ⟨String.ofList (dotted addr ++ '/' :: (toString ipnet.ones).toList)⟩

/-! ## Rendering -/

/-- What a stanza matches, and how it is set up; a route goes via a gateway. -/
structure Ethernet where
  matching : String × String
  setName : Option String := none
  optional : Bool := false
  dhcp4 : Bool := false
  addresses : List String
  routes : List (String × String)
  nameservers : List String

/-- The argument of `ip route get`, and the stanza written on the installed system. -/
structure Pin where
  routeGet : String
  stanza : Ethernet

def macPlaceholder : String := "FRAME_PIN_MAC"

def devPlaceholder : String := "FRAME_PIN_DEV"

def netplanPin (v : Validated) (n : Network) : Pin where
  routeGet := n.gateway
  stanza :=
    { matching := ("macaddress", macPlaceholder), setName := some devPlaceholder, addresses := [v.cidr],
      routes := [("default", n.gateway)], nameservers := n.dns }

/-- The live system's stanza, and the command that pins the installed one. -/
structure Autoinstall where
  live : Ethernet
  pin : Pin

def renderAutoinstall (parseIPv6 : List Char → Option Nat) (n : Network) : Except NetworkError Autoinstall := do
  let v ← n.validate parseIPv6
  return {
    live :=
      { matching := ("name", "en*"), optional := true, addresses := [v.cidr], routes := [("default", n.gateway)],
        nameservers := n.dns }
    pin := netplanPin v n }

end FrameOperator.Provision
