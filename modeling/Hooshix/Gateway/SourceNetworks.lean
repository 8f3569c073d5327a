-- SUMMARY: Source restrictions.
import Hooshix.ContractV2.Records

/-! # Source restrictions

A public endpoint declares the networks its peers may come from. `canonicalIPv4CIDR` checks their texts
when the endpoint is read, and `sourceAllowed` reads them again with `net.ParseCIDR` for every peer.
-/

namespace Hooshix.Gateway

open ContractV2 StructDecode

/-! ## Networks and their texts -/

/-- The network of all addresses that agree in the first `length` bits; the others are zero in its
    own address. -/
@[ext] structure IPv4Network where
  address : BitVec 32
  length : Nat
  length_le : length ≤ 32
  hostBits : ∀ i, length ≤ i → address.getMsbD i = false

namespace IPv4Network

def octets (address : BitVec 32) : List Nat :=
  [address.toNat / 16777216, address.toNat / 65536 % 256, address.toNat / 256 % 256,
    address.toNat % 256]

def addressText (address : BitVec 32) : List Char :=
  ['.'].intercalate ((octets address).map (Nat.toDigits 10))

/-- The text `a.b.c.d/p`. -/
def text (network : IPv4Network) : String :=
  String.ofList (['/'].intercalate [addressText network.address, Nat.toDigits 10 network.length])

def Includes (network : IPv4Network) (address : BitVec 32) : Prop :=
  ∀ i < network.length, address.getMsbD i = network.address.getMsbD i

end IPv4Network

open IPv4Network

/-! ## The check of a peer

An address of `net.IP` has either length or is none. What an IPv6 network is and contains is left to
the function that reads its text. -/

inductive IP where
  | v4 (address : BitVec 32)
  | v6 (address : BitVec 128)
  | invalid

/-- `IP.To4` -/
def IP.to4 : IP → Option (BitVec 32)
  | v4 address => some address
  | v6 address => if address >>> 32 = 0xffff then some (address.setWidth 32) else none
  | invalid => none

/-- `IPNet.Contains` for an IPv4 network -/
def contains (address mask : BitVec 32) (ip : IP) : Bool :=
  ip.to4.any fun peer => address &&& mask == peer &&& mask

/-- An octet of `net.ParseCIDR`: no leading zero. -/
def parseOctet (text : List Char) : Option Nat :=
  (digits? text).filter fun n => n ≤ 255 ∧ (text.length = 1 ∨ text.head? ≠ some '0')

/-- `net.CIDRMask(ones, 32)` -/
def cidrMask (ones : Nat) : BitVec 32 := ~~~0#32 <<< (32 - ones)

/-- `net.ParseCIDR`, as what its network contains -/
def parseCIDR (parseIPv6 : List Char → Option (IP → Bool)) (text : List Char) :
    Option (IP → Bool) :=
  if ':' ∈ text then parseIPv6 text
  else
    match readCIDR parseOctet digits? text with
    | some (address, ones) =>
      if ones ≤ 32 then some (contains (address &&& cidrMask ones) (cidrMask ones)) else none
    | none => none

def sourceAllowed (parseIPv6 : List Char → Option (IP → Bool)) (ip : IP) (cidrs : List String) :
    Bool :=
  cidrs.any fun raw => (parseCIDR parseIPv6 raw.toList).any (· ip)

/-! ## Numbers and addresses -/

variable {n : Nat}

theorem canonicalNumber_iff {limit : Nat} (hlimit : limit ≤ 255) {text : List Char} :
    canonicalNumber limit text = some n ↔ n ≤ limit ∧ text = Nat.toDigits 10 n := by
  have hread : ∀ n < 256, atoi (Nat.toDigits 10 n) = some (n : Int) := by decide +kernel
  simp only [canonicalNumber, Option.map_eq_some_iff, Option.filter_eq_some_iff]
  constructor
  · rintro ⟨value, ⟨-, hvalue⟩, rfl⟩
    obtain ⟨hnonneg, hle, htext⟩ := of_decide_eq_true hvalue
    lift value to Nat using hnonneg
    exact ⟨by simpa using hle, htext.symm⟩
  · rintro ⟨hle, rfl⟩
    refine ⟨n, ⟨hread n (by omega), ?_⟩, rfl⟩
    simpa [itoa] using hle

theorem parseOctet_toDigits (hn : n ≤ 255) : parseOctet (Nat.toDigits 10 n) = some n := by
  have hread : ∀ n < 256, parseOctet (Nat.toDigits 10 n) = some n := by decide +kernel
  exact hread n (by omega)

theorem toNat_shift_octet {x : BitVec 32} (hx : x.toNat < 16777216) (hn : n ≤ 255) :
    (x <<< 8 ||| BitVec.ofNat 32 n).toNat = x.toNat * 256 + n := by
  have hor : x.toNat <<< 8 ||| n = x.toNat <<< 8 + n :=
    (Nat.shiftLeft_add_eq_or_of_lt (by omega) _).symm
  have hshift : x.toNat <<< 8 = x.toNat * 256 := Nat.shiftLeft_eq _ _
  rw [BitVec.toNat_or, BitVec.toNat_shiftLeft, BitVec.toNat_ofNat, Nat.mod_eq_of_lt (by omega),
    Nat.mod_eq_of_lt (by omega), hor, hshift]

variable {number : List Char → Option Nat} {address : BitVec 32}

/-- The four octets are read back from the address they make. -/
theorem addressOf_eq_some_iff {a b c d : List Char} {i j k l : Nat} (hi : i ≤ 255)
    (hj : j ≤ 255) (hk : k ≤ 255) (hl : l ≤ 255) (ha : number a = some i)
    (hb : number b = some j) (hc : number c = some k) (hd : number d = some l) :
    addressOf number [a, b, c, d] = some address ↔ [i, j, k, l] = octets address := by
  have hfirst := toNat_shift_octet (x := 0) (by decide) hi
  have hsecond := toNat_shift_octet (n := j) (by rw [hfirst]; simp; omega) hj
  have hthird := toNat_shift_octet (n := k) (by rw [hsecond, hfirst]; simp; omega) hk
  have hfourth := toNat_shift_octet (n := l) (by rw [hthird, hsecond, hfirst]; simp; omega) hl
  rw [hthird, hsecond, hfirst] at hfourth
  have hlt := address.isLt
  simp only [addressOf, List.length_cons, List.length_nil, List.foldlM_cons, List.foldlM_nil, ha, hb,
    hc, hd, Option.map_some, Option.bind_eq_bind, Option.bind_some, Option.pure_def, ne_eq,
    not_true_eq_false, if_false, Option.some.injEq, Nat.reduceAdd, ← BitVec.toNat_inj, hfourth,
    octets, List.cons.injEq, and_true]
  omega

theorem addressOf_octets (hnumber : ∀ n ≤ 255, number (Nat.toDigits 10 n) = some n) :
    addressOf number ((octets address).map (Nat.toDigits 10)) = some address := by
  have hlt := address.isLt
  have hi : address.toNat / 16777216 ≤ 255 := by omega
  have hj : address.toNat / 65536 % 256 ≤ 255 := by omega
  have hk : address.toNat / 256 % 256 ≤ 255 := by omega
  have hl : address.toNat % 256 ≤ 255 := by omega
  exact (addressOf_eq_some_iff hi hj hk hl (hnumber _ hi) (hnumber _ hj) (hnumber _ hk)
    (hnumber _ hl)).mpr rfl

theorem octets_of_addressOf {parts : List (List Char)}
    (h : addressOf (canonicalNumber 255) parts = some address) :
    parts = (octets address).map (Nat.toDigits 10) := by
  have hlength : parts.length = 4 := by
    by_contra hlength
    simp [addressOf, hlength] at h
  obtain ⟨a, b, c, d, rfl⟩ := List.length_eq_four.mp hlength
  have hnumbers := h
  simp only [addressOf, hlength, ne_eq, not_true_eq_false, if_false, List.foldlM_cons,
    List.foldlM_nil, Option.bind_eq_bind, Option.bind_eq_some_iff, Option.map_eq_some_iff] at hnumbers
  obtain ⟨-, ⟨i, ha, -⟩, -, ⟨j, hb, -⟩, -, ⟨k, hc, -⟩, -, ⟨l, hd, -⟩, -⟩ := hnumbers
  obtain ⟨hi, rfl⟩ := (canonicalNumber_iff le_rfl).mp ha
  obtain ⟨hj, rfl⟩ := (canonicalNumber_iff le_rfl).mp hb
  obtain ⟨hk, rfl⟩ := (canonicalNumber_iff le_rfl).mp hc
  obtain ⟨hl, rfl⟩ := (canonicalNumber_iff le_rfl).mp hd
  rw [← (addressOf_eq_some_iff hi hj hk hl ha hb hc hd).mp h]
  rfl

/-! ## Masks -/

variable {length : Nat} (hlength : length ≤ 32) {x y : BitVec 32}

theorem eq_iff_getMsbD : x = y ↔ ∀ i, x.getMsbD i = y.getMsbD i :=
  ⟨fun h _ => h ▸ rfl, fun h => BitVec.eq_of_getMsbD_eq fun i _ => h i⟩

include hlength

theorem getMsbD_cidrMask {i : Nat} :
    (cidrMask length).getMsbD i = decide (i < length) := by
  have hlt : i + (32 - length) < 32 ↔ i < length := by omega
  rw [cidrMask, BitVec.getMsbD_shiftLeft, BitVec.getMsbD_not, BitVec.getMsbD_zero]
  simp [hlt]

theorem and_cidrMask_eq_iff :
    x &&& cidrMask length = y &&& cidrMask length ↔ ∀ i < length, y.getMsbD i = x.getMsbD i := by
  simp only [eq_iff_getMsbD, BitVec.getMsbD_and, getMsbD_cidrMask hlength]
  grind

theorem and_cidrMask_self_iff :
    x &&& cidrMask length = x ↔ ∀ i, length ≤ i → x.getMsbD i = false := by
  simp only [eq_iff_getMsbD, BitVec.getMsbD_and, getMsbD_cidrMask hlength]
  grind

/-- The bits past the length are zero, as the code tests it. -/
theorem hostBits_iff :
    (if length = 0 then address == 0
      else address &&& ~~~0#32 <<< (32 - length) == address) = true ↔
    ∀ i, length ≤ i → address.getMsbD i = false := by
  rw [← and_cidrMask_self_iff hlength]
  split
  next hzero =>
    have hmask : address &&& cidrMask length = 0 := by
      rw [hzero]
      exact BitVec.and_zero
    rw [hmask, beq_iff_eq, eq_comm]
  next => exact beq_iff_eq

omit hlength

/-! ## Texts -/

namespace IPv4Network

theorem not_mem_toDigits {c : Char} (hc : c.isDigit = false) (n : Nat) : c ∉ Nat.toDigits 10 n := by
  intro hmem
  rw [Nat.isDigit_of_mem_toDigits (by decide) (by decide) hmem] at hc
  cases hc

theorem not_mem_addressText {c : Char} (hc : c.isDigit = false) (hdot : c ≠ '.')
    (address : BitVec 32) : c ∉ addressText address := by
  simp [addressText, octets, List.intercalate, not_mem_toDigits hc, hdot]

theorem splitOn_addressText (address : BitVec 32) :
    (addressText address).splitOn '.' = (octets address).map (Nat.toDigits 10) := by
  refine List.splitOn_intercalate '.' ?_ (by simp [octets])
  intro part hpart
  obtain ⟨n, -, rfl⟩ := List.mem_map.mp hpart
  exact not_mem_toDigits (by decide) n

variable (network : IPv4Network)

theorem readCIDR_text {octet length : List Char → Option Nat}
    (hoctet : ∀ n ≤ 255, octet (Nat.toDigits 10 n) = some n)
    (hlength : ∀ n ≤ 32, length (Nat.toDigits 10 n) = some n) :
    readCIDR octet length network.text.toList = some (network.address, network.length) := by
  have hsplit : network.text.toList.splitOn '/' =
      [addressText network.address, Nat.toDigits 10 network.length] := by
    rw [text, String.toList_ofList]
    refine List.splitOn_intercalate '/' ?_ (by simp)
    simp [not_mem_addressText, not_mem_toDigits]
  simp [readCIDR, hsplit, splitOn_addressText, addressOf_octets hoctet,
    hlength _ network.length_le]

theorem parse_text :
    readCIDR parseOctet digits? network.text.toList = some (network.address, network.length) :=
  readCIDR_text network (fun _ => parseOctet_toDigits) fun n _ => digits?_toDigits n

theorem text_injective : Function.Injective text := by
  intro network network' h
  have hread := network.parse_text
  rw [h, parse_text] at hread
  obtain ⟨haddress, hlength⟩ := Prod.mk.inj (Option.some.inj hread)
  exact IPv4Network.ext haddress.symm hlength.symm

theorem canonicalIPv4CIDR_iff (value : String) :
    canonicalIPv4CIDR value = true ↔ ∃ network : IPv4Network, network.text = value := by
  constructor
  · intro h
    unfold canonicalIPv4CIDR at h
    split at h
    case h_2 => cases h
    rename_i hread
    unfold readCIDR at hread
    split at hread
    case h_2 => cases hread
    rename_i hparts
    obtain ⟨_, haddress, hmap⟩ := Option.bind_eq_some_iff.mp hread
    obtain ⟨_, hlength, hpair⟩ := Option.map_eq_some_iff.mp hmap
    obtain ⟨rfl, rfl⟩ := Prod.mk.inj hpair
    obtain ⟨hle, rfl⟩ := (canonicalNumber_iff (by decide)).mp hlength
    refine ⟨⟨_, _, hle, (hostBits_iff hle).mp h⟩, ?_⟩
    rw [text, addressText, ← octets_of_addressOf haddress, List.intercalate_splitOn, ← hparts,
      List.intercalate_splitOn, String.ofList_toList]
  · rintro ⟨network, rfl⟩
    have hread : readCIDR (canonicalNumber 255) (canonicalNumber 32) network.text.toList = _ :=
      network.readCIDR_text (fun n hn => (canonicalNumber_iff le_rfl).mpr ⟨hn, rfl⟩)
        fun n hn => (canonicalNumber_iff (by decide)).mpr ⟨hn, rfl⟩
    rw [canonicalIPv4CIDR, hread]
    exact (hostBits_iff network.length_le).mpr network.hostBits

/-! ## Peers -/

variable {parseIPv6 : List Char → Option (IP → Bool)} {ip : IP}

theorem parseCIDR_text : parseCIDR parseIPv6 network.text.toList =
    some (contains network.address (cidrMask network.length)) := by
  have hcolon : ':' ∉ network.text.toList := by
    have haddress := not_mem_addressText (c := ':') rfl (by decide) network.address
    have hlength := not_mem_toDigits (c := ':') rfl network.length
    simp [text, List.intercalate, haddress, hlength]
  simp only [parseCIDR, if_neg hcolon, parse_text, if_pos network.length_le,
    (and_cidrMask_self_iff network.length_le).mpr network.hostBits]

theorem contains_iff :
    contains network.address (cidrMask network.length) ip = true ↔
      ∃ address, ip.to4 = some address ∧ network.Includes address := by
  simp only [contains, Option.any_eq_true, beq_iff_eq, and_cidrMask_eq_iff network.length_le,
    Includes]

theorem sourceAllowed_iff {cidrs : List String}
    (hcidrs : ∀ raw ∈ cidrs, canonicalIPv4CIDR raw = true) :
    sourceAllowed parseIPv6 ip cidrs = true ↔ ∃ address, ip.to4 = some address ∧
      ∃ network : IPv4Network, network.text ∈ cidrs ∧ network.Includes address := by
  simp only [sourceAllowed, List.any_eq_true]
  constructor
  · rintro ⟨raw, hraw, hcontains⟩
    obtain ⟨network, rfl⟩ := (canonicalIPv4CIDR_iff raw).mp (hcidrs raw hraw)
    rw [parseCIDR_text, Option.any_some, contains_iff] at hcontains
    obtain ⟨address, hto4, hincludes⟩ := hcontains
    exact ⟨address, hto4, network, hraw, hincludes⟩
  · rintro ⟨address, hto4, network, hraw, hincludes⟩
    refine ⟨network.text, hraw, ?_⟩
    rw [parseCIDR_text, Option.any_some, contains_iff]
    exact ⟨address, hto4, hincludes⟩

end IPv4Network

/-- Canonical texts and IPv4 networks are in bijection, and an accepted endpoint lets in exactly the
    IPv4 peers of the networks it declares. -/
theorem source_restrictions_exact :
    (∀ value, canonicalIPv4CIDR value = true ↔ ∃ network : IPv4Network, network.text = value) ∧
    Function.Injective text ∧
    ∀ (parseIPv6 : List Char → Option (IP → Bool)) (record : ServiceEndpoint) (ip : IP),
      validateServiceEndpoint record = .ok () →
      (sourceAllowed parseIPv6 ip record.allowedSourceCIDRs = true ↔
        ∃ address, ip.to4 = some address ∧ ∃ network : IPv4Network,
          network.text ∈ record.allowedSourceCIDRs ∧ network.Includes address) := by
  refine ⟨canonicalIPv4CIDR_iff, text_injective, fun _ _ _ h => ?_⟩
  simp only [validateServiceEndpoint, bind_eq_ok, check_eq_ok] at h
  obtain ⟨_, -, _, -, _, -, _, -, _, -, _, -, _, haccess, -⟩ := h
  exact sourceAllowed_iff (canonical_of_validatePublicAccess haccess)

def restrictedEndpoint : ServiceEndpoint :=
  ⟨"service_endpoint", 2, "endpoint-a", "device-a", "tcp", "", "local-a", 20000, ["10.0.0.0/8"],
    "public", true, "2026-01-01T00:00:00Z", 1⟩

theorem source_restrictions_exact_mapped :
    ∃ network : IPv4Network, network.text ∈ restrictedEndpoint.allowedSourceCIDRs ∧
      network.Includes 0x0a010203 := by
  obtain ⟨address, hto4, hnetwork⟩ := (source_restrictions_exact.2.2 (fun _ => none)
    restrictedEndpoint (.v6 0xffff0a010203) rfl).mp (by decide)
  cases hto4
  exact hnetwork

end Hooshix.Gateway
