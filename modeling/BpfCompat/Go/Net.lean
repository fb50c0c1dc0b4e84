import BpfCompat.Go.Encoding
import BpfCompat.Go.Lines

/-!
# Addresses of the network

The part of the standard library that reads addresses: `parseIP` for an address in dotted decimal
or in groups of hexadecimal digits, `parseCIDR` for a network, `netSplitHostPort` for an address
with a port.  An address is a slice of bytes, of four or of sixteen; an address of four bytes may
also be written with sixteen, behind a fixed prefix, and `to4` finds it there.

The predicates that tell what an address is for are those of the library.
-/

namespace Go

/-- An address: four bytes or sixteen.  The library does not exclude other lengths. -/
abbrev IP : Type := List UInt8

/-! ### Reading addresses -/

/-- A part of an address in dotted decimal: no more than three digits, without a leading zero. -/
def parseOctet (field : Str) : Option UInt8 :=
  if field = [] ∨ ¬ field.all isDecimal ∨ (1 < field.length ∧ field.head? = some 48) ∨
      255 < decimalValue field then none
  else some (UInt8.ofNat (decimalValue field))

/-- Four numbers with dots between them. -/
def parseIPv4 (s : Str) : Option IP :=
  match s.splitOn '.'.toUInt8 with
  | [a, b, c, d] => do
    let a ← parseOctet a
    let b ← parseOctet b
    let c ← parseOctet c
    let d ← parseOctet d
    return [a, b, c, d]
  | _ => none

/-- The number that hexadecimal digits denote. -/
def hexNumber (digits : Str) : Nat :=
  digits.foldl (fun n b => 16 * n + (fromHexChar b).getD 0) 0

/-- The groups of an address of sixteen bytes, `n` at most: the bytes read, where the groups left
out were, and the text that is left.  The last four bytes may be in dotted decimal. -/
def parseGroups : Nat → Str → IP → Option Nat → Option (IP × Option Nat × Str)
  | 0, s, ip, ellipsis => some (ip, ellipsis, s)
  | n + 1, s, ip, ellipsis =>
    let digits := s.takeWhile fun b => (fromHexChar b).isSome
    if digits.length = 0 ∨ 4 < digits.length then none
    else
      let ip' := ip ++ [UInt8.ofNat (hexNumber digits / 256), UInt8.ofNat (hexNumber digits % 256)]
      match s.drop digits.length with
      | [] => some (ip', ellipsis, [])
      | b :: rest =>
        if b = '.'.toUInt8 then
          if (ellipsis = none ∧ ip.length ≠ 12) ∨ 16 < ip.length + 4 then none
          else (parseIPv4 s).map fun last => (ip ++ last, ellipsis, [])
        else if b ≠ ':'.toUInt8 then none
        else
          match rest with
          | [] => none
          | c :: more =>
            if c ≠ ':'.toUInt8 then parseGroups n rest ip' ellipsis
            else if ellipsis.isSome then none
            else if more = [] then some (ip', some ip'.length, [])
            else parseGroups n more ip' (some ip'.length)

/-- Zeros for the groups that were left out. -/
def expand (ip : IP) (ellipsis : Option Nat) : Option IP :=
  match ellipsis with
  | none => if ip.length < 16 then none else some ip
  | some at' =>
    if ip.length < 16 then some (ip.take at' ++ List.replicate (16 - ip.length) 0 ++ ip.drop at')
    else none

/-- Groups of hexadecimal digits with colons between them; two colons stand for groups of zeros.
A text with a zone is not an address here. -/
def parseIPv6 (s : Str) : Option IP := do
  let (s, ellipsis) := if (str "::").isPrefixOf s then (s.drop 2, some 0) else (s, none)
  if ellipsis.isSome ∧ s = [] then some (List.replicate 16 0)
  else
    let (ip, ellipsis, rest) ← parseGroups 8 s [] ellipsis
    if rest ≠ [] then none else expand ip ellipsis

/-- An address of either kind, as long as its kind. -/
def parseAddr (s : Str) : Option IP :=
  match s.find? fun b => b = '.'.toUInt8 ∨ b = ':'.toUInt8 ∨ b = '%'.toUInt8 with
  | some b =>
    if b = '.'.toUInt8 then parseIPv4 s else if b = ':'.toUInt8 then parseIPv6 s else none
  | none => none

/-- What stands before the four bytes of an address that is written with sixteen. -/
def v4InV6Prefix : List UInt8 := [0, 0, 0, 0, 0, 0, 0, 0, 0, 0, 255, 255]

def as16 (ip : IP) : IP := if ip.length = 4 then v4InV6Prefix ++ ip else ip

def parseIP (s : Str) : Option IP := (parseAddr s).map as16

/-- The four bytes of an address that has only four. -/
def to4 (ip : IP) : Option IP :=
  if ip.length = 4 then some ip
  else if ip.length = 16 ∧ ip.take 12 = v4InV6Prefix then some (ip.drop 12)
  else none

/-- The two ways to write an address of four bytes. -/
theorem eq_or_eq_of_to4 {ip ip4 : IP} (h : to4 ip = some ip4) :
  ip4.length = 4 ∧ (ip = ip4 ∨ ip = v4InV6Prefix ++ ip4)
  := by
  rw [to4] at h
  split_ifs at h with h4 h16
  · cases h
    exact ⟨h4, .inl rfl⟩
  · cases h
    refine ⟨by rw [List.length_drop, h16.1], .inr ?_⟩
    rw [← h16.2, List.take_append_drop]

example : parseIP (str "192.168.0.7") = some (v4InV6Prefix ++ [192, 168, 0, 7]) := by decide

example : parseIP (str "::ffff:10.0.0.1") = some (v4InV6Prefix ++ [10, 0, 0, 1]) := by decide

example : parseIP (str "fe80::1:0") =
    some [254, 128, 0, 0, 0, 0, 0, 0, 0, 0, 0, 0, 0, 1, 0, 0] := by decide

example : (str "1.2.3.4:80" :: str "01.2.3.4" :: str "1:2" :: str "unknown" :: [str "fe80::1%eth0"]).map
    parseIP = [none, none, none, none, none] := by decide

/-! ### Networks -/

/-- A network: its number, and the bits of an address that are compared with it. -/
structure IPNet where
  ip : IP
  mask : List UInt8
deriving DecidableEq

/-- A mask of as many ones as asked for, `bytes` long. -/
def cidrMask (ones : Nat) : Nat → List UInt8
  | 0 => []
  | bytes + 1 => UInt8.ofNat (256 - 2 ^ (8 - min ones 8)) :: cidrMask (ones - 8) bytes

def maskBytes (ip mask : List UInt8) : List UInt8 := List.zipWith (· &&& ·) ip mask

/-- A network as an address, a slash and the number of bits compared. -/
def parseCIDR (s : Str) : Option IPNet :=
  match s.findIdx? (· = '/'.toUInt8) with
  | none => none
  | some i => do
    let addr ← parseAddr (s.take i)
    let bits := s.drop (i + 1)
    if bits = [] ∨ ¬ bits.all isDecimal ∨ 8 * addr.length < decimalValue bits then none
    else
      let mask := cidrMask (decimalValue bits) addr.length
      some ⟨maskBytes addr mask, mask⟩

/-- The number and the mask a network is compared by. -/
def IPNet.numberAndMask (n : IPNet) : List UInt8 × List UInt8 :=
  match to4 n.ip with
  | some ip => (ip, if n.mask.length = 16 then n.mask.drop 12 else n.mask)
  | none => (n.ip, n.mask)

def IPNet.contains (n : IPNet) (ip : IP) : Bool :=
  let (number, mask) := n.numberAndMask
  let ip := (to4 ip).getD ip
  ip.length = number.length && maskBytes number mask = maskBytes ip mask

/-- An address and its four bytes are in the same networks. -/
theorem IPNet.contains_to4 (n : IPNet) {ip ip4 : IP} (h : to4 ip = some ip4) :
  n.contains ip = n.contains ip4
  := by
  have hlength := (eq_or_eq_of_to4 h).1
  rw [contains, contains, h, to4, if_pos hlength]
  rfl

/-- A network and an address that both have sixteen bytes. -/
theorem IPNet.contains_of_to4_none {n : IPNet} {ip : IP} (hn : to4 n.ip = none) (hip : to4 ip = none) :
  n.contains ip ↔ ip.length = n.ip.length ∧ maskBytes n.ip n.mask = maskBytes ip n.mask
  := by
  rw [contains, numberAndMask, hn, hip]
  simp

example : (parseCIDR (str "10.0.0.1/8")).map (·.contains (v4InV6Prefix ++ [10, 9, 8, 7])) =
    some true := by decide

/-! ### What an address is for -/

def IP.equal (ip other : IP) : Bool :=
  if ip.length = other.length then ip = other
  else if ip.length = 4 ∧ other.length = 16 then other = v4InV6Prefix ++ ip
  else if ip.length = 16 ∧ other.length = 4 then ip = v4InV6Prefix ++ other
  else false

def IP.isUnspecified (ip : IP) : Bool :=
  ip.equal (v4InV6Prefix ++ [0, 0, 0, 0]) || ip.equal (List.replicate 16 0)

def IP.isLoopback (ip : IP) : Bool :=
  match to4 ip with
  | some ip4 => ip4.head? = some 127
  | none => ip.equal (List.replicate 15 0 ++ [1])

def IP.isPrivate (ip : IP) : Bool :=
  match to4 ip with
  | some [a, b, _, _] => a = 10 || (a = 172 && b &&& 0xf0 = 16) || (a = 192 && b = 168)
  | some _ => false
  | none => ip.length = 16 && ip.headD 0 &&& 0xfe = 0xfc

def IP.isMulticast (ip : IP) : Bool :=
  match to4 ip with
  | some ip4 => ip4.headD 0 &&& 0xf0 = 0xe0
  | none => ip.length = 16 && ip.head? = some 0xff

def IP.isInterfaceLocalMulticast (ip : IP) : Bool :=
  ip.length = 16 && ip.head? = some 0xff && ip.getD 1 0 &&& 0x0f = 0x01

def IP.isLinkLocalMulticast (ip : IP) : Bool :=
  match to4 ip with
  | some ip4 => ip4.take 3 = [224, 0, 0]
  | none => ip.length = 16 && ip.head? = some 0xff && ip.getD 1 0 &&& 0x0f = 0x02

def IP.isLinkLocalUnicast (ip : IP) : Bool :=
  match to4 ip with
  | some ip4 => ip4.take 2 = [169, 254]
  | none => ip.length = 16 && ip.head? = some 0xfe && ip.getD 1 0 &&& 0xc0 = 0x80

/-! ### Hosts and ports -/

/-- The host and the port of an address; the host may stand in brackets. -/
def netSplitHostPort (hostport : Str) : Option (Str × Str) := do
  let i ← (hostport.reverse.findIdx? (· = ':'.toUInt8)).map fun j => hostport.length - 1 - j
  let port := hostport.drop (i + 1)
  if hostport.head? = some '['.toUInt8 then
    let stop ← hostport.findIdx? (· = ']'.toUInt8)
    if stop + 1 ≠ i then none
    else
      let host := (hostport.take stop).drop 1
      if '['.toUInt8 ∈ hostport.drop 1 ∨ ']'.toUInt8 ∈ hostport.drop (stop + 1) then none
      else some (host, port)
  else
    let host := hostport.take i
    if ':'.toUInt8 ∈ host ∨ '['.toUInt8 ∈ hostport ∨ ']'.toUInt8 ∈ hostport then none
    else some (host, port)

example : netSplitHostPort (str "[::1]:80") = some (str "::1", str "80") := by decide

end Go
