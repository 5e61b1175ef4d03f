import SwitchAbstraction.OrderedMap
import SwitchAbstraction.Text

/-!
# Addresses

MAC and IP addresses with their texts.
-/

namespace SwitchAbstraction

/-!
## MAC addresses

Six octets, written as two hexadecimal digits each.  Colons and hyphens both
separate octets on reading, in any mixture; colons do on writing.
-/

/-- An Ethernet address of six octets. -/
structure Mac where
  octets : List UInt8
  length_octets : octets.length = 6
  deriving DecidableEq

namespace Mac

/-- The all-zero address, which stands for any address in a flush event. -/
def zero : Mac :=
  ⟨List.replicate 6 0, rfl⟩

/-- Whether all octets are zero. -/
def isZero (mac : Mac) : Bool :=
  mac = zero

/-- Whether the group bit, the lowest of the first octet, is set. -/
def isMulticast (mac : Mac) : Bool :=
  mac.octets.head?.any fun octet => octet.toNat % 2 = 1

/-- The address with the given octets, if they are six. -/
def ofOctets? (octets : List UInt8) : Option Mac :=
  if length : octets.length = 6 then some ⟨octets, length⟩ else none

/-- One written octet: two characters that read as a hexadecimal numeral. -/
def octet? (cs : List Char) : Option UInt8 :=
  if cs.length = 2 then
    (Text.readUnsigned 16 256 cs).toOption.map UInt8.ofNat
  else
    none

/-- Reads six octets with a colon or a hyphen between any two. -/
def ofText? (text : String) : Option Mac :=
  ((Text.pieces (fun c => c = ':' || c = '-') text.toList).mapM octet?).bind ofOctets?

/-- The octets in lower case with colons between them. -/
def text (mac : Mac) : String :=
  String.ofList ([':'].intercalate (mac.octets.map Text.hexByte))

instance : Ranked Mac where
  rank mac := mac.octets.map UInt8.toNat
  rank_injective {first second} same := by
    have inner := (List.map_inj_right fun _ _ => UInt8.toNat_inj.mp).mp same
    cases first
    cases second
    simp_all

end Mac

/-!
## IP addresses

Version 4 addresses are written as four decimal octets.  Version 6 addresses
are written as eight hexadecimal groups, of which one run of zeros may shrink
to a double colon and the last two may be given as a version 4 address.
-/

/-- A version 4 address of four octets. -/
structure Ipv4 where
  octets : List UInt8
  length_octets : octets.length = 4
  deriving DecidableEq

namespace Ipv4

/-- The address of zeros. -/
def zero : Ipv4 :=
  ⟨List.replicate 4 0, rfl⟩

/-- One written octet: up to three decimal digits, a zero only on its own in front. -/
def octet? (cs : List Char) : Option UInt8 :=
  if cs.length ≤ 3 ∧ cs.all Char.isDigit ∧ (cs.head? = some '0' → cs.length = 1) then
    (Text.readUnsigned 10 256 cs).toOption.map UInt8.ofNat
  else
    none

/-- The address with the given octets, if they are four. -/
def ofOctets? (octets : List UInt8) : Option Ipv4 :=
  if length : octets.length = 4 then some ⟨octets, length⟩ else none

/-- Reads four octets with a dot between any two. -/
def read? (cs : List Char) : Option Ipv4 :=
  ((Text.pieces (· = '.') cs).mapM octet?).bind ofOctets?

/-- The octets in decimal with dots between them. -/
def write (address : Ipv4) : List Char :=
  ['.'].intercalate (address.octets.map fun octet => Text.digits 10 octet.toNat)

/-- The address as two groups of sixteen bits. -/
def groups (address : Ipv4) : List UInt16 :=
  match address.octets with
  | [a, b, c, d] =>
      [UInt16.ofNat (a.toNat * 256 + b.toNat), UInt16.ofNat (c.toNat * 256 + d.toNat)]
  | _ => []

end Ipv4

/-- A version 6 address of eight groups. -/
structure Ipv6 where
  groups : List UInt16
  length_groups : groups.length = 8
  deriving DecidableEq

namespace Ipv6

/-- One written group: one to four hexadecimal digits. -/
def group? (cs : List Char) : Option UInt16 :=
  if cs.length ≤ 4 ∧ cs.all (fun c => (Text.digit? 16 c).isSome) then
    (Text.readUnsigned 16 65536 cs).toOption.map UInt16.ofNat
  else
    none

/-- Groups of which the last may be a version 4 address that counts for two. -/
def groups? : List (List Char) → Option (List UInt16)
  | [] => some []
  | [last] => ((group? last).map fun group => [group]) <|> (Ipv4.read? last).map Ipv4.groups
  | first :: rest => do
      let group ← group? first
      let others ← groups? rest
      return group :: others

/-- The parts before and after the first double colon. -/
def cutGap? : List Char → Option (List Char × List Char)
  | ':' :: ':' :: after => some ([], after)
  | c :: cs => (cutGap? cs).map fun parts => (c :: parts.1, parts.2)
  | [] => none

/-- The parts between colons; an empty text has none. -/
def fields (cs : List Char) : List (List Char) :=
  if cs.isEmpty then [] else Text.pieces (· = ':') cs

/-- The address with the given groups, if they are eight. -/
def ofGroups? (groups : List UInt16) : Option Ipv6 :=
  if length : groups.length = 8 then some ⟨groups, length⟩ else none

/-- Reads eight groups; a double colon stands for at least one group of zeros. -/
def read? (cs : List Char) : Option Ipv6 :=
  match cutGap? cs with
  | none => (groups? (fields cs)).bind ofGroups?
  | some (before, after) => do
      let front ← (fields before).mapM group?
      let back ← groups? (fields after)
      let gap := 8 - (front.length + back.length)
      if gap = 0 then none else ofGroups? (front ++ List.replicate gap 0 ++ back)

/-- The number of zeros that a list of groups begins with. -/
def zeroRun (groups : List UInt16) : Nat :=
  (groups.takeWhile (· = 0)).length

/-- Where the first of the longest runs of zeros begins. -/
def longestZeroRun (groups : List UInt16) : Nat :=
  (List.range groups.length).foldl
    (fun best start =>
      if zeroRun (groups.drop best) < zeroRun (groups.drop start) then start else best) 0

/-- Groups in lower-case hexadecimal with colons between them. -/
def writeGroups (groups : List UInt16) : List Char :=
  [':'].intercalate (groups.map fun group => Text.digits 16 group.toNat)

/-- The version 4 address that a mapped address carries in its last two groups. -/
def mapped? (address : Ipv6) : Option Ipv4 :=
  match address.groups with
  | [0, 0, 0, 0, 0, 0xffff, high, low] =>
      some ⟨[UInt8.ofNat (high.toNat / 256), UInt8.ofNat (high.toNat % 256),
        UInt8.ofNat (low.toNat / 256), UInt8.ofNat (low.toNat % 256)], rfl⟩
  | _ => none

/--
A mapped address shows its version 4 part.  In any other the first longest run
of at least two zeros shrinks to a double colon.
-/
def write (address : Ipv6) : List Char :=
  match address.mapped? with
  | some inner => "::ffff:".toList ++ inner.write
  | none =>
      let start := longestZeroRun address.groups
      let run := zeroRun (address.groups.drop start)
      if 2 ≤ run then
        writeGroups (address.groups.take start) ++ "::".toList ++
          writeGroups (address.groups.drop (start + run))
      else
        writeGroups address.groups

end Ipv6

/-- An address of either version. -/
inductive Ip
  | v4 (address : Ipv4)
  | v6 (address : Ipv6)
  deriving DecidableEq

namespace Ip

/-- Whether the address is of version 4. -/
def isV4 : Ip → Bool
  | .v4 _ => true
  | .v6 _ => false

/-- The number of bits of an address of the same version. -/
def width : Ip → Nat
  | .v4 _ => 32
  | .v6 _ => 128

/-- Reads an address of either version. -/
def read? (cs : List Char) : Option Ip :=
  (Ipv4.read? cs).map .v4 <|> (Ipv6.read? cs).map .v6

/-- The characters of an address. -/
def write : Ip → List Char
  | .v4 address => address.write
  | .v6 address => address.write

/-- Reads an address from a text. -/
def ofText? (text : String) : Option Ip :=
  read? text.toList

/-- The text of an address. -/
def text (address : Ip) : String :=
  String.ofList address.write

/-- Version 4 addresses come before version 6 addresses; each version goes by its digits. -/
instance : Ranked Ip where
  rank
    | .v4 address => 4 :: address.octets.map UInt8.toNat
    | .v6 address => 6 :: address.groups.map UInt16.toNat
  rank_injective {first second} same := by
    cases first with
    | v4 first =>
        cases second with
        | v4 second =>
            have inner := (List.map_inj_right fun _ _ => UInt8.toNat_inj.mp).mp
              (List.cons.inj same).2
            cases first
            cases second
            simp_all
        | v6 second => simp at same
    | v6 first =>
        cases second with
        | v4 second => simp at same
        | v6 second =>
            have inner := (List.map_inj_right fun _ _ => UInt16.toNat_inj.mp).mp
              (List.cons.inj same).2
            cases first
            cases second
            simp_all

end Ip

/-- An address with the number of its leading bits that count. -/
structure IpNetwork where
  address : Ip
  length : Nat
  length_le : length ≤ address.width
  deriving DecidableEq

namespace IpNetwork

/-- The address and its length with a slash between them. -/
def text (network : IpNetwork) : String :=
  network.address.text ++ "/" ++ Text.decimal network.length

/-- The ways in which a text fails to be a network. -/
inductive Defect
  | malformed (text : String)
  | tooLong (length : Nat) (address : Ip)
  deriving DecidableEq

/-- The network with an address and a length, if the address has that many bits. -/
def make (address : Ip) (length : Nat) : Except Defect IpNetwork :=
  if fits : length ≤ address.width then .ok ⟨address, length, fits⟩
  else .error (.tooLong length address)

/-- Reads an address, a slash and a length below 256. -/
def parse (text : String) : Except Defect IpNetwork :=
  match Text.cut? '/' text.toList with
  | none => .error (.malformed text)
  | some (address, length) =>
      match Ip.read? address, Text.readUnsigned 10 256 length with
      | some address, .ok length => make address length
      | _, _ => .error (.malformed text)

/-- Networks go by their address, then by their length. -/
instance : Ranked IpNetwork where
  rank network := Ranked.rank network.address ++ [network.length]
  rank_injective {first second} same := by
    obtain ⟨ranks, lengths⟩ := List.append_inj' same rfl
    have addresses := Ranked.rank_injective ranks
    cases first
    cases second
    simp_all

end IpNetwork

end SwitchAbstraction
