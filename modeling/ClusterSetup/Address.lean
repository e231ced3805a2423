import ClusterSetup.Text
import ClusterSetup.Transport

/-!
Host addresses in numbers. Such an address is written in one way only: IPv4 in dotted decimals, IPv6
in lower case groups without leading zeros, with its longest run of at least two zero groups
shortened to a pair of colons. What a name stands for is not told here; that takes a name service.
-/

namespace ClusterSetup.Address

/-- Reads one number of an IPv4 address: at most three digits, without leading zeros, below
256. -/
def readOctet? (cs : List Char) : Option Nat :=
  match cs with
  | [] => none
  | '0' :: _ :: _ => none
  | _ =>
    if cs.length ≤ 3 then
      match Chars.toNat? cs with
      | some n => if n < 256 then some n else none
      | none => none
    else none

def readIPv4? (cs : List Char) : Option (List Nat) :=
  match (Chars.pieces (· == '.') cs).mapM readOctet? with
  | some octets => if octets.length = 4 then some octets else none
  | none => none

def hexDigit? (c : Char) : Option Nat :=
  if '0' ≤ c ∧ c ≤ '9' then some (c.toNat - '0'.toNat)
  else if 'a' ≤ c ∧ c ≤ 'f' then some (c.toNat - 'a'.toNat + 10)
  else if 'A' ≤ c ∧ c ≤ 'F' then some (c.toNat - 'A'.toNat + 10)
  else none

/-- Reads one group of an IPv6 address, one to four hexadecimal digits. -/
def readGroup? (cs : List Char) : Option Nat :=
  if cs.isEmpty ∨ 4 < cs.length then none
  else (cs.mapM hexDigit?).map fun digits => digits.foldl (fun n d => 16 * n + d) 0

def groupsOfOctets : List Nat → List Nat
  | [a, b, c, d] => [256 * a + b, 256 * c + d]
  | _ => []

/-- Reads groups with colons between them. The last one may be an IPv4 address where that is
allowed. -/
def readGroups? (ipv4Last : Bool) : List (List Char) → Option (List Nat)
  | [] => some []
  | [last] =>
    match readGroup? last with
    | some g => some [g]
    | none => if ipv4Last then (readIPv4? last).map groupsOfOctets else none
  | g :: rest =>
    match readGroup? g, readGroups? ipv4Last rest with
    | some n, some ns => some (n :: ns)
    | _, _ => none

/-- The text before and after the first pair of colons. -/
def cutAtPair? : List Char → Option (List Char × List Char)
  | [] => none
  | ':' :: ':' :: r => some ([], r)
  | c :: r => (cutAtPair? r).map fun p => (c :: p.1, p.2)

def readSide? (ipv4Last : Bool) (cs : List Char) : Option (List Nat) :=
  if cs.isEmpty then some [] else readGroups? ipv4Last (Chars.pieces (· == ':') cs)

/-- Reads eight groups; a pair of colons stands for at least one group of zeros. -/
def readIPv6? (cs : List Char) : Option (List Nat) :=
  match cutAtPair? cs with
  | none =>
    match readSide? true cs with
    | some groups => if groups.length = 8 then some groups else none
    | none => none
  | some (left, right) =>
    match readSide? false left, readSide? true right with
    | some ls, some rs =>
      if ls.length + rs.length < 8 then
        some (ls ++ List.replicate (8 - ls.length - rs.length) 0 ++ rs)
      else none
    | _, _ => none

def zeroRun (groups : List Nat) : Nat := (groups.takeWhile (· == 0)).length

/-- The place and length of the first of the longest runs of zeros, found from a place on. -/
def longestZeroRun : Nat → List Nat → Nat × Nat
  | place, [] => (place, 0)
  | place, g :: rest =>
    let later := longestZeroRun (place + 1) rest
    let here := zeroRun (g :: rest)
    if later.2 ≤ here then (place, here) else later

def writeGroups (groups : List Nat) : String :=
  Text.join ":" (groups.map fun g => String.ofList (Nat.toDigits 16 g))

def writeIPv4 (octets : List Nat) : String := Text.join "." (octets.map toString)

/-- The one text of an IPv6 address. An IPv4 address in its last groups, marked by ones in front
of it, is written in dotted decimals. -/
def writeIPv6 (groups : List Nat) : String :=
  match groups with
  | [0, 0, 0, 0, 0, 0xFFFF, a, b] =>
    "::ffff:" ++ writeIPv4 [a / 256, a % 256, b / 256, b % 256]
  | _ =>
    let (place, length) := longestZeroRun 0 groups
    if length < 2 then writeGroups groups
    else writeGroups (groups.take place) ++ "::" ++ writeGroups (groups.drop (place + length))

/-- What a lookup says where no name service is asked: an address in numbers is found as it stands,
in its one text, and no text with the character U+0000 is looked up. -/
def lookUpLocally? (address : String) : Option Lookup :=
  let cs := address.toList
  if Chars.hasNul cs then some (.failed "file name contained an unexpected NUL byte")
  else
    match readIPv4? cs, readIPv6? cs with
    | some octets, _ => some (.found [writeIPv4 octets])
    | none, some groups => some (.found [writeIPv6 groups])
    | none, none => none

end ClusterSetup.Address
