/-!
UTF-8: the characters that a list of bytes encodes. A sequence of bytes that encodes no character is
passed over up to the byte at which it could no longer be continued.
-/

namespace ClusterSetup.Utf8

/-- Whether a byte can continue a sequence. -/
def isContinuation (b : UInt8) : Bool := 0x80 ≤ b && b ≤ 0xBF

/-- The bounds of the second byte behind a first one, and the number of further bytes that follow
the second. Overlong forms, surrogates and numbers that are too large are excluded here. -/
def secondByte? (b : UInt8) : Option (UInt8 × UInt8 × Nat) :=
  if 0xC2 ≤ b && b ≤ 0xDF then some (0x80, 0xBF, 0)
  else if b == 0xE0 then some (0xA0, 0xBF, 1)
  else if b == 0xED then some (0x80, 0x9F, 1)
  else if 0xE1 ≤ b && b ≤ 0xEF then some (0x80, 0xBF, 1)
  else if b == 0xF0 then some (0x90, 0xBF, 2)
  else if b == 0xF4 then some (0x80, 0x8F, 2)
  else if 0xF1 ≤ b && b ≤ 0xF3 then some (0x80, 0xBF, 2)
  else none

/-- The bits that a first byte contributes, followed by so many more bytes. -/
def leadBits (b : UInt8) (further : Nat) : Nat :=
  b.toNat % (if further = 1 then 32 else if further = 2 then 16 else 8)

/-- Takes further bytes of a sequence and adds their bits. -/
def takeRest : Nat → Nat → List UInt8 → Option Char × List UInt8
  | 0, n, bs => (some (Char.ofNat n), bs)
  | _ + 1, _, [] => (none, [])
  | count + 1, n, b :: bs =>
    if isContinuation b then takeRest count (64 * n + b.toNat % 64) bs else (none, b :: bs)

/-- Takes the sequence that begins with a byte: a character, or none if it encodes none. -/
def takeChar (b : UInt8) (bs : List UInt8) : Option Char × List UInt8 :=
  if b < 0x80 then (some (Char.ofNat b.toNat), bs)
  else
    match secondByte? b, bs with
    | some (low, high, further), c :: rest =>
      if low ≤ c && c ≤ high then
        takeRest further (64 * leadBits b (further + 1) + c.toNat % 64) rest
      else (none, bs)
    | _, _ => (none, bs)

def sequencesFor : Nat → List UInt8 → List (Option Char)
  | 0, _ => []
  | _ + 1, [] => []
  | fuel + 1, b :: bs =>
    let (c, rest) := takeChar b bs
    c :: sequencesFor fuel rest

/-- The sequences of a list of bytes: their characters, and none for what encodes no character. -/
def sequences (bs : List UInt8) : List (Option Char) := sequencesFor bs.length bs

/-- The text of a list of bytes, with a replacement character for each sequence that encodes
none. -/
def decodeLossy (bs : List UInt8) : String :=
  String.ofList ((sequences bs).map fun c => c.getD '\uFFFD')

/-- The text of a list of bytes, if every sequence encodes a character. -/
def decode? (bs : List UInt8) : Option String := ((sequences bs).mapM id).map String.ofList

end ClusterSetup.Utf8
