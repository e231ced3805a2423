namespace ClusterSetup.Chars

/-- The characters with the Unicode property White_Space. -/
def isBlank (c : Char) : Bool :=
  let n := c.toNat
  (9 ≤ n && n ≤ 13) || n == 0x20 || n == 0x85 || n == 0xA0 || n == 0x1680 ||
    (0x2000 ≤ n && n ≤ 0x200A) || n == 0x2028 || n == 0x2029 || n == 0x202F || n == 0x205F ||
    n == 0x3000

def isDigit (c : Char) : Bool := '0' ≤ c && c ≤ '9'

def isAlphanum (c : Char) : Bool :=
  isDigit c || ('a' ≤ c && c ≤ 'z') || ('A' ≤ c && c ≤ 'Z')

/-- Whether the character U+0000 is among others. Names and arguments that are handed to the system
end there. -/
def hasNul (cs : List Char) : Bool := cs.contains '\x00'

def trimLeft (cs : List Char) : List Char := cs.dropWhile isBlank

def trimRight (cs : List Char) : List Char := (cs.reverse.dropWhile isBlank).reverse

def trim (cs : List Char) : List Char := trimRight (trimLeft cs)

/-- Drops every leading and trailing occurrence of one character. -/
def strip (c : Char) (cs : List Char) : List Char :=
  ((cs.dropWhile (· == c)).reverse.dropWhile (· == c)).reverse

/-- The text before and after the first occurrence of a separator, if there is one. -/
def cut? (sep : Char) : List Char → Option (List Char × List Char)
  | [] => none
  | c :: r => if c = sep then some ([], r) else (cut? sep r).map fun p => (c :: p.1, p.2)

/-- The first word, the longest run of characters that are not blank after the leading blanks,
together with the text behind it. -/
def word? (cs : List Char) : Option (List Char × List Char) :=
  match trimLeft cs with
  | [] => none
  | c :: r => some ((c :: r).takeWhile (!isBlank ·), (c :: r).dropWhile (!isBlank ·))

/-- The lines of a text. A line ends at a line feed, a carriage return directly in front of it
belongs to the line end, and nothing follows the last line feed. -/
def lines : List Char → List (List Char)
  | [] => []
  | '\n' :: r => [] :: lines r
  | '\r' :: '\n' :: r => [] :: lines r
  | c :: r =>
    match lines r with
    | [] => [[c]]
    | l :: ls => (c :: l) :: ls

/-- The pieces between the characters that satisfy a test, empty pieces included. -/
def pieces (p : Char → Bool) : List Char → List (List Char)
  | [] => [[]]
  | c :: r =>
    if p c then [] :: pieces p r
    else
      match pieces p r with
      | [] => [[c]]
      | l :: ls => (c :: l) :: ls

/-- Replaces while a number of characters, the rest of an occurrence, is still to be passed over. -/
def replaceFrom (pattern value : List Char) : Nat → List Char → List Char
  | _, [] => []
  | skip + 1, _ :: r => replaceFrom pattern value skip r
  | 0, c :: r =>
    if pattern.isPrefixOf (c :: r) then value ++ replaceFrom pattern value (pattern.length - 1) r
    else c :: replaceFrom pattern value 0 r

/-- Replaces every occurrence of a nonempty pattern, from left to right; inserted text is not
searched again. -/
def replaceAll (pattern value cs : List Char) : List Char :=
  replaceFrom pattern value 0 cs

def occursIn (pattern : List Char) : List Char → Bool
  | [] => pattern.isEmpty
  | c :: r => pattern.isPrefixOf (c :: r) || occursIn pattern r

/-- The number that a list of ASCII digits denotes. -/
def toNat (digits : List Char) : Nat :=
  digits.foldl (fun n c => n * 10 + (c.toNat - '0'.toNat)) 0

/-- Reads a nonempty list of ASCII digits. -/
def toNat? (digits : List Char) : Option Nat :=
  if digits.isEmpty || !digits.all isDigit then none else some (toNat digits)

end ClusterSetup.Chars
