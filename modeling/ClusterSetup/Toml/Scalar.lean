import ClusterSetup.Text.Chars
import ClusterSetup.Toml.Value

namespace ClusterSetup.Toml

/-- Takes a value from the front of a text. -/
abbrev Reader (α : Type) := List Char → Option (α × List Char)

def expect : List Char → Reader Unit
  | [], cs => some ((), cs)
  | _ :: _, [] => none
  | p :: ps, c :: cs => if p = c then expect ps cs else none

def startsWith (pattern : String) (cs : List Char) : Bool := pattern.toList.isPrefixOf cs

def isSpace (c : Char) : Bool := c = ' ' || c = '\t'

def skipSpaces (cs : List Char) : List Char := cs.dropWhile isSpace

def newline : Reader Unit
  | '\n' :: r => some ((), r)
  | '\r' :: '\n' :: r => some ((), r)
  | _ => none

/-- A character that may stand in a comment or a string; what else may not is for the string to
say. -/
def isPlain (c : Char) : Bool := c = '\t' || (0x20 ≤ c.toNat && c.toNat ≤ 0x7E) || 0x80 ≤ c.toNat

def comment : Reader Unit
  | '#' :: r => some ((), r.dropWhile isPlain)
  | _ => none

/-- Takes the end of a line, with blanks and a comment in front of it. -/
def lineEnd (cs : List Char) : Option (List Char) :=
  let cs := skipSpaces cs
  let cs := match comment cs with
    | some (_, r) => r
    | none => cs
  match cs with
  | [] => some []
  | _ => (newline cs).map (·.2)

/-- Drops blanks, line ends, and comments that end with a line. -/
def skipLinesFor : Nat → List Char → List Char
  | 0, cs => cs
  | fuel + 1, cs =>
    let cs := skipSpaces cs
    let behind := match comment cs with
      | some (_, r) => r
      | none => cs
    match newline behind with
    | some (_, r) => skipLinesFor fuel r
    | none => cs

def skipLines (cs : List Char) : List Char := skipLinesFor cs.length cs

def hexValue? (c : Char) : Option Nat :=
  if '0' ≤ c ∧ c ≤ '9' then some (c.toNat - '0'.toNat)
  else if 'a' ≤ c ∧ c ≤ 'f' then some (c.toNat - 'a'.toNat + 10)
  else if 'A' ≤ c ∧ c ≤ 'F' then some (c.toNat - 'A'.toNat + 10)
  else none

/-- Takes a character given by its number in a fixed count of hexadecimal digits. -/
def unicodeEscape (digits : Nat) : Reader Char := fun cs =>
  if cs.length < digits then none
  else
    match (cs.take digits).mapM hexValue? with
    | none => none
    | some values =>
      let n := values.foldl (fun n v => 16 * n + v) 0
      if h : n.isValidChar then some (Char.ofNatAux n h, cs.drop digits) else none

def escape : Reader Char
  | 'b' :: r => some ('\x08', r)
  | 't' :: r => some ('\t', r)
  | 'n' :: r => some ('\n', r)
  | 'f' :: r => some ('\x0c', r)
  | 'r' :: r => some ('\r', r)
  | '"' :: r => some ('"', r)
  | '\\' :: r => some ('\\', r)
  | 'u' :: r => unicodeEscape 4 r
  | 'U' :: r => unicodeEscape 8 r
  | _ => none

def basicRest : Nat → List Char → Reader String
  | 0, _, _ => none
  | _ + 1, _, [] => none
  | fuel + 1, acc, c :: r =>
    if c = '"' then some (String.ofList acc.reverse, r)
    else if c = '\\' then
      match escape r with
      | some (e, r) => basicRest fuel (e :: acc) r
      | none => none
    else if isPlain c then basicRest fuel (c :: acc) r
    else none

def literalRest : List Char → Reader String
  | _, [] => none
  | acc, c :: r =>
    if c = '\x27' then some (String.ofList acc.reverse, r)
    else if isPlain c then literalRest (c :: acc) r
    else none

def quotesAhead (quote : Char) (cs : List Char) : Nat := (cs.takeWhile (· == quote)).length

/-- Drops what a backslash at the end of a line passes over: the line end and all blanks and empty
lines behind it. -/
def foldLine? (cs : List Char) : Option (List Char) :=
  match newline (skipSpaces cs) with
  | none => none
  | some (_, r) => some (dropBlank r.length r)
where
  dropBlank : Nat → List Char → List Char
    | 0, cs => cs
    | fuel + 1, cs =>
      let cs := skipSpaces cs
      match newline cs with
      | some (_, r) => dropBlank fuel r
      | none => cs

/-- Takes the rest of a string in three quotes. Up to two quotes may stand directly before the
closing ones; line ends become line feeds. -/
def multilineRest (quote : Char) (escapes : Bool) : Nat → List Char → Reader String
  | 0, _, _ => none
  | _ + 1, _, [] => none
  | fuel + 1, acc, c :: r =>
    if c = quote then
      let n := quotesAhead quote (c :: r)
      if n < 3 then multilineRest quote escapes fuel (c :: acc) r
      else if n ≤ 5 then
        some (String.ofList (List.replicate (n - 3) quote ++ acc).reverse, (c :: r).drop n)
      else none
    else if escapes && c = '\\' then
      match foldLine? r with
      | some r => multilineRest quote escapes fuel acc r
      | none =>
        match escape r with
        | some (e, r) => multilineRest quote escapes fuel (e :: acc) r
        | none => none
    else
      match newline (c :: r) with
      | some (_, r) => multilineRest quote escapes fuel ('\n' :: acc) r
      | none => if isPlain c then multilineRest quote escapes fuel (c :: acc) r else none

/-- Takes a string in three quotes; a line end directly behind the opening ones is not part of
it. -/
def multiline (quote : Char) (escapes : Bool) : Reader String := fun cs =>
  let cs := match newline cs with
    | some (_, r) => r
    | none => cs
  multilineRest quote escapes (cs.length + 1) [] cs

def singleLineString : Reader String
  | '"' :: r => basicRest (r.length + 1) [] r
  | '\x27' :: r => literalRest [] r
  | _ => none

def string : Reader String
  | '"' :: '"' :: '"' :: r => multiline '"' true r
  | '\x27' :: '\x27' :: '\x27' :: r => multiline '\x27' false r
  | cs => singleLineString cs

/-- Takes digits with single underscores between them. -/
def digitsRest (isDigit : Char → Bool) : List Char → List Char → List Char × List Char
  | acc, '_' :: c :: r =>
    if isDigit c then digitsRest isDigit (c :: acc) r else (acc.reverse, '_' :: c :: r)
  | acc, c :: r => if isDigit c then digitsRest isDigit (c :: acc) r else (acc.reverse, c :: r)
  | acc, [] => (acc.reverse, [])

/-- Takes at least one digit, with single underscores between the digits. -/
def digits (isDigit : Char → Bool) : Reader (List Char)
  | [] => none
  | c :: r => if isDigit c then some (digitsRest isDigit [c] r) else none

def plainDigits : Reader (List Char)
  | '0' :: r => some (['0'], r)
  | cs => digits Chars.isDigit cs

/-- Whether a number fits into 64 bits with a sign. -/
def inRange (n : Int) : Bool := -0x8000000000000000 ≤ n && n < 0x8000000000000000

/-- Takes a number in a base, written behind its mark. -/
def based (base : Nat) : Reader Int := fun cs =>
  let isDigit (c : Char) : Bool :=
    match hexValue? c with
    | some v => v < base
    | none => false
  match digits isDigit cs with
  | none => none
  | some (ds, r) =>
    let n : Int := ds.foldl (fun n d => base * n + (hexValue? d).getD 0) 0
    if inRange n then some (n, r) else none

/-- Takes the sign of a number, if there is one, and tells whether it is a minus. -/
def sign : List Char → Bool × List Char
  | '+' :: r => (false, r)
  | '-' :: r => (true, r)
  | cs => (false, cs)

def integer : Reader Int
  | '0' :: 'x' :: r => based 16 r
  | '0' :: 'o' :: r => based 8 r
  | '0' :: 'b' :: r => based 2 r
  | cs =>
    let (negative, r) := sign cs
    match plainDigits r with
    | none => none
    | some (ds, r) =>
      let n : Int := Chars.toNat ds
      let n := if negative then -n else n
      if inRange n then some (n, r) else none

/-- The least number that is rounded up beyond the largest double: half a step above that. -/
def floatLimit : Nat := Nat.pow 2 1024 - Nat.pow 2 970

/-- Whether a positive decimal, its digits and the exponent of the last one, is too large for a
double. -/
def overflows (digits : List Char) (exponent : Int) : Bool :=
  let n := Chars.toNat digits
  let magnitude : Int := (Nat.toDigits 10 n).length + exponent
  if n = 0 || magnitude < 300 then false
  else if 320 < magnitude then true
  else if 0 ≤ exponent then floatLimit ≤ n * Nat.pow 10 exponent.toNat
  else floatLimit * Nat.pow 10 (-exponent).toNat ≤ n

def exponent : Reader Int
  | c :: r =>
    if c = 'e' ∨ c = 'E' then
      let (negative, r) := sign r
      match digits Chars.isDigit r with
      | none => none
      | some (ds, r) =>
        let n : Int := Chars.toNat ds
        some (if negative then -n else n, r)
    else none
  | [] => none

def fraction : Reader (List Char)
  | '.' :: r => digits Chars.isDigit r
  | _ => none

/-- Takes a float, a number with a fraction or an exponent, or one of the names `inf` and
`nan`. -/
def float : Reader Unit := fun cs =>
  let (negative, r) := sign cs
  if startsWith "inf" r || startsWith "nan" r then some ((), r.drop 3)
  else
    match plainDigits r with
    | none => none
    | some (whole, r) =>
      let check (ds : List Char) (e : Int) (r : List Char) : Option (Unit × List Char) :=
        if !negative && overflows ds e then none else some ((), r)
      match exponent r with
      | some (e, r) => check whole e r
      | none =>
        match fraction r with
        | none => none
        | some (places, r) =>
          match exponent r with
          | some (e, r) => check (whole ++ places) (e - places.length) r
          | none => check (whole ++ places) (-places.length) r

/-- Takes a number of so many digits that lies between two bounds. -/
def fixedNumber (count low high : Nat) : Reader Nat := fun cs =>
  let ds := cs.take count
  if ds.length = count ∧ ds.all Chars.isDigit then
    let n := Chars.toNat ds
    if low ≤ n ∧ n ≤ high then some (n, cs.drop count) else none
  else none

def daysOf (year month : Nat) : Nat :=
  if month = 2 then if year % 4 = 0 ∧ (year % 100 ≠ 0 ∨ year % 400 = 0) then 29 else 28
  else if month = 4 ∨ month = 6 ∨ month = 9 ∨ month = 11 then 30
  else 31

def date : Reader Unit := fun cs => do
  let (year, r) ← fixedNumber 4 0 9999 cs
  let (_, r) ← expect ['-'] r
  let (month, r) ← fixedNumber 2 1 12 r
  let (_, r) ← expect ['-'] r
  let (_, r) ← fixedNumber 2 1 (daysOf year month) r
  some ((), r)

def time : Reader Unit := fun cs => do
  let (_, r) ← fixedNumber 2 0 23 cs
  let (_, r) ← expect [':'] r
  let (_, r) ← fixedNumber 2 0 59 r
  let (_, r) ← expect [':'] r
  let (_, r) ← fixedNumber 2 0 60 r
  match r with
  | '.' :: c :: rest =>
    if Chars.isDigit c then some ((), rest.dropWhile Chars.isDigit) else some ((), r)
  | _ => some ((), r)

/-- Takes the offset of a time, if there is one. A sign has to be followed by hours and
minutes. -/
def offset : Reader Unit
  | c :: r =>
    if c = 'Z' ∨ c = 'z' then some ((), r)
    else if c = '+' ∨ c = '-' then do
      let (_, r) ← fixedNumber 2 0 23 r
      let (_, r) ← expect [':'] r
      let (_, r) ← fixedNumber 2 0 59 r
      some ((), r)
    else some ((), c :: r)
  | [] => some ((), [])

/-- Takes a date, a time, or both. -/
def moment : Reader Unit := fun cs =>
  match date cs with
  | none => time cs
  | some (_, r) =>
    match r with
    | c :: rest =>
      if c = 'T' ∨ c = 't' ∨ c = ' ' then
        match time rest with
        | some (_, rest) => offset rest
        | none => some ((), r)
      else some ((), r)
    | [] => some ((), [])

end ClusterSetup.Toml
