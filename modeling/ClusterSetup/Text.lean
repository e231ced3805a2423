import ClusterSetup.Text.Chars

namespace ClusterSetup.Text

def trim (s : String) : String := String.ofList (Chars.trim s.toList)

def trimRight (s : String) : String := String.ofList (Chars.trimRight s.toList)

def isBlank (s : String) : Bool := s.toList.all Chars.isBlank

def lines (s : String) : List String := (Chars.lines s.toList).map String.ofList

def lower (s : String) : String := String.ofList (s.toList.map Char.toLower)

def replaceAll (pattern value s : String) : String :=
  String.ofList (Chars.replaceAll pattern.toList value.toList s.toList)

def contains (pattern s : String) : Bool := Chars.occursIn pattern.toList s.toList

/-- Fills a text up with spaces on the right until it has the given number of characters. -/
def padRight (width : Nat) (s : String) : String :=
  s ++ String.ofList (List.replicate (width - s.length) ' ')

def join (separator : String) (texts : List String) : String := separator.intercalate texts

end ClusterSetup.Text
