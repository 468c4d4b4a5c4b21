/-! # ASCII letters

Keys of a transport and truthy values are compared up to the case of ASCII letters; other letters
are compared as they stand.
-/

namespace ShadowTraffic.Text

/-- A text with its ASCII capitals made small. -/
def asciiLower (s : String) : String :=
  String.ofList (s.toList.map Char.toLower)

/-- Equality up to the case of ASCII letters. -/
def sameAscii (a b : String) : Bool :=
  asciiLower a == asciiLower b

theorem sameAscii_iff {a b : String} : sameAscii a b = true ↔ asciiLower a = asciiLower b := by
  simp [sameAscii]

/-- ASCII letters and digits. -/
def isAsciiAlphanumeric (c : Char) : Bool :=
  c.isAlphanum

def startsWith (s start : String) : Bool :=
  start.toList.isPrefixOf s.toList

/-- What follows a text's beginning, when it begins so. -/
def rest? (s start : String) : Option String :=
  if startsWith s start then some (String.ofList (s.toList.drop start.toList.length)) else none

end ShadowTraffic.Text
