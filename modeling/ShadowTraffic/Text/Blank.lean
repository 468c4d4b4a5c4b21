import ShadowTraffic.Text.CodeRange

/-! # Blank text

White space is the Unicode property of that name: ten ranges, wider than the ASCII blanks and
without the zero-width characters. A text is blank when it holds nothing else; trimming drops
white space at both ends.
-/

namespace ShadowTraffic.Text

/-- The Unicode property White_Space. -/
def whiteSpace : CodeRanges := [
  (0x9, 0xD), (0x20, 0x20), (0x85, 0x85), (0xA0, 0xA0), (0x1680, 0x1680), (0x2000, 0x200A),
  (0x2028, 0x2029), (0x202F, 0x202F), (0x205F, 0x205F), (0x3000, 0x3000)]

def isWhite (c : Char) : Bool :=
  whiteSpace.holds c

/-- Characters without the white space at both ends. -/
def trimChars (cs : List Char) : List Char :=
  ((cs.dropWhile isWhite).reverse.dropWhile isWhite).reverse

/-- A text without the white space at both ends. -/
def trim (s : String) : String :=
  String.ofList (trimChars s.toList)

/-- Whether a text holds white space only, the empty text included. -/
def isBlank (s : String) : Bool :=
  s.toList.all isWhite

theorem isWhite_of_isWhitespace {c : Char} (h : c.isWhitespace = true) : isWhite c = true := by
  simp only [Char.isWhitespace, Bool.or_eq_true, decide_eq_true_eq] at h
  rcases h with ((rfl | rfl) | rfl) | rfl <;> decide

end ShadowTraffic.Text
