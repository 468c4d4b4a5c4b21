/-! # Texts in pieces

A text is cut wherever a separator stands, from left to right, and pieces are joined again with
separators between them. There is always at least one piece.
-/

namespace ShadowTraffic.Text

/-- The pieces between separators, where so many characters of a separator are still to be passed
over. -/
def piecesFrom (separator : List Char) : (skip : Nat) → List Char → List (List Char)
  | _, [] => [[]]
  | skip + 1, _ :: rest => piecesFrom separator skip rest
  | 0, c :: rest =>
    if separator.isPrefixOf (c :: rest) then [] :: piecesFrom separator (separator.length - 1) rest
    else
      match piecesFrom separator 0 rest with
      | [] => [[c]]
      | p :: ps => (c :: p) :: ps

theorem piecesFrom_ne_nil (separator : List Char) (skip : Nat) (cs : List Char) :
    piecesFrom separator skip cs ≠ [] := by
  fun_induction piecesFrom separator skip cs <;> simp_all

def pieces (s separator : String) : List String :=
  (piecesFrom separator.toList 0 s.toList).map String.ofList

def joined (separator : String) : List String → String
  | [] => ""
  | [s] => s
  | s :: t :: rest => s ++ separator ++ joined separator (t :: rest)

/-- Whether characters occur somewhere. -/
def occurs (part : List Char) : List Char → Bool
  | [] => part.isEmpty
  | c :: rest => part.isPrefixOf (c :: rest) || occurs part rest

end ShadowTraffic.Text
