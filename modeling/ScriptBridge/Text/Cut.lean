/-!
# Pieces of text

A text without a given start, whether a piece stands somewhere in a text, and a text cut at a
separator or into lines.
-/

namespace ScriptBridge.Text

def stripStart? : List Char → List Char → Option (List Char)
  | [], cs => some cs
  | _ :: _, [] => none
  | p :: ps, c :: cs => if p = c then stripStart? ps cs else none

/-- A text without `start`, if it starts with it. -/
def dropStart (start cs : List Char) : List Char := (stripStart? start cs).getD cs

def occursIn (piece : List Char) : List Char → Bool
  | [] => piece.isEmpty
  | c :: cs => piece.isPrefixOf (c :: cs) || occursIn piece cs

/-- The pieces of a text between separators; there is always one more of them than separators. -/
def pieces (sep : Char) : List Char → List (List Char)
  | [] => [[]]
  | c :: cs =>
    if c = sep then [] :: pieces sep cs
    else
      match pieces sep cs with
      | [] => [[c]]
      | p :: ps => (c :: p) :: ps

/-- A line without one carriage return at its end. -/
def dropReturn (cs : List Char) : List Char := if cs.getLast? = some '\r' then cs.dropLast else cs

/-- The lines of a text, each ended by a newline or by a carriage return and a newline. What follows
the last newline is a line of its own, as it is, unless it is empty. -/
def lines (cs : List Char) : List (List Char) :=
  let ps := pieces '\n' cs
  ps.dropLast.map dropReturn ++ (ps.getLast?.filter (· ≠ [])).toList

end ScriptBridge.Text
