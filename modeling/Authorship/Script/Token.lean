import Authorship.Text.Blank

namespace Authorship.Script

open Authorship.Text

mutual

def tokensOutside : List (List Char) → List (List Char)
  | [] => []
  | piece :: rest => words piece ++ tokensInside rest

/-- Tokens of pieces of which the first stands between quotes. -/
def tokensInside : List (List Char) → List (List Char)
  | [] => []
  | piece :: rest => piece :: tokensOutside rest

end

def tokens (line : String) : List String :=
  (tokensOutside (line.toList.splitOnP (· == '"'))).map String.ofList

end Authorship.Script
