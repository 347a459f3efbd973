import Authorship.Number.Integer

namespace Authorship.Json

inductive Problem
  | noValue
  | noPropertyName
  | noColon
  | noComma
  | extraData
  | controlCharacter
  | badEscape
  | badHexEscape
  | unterminated
  | byteOrderMark
deriving Repr, DecidableEq

def Problem.text : Problem → String
  | .noValue => "Expecting value"
  | .noPropertyName => "Expecting property name enclosed in double quotes"
  | .noColon => "Expecting ':' delimiter"
  | .noComma => "Expecting ',' delimiter"
  | .extraData => "Extra data"
  | .controlCharacter => "Invalid control character at"
  | .badEscape => "Invalid \\escape"
  | .badHexEscape => "Invalid \\uXXXX escape"
  | .unterminated => "Unterminated string starting at"
  | .byteOrderMark => "Unexpected UTF-8 BOM (decode using utf-8-sig)"

/-- The two kinds of values that hold others. -/
inductive Nesting
  | list
  | object
deriving Repr, DecidableEq

inductive Fault
  | malformed (problem : Problem) (remaining : Nat)
  | tooManyDigits (count : Nat)
  | tooDeep (kind : Nesting)
deriving Repr, DecidableEq

def placeText (document : List Char) (position : Nat) : String :=
  let before := document.take position
  let line := before.count '\n' + 1
  let column := (before.reverse.takeWhile (· != '\n')).length + 1
  "line " ++ line.repr ++ " column " ++ column.repr ++ " (char " ++ position.repr ++ ")"

def Fault.message (document : List Char) : Fault → String
  | .malformed problem remaining =>
    problem.text ++ ": " ++ placeText document (document.length - remaining)
  | .tooManyDigits count => Number.tooManyDigitsText count
  | .tooDeep .list =>
    "maximum recursion depth exceeded while decoding a JSON array from a unicode string"
  | .tooDeep .object =>
    "maximum recursion depth exceeded while decoding a JSON object from a unicode string"

end Authorship.Json
