import Authorship.Number.Shortest
import Authorship.Text.Symbol

namespace Authorship

open Authorship.Text Authorship.Number

inductive Json
  | null
  | bool (value : Bool)
  | integer (value : Int)
  | number (value : Binary64)
  | string (value : List Symbol)
  | list (items : List Json)
  | object (members : List (List Symbol × Json))

namespace Json

def setMember (name : List Symbol) (value : Json) :
    List (List Symbol × Json) → List (List Symbol × Json)
  | [] => [(name, value)]
  | member :: rest =>
    if member.1 == name then (name, value) :: rest else member :: setMember name value rest

def member? (value : Json) (name : String) : Option Json :=
  match value with
  | .object members => members.lookup (symbolsOf name)
  | _ => none

/-- Whether a value counts as present: not null, false, zero or empty. -/
def isPresent : Json → Bool
  | .null => false
  | .bool value => value
  | .integer value => value != 0
  | .number value => !value.eq (.finite 0)
  | .string value => !value.isEmpty
  | .list items => !items.isEmpty
  | .object members => !members.isEmpty

mutual

/-- A value inside another one, where texts are quoted. -/
def inner : Json → String
  | .null => "None"
  | .bool value => if value then "True" else "False"
  | .integer value => toString value
  | .number value => value.text
  | .string value => String.ofList (quotedSymbols value)
  | .list items => "[" ++ ", ".intercalate (innerItems items) ++ "]"
  | .object members => "\x7b" ++ ", ".intercalate (innerMembers members) ++ "\x7d"

def innerItems : List Json → List String
  | [] => []
  | item :: rest => item.inner :: innerItems rest

def innerMembers : List (List Symbol × Json) → List String
  | [] => []
  | (name, value) :: rest =>
    (String.ofList (quotedSymbols name) ++ ": " ++ value.inner) :: innerMembers rest

end

/-- The text of a value; a text is itself. -/
def shown : Json → String
  | .string value => String.ofList (plainChars value)
  | value => value.inner

end Json

end Authorship
