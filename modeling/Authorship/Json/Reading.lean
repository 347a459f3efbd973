import Authorship.Json.Value
import Authorship.Json.Fault
import Authorship.Number.Integer
import Authorship.Number.Reading

namespace Authorship.Json

open Authorship.Number Authorship.Text

abbrev Outcome (α : Type) := Except Fault (α × List Char)

def fail {α : Type} (problem : Problem) (rest : List Char) : Except Fault α :=
  .error (.malformed problem rest.length)

def isSpace (c : Char) : Bool :=
  c == ' ' || c == '\t' || c == '\n' || c == '\r'

def skipSpace (text : List Char) : List Char :=
  text.dropWhile isSpace

def hexValue? (c : Char) : Option Nat :=
  if '0' ≤ c && c ≤ '9' then some (c.toNat - 48)
  else if 'a' ≤ c && c ≤ 'f' then some (c.toNat - 87)
  else if 'A' ≤ c && c ≤ 'F' then some (c.toNat - 55)
  else none

/-- The value of the four hexadecimal digits at the start of a text. -/
def hexCode? (text : List Char) : Option Nat :=
  if text.length < 4 then none
  else (text.take 4).foldl (fun code c => do some ((← code) * 16 + (← hexValue? c))) (some 0)

def isHighHalf (code : Nat) : Bool :=
  0xD800 ≤ code && code ≤ 0xDBFF

def isLowHalf (code : Nat) : Bool :=
  0xDC00 ≤ code && code ≤ 0xDFFF

def symbolOf (code : Nat) : Symbol :=
  if isHighHalf code || isLowHalf code then .half code else .char (Char.ofNat code)

/-- Reads the code after `\u`, with the second half of a pair if it follows; gives the number of
characters that it takes. `text` starts after the letter. -/
def readCode (text : List Char) : Except Fault (Symbol × Nat) :=
  let fault (rest : List Char) := Fault.malformed .badHexEscape (rest.length + 1)
  if text.length < 5 then .error (fault text)
  else
    match hexCode? text with
    | none => .error (fault text)
    | some code =>
      match text.drop 4 with
      | '\\' :: 'u' :: second =>
        if isHighHalf code && 4 < second.length then
          match hexCode? second with
          | none => .error (fault second)
          | some low =>
            if isLowHalf low then
              .ok (.char (Char.ofNat (0x10000 + (code - 0xD800) * 0x400 + (low - 0xDC00))), 10)
            else .ok (symbolOf code, 4)
        else .ok (symbolOf code, 4)
      | _ => .ok (symbolOf code, 4)

def escaped? (c : Char) : Option Char :=
  match c with
  | '"' => some '"'
  | '\\' => some '\\'
  | '/' => some '/'
  | 'b' => some '\x08'
  | 'f' => some '\x0c'
  | 'n' => some '\n'
  | 'r' => some '\r'
  | 't' => some '\t'
  | _ => none

/-- Reads a text up to its closing quote. `opening` is what was left of the document at its opening
quote. -/
def readSymbols (opening : Nat) : List Char → Outcome (List Symbol)
  | [] => .error (.malformed .unterminated opening)
  | '"' :: rest => .ok ([], rest)
  | ['\\'] => .error (.malformed .unterminated opening)
  | '\\' :: 'u' :: rest =>
    match readCode rest with
    | .error fault => .error fault
    | .ok (symbol, size) =>
      (readSymbols opening (rest.drop size)).map fun (symbols, after) => (symbol :: symbols, after)
  | '\\' :: letter :: rest =>
    match escaped? letter with
    | none => fail .badEscape ('\\' :: letter :: rest)
    | some c => (readSymbols opening rest).map fun (symbols, after) => (.char c :: symbols, after)
  | c :: rest =>
    if c.toNat < 32 then fail .controlCharacter (c :: rest)
    else (readSymbols opening rest).map fun (symbols, after) => (.char c :: symbols, after)
termination_by text => text.length
decreasing_by all_goals (simp only [List.length_cons, List.length_drop]; omega)

def readText (rest : List Char) : Outcome (List Symbol) :=
  readSymbols (rest.length + 1) rest

/-- The digits before the point: a single zero, or digits that start with another one. -/
def takeWhole : List Char → List Char × List Char
  | '0' :: rest => (['0'], rest)
  | text => text.span Char.isDigit

def takeFraction (text : List Char) : List Char × List Char :=
  match text with
  | '.' :: rest =>
    let digits := rest.takeWhile Char.isDigit
    if digits.isEmpty then ([], text) else ('.' :: digits, rest.dropWhile Char.isDigit)
  | _ => ([], text)

def takeExponent (text : List Char) : List Char × List Char :=
  match text with
  | [] => ([], [])
  | mark :: rest =>
    if mark == 'e' || mark == 'E' then
      let signs := (rest.take 1).filter fun c => c == '+' || c == '-'
      let after := rest.drop signs.length
      let digits := after.takeWhile Char.isDigit
      if digits.isEmpty then ([], text)
      else ('e' :: signs ++ digits, after.dropWhile Char.isDigit)
    else ([], text)

def readNumber (text : List Char) : Outcome Json :=
  let (minus, unsigned) := text.span (· == '-')
  let (whole, afterWhole) := takeWhole unsigned
  if 1 < minus.length || whole.isEmpty then fail .noValue text
  else
    let (fraction, afterFraction) := takeFraction afterWhole
    let (exponent, rest) := takeExponent afterFraction
    if fraction.isEmpty && exponent.isEmpty then
      match readInteger (minus ++ whole) with
      | .ok n => .ok (.integer n, rest)
      | .error (.tooManyDigits count) => .error (.tooManyDigits count)
      | .error .notInteger => fail .noValue text
    else
      match readBinary64? (minus ++ whole ++ fraction ++ exponent) with
      | some x => .ok (.number x, rest)
      | none => fail .noValue text

def wordValues : List (List Char × Json) := [
  ("null".toList, .null), ("true".toList, .bool true), ("false".toList, .bool false),
  ("NaN".toList, .number .nan), ("Infinity".toList, .number (.infinite false)),
  ("-Infinity".toList, .number (.infinite true))]

def readPlain (text : List Char) : Outcome Json :=
  match wordValues.find? fun word => word.1.isPrefixOf text with
  | some (word, value) => .ok (value, text.drop word.length)
  | none => readNumber text

/-- Reads the items of a list after its opening bracket; `bound` limits their number. -/
def readItems (readItem : List Char → Outcome Json) :
    Nat → List Char → Except Fault (List Json × List Char)
  | 0, text => fail .noValue text
  | bound + 1, text => do
    let (item, rest) ← readItem text
    match skipSpace rest with
    | ']' :: after => .ok ([item], after)
    | ',' :: after =>
      let (items, rest) ← readItems readItem bound (skipSpace after)
      .ok (item :: items, rest)
    | after => fail .noComma after

/-- Reads the members of an object after its opening brace; `bound` limits their number. -/
def readMembers (readItem : List Char → Outcome Json) (members : List (List Symbol × Json)) :
    Nat → List Char → Except Fault (List (List Symbol × Json) × List Char)
  | 0, text => fail .noPropertyName text
  | bound + 1, text =>
    match text with
    | '"' :: rest => do
      let (name, rest) ← readText rest
      match skipSpace rest with
      | ':' :: after =>
        let (value, rest) ← readItem (skipSpace after)
        let members := setMember name value members
        match skipSpace rest with
        | '\x7d' :: after => .ok (members, after)
        | ',' :: after => readMembers readItem members bound (skipSpace after)
        | after => fail .noComma after
      | after => fail .noColon after
    | text => fail .noPropertyName text

/-- Reads a value with at most `depth` lists and objects inside each other. Every item takes a
character at least, so the length of the document bounds their number. -/
def readValue (depth : Nat) (text : List Char) : Outcome Json :=
  match text with
  | '"' :: rest => (readText rest).map fun (value, after) => (.string value, after)
  | '[' :: rest =>
    match depth with
    | 0 => .error (.tooDeep .list)
    | depth + 1 =>
      match skipSpace rest with
      | ']' :: after => .ok (.list [], after)
      | inside =>
        (readItems (readValue depth) (inside.length + 1) inside).map
          fun (items, after) => (.list items, after)
  | '\x7b' :: rest =>
    match depth with
    | 0 => .error (.tooDeep .object)
    | depth + 1 =>
      match skipSpace rest with
      | '\x7d' :: after => .ok (.object [], after)
      | inside =>
        (readMembers (readValue depth) [] (inside.length + 1) inside).map
          fun (members, after) => (.object members, after)
  | text => readPlain text

/-- The most lists and objects inside each other. -/
def depthLimit : Nat := 985

def read (document : List Char) : Except Fault Json :=
  if document.head? == some '\uFEFF' then fail .byteOrderMark document
  else do
    let (value, rest) ← readValue depthLimit (skipSpace document)
    match skipSpace rest with
    | [] => .ok value
    | rest => fail .extraData rest

end Authorship.Json
