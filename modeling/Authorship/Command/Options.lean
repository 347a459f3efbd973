import Authorship.Command.Usage
import Authorship.Text.Digit

namespace Authorship.Command

open Authorship.Text

inductive Arity
  | none
  | one
  | several
deriving Repr, DecidableEq

/-- An option of a command; `key` is what the command knows it by. -/
structure Declared (κ : Type) where
  name : String
  arity : Arity
  key : κ

inductive Named (κ : Type)
  | help
  | own (declared : Declared κ)

namespace Named

variable {κ : Type}

def label : Named κ → String
  | .help => "-h/--help"
  | .own declared => declared.name

end Named

inductive Word (κ : Type)
  | value
  | unknown
  | option (named : Named κ) (explicit : Option String)
  | shortHelp (text : String)

def namesOf {κ : Type} (options : List (Declared κ)) : List (String × Named κ) :=
  ("-h", .help) :: ("--help", .help) :: options.map fun declared => (declared.name, .own declared)

def cutAtEquals (text : String) : String × Option String :=
  let chars := text.toList
  let before := String.ofList (chars.takeWhile (· != '='))
  match chars.dropWhile (· != '=') with
  | [] => (before, none)
  | _ :: after => (before, some (String.ofList after))

/-- Whether a text reads like a negative number: digits of any script after a minus, with at most
one point that has a digit after it. A newline may end it. -/
def looksNegative (text : String) : Bool :=
  match text.toList with
  | '-' :: rest =>
    let rest := if rest.getLast? == some '\n' then rest.dropLast else rest
    let isDigit (c : Char) := (digitValue? c).isSome
    let fraction := (rest.dropWhile isDigit).drop 1
    match rest.dropWhile isDigit with
    | [] => !rest.isEmpty
    | c :: _ => c == '.' && !fraction.isEmpty && fraction.all isDigit
  | _ => false

def wordOfStart {κ : Type} (options : List (Declared κ)) (text : String) :
    Except UsageFault (Word κ) :=
  let (start, explicit) := cutAtEquals text
  let fits :=
    if text.startsWith "--" then (namesOf options).filter (·.1.startsWith start) else []
  match fits with
  | [(_, named)] => .ok (.option named explicit)
  | _ :: _ :: _ => .error (.ambiguous text (fits.map (·.1)))
  | [] =>
    if text.startsWith "-h" then .ok (.shortHelp (String.ofList (text.toList.drop 2)))
    else if looksNegative text || text.toList.contains ' ' then .ok .value
    else .ok .unknown

def wordOf {κ : Type} (options : List (Declared κ)) (text : String) :
    Except UsageFault (Word κ) :=
  if !text.startsWith "-" || text == "-" then .ok .value
  else
    match (namesOf options).lookup text with
    | some named => .ok (.option named none)
    | none =>
      let (name, explicit) := cutAtEquals text
      match explicit, (namesOf options).lookup name with
      | some value, some named =>
        .ok (if name == "-h" then .shortHelp value else .option named (some value))
      | _, _ => wordOfStart options text

/-- What the arguments are taken for; after a double dash no argument is an option. -/
def wordsOf {κ : Type} (options : List (Declared κ)) :
    List String → Except UsageFault (List (String × Word κ))
  | [] => .ok []
  | text :: rest =>
    if text == "--" then
      .ok ((text, .unknown) :: rest.map fun value => (value, .value))
    else do
      let word ← wordOf options text
      let words ← wordsOf options rest
      .ok ((text, word) :: words)

def Word.isValue {κ : Type} : Word κ → Bool
  | .value => true
  | _ => false

/-- The short name of help with a text right after it: more of its letter ask for help again, and
anything else is too much. -/
def stopOfShortHelp (text : String) : Stop :=
  let excess := String.ofList (text.toList.dropWhile (· == 'h'))
  if text != "" && excess == "" then .help else .misuse (.takesNone "-h/--help" excess)

/-- The values in the text after the equals sign; two dashes stand for none. -/
def explicitValues (text : String) : List String :=
  if text == "--" then [] else [text]

/-- Takes the options in their order, with their values; `take` takes one of them. What belongs to
no option is given back. -/
def takeOptions {κ σ : Type} (take : Declared κ → List String → σ → Except UsageFault σ)
    (taken : σ) : List (String × Word κ) → Except Stop (σ × List String)
  | [] => .ok (taken, [])
  | (text, word) :: rest =>
    let finish (declared : Declared κ) (values : List String) (count : Nat) :
        Except Stop (σ × List String) :=
      match take declared values taken with
      | .error fault => .error (.misuse fault)
      | .ok taken => takeOptions take taken (rest.drop count)
    match word with
    | .value | .unknown =>
      (takeOptions take taken rest).map fun (taken, extra) => (taken, text :: extra)
    | .shortHelp text => .error (stopOfShortHelp text)
    | .option .help none => .error .help
    | .option .help (some value) => .error (.misuse (.takesNone (Named.help (κ := κ)).label value))
    | .option (.own declared) (some value) =>
      match declared.arity with
      | .none => .error (.misuse (.takesNone declared.name value))
      | _ => finish declared (explicitValues value) 0
    | .option (.own declared) none =>
      let values := (rest.takeWhile (·.2.isValue)).map (·.1)
      match declared.arity, values with
      | .none, _ => finish declared [] 0
      | .one, [] => .error (.misuse (.needsOne declared.name))
      | .one, value :: _ => finish declared [value] 1
      | .several, [] => .error (.misuse (.needsSome declared.name))
      | .several, values => finish declared values values.length
termination_by words => words.length
decreasing_by all_goals (simp only [List.length_cons, List.length_drop]; omega)

/-- Reads arguments. Every required option has to be there, and nothing may be left over. -/
def readOptions {κ σ : Type} (options : List (Declared κ))
    (take : Declared κ → List String → σ → Except UsageFault σ) (missing : σ → List String)
    (start : σ) (arguments : List String) : Except Stop σ := do
  let words ← (wordsOf options arguments).mapError .misuse
  let (taken, extra) ← takeOptions take start words
  if !(missing taken).isEmpty then .error (.misuse (.required (missing taken)))
  else if !extra.isEmpty then .error (.misuse (.unrecognized extra))
  else .ok taken

end Authorship.Command
