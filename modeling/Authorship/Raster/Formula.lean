import Authorship.Raster.FormulaName
import Authorship.Text.Piece
import Authorship.Text.Quoted

namespace Authorship.Raster.Formula

inductive Problem
  | noFormula
  | unknownName (name : String)
  | missingArguments (form : String)
  | missingDelimiter
  | missingRightDelimiter
  | missingScript
  | missingBase
  | missingEnd
  | openGroup
  | doubleSubscript
  | doubleSuperscript
deriving Repr, DecidableEq

def partNames : List String :=
  ["accent", "symbol", "function", "operatorname", "group", "frac", "dfrac", "binom", "genfrac",
    "overset", "underset", "sqrt", "overline", "text", "boldsymbol", "substack"]

namespace Problem

def text : Problem → String
  | noFormula => "Expected end of text"
  | unknownName name => "Unknown symbol: \\" ++ name
  | missingArguments form => "Expected " ++ form
  | missingDelimiter => "Expected a delimiter"
  | missingRightDelimiter => "Expected '\\\\right'"
  | missingScript => "Expected \x7b" ++ " | ".intercalate partNames ++ "\x7d"
  | missingBase => "Expected named_placeable"
  | missingEnd => "Expected end_group"
  | openGroup => "Expected '\x7d'"
  | doubleSubscript => "Double subscript"
  | doubleSuperscript => "Double superscript"

def kind : Problem → String
  | noFormula => "ParseException"
  | missingRightDelimiter | missingScript | missingBase | missingEnd => "ParseSyntaxException"
  | _ => "ParseFatalException"

end Problem

/-- A problem at a place of a text or a formula; scripts that are given twice have no place. -/
structure Fault where
  problem : Problem
  text : List Char
  place : Nat
deriving Repr, DecidableEq

def firstWord (text : List Char) : List Char :=
  match (text.takeWhile Char.isAlphanum).take 16 with
  | [] => text.take 1
  | word => word

def foundText (text : List Char) (place : Nat) : String :=
  if text.isEmpty then ""
  else
    match firstWord (text.drop place) with
    | [] => ", found end of text"
    | ['\\'] => ", found '\\'"
    | word => ", found " ++ Text.quoted (String.ofList word)

def Fault.message (fault : Fault) : String :=
  let column := (fault.place + 1).repr
  "\n" ++ String.ofList fault.text ++ "\n" ++ Text.padStart (fault.place + 1) "^" ++ "\n" ++
    fault.problem.kind ++ ": " ++ fault.problem.text ++ foundText fault.text fault.place ++
    "  (at char " ++ fault.place.repr ++ "), (line:1, col:" ++ column ++ ")"

inductive Reading
  | done (rest : List Char)
  | absent
  | endless (remaining : Nat)
  | refused (problem : Problem) (remaining : Nat)
deriving Repr, DecidableEq

def skipBlanks (text : List Char) : List Char :=
  text.dropWhile [' ', '\t', '\n', '\r'].contains

def after? (part : String) (text : List Char) : Option (List Char) :=
  let text := skipBlanks text
  if part.toList.isPrefixOf text then some (text.drop part.length) else none

def name? : List Char → Option (String × List Char)
  | '\\' :: rest =>
    match rest.takeWhile Char.isAlpha with
    | [] => none
    | name => some (String.ofList name, rest.dropWhile Char.isAlpha)
  | _ => none

def afterName? (names : List String) (text : List Char) : Option (List Char) :=
  (name? text).bind fun (name, rest) => if names.contains name then some rest else none

def afterMark? (marks : List Char) : List Char → Option (List Char)
  | '\\' :: mark :: rest => if marks.contains mark then some rest else none
  | _ => none

def afterSpace? (text : List Char) : Option (List Char) :=
  match text with
  | '~' :: rest => some rest
  | _ => afterName? spaceNames text <|> afterMark? spaceMarks text

def afterDelimiter? (text : List Char) : Option (List Char) :=
  let text := skipBlanks text
  match text with
  | mark :: rest =>
    if delimiterMarks.contains mark then some rest
    else afterName? delimiterNames text <|> afterMark? ['|', '\x7b', '\x7d'] text
  | [] => none

def isPlain (c : Char) : Bool :=
  c.isAlphanum || " +-*/<>=:,.;!?&'@()[]|".toList.contains c ||
    (0x80 ≤ c.toNat && c.toNat ≤ 0x1FFFF)

def escapedMarks : List Char := ['%', '$', '\x7b', '\x7d', '[', ']', '_', '|', '#', '&']

def afterSymbol? (text : List Char) : Option (List Char) :=
  match text with
  | c :: rest =>
    if isPlain c then some rest
    else afterMark? escapedMarks text <|> afterName? (functionNames ++ symbolNames) text
  | [] => none

def afterAccent? (text : List Char) : Option (List Char) :=
  afterName? accentNames text <|> afterMark? accentMarks text

def afterGroupStart? (text : List Char) : Option (List Char) :=
  match after? "\x7b" text with
  | some rest => some rest
  | none =>
    (name? text).bind fun (name, rest) =>
      if (fontNames.map ("math" ++ ·)).contains name then after? "\x7b" rest else none

def afterNumber? (text : List Char) : Option (List Char) :=
  let body := match skipBlanks text with
    | '-' :: rest | '+' :: rest => rest
    | body => body
  let rest := body.dropWhile Char.isDigit
  match rest with
  | '.' :: fraction =>
    let after := fraction.dropWhile Char.isDigit
    if rest.length < body.length || after.length < fraction.length then some after else none
  | _ => if rest.length < body.length then some rest else none

/-- What follows the brace that closes a text without braces in it; a backslash takes away the
meaning of the character after it. -/
def afterClosing? : List Char → Option (List Char)
  | [] => none
  | '\\' :: _ :: rest => afterClosing? rest
  | c :: rest => if c == '\x7d' then some rest else afterClosing? rest

/-- What follows the brace that closes a text with `depth` more braces open in it. -/
def afterNested? : Nat → List Char → Option (List Char)
  | _, [] => none
  | depth, c :: rest =>
    if c == '\x7b' then afterNested? (depth + 1) rest
    else if c == '\x7d' then
      match depth with
      | 0 => some rest
      | depth + 1 => afterNested? depth rest
    else afterNested? depth rest

inductive Argument
  | group (required : Bool)
  | simple
  | number
  | delimiter
  | style
  | text
  | nested
  | root
deriving Repr, DecidableEq

structure Command where
  name : String
  labels : List String
  arguments : List Argument
deriving Repr, DecidableEq

def Command.form (command : Command) : String :=
  "\\" ++ command.name ++ String.join (command.labels.map fun label => "\x7b" ++ label ++ "\x7d")

def widthCommand : Command := ⟨"hspace", ["space"], [.number]⟩

def partCommands : List Command :=
  [⟨"operatorname", ["name"], [.simple]⟩,
    ⟨"frac", ["num", "den"], [.group true, .group true]⟩,
    ⟨"dfrac", ["num", "den"], [.group true, .group true]⟩,
    ⟨"binom", ["num", "den"], [.group true, .group true]⟩,
    ⟨"genfrac", ["ldelim", "rdelim", "rulesize", "style", "num", "den"],
      [.delimiter, .delimiter, .number, .style, .group true, .group true]⟩,
    ⟨"overset", ["annotation", "body"], [.group false, .group false]⟩,
    ⟨"underset", ["annotation", "body"], [.group false, .group false]⟩,
    ⟨"sqrt", ["value"], [.root, .group true]⟩,
    ⟨"overline", ["body"], [.group true]⟩,
    ⟨"text", [], [.text]⟩,
    ⟨"boldsymbol", ["value"], [.simple]⟩,
    ⟨"substack", ["parts"], [.nested]⟩]

def inBraces? (inside? : List Char → Option (List Char)) (text : List Char) :
    Option (List Char) :=
  ((after? "\x7b" text).bind inside?).bind (after? "\x7d")

def afterFixed? (argument : Argument) (text : List Char) : Option (List Char) :=
  match argument with
  | .number => inBraces? afterNumber? text
  | .delimiter => inBraces? (fun text => some ((afterDelimiter? text).getD text)) text
  | .style =>
    inBraces? (fun text =>
      match skipBlanks text with
      | c :: rest => some (if ['0', '1', '2', '3'].contains c then rest else c :: rest)
      | [] => some []) text
  | .text => (after? "\x7b" text).bind afterClosing?
  | .nested => (after? "\x7b" text).bind (afterNested? 0)
  | _ => none

def Reading.ofRest? : Option (List Char) → Reading
  | some rest => .done rest
  | none => .absent

/-- The problem of scripts of which a kind is given twice; the marks are in reverse order. -/
def doubleScript? : List Char → Option Problem
  | [] => none
  | mark :: before =>
    doubleScript? before <|>
      if before.contains mark then
        some (if mark == '_' then .doubleSubscript else .doubleSuperscript)
      else none

def unknown (text : List Char) : Reading :=
  match name? text with
  | some (name, _) => .refused (.unknownName name) text.length
  | none => .absent

mutual

def tokens : Nat → List Char → Reading
  | 0, text => .done text
  | fuel + 1, text =>
    match token fuel text with
    | .done rest => tokens fuel rest
    | .absent | .endless _ => .done text
    | refused => refused

def token : Nat → List Char → Reading
  | 0, _ => .absent
  | fuel + 1, text =>
    let text := skipBlanks text
    match simple fuel text with
    | .absent =>
      match pair fuel text with
      | .absent => unknown text
      | reading => reading
    | .endless 0 => .refused .openGroup 0
    | .endless _ => unknown text
    | reading => reading

def simple : Nat → List Char → Reading
  | 0, _ => .absent
  | fuel + 1, text =>
    let text := skipBlanks text
    match afterSpace? text <|> afterName? fontNames text with
    | some rest => .done rest
    | none =>
      match command fuel [widthCommand] text with
      | .absent =>
        match part fuel text with
        | .done rest => scripts fuel [] rest
        | .absent =>
          match text with
          | '_' :: _ | '^' :: _ => scripts fuel [] text
          | _ => .absent
        | reading => reading
      | reading => reading

def scripts : Nat → List Char → List Char → Reading
  | 0, _, _ => .absent
  | fuel + 1, before, text =>
    match skipBlanks text with
    | mark :: rest =>
      if mark == '_' || mark == '^' then
        match part fuel rest with
        | .done rest => scripts fuel (mark :: before) rest
        | .absent => .refused .missingScript (skipBlanks rest).length
        | .endless remaining => .refused .missingEnd remaining
        | refused => refused
      else (doubleScript? before).elim (.done text) (.refused · 0)
    | [] => (doubleScript? before).elim (.done text) (.refused · 0)

def part : Nat → List Char → Reading
  | 0, _ => .absent
  | fuel + 1, text =>
    match afterAccent? text with
    | some rest =>
      match part fuel (skipBlanks rest) with
      | .absent => .refused .missingBase (skipBlanks rest).length
      | .endless remaining => .refused .missingBase remaining
      | reading => reading
    | none =>
      match afterSymbol? text with
      | some rest => .done rest
      | none =>
        match afterGroupStart? text with
        | some body =>
          match tokens fuel body with
          | .done rest =>
            match after? "\x7d" rest with
            | some rest => .done rest
            | none => .endless (skipBlanks rest).length
          | reading => reading
        | none => command fuel partCommands text

def command : Nat → List Command → List Char → Reading
  | 0, _, _ => .absent
  | fuel + 1, known, text =>
    match known.find? fun command => (after? ("\\" ++ command.name) text).isSome with
    | none => .absent
    | some command =>
      let text := skipBlanks (text.drop (command.name.length + 1))
      match arguments fuel command.arguments text with
      | .absent | .endless _ => .refused (.missingArguments command.form) text.length
      | reading => reading

def arguments : Nat → List Argument → List Char → Reading
  | 0, _, _ => .absent
  | _, [], text => .done text
  | fuel + 1, argument :: more, text =>
    let reading : Reading := match argument with
      | .group required =>
        match after? "\x7b" text with
        | none => .absent
        | some body =>
          match tokens fuel body with
          | .done rest =>
            if required && rest.length == body.length then .absent
            else .ofRest? (after? "\x7d" rest)
          | reading => reading
      | .simple =>
        match after? "\x7b" text with
        | none => .absent
        | some body =>
          match row fuel false body with
          | .done rest => .ofRest? (after? "\x7d" rest)
          | reading => reading
      | .root =>
        match after? "[" text with
        | none => .done text
        | some body =>
          match parts fuel body with
          | .done rest =>
            if rest.length == body.length then .done text
            else .done ((after? "]" rest).getD text)
          | reading => reading
      | argument => .ofRest? (afterFixed? argument text)
    match reading with
    | .done rest => arguments fuel more rest
    | reading => reading

def parts : Nat → List Char → Reading
  | 0, text => .done text
  | fuel + 1, text =>
    if (after? "]" text).isSome then .done text
    else
      match part fuel (skipBlanks text) with
      | .done rest => parts fuel rest
      | .refused problem remaining => .refused problem remaining
      | _ => .done text

/-- Reads spaces, fonts and parts, and `paired` also rows between delimiters and the delimiters
inside of them. -/
def row : Nat → Bool → List Char → Reading
  | 0, _, text => .done text
  | fuel + 1, paired, text =>
    match simple fuel text with
    | .done rest => row fuel paired rest
    | .refused problem remaining => .refused problem remaining
    | _ =>
      if !paired then .done text
      else
        match pair fuel text with
        | .done rest => row fuel paired rest
        | .refused problem remaining => .refused problem remaining
        | _ =>
          match after? "\\middle" text with
          | none => .done text
          | some rest =>
            match afterDelimiter? rest with
            | some rest => row fuel paired rest
            | none => .refused .missingDelimiter (skipBlanks rest).length

def pair : Nat → List Char → Reading
  | 0, _ => .absent
  | fuel + 1, text =>
    match after? "\\left" text with
    | none => .absent
    | some left =>
      match afterDelimiter? left with
      | none => .refused .missingDelimiter (skipBlanks left).length
      | some body =>
        match row fuel true body with
        | .done rest =>
          match after? "\\right" rest with
          | none => .refused .missingRightDelimiter (skipBlanks rest).length
          | some right =>
            match afterDelimiter? right with
            | some rest => .done rest
            | none => .refused .missingDelimiter (skipBlanks right).length
        | reading => reading

end

def reading (formula : List Char) : Reading :=
  match tokens (8 * formula.length + 8) formula with
  | .done rest =>
    if (skipBlanks rest).isEmpty && !(skipBlanks formula).isEmpty then .done [] else .absent
  | reading => reading

def dollars : List Char → Nat
  | [] => 0
  | '\\' :: '$' :: rest => dollars rest
  | c :: rest => dollars rest + if c == '$' then 1 else 0

def isIn (text : List Char) : Bool :=
  0 < dollars text && dollars text % 2 == 0

/-- What stands before the next dollar sign and from it on; a backslash before it takes away its
meaning. -/
def untilDollar : List Char → List Char
  | [] => []
  | '\\' :: '$' :: rest => untilDollar rest
  | c :: rest => if c == '$' then c :: rest else untilDollar rest

/-- A formula up to the dollar sign that ends it, and what follows; a backslash takes away the
meaning of the character after it. -/
def formulaAt? : List Char → Option (List Char × List Char)
  | [] => none
  | '\\' :: c :: rest =>
    (formulaAt? rest).map fun (formula, after) => ('\\' :: c :: formula, after)
  | c :: rest =>
    if c == '$' then some ([], rest)
    else (formulaAt? rest).map fun (formula, after) => (c :: formula, after)

def Fault.ofReading? (whole : List Char) (place : Nat) (formula : List Char) :
    Reading → Option Fault
  | .done _ => none
  | .absent | .endless _ => some ⟨.noFormula, whole, place⟩
  | .refused .doubleSubscript _ => some ⟨.doubleSubscript, [], 0⟩
  | .refused .doubleSuperscript _ => some ⟨.doubleSuperscript, [], 0⟩
  | .refused problem remaining => some ⟨problem, formula, formula.length - remaining⟩

def faultFrom? (whole : List Char) : Nat → List Char → Option Fault
  | 0, _ => none
  | count + 1, text =>
    match untilDollar text with
    | [] => none
    | dollar :: rest =>
      let place := whole.length - (dollar :: rest).length
      match formulaAt? rest with
      | none => some ⟨.noFormula, whole, place⟩
      | some (formula, after) =>
        Fault.ofReading? whole place formula (reading formula) <|> faultFrom? whole count after

def fault? (text : String) : Option Fault :=
  let chars := text.toList
  if isIn chars then faultFrom? chars chars.length chars else none

end Authorship.Raster.Formula
