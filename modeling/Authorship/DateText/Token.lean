import Authorship.Text.Blank
import Authorship.Text.Digit
import Authorship.Text.Letter

namespace Authorship.DateText

open Authorship.Text

inductive Shape
  | word
  | number
  | dottedWord
  | dottedNumber
deriving Repr, DecidableEq

namespace Shape

def isDotted : Shape → Bool
  | .dottedWord | .dottedNumber => true
  | .word | .number => false

/-- The shape of a run after one more character; none when the character does not belong to
it. `last` is the latest character of the run and `size` their number. -/
def extend? (shape : Shape) (last : Char) (size : Nat) (c : Char) : Option Shape :=
  match shape with
  | .word => if isLetter c then some .word else if c == '.' then some .dottedWord else none
  | .number =>
    if isDigitSign c then some .number
    else if c == '.' || (c == ',' && 2 ≤ size) then some .dottedNumber
    else none
  | .dottedWord =>
    if c == '.' || isLetter c then some .dottedWord
    else if isDigitSign c && last == '.' then some .dottedNumber
    else none
  | .dottedNumber =>
    if c == '.' || isDigitSign c then some .dottedNumber
    else if isLetter c && last == '.' then some .dottedWord
    else none

end Shape

/-- A run of characters, the latest first. `lettered` tells that a character followed while the
run was one of letters. -/
structure Run where
  shape : Shape
  last : Char
  before : List Char
  lettered : Bool

namespace Run

def chars (run : Run) : List Char :=
  (run.last :: run.before).reverse

def sees (run : Run) : Bool :=
  run.lettered || run.shape == .word || run.shape == .dottedWord

/-- Takes the characters that belong to a run; the rest comes with it. -/
def complete (run : Run) : List Char → Run × List Char
  | [] => (run, [])
  | c :: rest =>
    let seen := { run with lettered := run.sees }
    match run.shape.extend? run.last (run.before.length + 1) c with
    | some shape => complete ⟨shape, c, run.last :: run.before, seen.lettered⟩ rest
    | none => (seen, c :: rest)

theorem length_complete (run : Run) (text : List Char) :
    (run.complete text).2.length ≤ text.length := by
  induction text generalizing run with
  | nil => simp [complete]
  | cons c rest ih =>
    unfold complete
    dsimp only
    split
    · exact Nat.le_succ_of_le (ih _)
    · exact Nat.le_refl _

end Run

def cutAtPoints : List Char → List (List Char)
  | [] => [[]]
  | c :: rest =>
    if c == '.' || c == ',' then [] :: [c] :: cutAtPoints rest
    else
      match cutAtPoints rest with
      | [] => [[c]]
      | piece :: pieces => (c :: piece) :: pieces

def Run.tokens (run : Run) : List String :=
  let chars := run.chars
  let splits := run.shape.isDotted &&
    (run.lettered || 1 < chars.count '.' || run.last == '.' || run.last == ',')
  if splits then ((cutAtPoints chars).filter (!·.isEmpty)).map String.ofList
  else if run.shape == .dottedNumber && !chars.contains '.' then
    [String.ofList (chars.map fun c => if c == ',' then '.' else c)]
  else [String.ofList chars]

/-- The tokens of a text without NUL; each white space character is the token of one space. -/
def tokensFrom : List Char → List String
  | [] => []
  | c :: rest =>
    if isLetter c || isDigitSign c then
      let shape := if isLetter c then Shape.word else .number
      let outcome := Run.complete ⟨shape, c, [], false⟩ rest
      outcome.1.tokens ++ tokensFrom outcome.2
    else if isBlank c then " " :: tokensFrom rest
    else String.singleton c :: tokensFrom rest
termination_by text => text.length
decreasing_by
  · exact Nat.lt_succ_of_le (Run.length_complete _ _)
  · simp
  · simp

def tokens (text : String) : List String :=
  tokensFrom (text.toList.filter (·.toNat != 0))

end Authorship.DateText
