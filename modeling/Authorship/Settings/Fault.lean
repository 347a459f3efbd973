import Authorship.Files.Tree
import Authorship.Json.Fault
import Authorship.Number.Binary64
import Authorship.Number.Integer
import Authorship.Text.Symbol
import Authorship.Text.Utf8

namespace Authorship.Settings

open Authorship.Text Authorship.Number

inductive Kind
  | integer
  | number
deriving Repr, DecidableEq

/-- Why bytes are no text, or a text cannot be written in bytes. -/
inductive CodecFault
  | malformed (fault : Utf8.Malformed)
  | unencodable (half : Unencodable)
deriving Repr, DecidableEq

def CodecFault.message : CodecFault → String
  | .malformed fault => fault.message
  | .unencodable half => half.message

inductive Fault
  | json (document : List Char) (fault : Json.Fault)
  | notObject (path : String)
  | encoding (fault : CodecFault)
  | files (fault : Files.Fault)
  | badText (kind : Kind) (text : List Symbol)
  | tooManyDigits (count : Nat)
  | badType (kind : Kind) (type : String)
  | notIntegral (fault : Binary64.IntegralFault)
  | tooLarge
deriving DecidableEq

def shownCharacters : Nat := 200

namespace Fault

def message : Fault → String
  | .json document fault => fault.message document
  | .notObject path => path ++ ": expected a JSON object"
  | .encoding fault => fault.message
  | .files fault => fault.message
  | .badText .integer text =>
    "invalid literal for int() with base 10: " ++
      String.ofList ((quotedSymbols text).take shownCharacters)
  | .badText .number text =>
    "could not convert string to float: " ++ String.ofList (quotedSymbols text)
  | .tooManyDigits count => tooManyDigitsText count
  | .badType .integer type =>
    "int() argument must be a string, a bytes-like object or a real number, not '" ++ type ++ "'"
  | .badType .number type =>
    "float() argument must be a string or a real number, not '" ++ type ++ "'"
  | .notIntegral fault => fault.message
  | .tooLarge => "int too large to convert to float"

/-- Whether a fault is reported as one of the settings; the others are of a magnitude, of the
depth of a document or of the surroundings. -/
def isReported : Fault → Bool
  | .json _ (.tooDeep _) => false
  | .files (.unusable _ _) => false
  | .files .noHome => false
  | .notIntegral .infinity => false
  | .tooLarge => false
  | _ => true

end Fault

end Authorship.Settings
