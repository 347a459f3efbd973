import Authorship.Text.Quoted

namespace Authorship.Text

/-- A character, or half of a surrogate pair that stands alone. -/
inductive Symbol
  | char (c : Char)
  | half (code : Nat)
deriving Repr, DecidableEq

namespace Symbol

def toChar : Symbol → Char
  | .char c => c
  | .half _ => '\uFFFD'

def isHalf : Symbol → Bool
  | .char _ => false
  | .half _ => true

/-- The form of one symbol between quotes of the kind `quote`. -/
def quoted (quote : Char) : Symbol → List Char
  | .char c => quotedChar quote c
  | .half code => '\\' :: 'u' :: hexDigits 4 code

end Symbol

/-- A half of a pair that cannot be written in bytes, with the number of symbols before it and that
of the halves from it on. -/
structure Unencodable where
  code : Nat
  position : Nat
  size : Nat
deriving Repr, DecidableEq

def isEscapedByte (code : Nat) : Bool :=
  0xDC80 ≤ code && code ≤ 0xDCFF

/-- The first half of a text that cannot be written, with `position` symbols before the text. -/
def unencodableFrom? (position : Nat) : List Symbol → Option Unencodable
  | [] => none
  | .char _ :: rest => unencodableFrom? (position + 1) rest
  | .half code :: rest =>
    if isEscapedByte code then unencodableFrom? (position + 1) rest
    else some ⟨code, position, (rest.takeWhile Symbol.isHalf).length + 1⟩

/-- The words for a half that cannot be written: a single one is shown, several are placed. -/
def Unencodable.message (half : Unencodable) : String :=
  let last := half.position + half.size - 1
  "'utf-8' codec can't encode " ++
    (if half.size == 1 then
      "character '\\u" ++ String.ofList (hexDigits 4 half.code) ++ "' in position " ++
        half.position.repr
    else "characters in position " ++ half.position.repr ++ "-" ++ last.repr) ++
    ": surrogates not allowed"

def symbolsOf (text : String) : List Symbol :=
  text.toList.map .char

def plainChars (symbols : List Symbol) : List Char :=
  symbols.map Symbol.toChar

def quotedSymbols (symbols : List Symbol) : List Char :=
  let quote := quoteFor (plainChars symbols)
  quote :: symbols.flatMap (·.quoted quote) ++ [quote]

end Authorship.Text
