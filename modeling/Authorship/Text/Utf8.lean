import Authorship.Text.Quoted

namespace Authorship.Text.Utf8

def encode (text : List Char) : List UInt8 :=
  text.flatMap String.utf8EncodeChar

inductive Fault
  | invalidStart
  | invalidContinuation
  | unexpectedEnd
deriving Repr, DecidableEq

def Fault.text : Fault → String
  | .invalidStart => "invalid start byte"
  | .invalidContinuation => "invalid continuation byte"
  | .unexpectedEnd => "unexpected end of data"

/-- The outcome of reading one sequence, with the number of bytes it takes. -/
inductive Sequence
  | char (c : Char) (size : Nat)
  | malformed (fault : Fault) (size : Nat)
deriving Repr, DecidableEq

/-- Reads `count` more continuation bytes, the next one within the given bounds. -/
def continuation (low high : UInt8) : Nat → Nat → Nat → List UInt8 → Sequence
  | 0, code, size, _ => .char (Char.ofNat code) size
  | _ + 1, _, size, [] => .malformed .unexpectedEnd size
  | count + 1, code, size, b :: rest =>
    if low ≤ b && b ≤ high then
      continuation 0x80 0xBF count (code * 64 + (b.toNat - 0x80)) (size + 1) rest
    else .malformed .invalidContinuation size

/-- The sequence that starts with the byte `b`. The second byte of a lead byte at the edge of
its class is bounded, so that no character has two forms and no surrogate is read. -/
def sequenceAt (b : UInt8) (rest : List UInt8) : Sequence :=
  let n := b.toNat
  if n < 0x80 then .char (Char.ofNat n) 1
  else if n < 0xC2 then .malformed .invalidStart 1
  else if n < 0xE0 then continuation 0x80 0xBF 1 (n - 0xC0) 1 rest
  else if n == 0xE0 then continuation 0xA0 0xBF 2 (n - 0xE0) 1 rest
  else if n == 0xED then continuation 0x80 0x9F 2 (n - 0xE0) 1 rest
  else if n < 0xF0 then continuation 0x80 0xBF 2 (n - 0xE0) 1 rest
  else if n == 0xF0 then continuation 0x90 0xBF 3 (n - 0xF0) 1 rest
  else if n < 0xF4 then continuation 0x80 0xBF 3 (n - 0xF0) 1 rest
  else if n == 0xF4 then continuation 0x80 0x8F 3 (n - 0xF0) 1 rest
  else .malformed .invalidStart 1

/-- The bytes as text, each malformed sequence replaced by U+FFFD. -/
def decodeReplacing : List UInt8 → List Char
  | [] => []
  | b :: rest =>
    match sequenceAt b rest with
    | .char c size => c :: decodeReplacing (rest.drop (size - 1))
    | .malformed _ size => '\uFFFD' :: decodeReplacing (rest.drop (size - 1))
termination_by bytes => bytes.length
decreasing_by all_goals (simp only [List.length_cons, List.length_drop]; omega)

structure Malformed where
  fault : Fault
  position : Nat
  size : Nat
  lead : UInt8
deriving Repr, DecidableEq

/-- The words for a malformed sequence: a single byte is shown, several are placed. -/
def Malformed.message (malformed : Malformed) : String :=
  let last := malformed.position + malformed.size - 1
  "'utf-8' codec can't decode " ++
    (if malformed.size == 1 then
      "byte 0x" ++ String.ofList (hexDigits 2 malformed.lead.toNat) ++ " in position " ++
        malformed.position.repr
    else "bytes in position " ++ malformed.position.repr ++ "-" ++ last.repr) ++
    ": " ++ malformed.fault.text

/-- The bytes as text, or the first malformed sequence, with `position` bytes before them. -/
def decodeFrom (position : Nat) : List UInt8 → Except Malformed (List Char)
  | [] => .ok []
  | b :: rest =>
    match sequenceAt b rest with
    | .char c size => (decodeFrom (position + size) (rest.drop (size - 1))).map (c :: ·)
    | .malformed fault size => .error ⟨fault, position, size, b⟩
termination_by bytes => bytes.length
decreasing_by simp only [List.length_cons, List.length_drop]; omega

def decode? (bytes : List UInt8) : Except Malformed (List Char) :=
  decodeFrom 0 bytes

end Authorship.Text.Utf8
