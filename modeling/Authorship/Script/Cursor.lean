import Authorship.Script.Fault
import Authorship.Script.Token

namespace Authorship.Script

structure Cursor where
  /-- The lines that have yet to be read. -/
  ahead : List String
  source : String
  /-- How many lines have been read. -/
  lineNumber : Nat
  tokens : List String
  index : Nat
  held : Bool
deriving Repr, DecidableEq

namespace Cursor

def ofLines (lines : List String) (source : String) : Cursor :=
  ⟨lines, source, 0, [], 0, false⟩

def fault (cursor : Cursor) (complaint : Complaint) : Fault :=
  ⟨cursor.lineNumber, complaint, cursor.source⟩

def atEnd (cursor : Cursor) : Bool :=
  cursor.ahead.isEmpty

def advance (cursor : Cursor) : Except Fault Cursor :=
  match cursor.ahead with
  | [] => .error (cursor.fault .endOfScript)
  | line :: rest =>
    .ok { cursor with
      ahead := rest
      lineNumber := cursor.lineNumber + 1
      tokens := Script.tokens line
      index := 0 }

def hold (cursor : Cursor) : Cursor :=
  { cursor with held := true }

/-- Delivers the held line, or else reads the next one; none when no line is left. -/
def nextLine (cursor : Cursor) : Option Cursor :=
  if cursor.held then some { cursor with held := false, index := 0 }
  else cursor.advance.toOption

def hasToken (cursor : Cursor) : Bool :=
  cursor.index < cursor.tokens.length

def tokensLeft (cursor : Cursor) : Nat :=
  cursor.tokens.length - cursor.index

def isBlank (cursor : Cursor) : Bool :=
  cursor.tokens.isEmpty

def startsWith (cursor : Cursor) (mark : Char) : Bool :=
  cursor.tokens.head?.any fun token => token.toList.head? == some mark

def isComment (cursor : Cursor) : Bool :=
  cursor.startsWith '#'

def isCommand (cursor : Cursor) : Bool :=
  cursor.startsWith ':'

def look (cursor : Cursor) (offset : Int) : Except Fault String :=
  let place := (cursor.index : Int) + offset
  match (if 0 ≤ place then cursor.tokens[place.toNat]? else none) with
  | some token => .ok token
  | none => .error (cursor.fault .endOfLine)

def consume (cursor : Cursor) : Except Fault (String × Cursor) :=
  match cursor.tokens[cursor.index]? with
  | some token => .ok (token, { cursor with index := cursor.index + 1 })
  | none => .error (cursor.fault .missingArgument)

def consumeRest (cursor : Cursor) : List String × Cursor :=
  (cursor.tokens.drop cursor.index, { cursor with index := cursor.tokens.length })

/-- How many deliveries are left at most: a line ahead may be delivered twice, a held one once. -/
def pending (cursor : Cursor) : Nat :=
  2 * cursor.ahead.length + if cursor.held then 1 else 0

theorem length_ahead_advance {cursor next : Cursor} (h : cursor.advance = .ok next) :
    next.ahead.length + 1 = cursor.ahead.length := by
  unfold advance at h
  split at h
  · cases h
  · rename_i rest heq
    cases h
    simp [heq]

theorem held_advance {cursor next : Cursor} (h : cursor.advance = .ok next) :
    next.held = cursor.held := by
  unfold advance at h
  split at h <;> cases h
  rfl

theorem pending_nextLine {cursor next : Cursor} (h : cursor.nextLine = some next) :
    next.pending < cursor.pending := by
  unfold nextLine at h
  split at h
  · cases h
    rename_i held
    simp [pending, held]
  · rename_i held
    cases read : cursor.advance with
    | error fault => simp [read, Except.toOption] at h
    | ok line =>
      simp only [read, Except.toOption, Option.some.injEq] at h
      subst h
      have size := length_ahead_advance read
      simp only [pending, held_advance read]
      omega

theorem pending_consume {cursor next : Cursor} {token : String}
    (h : cursor.consume = .ok (token, next)) : next.pending = cursor.pending := by
  unfold consume at h
  split at h <;> cases h
  rfl

/-- Reads the list after the latest line: the first tokens of the lines before the next command
line, which is held. Blank lines and comments are passed over. The cursor comes back where the
reading ended, whether or not there was a command line. -/
def readList (cursor : Cursor) : Except Fault (List String) × Cursor :=
  match _h : cursor.advance with
  | .error fault => (.error fault, cursor)
  | .ok line =>
    if line.isBlank || line.isComment then line.readList
    else if line.isCommand then (.ok [], line.hold)
    else
      match _h' : line.consume with
      | .error fault => (.error fault, line)
      | .ok (item, after) =>
        let (items, final) := after.readList
        (items.map (item :: ·), final)
termination_by cursor.ahead.length
decreasing_by
  · have := length_ahead_advance _h; omega
  · have size := length_ahead_advance _h
    have same : after.ahead = line.ahead := by
      unfold consume at _h'
      split at _h' <;> cases _h'
      rfl
    rw [same]
    omega

theorem pending_readList (cursor : Cursor) : cursor.readList.2.pending ≤ cursor.pending := by
  fun_induction readList cursor with
  | case1 => exact Nat.le_refl _
  | case2 cursor line h _ ih =>
    have size := length_ahead_advance h
    have held := held_advance h
    simp only [pending, held] at ih ⊢
    omega
  | case3 cursor line h =>
    have size := length_ahead_advance h
    simp only [pending, hold]
    split <;> omega
  | case4 cursor line h =>
    have size := length_ahead_advance h
    have held := held_advance h
    simp only [pending, held]
    omega
  | case5 cursor line h _ _ item after h' items final same ih =>
    have size := length_ahead_advance h
    have held := held_advance h
    have kept := pending_consume h'
    simp only [same] at ih
    simp only [pending, held] at ih kept ⊢
    omega

end Cursor

end Authorship.Script
