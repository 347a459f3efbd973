import Authorship.Calendar.DateReader
import Authorship.History.Aliases
import Authorship.History.Basic
import Authorship.Number.Integer
import Authorship.Text.Line
import Authorship.Text.Utf8

namespace Authorship.Log

open Authorship.Calendar Authorship.Text Authorship.Number

inductive RecordKind
  | summary
  | lineCount
deriving Repr, DecidableEq

namespace RecordKind

def name : RecordKind → String
  | .summary => "Summary"
  | .lineCount => "LoC"

def ofLine (line : List Char) : RecordKind :=
  if line.head? == some '\x00' then .summary else .lineCount

end RecordKind

inductive LineFault
  | tooFewSummaryFields (count : Nat)
  | tooFewCountFields (count : Nat)
  | noCommit
  | date (fault : DateFault)
deriving Repr, DecidableEq

def LineFault.message : LineFault → String
  | .tooFewSummaryFields count => "expected 5 NUL-separated fields, found " ++ count.repr
  | .tooFewCountFields count => "expected 3 tab-separated fields, found " ++ count.repr
  | .noCommit => "no preceding summary record"
  | .date fault => fault.message

/-- Why a log gives no history. -/
inductive Fault
  /-- The first malformed line, counted from 1. -/
  | malformed (line : Nat) (kind : RecordKind) (fault : LineFault)
  | dateReader (message : String)
deriving Repr, DecidableEq

def malformedText (line kind detail : String) : String :=
  "Stats parsing failed @ line " ++ line ++ ". State: " ++ kind ++
    if detail == "" then "" else " (" ++ detail ++ ")"

def Fault.message : Fault → String
  | .malformed line kind fault => malformedText line.repr kind.name fault.message
  | .dateReader message => message

structure Summary where
  email : String
  timestamp : Timestamp
  hash : String
  subject : String
deriving Repr, DecidableEq

structure LineCount where
  adds : Int
  deletes : Int
  path : String
deriving Repr, DecidableEq

def field (chars : List Char) : String :=
  String.ofList (trim chars)

def Summary.ofLine? (dates : DateReader) (line : List Char) : Except LineFault Summary :=
  match line.splitOnP (· == '\x00') with
  | _ :: email :: date :: hash :: subject :: _ =>
    match dates (field date) with
    | .ok timestamp => .ok ⟨field email, timestamp, field hash, field subject⟩
    | .error fault => .error (.date fault)
  | fields => .error (.tooFewSummaryFields fields.length)

/-- A count of lines; what is no integer counts as zero. -/
def readCount (chars : List Char) : Int :=
  match readInteger chars with
  | .ok count => count
  | .error _ => 0

/-- Reads the counts in a line; all that follows the second tab is the path. -/
def LineCount.ofLine? (line : List Char) : Except LineFault LineCount :=
  match cutAtFirst '\t' 2 line with
  | [adds, deletes, path] => .ok ⟨readCount adds, readCount deletes, String.ofList path⟩
  | fields => .error (.tooFewCountFields fields.length)

/-- The history so far, and the commit of the latest summary. -/
structure Progress where
  history : History
  current : Option (Handle Commit)

namespace Progress

def start : Progress := ⟨.empty, none⟩

/-- A summary sets the author, the subject and the timestamp of its commit anew. -/
def applySummary (progress : Progress) (aliases : Aliases) (summary : Summary) : Progress :=
  let (commit, history) := progress.history.requestCommit summary.hash
  let history := history.setAuthor commit (aliases.resolve summary.email)
  let history := history.setSummary commit summary.subject
  ⟨history.setTimestamp commit summary.timestamp, some commit⟩

def applyLineCount (progress : Progress) (commit : Handle Commit) (count : LineCount) :
    Progress :=
  { progress with history := progress.history.addChange commit count.path count.adds count.deletes }

def readLine (progress : Progress) (dates : DateReader) (aliases : Aliases) (line : List Char) :
    Except LineFault Progress :=
  match RecordKind.ofLine line with
  | .summary => (Summary.ofLine? dates line).map (progress.applySummary aliases)
  | .lineCount =>
    match progress.current with
    | none => .error .noCommit
    | some commit => (LineCount.ofLine? line).map (progress.applyLineCount commit)

end Progress

def withoutNewline (line : String) : List Char :=
  dropEnd (fun c => c == '\r' || c == '\n') line.toList

def Fault.ofLine (number : Nat) (kind : RecordKind) : LineFault → Fault
  | .date (.failed message) => .dateReader message
  | fault => .malformed number kind fault

/-- Reads lines, of which the first has the given number; blank lines count and say nothing. -/
def readFrom (dates : DateReader) (aliases : Aliases) (progress : Progress) (number : Nat) :
    List String → Except Fault Progress
  | [] => .ok progress
  | line :: rest =>
    let line := withoutNewline line
    if (trim line).isEmpty then readFrom dates aliases progress (number + 1) rest
    else
      match progress.readLine dates aliases line with
      | .ok progress => readFrom dates aliases progress (number + 1) rest
      | .error fault => .error (.ofLine number (RecordKind.ofLine line) fault)

/-- The history that the lines of a log tell. -/
def read (dates : DateReader) (aliases : Aliases) (lines : List String) : Except Fault History :=
  (readFrom dates aliases .start 1 lines).map Progress.history

/-- The lines of a log file; what is no UTF-8 is replaced. -/
def fileLines (content : List UInt8) : List String :=
  (linesOf (unifyNewlines (Utf8.decodeReplacing content))).map String.ofList

def readContent (dates : DateReader) (aliases : Aliases) (content : List UInt8) :
    Except Fault History :=
  read dates aliases (fileLines content)

end Authorship.Log
