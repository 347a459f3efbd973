import Authorship.Proofs.Command.Performing
import Authorship.Proofs.History.Record
import Authorship.Proofs.Number.Integer
import Authorship.Proofs.Script.Yield

namespace Authorship.Command

open Authorship.Number Authorship.Drawing Authorship.Activity Authorship.Text Authorship.Script

/-- A raw identity and the canonical name that it is given, as a value of an option. -/
structure AliasPair where
  raw : Item
  canonical : String
  rawTrimmed : trim raw.text.toList = raw.text.toList
  rawFull : raw.text.toList ≠ []
  rawNoEquals : '=' ∉ raw.text.toList
  canonicalTrimmed : trim canonical.toList = canonical.toList
  canonicalFull : canonical.toList ≠ []
  canonicalNoQuote : '"' ∉ canonical.toList

def commandLine (command argument : String) : String :=
  command ++ " " ++ argument

namespace AliasPair

def value (pair : AliasPair) : String :=
  pair.raw.text ++ "=" ++ pair.canonical

def lines (pair : AliasPair) : List String :=
  [commandLine ":alias" (quoteMarks pair.canonical), pair.raw.line]

def register (aliases : Aliases) (pair : AliasPair) : Aliases :=
  aliases.set pair.raw.text pair.canonical

variable {setup : Setup} {length : Nat} {work : Work}
  {result : EStateM.Result Authorship.Failure Work Unit}

end AliasPair

/-- What both can be asked for: the aliases, the texts that exclude and include files, and the days
and the skipped commits. -/
structure Query where
  pairs : List AliasPair
  excluded : List Item
  included : List Item
  daysText : String
  isWord_daysText : IsWord daysText
  days : Binary64
  reads : readBinary64? daysText.toList = some days
  days_ne_nan : days ≠ .nan
  skip : Int
  writable : isUnwritable skip = false

namespace Query

def aliases (query : Query) : Aliases :=
  query.pairs.foldl AliasPair.register .empty

def options (query : Query) (free : Stats.Options) : Stats.Options :=
  { free with
    days := .given query.days
    skip := .given query.skip
    excluded := query.excluded.map Item.text
    included := query.included.map Item.text
    aliases := query.pairs.map fun pair => some pair.value }

/-- The lines that set the texts, the days and the skipped commits, before other lines. -/
def settingLines (query : Query) (rest : List String) : List String :=
  ":exclude" :: (query.excluded.map Item.line ++
    ":include" :: (query.included.map Item.line ++
    commandLine ":days" query.daysText ::
    commandLine ":skip-commit" (toString query.skip) :: rest))

def script (query : Query) (log : String) : List String :=
  query.pairs.flatMap AliasPair.lines ++ commandLine ":load" (quoteMarks log) ::
    query.settingLines [":figure 1x1", ":plot bars author"]

def settings (query : Query) (history : History) : State where
  aliases := query.aliases
  included := query.included.map Item.text
  excluded := query.excluded.map Item.text
  days := some query.days
  skip := some query.skip
  title := none
  history := some history
  target := .absent

section Runs

variable {query : Query} {setup : Setup} {length : Nat} {files : Files.Tree}
  {attempts : List Attempt} {result : EStateM.Result Authorship.Failure Work Unit}

end Runs

end Query

end Authorship.Command
