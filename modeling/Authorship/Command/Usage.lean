import Authorship.Text.Quoted

namespace Authorship.Command

open Authorship.Text

inductive UsageFault
  | ambiguous (text : String) (options : List String)
  | needsOne (option : String)
  | needsSome (option : String)
  | takesNone (option value : String)
  | badValue (option type value : String)
  | badChoice (option value : String) (choices : List String)
  | required (options : List String)
  | unrecognized (arguments : List String)
  | badAlias (value : String)
deriving Repr, DecidableEq

def aboutOption (option complaint : String) : String :=
  "argument " ++ option ++ ": " ++ complaint

def UsageFault.message : UsageFault → String
  | .ambiguous text options =>
    "ambiguous option: " ++ text ++ " could match " ++ ", ".intercalate options
  | .needsOne option => aboutOption option "expected one argument"
  | .needsSome option => aboutOption option "expected at least one argument"
  | .takesNone option value =>
    aboutOption option ("ignored explicit argument " ++ quoted value)
  | .badValue option type value =>
    aboutOption option ("invalid " ++ type ++ " value: " ++ quoted value)
  | .badChoice option value choices =>
    aboutOption option ("invalid choice: " ++ quoted value ++ " (choose from " ++
      ", ".intercalate (choices.map quoted) ++ ")")
  | .required options =>
    "the following arguments are required: " ++ ", ".intercalate options
  | .unrecognized arguments => "unrecognized arguments: " ++ " ".intercalate arguments
  | .badAlias value => "--alias expects RAW=CANONICAL, got: " ++ quoted value

/-- Why a command ends before it does anything. -/
inductive Stop
  | help
  | misuse (fault : UsageFault)
deriving Repr, DecidableEq

end Authorship.Command
