import Authorship.Number.Binary64
import Authorship.Number.Count

namespace Authorship.Activity

open Authorship.Number

inductive Fault
  | unusableOffset
  | notIntegral (fault : Binary64.IntegralFault)
  | tooLarge
  | uncountable (fault : CountFault)
  | noDays
  /-- It is not said how many commits are passed over. -/
  | noSkip
deriving Repr, DecidableEq

def Fault.message : Fault → String
  | .unusableOffset =>
    "offset must be a timedelta strictly between -timedelta(hours=24) and timedelta(hours=24)."
  | .notIntegral fault => fault.message
  | .tooLarge => "int too large to convert to float"
  | .uncountable fault => fault.message
  | .noDays => "unsupported type for timedelta days component: list"
  | .noSkip => "'>' not supported between instances of 'list' and 'int'"

end Authorship.Activity
