import Authorship.Activity.Fault
import Authorship.Drawing.Fault
import Authorship.Files.Tree
import Authorship.History.Log
import Authorship.Script.Fault
import Authorship.Text.Utf8

namespace Authorship

inductive Failure
  | log (fault : Log.Fault)
  | script (fault : Script.Fault)
  | activity (fault : Activity.Fault)
  | drawing (fault : Drawing.Fault)
  | files (fault : Files.Fault)
  | encoding (fault : Text.Utf8.Malformed)

namespace Failure

def message : Failure → String
  | .log fault => fault.message
  | .script fault => fault.message
  | .activity fault => fault.message
  | .drawing fault => fault.message
  | .files fault => fault.message
  | .encoding fault => fault.message

def isDiagnostic : Failure → Bool
  | .log (.malformed _ _ _) => true
  | .script _ => true
  | _ => false

end Failure

end Authorship
