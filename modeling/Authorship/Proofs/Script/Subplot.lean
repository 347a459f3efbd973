import Authorship.Proofs.Drawing.Grid
import Authorship.Proofs.Script.Decision
import Authorship.Proofs.Script.Figures
import Authorship.Proofs.Script.Pair
import Authorship.Proofs.Script.Reach
import Authorship.Proofs.Script.Yield

namespace Authorship.Script

open Authorship.Drawing Authorship.Activity Authorship.Number

section Subplot

variable {setup : Setup} {rows cols : Nat} {state : State} {figure : Figure} {block : Block}
  {row col : Int}

end Subplot

end Authorship.Script
