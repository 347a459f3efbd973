import Authorship.Drawing.Chart
import Authorship.Drawing.Target
import Authorship.Failure

namespace Authorship.Drawing

inductive Call
  | newFigure (width height : Nat)
  | newGrid (width height rows cols : Nat)
  | bars (figure : Figure) (cell : Option Cell) (chart : BarChart)
  | save (figure : Figure) (path : Files.Path)
  | close (figure : Figure)
deriving DecidableEq

namespace Call

def newSize? : Call → Option (Nat × Nat)
  | .newFigure width height => some (width, height)
  | .newGrid width height _ _ => some (width, height)
  | _ => none

end Call

def figureSizes (calls : List Call) : List (Nat × Nat) :=
  calls.filterMap Call.newSize?

def nextFigure (calls : List Call) : Figure :=
  ⟨(figureSizes calls).length + 1⟩

/-- A call that was made, and whether it was granted. -/
structure Attempt where
  call : Call
  isGranted : Bool
deriving DecidableEq

def granted (attempts : List Attempt) : List Call :=
  (attempts.filter Attempt.isGranted).map Attempt.call

structure Backend where
  /-- Answers a call, given the attempts before it, the earliest first, and the files. -/
  answer : List Attempt → Files.Tree → Call → Except Failure Files.Tree

namespace Backend

def recording : Backend :=
  ⟨fun _ files _ => .ok files⟩

end Backend

end Authorship.Drawing
