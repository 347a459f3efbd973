import Authorship.Drawing.Fault
import Authorship.Number.Shortest
import Authorship.Raster.Formula

namespace Authorship.Raster

open Authorship.Number Authorship.Drawing

inductive Fault
  | resolutionTooLarge
  | infiniteSize
  | sizeNotPositive (width height : Binary64)
  | rowsNotPositive (rows : Int)
  | columnsNotPositive (columns : Int)
  | uncountable (fault : CountFault)
  | shapeMismatch (labels values : Nat)
  | noBar
  | noBounds
  | imageTooLarge (width height : Nat)
  | lettersTooSmall
  | lettersTooLarge
  | formula (fault : Formula.Fault)
  | unknownFormat (format : String)
  | noTypesetter
deriving DecidableEq

def imageFormats : List String :=
  ["avif", "eps", "gif", "jpeg", "jpg", "pdf", "pgf", "png", "ps", "raw", "rgba", "svg", "svgz",
    "tif", "tiff", "webp"]

def typesetFormats : List String := ["pgf"]

namespace Fault

def message : Fault → String
  | .resolutionTooLarge => "int too large to convert to float"
  | .infiniteSize => "cannot convert float infinity to integer"
  | .sizeNotPositive width height =>
    "figure size must be positive finite not (" ++ width.text ++ ", " ++ height.text ++ ")"
  | .rowsNotPositive rows => "Number of rows must be a positive integer, not " ++ toString rows
  | .columnsNotPositive columns =>
    "Number of columns must be a positive integer, not " ++ toString columns
  | .uncountable fault => fault.message
  | .shapeMismatch labels values =>
    "shape mismatch: objects cannot be broadcast to a single shape.  Mismatch is between 'x' " ++
      "with shape (" ++ labels.repr ++ ",) and 'height' with shape (" ++ values.repr ++ ",)."
  | .noBar => "'NoneType' object has no attribute 'get_bbox'"
  | .noBounds => "Data cannot be log-scaled because all values are <= 0."
  | .imageTooLarge width height =>
    "Image size of " ++ width.repr ++ "x" ++ height.repr ++
      " pixels is too large. It must be less than 2^23 in each direction."
  | .lettersTooSmall =>
    "FT_Set_Char_Size (ft2font.cpp line 248) failed with error 0x97: invalid ppem value"
  | .lettersTooLarge =>
    "FT_Set_Char_Size (ft2font.cpp line 248) failed with error 0x17: invalid pixel size"
  | .formula fault => fault.message
  | .noTypesetter =>
    "'xelatex' not found; install it or change rcParams['pgf.texsystem'] " ++
      "to an available TeX implementation"
  | .unknownFormat format =>
    "Format " ++ Text.quoted format ++ " is not supported (supported formats: " ++
      ", ".intercalate imageFormats ++ ")"

def trouble : Fault → Trouble
  | .resolutionTooLarge | .infiniteSize | .uncountable .notIndex => .tooLarge
  | .uncountable .noRoom => .noRoom
  | .noBar => .missingPart
  | .lettersTooSmall | .lettersTooLarge | .noTypesetter => .broken
  | _ => .badValue

def toDrawing (fault : Fault) : Drawing.Fault :=
  .library fault.trouble fault.message

end Fault

end Authorship.Raster
