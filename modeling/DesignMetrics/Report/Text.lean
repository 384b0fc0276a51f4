import DesignMetrics.Hierarchy.Basic
import DesignMetrics.Factor.Basic
import DesignMetrics.Number.Notation

/-!
# The plain report

A line for each factor, and a line for each class with its depth and its number of children.
-/

namespace DesignMetrics.Report

open Number (Binary64)

/-- The text of a depth. A class above which there is a cycle has none. -/
def depthText : Option Int → String
  | some depth => toString depth
  | none => "cycle"

/-- Hiding and polymorphism have three places, inheritance all digits that tell its value. -/
def factorTexts (values : Factors Binary64) : Factors String :=
  { mhf := values.mhf.toFixed 3
    ahf := values.ahf.toFixed 3
    mif := values.mif.toText
    aif := values.aif.toText
    pof := values.pof.toFixed 3 }

/-- The line of one class. -/
def classRow (name : String) (m : Position) : String :=
  ", ".intercalate [name, depthText m.depth, toString m.childCount]

/-- The lines of the plain report. -/
def textLines (values : Factors Binary64) (positions : OrderedMap Position) : List String :=
  ["Project metrics:"] ++
    (factorTexts values).named.map (fun (name, text) => name.toUpper ++ " = " ++ text) ++
    ["", "Class, DIT, NOC"] ++
    positions.entries.map fun (name, m) => classRow name m

/-- The plain report; every line ends with a line feed. -/
def text (values : Factors Binary64) (positions : OrderedMap Position) : String :=
  String.join ((textLines values positions).map (· ++ "\n"))

end DesignMetrics.Report
