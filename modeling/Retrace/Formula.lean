import Retrace.Formula.Application
import Retrace.Formula.Scope
import Retrace.Formula.Symbol

/-!
Formulas carried over from TPTP notation, in which traces are written, to the notation of HOL. Three
passes go over the text: quantifier scopes are grouped, applications are curried, symbols are
replaced. Text that no rule matches is copied.
-/

namespace Retrace.Formula

/-- The HOL form of a formula. -/
def toHol (text : List Char) : List Char :=
  substituteSymbols (curryApplications (groupQuantifiers text))

/-- The HOL form of a formula held as a string. -/
def translate (formula : String) : String :=
  String.ofList (toHol formula.toList)

end Retrace.Formula
