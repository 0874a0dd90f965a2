import PathQuery.Number.Integer
import PathQuery.Text.Blank

/-!
Settings of the parser and of evaluation, and how they are read from named texts such as the
variables of an environment. A setting without a text, or with one that says nothing, has its
default.
-/

namespace PathQuery

structure ParserOptions where
  /-- Whether text that is no token is passed over. -/
  lenient : Bool := false
  /-- Whether separators may stand outside of scopes. -/
  allowUnscopedSeparators : Bool := false
deriving DecidableEq

structure Settings where
  /-- Whether a left operand takes on the richer numeric type of the right one. -/
  alwaysWidenNumerics : Bool := false
  /-- The significant digits of decimal quotients; zero keeps them all. -/
  decimalPrecision : Nat := 28
  /-- Whether `$N` after a list always goes to the elements. -/
  alwaysConcatenateDollarIndex : Bool := false
  /-- Whether `$N` after a list never goes to the elements. -/
  neverConcatenateDollarIndex : Bool := false
  /-- Whether a name that the context lacks is looked up in the enclosing contexts. -/
  parentLookup : Bool := false
  /-- Whether a name that the context lacks is looked up in the root. -/
  rootLookup : Bool := false
  /-- Whether host code is asked before an operator is applied. -/
  operatorOverloading : Bool := true
  /-- Whether missing arguments are null. -/
  nullCompletion : Bool := true
  /-- Whether unknown namespaces are loaded. -/
  anyNamespace : Bool := false
  /-- Whether the case of method names counts. -/
  caseSensitiveMethods : Bool := true
deriving DecidableEq

namespace Settings

def flag? (text : String) : Option Bool :=
  let word := String.ofList ((Text.trimmed text.toList).map Char.toLower)
  if ["1", "true", "yes", "on"].contains word then some true
  else if ["0", "false", "no", "off"].contains word then some false
  else none

/-- A natural number of 32 bits; a plus sign may precede it. -/
def natural32? (text : String) : Option Nat :=
  let digits := match Text.trimmed text.toList with
    | '+' :: digits => digits
    | digits => digits
  (Number.natural? digits).filter (· < 0x100000000)

/-- A setting that is on or off, by the name of its text. -/
def flag (given : String → Option String) (name : String) (byDefault : Bool) : Bool :=
  ((given name).bind flag?).getD byDefault

def ofVariables (given : String → Option String) : Settings :=
  let flag := flag given
  let defaults : Settings := {}
  { alwaysWidenNumerics := flag "PATHEXPR_ALWAYS_WIDEN" defaults.alwaysWidenNumerics
    decimalPrecision :=
      ((given "PATHEXPR_DECIMAL_PRECISION").bind natural32?).getD defaults.decimalPrecision
    alwaysConcatenateDollarIndex :=
      flag "PATHEXPR_ALWAYS_CONCATENATE_DOLLAR_INDEX" defaults.alwaysConcatenateDollarIndex
    neverConcatenateDollarIndex :=
      flag "PATHEXPR_NEVER_CONCATENATE_DOLLAR_INDEX" defaults.neverConcatenateDollarIndex
    parentLookup := flag "PATHEXPR_PARENT_LOOKUP" defaults.parentLookup
    rootLookup := flag "PATHEXPR_ROOT_LOOKUP" defaults.rootLookup
    operatorOverloading := flag "PATHEXPR_OPERATOR_OVERLOADING" defaults.operatorOverloading
    nullCompletion := flag "PATHEXPR_NULL_COMPLETION" defaults.nullCompletion
    anyNamespace := flag "PATHEXPR_ANY_NAMESPACE" defaults.anyNamespace
    caseSensitiveMethods := flag "PATHEXPR_CASE_SENSITIVE_METHODS" defaults.caseSensitiveMethods }

end Settings

def ParserOptions.ofVariables (given : String → Option String) : ParserOptions :=
  { lenient := Settings.flag given "PATHEXPR_LENIENT" false
    allowUnscopedSeparators := Settings.flag given "PATHEXPR_UNSCOPED_SEPARATORS" false }

end PathQuery
