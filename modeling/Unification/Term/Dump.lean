import Unification.Numeric.Shortest
import Unification.Substitution.Basic
import Unification.Term.Basic
import Unification.Text.Quoted

/-! The dump of terms and substitutions: every constructor with its arguments. Functions
are objects without a text of their own, so a dump does not tell them apart.
-/

namespace Unification

open Numeric Text

/-- Texts between square brackets, separated by commas. -/
def bracketed (texts : List String) : String :=
  "[" ++ ", ".intercalate texts ++ "]"

/-- Dump of a variable. -/
def Var.dump (name : Var) : String :=
  "Var \x7b id: " ++ toString name.id.toNat ++ " \x7d"

/-- Dump of a floating-point number, with the fewest digits that read back. -/
def floatDump (number : Binary64) : String :=
  String.ofList number.shortestText

/-- Dump of an atom. -/
def Atom.dump : Atom → String
  | .int value => "Int(" ++ toString value.toInt ++ ")"
  | .char value => "Char(" ++ String.ofList (quote '\x27' [value]) ++ ")"
  | .bool value => "Bool(" ++ (if value then "true" else "false") ++ ")"
  | .unit => "Unit"
  | .float value => "Float(" ++ floatDump value ++ ")"
  | .string value => "Str(" ++ String.ofList (quote '\x22' value.toList) ++ ")"
  | .floats values => "FloatArray(" ++ bracketed (values.map floatDump) ++ ")"
  | .boxed value => "Int64(" ++ toString value.toInt ++ ")"
  | .handle number => "Abstract(" ++ toString number.toNat ++ ")"
  | .object number => "Object(" ++ toString number.toNat ++ ")"
  | .function _ => "Function(Function(ptr))"

namespace Term

mutual

/-- Dump of a term. -/
def dump : Term → String
  | var name => "Var(" ++ name.dump ++ ")"
  | atom value => "Atom(" ++ value.dump ++ ")"
  | lazy contents => "Atom(Lazy(" ++ dump contents ++ "))"
  | compound tag fields =>
      "Compound(" ++ toString tag.toNat ++ ", " ++ bracketed (dumps fields) ++ ")"

/-- Dumps of several terms. -/
def dumps : List Term → List String
  | [] => []
  | field :: rest => dump field :: dumps rest

end

end Term

namespace Substitution

/-- Dump of a substitution: pairs of a variable and a term, the most recent first. -/
def dump (substitution : Substitution Term) : String :=
  bracketed (substitution.bindings.map (fun binding =>
    "(" ++ binding.1.dump ++ ", " ++ binding.2.dump ++ ")"))

end Substitution

end Unification
