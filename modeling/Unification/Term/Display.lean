import Unification.Numeric.General
import Unification.Substitution.Basic
import Unification.Term.Basic

/-! The display form of terms and substitutions. Immediate atoms are written as their
integer, whatever their kind; compounds as their tag and their fields in parentheses;
values whose contents are not for show as a word between angle brackets.
-/

namespace Unification

open Numeric

/-- A floating-point number with twelve significant digits. A text of digits and sign
alone gets a point at its end, so that no number reads as an integer.
-/
def floatText (number : Binary64) : List Char :=
  let text := number.generalText 12
  if text.all (fun letter => letter.isDigit || letter == '-') then
    text ++ ['.']
  else
    text

/-- Display of several numbers, each followed by a semicolon and a blank. -/
def floatsText : List Binary64 → List Char
  | [] => []
  | number :: rest => floatText number ++ [';', ' '] ++ floatsText rest

/-- Display of an atom. -/
def Atom.display : Atom → String
  | .int value => toString value.toInt
  | .char value => toString value.toNat
  | .bool value => if value then "1" else "0"
  | .unit => "0"
  | .float value => String.ofList (floatText value)
  | .string value => if value.isEmpty then "<empty>" else "str:" ++ value
  | .floats values => String.ofList (['[', '|'] ++ floatsText values ++ ['|', ']'])
  | .boxed value => toString value.toInt
  | .handle _ => "<abstract>"
  | .object _ => "<object>"
  | .function _ => "<fun>"

namespace Term

mutual

/-- Display of a term. -/
def display : Term → String
  | var name => name.display
  | atom value => value.display
  | lazy _ => "<lazy>"
  | compound tag fields => "C" ++ toString tag.toNat ++ "(" ++ displayFields fields ++ ")"

/-- Display of several terms, each between parentheses. -/
def displayFields : List Term → String
  | [] => ""
  | field :: rest => "(" ++ display field ++ ")" ++ displayFields rest

end

end Term

namespace Substitution

/-- Display of a binding. -/
def displayBinding (binding : Var × Term) : String :=
  binding.1.display ++ " / " ++ binding.2.display

/-- Display of a substitution, the most recent binding first. -/
def display (substitution : Substitution Term) : String :=
  " , ".intercalate (substitution.bindings.map displayBinding)

end Substitution

end Unification
