import Unification.Numeric.Binary64

/-! Atoms: the values that hold no part a substitution could reach. Functions are compared
as objects, all other atoms by their value. Integers, characters, truth values and the
unit share one integer representation, and are equal by value whenever it is the same.
-/

namespace Unification

open Numeric

/-- A function value, known only as an object: equal names are the same object. -/
structure FunctionRef where
  name : String
  deriving DecidableEq, Inhabited

/-- How two atoms are compared: as one and the same object, or by their value. -/
inductive Comparison
  | byObject
  | byValue
  deriving DecidableEq

/-- A value without parts. A boxed integer is a value of its own kind, apart from the
plain integers; handles and objects carry the number that identifies them.
-/
inductive Atom
  | int (value : Int64)
  | char (value : Char)
  | bool (value : Bool)
  | unit
  | float (value : Binary64)
  | string (value : String)
  | floats (values : List Binary64)
  | boxed (value : Int64)
  | handle (number : UInt64)
  | object (number : UInt64)
  | function (reference : FunctionRef)
  deriving DecidableEq

namespace Atom

/-- Functions alone are compared as objects. -/
def comparison : Atom → Comparison
  | function _ => .byObject
  | _ => .byValue

/-- The integer that represents an atom of the four immediate kinds. -/
def immediate? : Atom → Option Int64
  | int value => some value
  | char value => some (Int64.ofNat value.toNat)
  | bool value => some (if value then 1 else 0)
  | unit => some 0
  | _ => none

/-- Two functions that are the same object. No other atoms are objects in this sense. -/
def sameObject : Atom → Atom → Bool
  | function first, function second => first == second
  | _, _ => false

/-- The same kind of atom with the same payload, where floating-point payloads are
compared as numbers.
-/
def sameSyntax : Atom → Atom → Bool
  | int first, int second => first == second
  | char first, char second => first == second
  | bool first, bool second => first == second
  | unit, unit => true
  | float first, float second => first.equal second
  | string first, string second => first == second
  | floats first, floats second => first.isEqv second Binary64.equal
  | boxed first, boxed second => first == second
  | handle first, handle second => first == second
  | object first, object second => first == second
  | function first, function second => first == second
  | _, _ => false

/-- Equality by representation: immediate atoms by their integer whatever their kinds, all
others by kind and payload.
-/
def sameValue (first second : Atom) : Bool :=
  match first.immediate?, second.immediate? with
  | some left, some right => left == right
  | _, _ => first.sameSyntax second

end Atom

end Unification
