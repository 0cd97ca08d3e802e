import Unification.Term.Basic

/-! Supplies of fresh variables. A supply holds the identifier it hands out next, and each
issue moves it one word further; after the greatest word the numbering starts again at
zero.
-/

namespace Unification

/-- A source of variables, numbered upwards from the next identifier it hands out. -/
structure VarSupply where
  next : UInt64
  deriving DecidableEq, Inhabited

namespace VarSupply

/-- The supply whose first variable has the given identifier. -/
def startingAt (first : UInt64) : VarSupply :=
  ⟨first⟩

/-- The supply that numbers its variables from zero. -/
def initial : VarSupply :=
  startingAt 0

/-- The next variable, and the supply that remains after it has been issued. -/
def fresh (supply : VarSupply) : Var × VarSupply :=
  (⟨supply.next⟩, ⟨supply.next + 1⟩)

/-- The next variable as a term, and the supply that remains. -/
def freshTerm (supply : VarSupply) : Term × VarSupply :=
  let (name, remaining) := supply.fresh
  (.var name, remaining)

/-- The two ways to ask for a variable: as it is, or as a term. -/
inductive Request
  | name
  | term

/-- What one request is answered with, and the supply that remains. -/
def answer (supply : VarSupply) : Request → Term × VarSupply
  | .name => (.var supply.fresh.1, supply.fresh.2)
  | .term => supply.freshTerm

/-- Several requests answered one after the other, and the supply that remains. -/
def issue : List Request → VarSupply → List Term × VarSupply
  | [], supply => ([], supply)
  | request :: requests, supply =>
      let (first, remaining) := supply.answer request
      let (rest, final) := issue requests remaining
      (first :: rest, final)

/-- A reset supply numbers its variables from zero again. -/
def reset (_ : VarSupply) : VarSupply :=
  initial

end VarSupply

end Unification
