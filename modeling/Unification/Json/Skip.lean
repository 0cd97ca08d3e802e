import Unification.Json.Lexeme

/-! Skipping JSON values of any kind, as a JSON library does with the members of an object
that nobody asks for. Only the grammar counts: numbers may be of any size, a string may hold
half of a pair of code units, and values may be nested to any depth. Settings that are given
as texts are the only use of this.
-/

namespace Unification.Json

/-- What remains behind the items of a group, separated by commas, and its closing mark.
-/
def afterItems? (afterItem? : List Char → Option (List Char)) (closing : Char)
    : Nat → List Char → Option (List Char)
  | 0, _ => none
  | items + 1, text => do
      let behindItem ← afterItem? text
      match dropBlanks behindItem with
      | ',' :: rest => afterItems? afterItem? closing items rest
      | other => afterMark? closing other

/-- What remains behind a group, which may be empty, and its closing mark. -/
def afterGroup? (afterItem? : List Char → Option (List Char)) (closing : Char)
    (text : List Char) : Option (List Char) :=
  match afterMark? closing text with
  | some rest => some rest
  | none => afterItems? afterItem? closing text.length text

/-- What remains behind a member of an object: a string, a colon and a value. -/
def afterMember? (afterValue? : List Char → Option (List Char)) (text : List Char)
    : Option (List Char) := do
  let behindMark ← afterMark? '\x22' text
  let (_, behindKey) ← readUnits? behindMark
  let behindColon ← afterMark? ':' behindKey
  afterValue? behindColon

/-- What remains behind a value that is nested less deeply than the given bound. -/
def afterValueWithin? : Nat → List Char → Option (List Char)
  | 0, _ => none
  | bound + 1, text =>
      match dropBlanks text with
      | 'n' :: rest => afterWord? ['u', 'l', 'l'] rest
      | 't' :: rest => afterWord? ['r', 'u', 'e'] rest
      | 'f' :: rest => afterWord? ['a', 'l', 's', 'e'] rest
      | '\x22' :: rest => (readUnits? rest).map Prod.snd
      | '[' :: rest => afterGroup? (afterValueWithin? bound) ']' rest
      | '\x7b' :: rest => afterGroup? (afterMember? (afterValueWithin? bound)) '\x7d' rest
      | other => afterNumber? other

/-- What remains of a text behind a value. Each level of nesting takes a letter at least.
-/
def afterValue? (text : List Char) : Option (List Char) :=
  afterValueWithin? (text.length + 1) text

end Unification.Json
