import Unification.Config.Basic
import Unification.Json.Skip

/-! Settings as JSON texts. A setting is written as an object with the single key
`max_depth`. It is read from such an object, where other keys are skipped, or from an
array with the deepest level as its only element, and the deepest level may be missing in
both. This is how a JSON library reads and writes a record with a default; the setting that
is read is all that unification sees of it.
-/

namespace Unification

namespace Config

open Json

/-- The name of the deepest level in an object. -/
def depthKey : List Char :=
  ['m', 'a', 'x', '_', 'd', 'e', 'p', 't', 'h']

/-- A level is a 64-bit word, written with digits alone; the word for nothing stands for
no level.
-/
def readDepth? (text : List Char) : Option (Option Nat × List Char) :=
  match dropBlanks text with
  | 'n' :: rest =>
      (afterWord? ['u', 'l', 'l'] rest).map (fun remaining => (none, remaining))
  | other => do
      let (digits, remaining) ← readWhole? other
      let depth := Nat.ofDigitChars 10 digits 0
      if depth < UInt64.size then some (some depth, remaining) else none

/-- The deepest level that is known behind the value of a member. It may be given once, and
the values of other keys are skipped.
-/
def readValue? (known : Option (Option Nat)) (key text : List Char)
    : Option (Option (Option Nat) × List Char) :=
  if key = depthKey then
    match known with
    | some _ => none
    | none => (readDepth? text).map (fun (depth, rest) => (some depth, rest))
  else
    (afterValue? text).map (fun rest => (known, rest))

/-- The members of an object, from behind the opening brace or a comma through the closing
brace. Keys may be written with escapes.
-/
def readMembers? : Nat → Option (Option Nat) → List Char → Option (Option Nat × List Char)
  | 0, _, _ => none
  | members + 1, known, text => do
      let behindMark ← afterMark? '\x22' text
      let (units, behindKey) ← readUnits? behindMark
      let key ← lettersOfUnits? units
      let behindColon ← afterMark? ':' behindKey
      let (found, behindValue) ← readValue? known key behindColon
      match dropBlanks behindValue with
      | ',' :: rest => readMembers? members found rest
      | other => (afterMark? '\x7d' other).map (fun rest => (found.getD none, rest))

/-- A setting in its object form, from behind the opening brace. -/
def readObject? (text : List Char) : Option (Option Nat × List Char) :=
  match afterMark? '\x7d' text with
  | some rest => some (none, rest)
  | none => readMembers? text.length none text

/-- A setting in its array form, from behind the opening bracket. -/
def readArray? (text : List Char) : Option (Option Nat × List Char) :=
  match afterMark? ']' text with
  | some rest => some (none, rest)
  | none => do
      let (depth, behindDepth) ← readDepth? text
      let rest ← afterMark? ']' behindDepth
      return (depth, rest)

/-- A setting in either form. -/
def readForm? (text : List Char) : Option (Option Nat × List Char) :=
  match dropBlanks text with
  | '\x7b' :: rest => readObject? rest
  | '[' :: rest => readArray? rest
  | _ => none

/-- The setting that a text stands for. Nothing but blanks may follow it. -/
def ofJson? (text : String) : Option Config := do
  let (depth, rest) ← readForm? text.toList
  if dropBlanks rest = [] then some ⟨depth⟩ else none

/-- The object form of a setting, without blanks. -/
def toJson (config : Config) : String :=
  let depth :=
    match config.maxDepth with
    | some depth => toString depth
    | none => "null"
  "\x7b\"max_depth\":" ++ depth ++ "\x7d"

/-- The dump of a setting. -/
def dump (config : Config) : String :=
  let depth :=
    match config.maxDepth with
    | some depth => "Some(" ++ toString depth ++ ")"
    | none => "None"
  "UnifyConfig \x7b max_depth: " ++ depth ++ " \x7d"

end Config

end Unification
