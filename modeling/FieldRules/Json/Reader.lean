import FieldRules.Json.Token

/-!
# Reading JSON

`Json.parse?` reads a text that is one JSON value and nothing else.  Arrays and objects may nest up
to a given depth.  A key that occurs again keeps its first place and takes its last value.
-/

set_option autoImplicit false

namespace FieldRules.Json

mutual

/-- Reads one value at the head of the tokens; `depth` more arrays or objects may be opened. -/
def readValue : (fuel depth : Nat) → List Token → Option (Json × List Token)
  | 0, _, _ => none
  | _ + 1, _, .atom v :: rest => some (v, rest)
  | _ + 1, 0, _ => none
  | _ + 1, _ + 1, .openBracket :: .closeBracket :: rest => some (.array [], rest)
  | _ + 1, _ + 1, .openBrace :: .closeBrace :: rest => some (.object [], rest)
  | fuel + 1, depth + 1, .openBracket :: rest => readItems fuel depth [] rest
  | fuel + 1, depth + 1, .openBrace :: rest => readEntries fuel depth [] rest
  | _ + 1, _, _ => none

/-- Reads the values of an array up to its end; `done` holds those before them, the last first. -/
def readItems : (fuel depth : Nat) → (done : List Json) → List Token → Option (Json × List Token)
  | 0, _, _, _ => none
  | fuel + 1, depth, done, tokens =>
    match readValue fuel depth tokens with
    | some (v, .comma :: rest) => readItems fuel depth (v :: done) rest
    | some (v, .closeBracket :: rest) => some (.array (v :: done).reverse, rest)
    | _ => none

/-- Reads the entries of an object up to its end; `done` holds those before them, the last first. -/
def readEntries : (fuel depth : Nat) → (done : List (String × Json)) → List Token →
    Option (Json × List Token)
  | 0, _, _, _ => none
  | fuel + 1, depth, done, .atom (.string key) :: .colon :: tokens =>
    match readValue fuel depth tokens with
    | some (v, .comma :: rest) => readEntries fuel depth ((key, v) :: done) rest
    | some (v, .closeBrace :: rest) =>
      some (.object (Entries.ofPairs ((key, v) :: done).reverse), rest)
    | _ => none
  | _ + 1, _, _, _ => none

end

/-- How many arrays and objects may be open at once in a document. -/
def maxDepth : Nat := 127

/-- The value that a text is, if it is JSON and nests at most `depth` deep. -/
def parse? (depth : Nat) (s : String) : Option Json :=
  match Token.scan s with
  | none => none
  | some tokens =>
    match readValue (2 * tokens.length + 1) depth tokens with
    | some (v, []) => some v
    | _ => none

end FieldRules.Json
