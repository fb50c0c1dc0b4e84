import BpfCompat.Go.Json.Syntax

/-!
# The token stream of a document

A decoder hands a document out token by token.  It remembers which tokens may come next
and, for every array and object it is inside, where that stands; separators are consumed on
the way to the next token.  Asked for a token where none may stand, it fails.

The tokens of a value that stands where a value may are the value's lexemes without the
separators, and after them the decoder is where a value has just ended.
-/

namespace Go.Json

/-- What the decoder expects next. -/
inductive TokenState where
  | topValue
  | arrayStart
  | arrayValue
  | arrayComma
  | objectStart
  | objectKey
  | objectColon
  | objectValue
  | objectComma
deriving DecidableEq

/-- A token. -/
inductive Token where
  | leftBracket
  | rightBracket
  | leftBrace
  | rightBrace
  | string (s : Str)
  | number (text : Str)
  | bool (b : Bool)
  | null
deriving DecidableEq

/-- A decoder: what is left to read, what is expected next, and what will be expected once
the arrays and objects it is inside are closed. -/
structure Decoder where
  rest : List Lexeme
  state : TokenState := .topValue
  stack : List TokenState := []

/-- A value may stand here. -/
def TokenState.valueAllowed : TokenState → Bool
  | .topValue | .arrayStart | .arrayValue | .objectValue => true
  | _ => false

/-- What is expected after a value. -/
def TokenState.valueEnd : TokenState → TokenState
  | .arrayStart | .arrayValue => .arrayComma
  | .objectValue => .objectComma
  | s => s

/-- The next token of the given lexemes. -/
def tokenFrom (state : TokenState) (stack : List TokenState) :
    List Lexeme → Option (Token × Decoder)
  | [] => none
  | .leftBracket :: rest =>
    if state.valueAllowed then some (.leftBracket, ⟨rest, .arrayStart, state :: stack⟩) else none
  | .rightBracket :: rest =>
    if state = .arrayStart ∨ state = .arrayComma then
      match stack with
      | outer :: stack => some (.rightBracket, ⟨rest, outer.valueEnd, stack⟩)
      | [] => none
    else none
  | .leftBrace :: rest =>
    if state.valueAllowed then some (.leftBrace, ⟨rest, .objectStart, state :: stack⟩) else none
  | .rightBrace :: rest =>
    if state = .objectStart ∨ state = .objectComma then
      match stack with
      | outer :: stack => some (.rightBrace, ⟨rest, outer.valueEnd, stack⟩)
      | [] => none
    else none
  | .colon :: rest =>
    if state = .objectColon then tokenFrom .objectValue stack rest else none
  | .comma :: rest =>
    if state = .arrayComma then tokenFrom .arrayValue stack rest
    else if state = .objectComma then tokenFrom .objectKey stack rest
    else none
  | .string s :: rest =>
    if state = .objectStart ∨ state = .objectKey then
      some (.string s, ⟨rest, .objectColon, stack⟩)
    else if state.valueAllowed then some (.string s, ⟨rest, state.valueEnd, stack⟩)
    else none
  | .number text :: rest =>
    if state.valueAllowed then some (.number text, ⟨rest, state.valueEnd, stack⟩) else none
  | .bool b :: rest =>
    if state.valueAllowed then some (.bool b, ⟨rest, state.valueEnd, stack⟩) else none
  | .null :: rest =>
    if state.valueAllowed then some (.null, ⟨rest, state.valueEnd, stack⟩) else none
  | .invalid :: _ => none

/-- The next token. -/
def Decoder.token (d : Decoder) : Option (Token × Decoder) := tokenFrom d.state d.stack d.rest

/-- The array or object the decoder is inside has more to read. -/
def Decoder.more (d : Decoder) : Bool :=
  match d.rest with
  | [] | .rightBracket :: _ | .rightBrace :: _ => false
  | _ => true

end Go.Json
