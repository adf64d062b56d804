import RpcStubs.Json.Fault

/-!
# Tokens of a JSON text

A text is cut into tokens up to its end or up to the first place that no reading gets past. Texts
and numbers are scanned in one of two ways at once: a value that is wanted has to be well formed
in every respect, while a value that is skipped may hold lone surrogates and numbers of any size.
A token therefore carries what a reader of its value gets, which may be a fault.
-/

namespace RpcStubs.Json

/-- What a token is. -/
inductive Kind where
  | listOpen
  | listClose
  | objectOpen
  | objectClose
  | comma
  | colon
  | null
  | boolean (value : Bool)
  /-- A number, with what it is worth to a reader. -/
  | number (value : Except Fault Found)
  /-- A text, with what it is worth to a reader. -/
  | text (value : Except Fault String)
deriving Inhabited

/-- The tokens of a text. -/
inductive Tokens where
  /-- The end of the text. -/
  | finish (position : Position)
  /-- A token that cannot be completed: the fault when it is read, and when it is skipped. -/
  | broken (start : Position) (isText : Bool) (read skipped : Fault)
  /-- A token between two positions, and what follows it. -/
  | token (start : Position) (kind : Kind) (stop : Position) (rest : Tokens)
deriving Inhabited

namespace Tokens

/-- Where the next token starts. -/
def start : Tokens → Position
  | finish position => position
  | broken start .. | token start .. => start

/-- One byte into the next token, which is where an unexpected one is reported. -/
def peek : Tokens → Position
  | finish position => position
  | broken start .. | token start .. => start.right 1

/-- The number of tokens before the end. -/
def size : Tokens → Nat
  | finish _ | broken .. => 0
  | token _ _ _ rest => rest.size + 1

/-- The fault that a token gives rise to. -/
def fault (tokens : Tokens) (problem : Problem) : Fault :=
  ⟨problem, tokens.peek⟩

end Tokens

/-! ## Scans -/

/-- What is left of a text after a token was scanned. -/
structure Scan where
  /-- The token, or the faults of one that cannot be completed. -/
  outcome : Except (Fault × Fault) Kind
  stop : Position
  rest : List Char

/-- A scan that ends in the same fault whether the token is read or skipped. -/
def Scan.stuck (problem : Problem) (position : Position) : Scan :=
  ⟨.error (⟨problem, position⟩, ⟨problem, position⟩), position, []⟩

end RpcStubs.Json
