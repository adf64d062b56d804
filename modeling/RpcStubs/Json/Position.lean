/-!
# Positions in a text

Errors name the line and the column at which reading stopped. Lines count from one, columns are the
bytes read since the last line feed.
-/

namespace RpcStubs.Json

/-- A place between two bytes of a text. -/
structure Position where
  line : Nat
  column : Nat
deriving Repr, DecidableEq, Inhabited

namespace Position

/-- The place before the first byte. -/
def start : Position :=
  ⟨1, 0⟩

/-- The place some bytes further on the same line. -/
def right (position : Position) (bytes : Nat) : Position :=
  { position with column := position.column + bytes }

/-- The place after a character. -/
def after (position : Position) (c : Char) : Position :=
  if c = '\n' then ⟨position.line + 1, 0⟩ else position.right c.utf8Size

/-- The place after the first byte of a character. -/
def afterByte (position : Position) (c : Char) : Position :=
  if c = '\n' then ⟨position.line + 1, 0⟩ else position.right 1

/-- The place after some characters. -/
def afterAll (position : Position) (cs : List Char) : Position :=
  cs.foldl after position

/-- The place a number of bytes on, at most at the end of the text. -/
def afterBytes (position : Position) : Nat → List Char → Position
  | _, [] => position
  | bytes, c :: rest =>
      if bytes = 0 then position
      else if c.utf8Size ≤ bytes then (position.after c).afterBytes (bytes - c.utf8Size) rest
      else position.right bytes

end Position

end RpcStubs.Json
