import RpcStubs.Json.Number
import RpcStubs.Json.Shape
import RpcStubs.Text.Hex

/-!
# Values and their compact text

A tree is a JSON value by itself, without the way it is written. Its compact text has no space
between tokens and escapes only what has to be escaped. Every value of a shape is a tree in which
records are objects with all their fields, in order.
-/

namespace RpcStubs.Json

/-- A JSON value. -/
inductive Tree where
  | null
  | boolean (value : Bool)
  | number (parts : Number.Parts)
  | text (value : String)
  | list (items : List Tree)
  | object (members : List (String × Tree))
deriving Inhabited

/-! ## Compact text -/

/-- One character of a text inside quotes. -/
def escapeChar (c : Char) : List Char :=
  match c with
  | '"' => ['\\', '"']
  | '\\' => ['\\', '\\']
  | '\x08' => ['\\', 'b']
  | '\x0c' => ['\\', 'f']
  | '\n' => ['\\', 'n']
  | '\r' => ['\\', 'r']
  | '\t' => ['\\', 't']
  | _ => if c.toNat < 0x20 then '\\' :: 'u' :: Text.hexDigits4 c.toNat else [c]

/-- A text in quotes. -/
def textChars (s : String) : List Char :=
  '"' :: s.toList.flatMap escapeChar ++ ['"']

/-- A number as it is written. -/
def Number.Parts.chars (parts : Number.Parts) : List Char :=
  (if parts.negative then ['-'] else []) ++ parts.whole
    ++ (match parts.fraction with | some digits => '.' :: digits | none => [])
    ++ (match parts.exponent with
      | some (negative, digits) => 'e' :: (if negative then '-' else '+') :: digits
      | none => [])

/-- Pieces with commas between them. -/
def separated : List (List Char) → List Char
  | [] => []
  | [piece] => piece
  | piece :: rest => piece ++ ',' :: separated rest

mutual

/-- The characters of a tree's compact text. -/
def Tree.chars : Tree → List Char
  | .null => "null".toList
  | .boolean value => (toString value).toList
  | .number parts => parts.chars
  | .text value => textChars value
  | .list items => '[' :: separated (Tree.charsOfItems items) ++ [']']
  | .object members => '\x7b' :: separated (Tree.charsOfMembers members) ++ ['\x7d']

/-- The compact texts of the elements of a list. -/
def Tree.charsOfItems : List Tree → List (List Char)
  | [] => []
  | item :: rest => item.chars :: Tree.charsOfItems rest

/-- The compact texts of the members of an object. -/
def Tree.charsOfMembers : List (String × Tree) → List (List Char)
  | [] => []
  | (key, value) :: rest => (textChars key ++ ':' :: value.chars) :: Tree.charsOfMembers rest

end

/-- The compact text of a tree. -/
def Tree.compact (tree : Tree) : String :=
  String.ofList tree.chars

/-! ## Values of shapes -/

mutual

/-- The tree of a value of a shape. -/
def Shape.tree : (shape : Shape) → shape.Value → Tree
  | .text, value => .text value
  | .list item, values => .list (values.map item.tree)
  | .record _ fields, values => .object (fields.members values)

/-- The members of a record with some values. -/
def Fields.members : (fields : Fields) → fields.Values → List (String × Tree)
  | .done, _ => []
  | .field key _ shape rest, (value, values) => (key, shape.tree value) :: rest.members values

end

end RpcStubs.Json
