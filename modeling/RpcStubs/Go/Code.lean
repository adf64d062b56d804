import RpcStubs.Text.Cut
import RpcStubs.Text.Table

/-!
# Laying out code

Code is a list of pieces, from single lines to functions with a body. Laying it out gives lines,
each with the depth it stands at, and the depth left behind; only `indent` and `dedent` leave
another depth than they found. The text puts one tab per level in front of a line and nothing in
front of a blank one.
-/

namespace RpcStubs.Go

/-- A piece of code. -/
inductive Code where
  /-- One line. -/
  | line (text : String)
  /-- An empty line. -/
  | blank
  /-- One comment line. -/
  | comment (text : String)
  /-- A comment line for each line of a text. -/
  | doc (text : String)
  /-- A struct type with its fields. -/
  | struct (name : String) (fields : List (String × String))
  /-- A composite literal with keys, one entry a line, after some opening words. -/
  | literal (opening type : String) (entries : List (String × String))
  /-- A header and its body in braces. -/
  | block (header : String) (body : List Code)
  /-- A function, or a method if it has a receiver. -/
  | func (receiver : Option String) (name params results : String) (body : List Code)
  /-- One level deeper from here on. -/
  | indent
  /-- One level less deep from here on; the outermost level stays. -/
  | dedent
deriving Repr, Inhabited

/-- A line of laid-out code. -/
inductive Line where
  | code (depth : Nat) (text : String)
  | blank
deriving Repr, DecidableEq, Inhabited

namespace Line

/-- A line as text, with its line feed. -/
def text : Line → String
  | code depth text => String.ofList (List.replicate depth '\t') ++ text ++ "\n"
  | blank => "\n"

/-- The same line a number of levels deeper. -/
def shift (levels : Nat) : Line → Line
  | code depth text => code (levels + depth) text
  | blank => blank

end Line

namespace Code

/-! ## The words of a line -/

/-- The text of a comment line. -/
def commentText (text : String) : String :=
  if text = "" then "//" else "// " ++ text

/-- A line without the carriage return that stood before its line feed. -/
def dropReturn (cs : List Char) : List Char :=
  if cs.getLast? = some '\r' then cs.dropLast else cs

/-- The lines among the pieces between line feeds: the last piece is a line of its own, kept as it
is, unless it is empty. -/
def completeLines : List (List Char) → List (List Char)
  | [] => []
  | [last] => if last.isEmpty then [] else [last]
  | ended :: rest => dropReturn ended :: completeLines rest

/-- The lines of a text. -/
def linesOf (text : String) : List String :=
  (completeLines (Text.pieces '\n' text.toList)).map String.ofList

/-- What stands in front of the braces of a function. -/
def funcHeader (receiver : Option String) (name params results : String) : String :=
  "func " ++ (match receiver with | some r => "(" ++ r ++ ") " | none => "") ++ name
    ++ "(" ++ params ++ ")" ++ (if results = "" then "" else " " ++ results)

/-! ## Layout -/

/-- A header, a body laid out one level deeper, and the closing brace one level less deep than the
body ends. -/
def braced (level : Nat) (header : String) (body : List Line × Nat) : List Line × Nat :=
  (.code level (header ++ " \x7b") :: body.1 ++ [.code (body.2 - 1) "\x7d"], body.2 - 1)

mutual

/-- The lines of a piece of code at a depth, and the depth after it. -/
def layout (level : Nat) : Code → List Line × Nat
  | line text => ([.code level text], level)
  | blank => ([.blank], level)
  | comment text => ([.code level (commentText text)], level)
  | doc text => ((linesOf text).map fun row => .code level (commentText row), level)
  | struct name [] => ([.code level ("type " ++ name ++ " struct\x7b\x7d")], level)
  | struct name (field :: fields) =>
      braced level ("type " ++ name ++ " struct")
        ((Text.twoColumns 1 (field :: fields)).map (.code (level + 1)), level + 1)
  | literal opening type entries =>
      (.code level (opening ++ type ++ "\x7b")
          :: (Text.twoColumns 1 (entries.map fun entry => (entry.1 ++ ":", entry.2 ++ ","))).map
            (.code (level + 1))
          ++ [.code level "\x7d"],
        level)
  | block header body => braced level header (layoutAll (level + 1) body)
  | func receiver name params results body =>
      braced level (funcHeader receiver name params results) (layoutAll (level + 1) body)
  | indent => ([], level + 1)
  | dedent => ([], level - 1)

/-- The lines of pieces one after the other, and the depth after the last. -/
def layoutAll (level : Nat) : List Code → List Line × Nat
  | [] => ([], level)
  | first :: rest =>
      ((first.layout level).1 ++ (layoutAll (first.layout level).2 rest).1,
        (layoutAll (first.layout level).2 rest).2)

end

/-- The text of some code at a depth. -/
def textAt (level : Nat) (code : List Code) : String :=
  "".intercalate ((layoutAll level code).1.map Line.text)

/-- The text of some code at the outermost level. -/
def text (code : List Code) : String :=
  textAt 0 code

end Code

end RpcStubs.Go
