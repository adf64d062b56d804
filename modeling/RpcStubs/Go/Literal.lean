import RpcStubs.Text.Hex

/-!
# String literals

Text is put into generated code as an interpreted string literal: double quotes, with an escape for
every character that may not stand there. A reader of such literals stands beside the writer, so
that what a literal denotes is a definition of its own.
-/

namespace RpcStubs.Go.Literal

open Text (hexDigits4 hexValue4?)

/-- Whether a character is a control character (general category Cc). -/
def isControl (c : Char) : Bool :=
  c.toNat < 0x20 || (0x7f ≤ c.toNat && c.toNat ≤ 0x9f)

/-! ## Writing -/

/-- One character inside a literal. -/
def escapeChar (c : Char) : List Char :=
  match c with
  | '"' => ['\\', '"']
  | '\\' => ['\\', '\\']
  | '\n' => ['\\', 'n']
  | '\r' => ['\\', 'r']
  | '\t' => ['\\', 't']
  | _ => if isControl c then '\\' :: 'u' :: hexDigits4 c.toNat else [c]

/-- The characters of the literal for a text. -/
def writeChars (cs : List Char) : List Char :=
  '"' :: cs.flatMap escapeChar ++ ['"']

/-- The literal for a text. -/
def write (s : String) : String :=
  String.ofList (writeChars s.toList)

@[simp]
theorem toList_write (s : String) : (write s).toList = writeChars s.toList :=
  String.toList_ofList

/-! ## Reading -/

/-- The text that the rest of a literal denotes, after its opening quote, and what follows the
closing quote. No text if the literal does not end, holds a line break or an unknown escape. -/
def readRest? : List Char → Option (List Char × List Char)
  | [] => none
  | '"' :: rest => some ([], rest)
  | '\n' :: _ => none
  | '\\' :: 'u' :: a :: b :: c :: d :: rest => do
      let code ← hexValue4? a b c d
      let (text, after) ← readRest? rest
      if code.isValidChar then return (Char.ofNat code :: text, after) else none
  | '\\' :: e :: rest => do
      let plain ← match e with
        | '"' => some '"'
        | '\\' => some '\\'
        | 'n' => some '\n'
        | 'r' => some '\r'
        | 't' => some '\t'
        | _ => none
      let (text, after) ← readRest? rest
      return (plain :: text, after)
  | '\\' :: [] => none
  | c :: rest => do
      let (text, after) ← readRest? rest
      return (c :: text, after)

/-- The text that a literal at the front of some characters denotes, and what follows it. -/
def read? : List Char → Option (List Char × List Char)
  | '"' :: rest => readRest? rest
  | _ => none

end RpcStubs.Go.Literal
