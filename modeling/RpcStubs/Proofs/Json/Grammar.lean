import Mathlib.Data.List.Forall2
import RpcStubs.Json.Tree

/-!
# The texts of a value

A tree fixes the tokens of its texts and their order (`Tree.lexemes`). Everything else is free: space
around every token, the escapes inside quotes, the spelling of an exponent. The relations here say
rule by rule which texts write a tree (`Tree.WrittenIn`), without a word about how a text is read.
-/

namespace RpcStubs.Json

/-- Space that may stand between tokens. -/
def Space (cs : List Char) : Prop :=
  ∀ c ∈ cs, c ∈ [' ', '\t', '\n', '\r']

/-! ## Characters inside quotes -/

/-- A hexadecimal digit of either case, by its value. -/
def IsHexDigit (n : Nat) (c : Char) : Prop :=
  "0123456789abcdef".toList[n]? = some c ∨ "0123456789ABCDEF".toList[n]? = some c

/-- A code written by its four hexadecimal digits. -/
inductive CodeWritten : Nat → List Char → Prop where
  | digits {a b c d : Nat} {first second third fourth : Char} (isFirst : IsHexDigit a first)
      (isSecond : IsHexDigit b second) (isThird : IsHexDigit c third)
      (isFourth : IsHexDigit d fourth) :
      CodeWritten (a * 0x1000 + b * 0x100 + c * 0x10 + d)
        ['\\', 'u', first, second, third, fourth]

/-- The letters that stand behind a backslash for one character. -/
def shortEscapes : List (Char × Char) :=
  [('"', '"'), ('\\', '\\'), ('/', '/'), ('b', '\x08'), ('f', '\x0c'), ('n', '\n'), ('r', '\r'),
    ('t', '\t')]

/-- The ways to write a character inside quotes: as it is, by a letter, by its code, or by the two
codes of a pair if it takes more than four digits. -/
inductive CharWritten (c : Char) : List Char → Prop where
  | plain (visible : 0x20 ≤ c.toNat) (notQuote : c ≠ '"') (notBackslash : c ≠ '\\') :
      CharWritten c [c]
  | short {letter : Char} (listed : (letter, c) ∈ shortEscapes) : CharWritten c ['\\', letter]
  | code {cs : List Char} (digits : CodeWritten c.toNat cs) : CharWritten c cs
  | pair {leading trailing : List Char} (large : 0x10000 ≤ c.toNat)
      (leadingDigits : CodeWritten (0xD800 + (c.toNat - 0x10000) / 0x400) leading)
      (trailingDigits : CodeWritten (0xDC00 + (c.toNat - 0x10000) % 0x400) trailing) :
      CharWritten c (leading ++ trailing)

/-! ## Numbers -/

/-- Digits, at least one. -/
def Digits (cs : List Char) : Prop :=
  cs ≠ [] ∧ ∀ c ∈ cs, c.isDigit = true

/-- A fraction, if there is one, behind its point. -/
inductive FractionWritten : Option (List Char) → List Char → Prop where
  | absent : FractionWritten none []
  | present {digits : List Char} (areDigits : Digits digits) :
      FractionWritten (some digits) ('.' :: digits)

/-- An exponent, if there is one, behind a mark in either case; a plus sign may be left out. -/
inductive ExponentWritten : Option (Bool × List Char) → List Char → Prop where
  | absent : ExponentWritten none []
  | unsigned {mark : Char} {digits : List Char} (isMark : mark = 'e' ∨ mark = 'E')
      (areDigits : Digits digits) : ExponentWritten (some (false, digits)) (mark :: digits)
  | positive {mark : Char} {digits : List Char} (isMark : mark = 'e' ∨ mark = 'E')
      (areDigits : Digits digits) : ExponentWritten (some (false, digits)) (mark :: '+' :: digits)
  | negative {mark : Char} {digits : List Char} (isMark : mark = 'e' ∨ mark = 'E')
      (areDigits : Digits digits) : ExponentWritten (some (true, digits)) (mark :: '-' :: digits)

/-- A number: a minus sign if it has one, digits of which the first is no zero unless it is the only
one, a fraction and an exponent. -/
inductive NumberWritten : Number.Parts → List Char → Prop where
  | parts {negative : Bool} {whole : List Char} {fraction : Option (List Char)}
      {exponent : Option (Bool × List Char)} {behindPoint behindMark : List Char}
      (areDigits : Digits whole) (noZero : whole.head? = some '0' → whole = ['0'])
      (fractionWritten : FractionWritten fraction behindPoint)
      (exponentWritten : ExponentWritten exponent behindMark) :
      NumberWritten ⟨negative, whole, fraction, exponent⟩
        ((if negative then ['-'] else []) ++ whole ++ behindPoint ++ behindMark)

/-! ## Tokens -/

/-- A token by itself, without the way it is written. -/
inductive Lexeme where
  | listOpen
  | listClose
  | objectOpen
  | objectClose
  | comma
  | colon
  | null
  | boolean (value : Bool)
  | number (parts : Number.Parts)
  | text (value : String)

/-- The ways to write a token. -/
inductive Lexeme.Written : Lexeme → List Char → Prop where
  | listOpen : Written .listOpen ['[']
  | listClose : Written .listClose [']']
  | objectOpen : Written .objectOpen ['\x7b']
  | objectClose : Written .objectClose ['\x7d']
  | comma : Written .comma [',']
  | colon : Written .colon [':']
  | null : Written .null ['n', 'u', 'l', 'l']
  | true : Written (.boolean Bool.true) ['t', 'r', 'u', 'e']
  | false : Written (.boolean Bool.false) ['f', 'a', 'l', 's', 'e']
  | number {parts : Number.Parts} {cs : List Char} (digits : NumberWritten parts cs) :
      Written (.number parts) cs
  | text {value : String} {pieces : List (List Char)}
      (characters : List.Forall₂ CharWritten value.toList pieces) :
      Written (.text value) ('"' :: pieces.flatten ++ ['"'])

/-- A text of some tokens: each of them in one of its ways, with space before it, and space at the
end. -/
inductive LexemesWritten : List Lexeme → List Char → Prop where
  | done {gap : List Char} (space : Space gap) : LexemesWritten [] gap
  | next {lexeme : Lexeme} {lexemes : List Lexeme} {gap cs later : List Char} (space : Space gap)
      (first : lexeme.Written cs) (others : LexemesWritten lexemes later) :
      LexemesWritten (lexeme :: lexemes) (gap ++ cs ++ later)

/-! ## Trees -/

mutual

/-- The tokens of a tree, in order. -/
def Tree.lexemes : Tree → List Lexeme
  | .null => [.null]
  | .boolean value => [.boolean value]
  | .number parts => [.number parts]
  | .text value => [.text value]
  | .list items => .listOpen :: Tree.itemLexemes true items
  | .object members => .objectOpen :: Tree.memberLexemes true members

/-- The tokens of elements up to the bracket that closes them; a comma stands before all but the
first. -/
def Tree.itemLexemes : Bool → List Tree → List Lexeme
  | _, [] => [.listClose]
  | first, item :: rest =>
      (if first then [] else [.comma]) ++ item.lexemes ++ Tree.itemLexemes false rest

/-- The tokens of members up to the brace that closes them; a comma stands before all but the first.
-/
def Tree.memberLexemes : Bool → List (String × Tree) → List Lexeme
  | _, [] => [.objectClose]
  | first, (key, value) :: rest =>
      (if first then [] else [.comma]) ++ .text key :: .colon :: value.lexemes
        ++ Tree.memberLexemes false rest

end

/-- A text writes a tree: it consists of the tokens of the tree. -/
def Tree.WrittenIn (tree : Tree) (text : String) : Prop :=
  LexemesWritten tree.lexemes text.toList

end RpcStubs.Json
