import RpcStubs.Json.Scan.Number
import RpcStubs.Json.Scan.Text

/-!
# Scanning whole texts

The first character of a token decides what it is. Every scan consumes that character and leaves a
part of what follows it (`length_rest_scanToken`), so cutting a text into tokens comes to an end.
-/

namespace RpcStubs.Json

/-- Scan the rest of a word. -/
def scanWord (kind : Kind) (position : Position) : List Char → List Char → Scan
  | [], cs => ⟨.ok kind, position, cs⟩
  | _ :: _, [] => .stuck .endInValue position
  | expected :: later, c :: rest =>
      if c = expected then scanWord kind (position.right 1) later rest
      else .stuck .wordExpected (position.afterByte c)

theorem length_rest_scanWord (kind : Kind) (position : Position) (word cs : List Char) :
    (scanWord kind position word cs).rest.length ≤ cs.length := by
  fun_induction scanWord kind position word cs with
  | case1 => exact Nat.le_refl _
  | case2 => exact Nat.zero_le _
  | case3 position expected later rest ih => exact Nat.le_succ_of_le ih
  | case4 => exact Nat.zero_le _

/-- Whether a character may stand between tokens. -/
def isSpace (c : Char) : Bool :=
  c == ' ' || c == '\t' || c == '\n' || c == '\r'

/-- Scan the token that begins with a character. -/
def scanToken (position : Position) (c : Char) (rest : List Char) : Scan :=
  let single (kind : Kind) : Scan := ⟨.ok kind, position.right 1, rest⟩
  match c with
  | '[' => single .listOpen
  | ']' => single .listClose
  | '\x7b' => single .objectOpen
  | '\x7d' => single .objectClose
  | ',' => single .comma
  | ':' => single .colon
  | '"' => scanText (position.right 1) (.ok []) rest
  | 'n' => scanWord .null (position.right 1) "ull".toList rest
  | 't' => scanWord (.boolean true) (position.right 1) "rue".toList rest
  | 'f' => scanWord (.boolean false) (position.right 1) "alse".toList rest
  | '-' => scanNumber (position.right 1) true rest
  | _ =>
      if isDigit c then scanNumber position false (c :: rest)
      else .stuck .valueExpected (position.right 1)

theorem length_rest_scanToken (position : Position) (c : Char) (rest : List Char) :
    (scanToken position c rest).rest.length ≤ rest.length := by
  unfold scanToken
  simp only
  split
  case h_7 => exact length_rest_scanText ..
  case h_8 => exact length_rest_scanWord ..
  case h_9 => exact length_rest_scanWord ..
  case h_10 => exact length_rest_scanWord ..
  case h_11 => exact length_rest_scanNumber ..
  case h_12 =>
    split
    next digit => exact length_rest_scanNumber_lt _ _ digit rest
    · exact Nat.zero_le _
  all_goals exact Nat.le_refl _

/-- The position and the rest of a text behind the space at its front. -/
def skipSpace (position : Position) : List Char → Position × List Char
  | [] => (position, [])
  | c :: rest => if isSpace c then skipSpace (position.after c) rest else (position, c :: rest)

theorem length_skipSpace (position : Position) (cs : List Char) :
    (skipSpace position cs).2.length ≤ cs.length := by
  fun_induction skipSpace position cs with
  | case1 => exact Nat.le_refl _
  | case2 position c rest space ih => exact Nat.le_succ_of_le ih
  | case3 => exact Nat.le_refl _

/-- The tokens of the rest of a text from a position on. -/
def tokensFrom (position : Position) (cs : List Char) : Tokens :=
  match _spaced : skipSpace position cs with
  | (start, []) => .finish start
  | (start, c :: rest) =>
      let scan := scanToken start c rest
      match scan.outcome with
      | .error (read, skipped) => .broken start (c == '"') read skipped
      | .ok kind => .token start kind scan.stop (tokensFrom scan.stop scan.rest)
termination_by cs.length
decreasing_by
  have shorter := length_skipSpace position cs
  have left := length_rest_scanToken start c rest
  rw [_spaced] at shorter
  simp only [List.length_cons] at shorter
  omega

/-- The tokens of a text. -/
def tokens (text : String) : Tokens :=
  tokensFrom .start text.toList

end RpcStubs.Json
