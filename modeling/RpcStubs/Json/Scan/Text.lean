import RpcStubs.Json.Token
import RpcStubs.Text.Hex

/-!
# Scanning texts

A text ends at its closing quote. Control characters and unknown escapes end the scan whether the
text is read or skipped; a surrogate without its partner spoils the text for a reader only.
-/

namespace RpcStubs.Json

/-- The number of four hexadecimal digits at the front, and the rest. -/
def hexCode? : List Char → Option (Nat × List Char)
  | a :: b :: c :: d :: rest => (Text.hexValue4? a b c d).map (·, rest)
  | _ => none

/-- The fault of a code escape without four hexadecimal digits. -/
def hexFault (position : Position) (cs : List Char) : Fault :=
  if (String.ofList cs).utf8ByteSize < 4 then ⟨.endInString, position.afterAll cs⟩
  else ⟨.badEscape, position.afterBytes 4 cs⟩

/-- Whether a code is the first half of a surrogate pair. -/
def isLeading (code : Nat) : Bool :=
  0xD800 ≤ code && code ≤ 0xDBFF

/-- Whether a code is the second half of a surrogate pair. -/
def isTrailing (code : Nat) : Bool :=
  0xDC00 ≤ code && code ≤ 0xDFFF

/-- The character that a surrogate pair stands for. -/
def pairedChar (leading trailing : Nat) : Char :=
  Char.ofNat ((leading - 0xD800) * 0x400 + (trailing - 0xDC00) + 0x10000)

/-- The fault of a first half of a surrogate pair that no second half follows. -/
def pairFault (position : Position) : List Char → Fault
  | [] => ⟨.endInString, position⟩
  | '\\' :: [] => ⟨.endInString, position.right 1⟩
  | '\\' :: 'u' :: rest =>
      match hexCode? rest with
      | some _ => ⟨.loneSurrogate, position.right 6⟩
      | none => hexFault (position.right 2) rest
  | '\\' :: c :: _ => ⟨.endOfSurrogates, (position.right 1).afterByte c⟩
  | c :: _ => ⟨.endOfSurrogates, position.afterByte c⟩

/-- The character of a short escape. -/
def shortEscape? : Char → Option Char
  | '"' => some '"'
  | '\\' => some '\\'
  | '/' => some '/'
  | 'b' => some '\x08'
  | 'f' => some '\x0c'
  | 'n' => some '\n'
  | 'r' => some '\r'
  | 't' => some '\t'
  | _ => none

/-- A text so far, last character first, or the fault that a reader of it has met. -/
abbrev Gathered := Except Fault (List Char)

/-- What was gathered, with one more character. -/
def Gathered.push (gathered : Gathered) (c : Char) : Gathered :=
  gathered.map (c :: ·)

/-- What was gathered, with a fault unless there is one already. -/
def Gathered.spoil (gathered : Gathered) (fault : Fault) : Gathered :=
  gathered.bind fun _ => .error fault

/-- The end of a text that cannot be completed. -/
def Gathered.stuck (gathered : Gathered) (read skipped : Fault) : Scan :=
  match gathered with
  | .error earlier => ⟨.error (earlier, skipped), skipped.position, []⟩
  | .ok _ => ⟨.error (read, skipped), skipped.position, []⟩

/-- The text that was gathered. -/
def Gathered.finish (gathered : Gathered) : Except Fault String :=
  gathered.map fun cs => String.ofList cs.reverse

/-- Scan a text behind its opening quote. -/
def scanText (position : Position) (gathered : Gathered) : List Char → Scan
  | [] => gathered.stuck ⟨.endInString, position⟩ ⟨.endInString, position⟩
  | '"' :: rest => ⟨.ok (.text gathered.finish), position.right 1, rest⟩
  | '\\' :: [] => gathered.stuck ⟨.endInString, position.right 1⟩ ⟨.endInString, position.right 1⟩
  | '\\' :: 'u' :: a :: b :: c :: d :: rest =>
      match Text.hexValue4? a b c d with
      | none =>
          let fault := hexFault (position.right 2) (a :: b :: c :: d :: rest)
          gathered.stuck fault fault
      | some code =>
          if isTrailing code then
            scanText (position.right 6)
              (gathered.spoil ⟨.loneSurrogate, position.right 6⟩) rest
          else if isLeading code then
            match rest with
            | '\\' :: 'u' :: e :: f :: g :: h :: later =>
                match Text.hexValue4? e f g h with
                | some second =>
                    if isTrailing second then
                      scanText (position.right 12) (gathered.push (pairedChar code second)) later
                    else
                      scanText (position.right 6)
                        (gathered.spoil ⟨.loneSurrogate, position.right 12⟩)
                        ('\\' :: 'u' :: e :: f :: g :: h :: later)
                | none =>
                    scanText (position.right 6)
                      (gathered.spoil
                        (pairFault (position.right 6) ('\\' :: 'u' :: e :: f :: g :: h :: later)))
                      ('\\' :: 'u' :: e :: f :: g :: h :: later)
            | rest =>
                scanText (position.right 6)
                  (gathered.spoil (pairFault (position.right 6) rest)) rest
          else scanText (position.right 6) (gathered.push (Char.ofNat code)) rest
  | '\\' :: 'u' :: rest =>
      let fault := hexFault (position.right 2) rest
      gathered.stuck fault fault
  | '\\' :: c :: rest =>
      match shortEscape? c with
      | some plain => scanText (position.right 2) (gathered.push plain) rest
      | none =>
          let fault : Fault := ⟨.badEscape, (position.right 1).afterByte c⟩
          gathered.stuck fault fault
  | c :: rest =>
      if c.toNat < 0x20 then
        gathered.stuck ⟨.controlCharacter, position.after c⟩ ⟨.controlCharacter, position⟩
      else scanText (position.after c) (gathered.push c) rest

theorem Gathered.length_rest_stuck (gathered : Gathered) (read skipped : Fault) :
    (gathered.stuck read skipped).rest = [] := by
  unfold Gathered.stuck
  split <;> rfl

theorem length_rest_scanText (position : Position) (gathered : Gathered) (cs : List Char) :
    (scanText position gathered cs).rest.length ≤ cs.length := by
  fun_induction scanText position gathered cs
  -- A text that is stuck leaves nothing, and every other step goes past a character.
  all_goals simp only [Gathered.length_rest_stuck, List.length_cons, List.length_nil] at *
  all_goals omega

end RpcStubs.Json
