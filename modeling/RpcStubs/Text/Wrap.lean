import RpcStubs.Text.Alphabetic
import RpcStubs.Text.Cut
import RpcStubs.Text.LineBreak.Rule

/-!
# Wrapping text

A text is wrapped to a number of columns by putting each word on the line of the word before it as
long as it fits. Words end where a line may be broken, and behind the hyphens of a compound; a word
wider than a line is cut. Control sequences take no column, and a line is not broken inside one. The
spaces that a line would end with are dropped.
-/

namespace RpcStubs.Text

/-- A word that is not to be broken, and how many spaces are behind it. -/
structure Word where
  letters : List Char
  spaces : Nat
deriving Repr, DecidableEq, Inhabited

namespace Word

/-- The word that a piece of a line holds. -/
def ofPiece (piece : List Char) : Word :=
  let letters := dropEnd ' ' piece
  ⟨letters, piece.length - letters.length⟩

/-- The words that a word is cut into. Its spaces stay behind the last one. -/
def cut (cutter : List Char → List (List Char)) (word : Word) : List Word :=
  let rec words : List (List Char) → List Word
    | [] => []
    | [letters] => [⟨letters, word.spaces⟩]
    | letters :: later => ⟨letters, 0⟩ :: words later
  words (cutter word.letters)

/-- A word with its spaces. -/
def spelled (word : Word) : List Char :=
  word.letters ++ List.replicate word.spaces ' '

/-- How many columns a word takes without its spaces. -/
def width (word : Word) : Nat :=
  Text.width word.letters

end Word

/-! ## The words of a line -/

/-- Some pieces with one more character at the front of the first. -/
def addToFirst (c : Char) : List (List Char) → List (List Char)
  | [] => [[c]]
  | piece :: later => (c :: piece) :: later

/-- Whether a character is a hyphen, behind which words are cut by the rule of compounds. -/
def isHyphen (c : Char) : Bool :=
  c == '-' || c == '\u00ad'

/-- Some places with the first that is set cleared. -/
def clearFirst : List Bool → List Bool
  | [] => []
  | true :: rest => false :: rest
  | false :: rest => false :: clearFirst rest

/-- Some places with the last that is set cleared. -/
def clearLast (places : List Bool) : List Bool :=
  (clearFirst places.reverse).reverse

/-- For each character of a line, whether a word ends behind it and another begins. These are the
opportunities to break the line, without those behind hyphens. The last of the places that are left
is the end of the line, and is dropped; on a line that ends with a hyphen the last two words stay
together by this. -/
def wordEnds (line : List Char) : List Bool :=
  clearLast ((opportunities line).zipWith (fun allowed c => allowed && !isHyphen c) line)

/-- Marked characters cut behind those that end a word. A control sequence behind such a character
goes to the next piece. -/
def cutBehind : List Bool → List (Char × Bool) → List (List Char)
  | _, [] => [[]]
  | ends, (c, false) :: rest => addToFirst c (cutBehind ends rest)
  | true :: ends, (c, true) :: rest => [c] :: cutBehind ends rest
  | false :: ends, (c, true) :: rest => addToFirst c (cutBehind ends rest)
  | [], (c, true) :: rest => addToFirst c (cutBehind [] rest)

/-- The pieces of a line that are not to be broken, each with the spaces at its end. -/
def unbroken (line : List Char) : List (List Char) :=
  cutBehind (wordEnds (shown line)) (marked line)

/-- Letters cut behind each hyphen that has letters or digits on both sides. -/
def cutCompound : List Char → List (List Char)
  | [] => [[]]
  | c :: '-' :: next :: rest =>
      if isAlphanumeric c && isAlphanumeric next then [c, '-'] :: cutCompound (next :: rest)
      else addToFirst c (cutCompound ('-' :: next :: rest))
  | c :: rest => addToFirst c (cutCompound rest)

/-- Marked letters cut so that no piece is wider than a limit, with some columns in use. A control
sequence stays with the letters before it. -/
def cutFrom (limit used : Nat) : List (Char × Bool) → List (List Char)
  | [] => [[]]
  | (c, false) :: rest => addToFirst c (cutFrom limit used rest)
  | (c, true) :: rest =>
      if 0 < used ∧ limit < used + columns c then
        [] :: addToFirst c (cutFrom limit (columns c) rest)
      else addToFirst c (cutFrom limit (used + columns c) rest)

/-- Letters cut so that no piece is wider than a limit. -/
def cutToWidth (limit : Nat) (letters : List Char) : List (List Char) :=
  if width letters ≤ limit then [letters] else cutFrom limit 0 (marked letters)

/-- The words of a line, none of them wider than a limit. -/
def words (limit : Nat) (line : List Char) : List Word :=
  let compounds := (unbroken line).map Word.ofPiece
  (compounds.flatMap (Word.cut cutCompound)).flatMap (Word.cut (cutToWidth limit))

/-! ## Lines -/

/-- Words put on lines, the first of which has some words and columns in use already. -/
def fillFrom (limit : Nat) (line : List Word) (used : Nat) : List Word → List (List Word)
  | [] => [line]
  | word :: rest =>
      if line ≠ [] ∧ limit < used + word.width then
        line :: fillFrom limit [word] (word.width + word.spaces) rest
      else fillFrom limit (line ++ [word]) (used + word.width + word.spaces) rest

/-- Words put on lines. -/
def fill (limit : Nat) : List Word → List (List Word) :=
  fillFrom limit [] 0

/-- The characters of a line of words, without the spaces at its end. -/
def lineOf : List Word → List Char
  | [] => []
  | [word] => word.letters
  | word :: rest => word.spelled ++ lineOf rest

/-- The lines of a text within some columns. The first line begins with an indent and each further
one with another indent of the same width. -/
def wrap (first further : String) (columns : Nat) (text : String) : List String :=
  let limit := columns - width first.toList
  let lines := (pieces '\n' text.toList).flatMap fun line =>
    (fill limit (words limit line)).map lineOf
  match lines with
  | [] => []
  | line :: later =>
      (first ++ String.ofList line) :: later.map fun line => further ++ String.ofList line

end RpcStubs.Text
