import RpcStubs.Text.Alphabetic

/-!
# Package names

A package name is made from any text by replacing what no identifier may hold, and by putting an
underscore in front where the result would be empty, begin with a number or be a keyword.
-/

namespace RpcStubs.Go

/-- The reserved words of Go. -/
def keywords : List String :=
  ["break", "case", "chan", "const", "continue", "default", "defer", "else", "fallthrough", "for",
    "func", "go", "goto", "if", "import", "interface", "map", "package", "range", "return",
    "select", "struct", "switch", "type", "var"]

/-- Whether cleaning keeps a character. -/
def isNameChar (c : Char) : Bool :=
  Text.isAlphanumeric c || c == '_'

/-- The text with an underscore for every character that cleaning does not keep. -/
def maskChars (cs : List Char) : List Char :=
  cs.map fun c => if isNameChar c then c else '_'

/-- Whether masked text needs an underscore in front. -/
def needsUnderscore (cs : List Char) : Bool :=
  cs.isEmpty || cs.head?.any Text.isNumeric || String.ofList cs ∈ keywords

/-- The characters of a package name made from the characters of any text. -/
def packageChars (cs : List Char) : List Char :=
  if needsUnderscore (maskChars cs) then '_' :: maskChars cs else maskChars cs

/-- The package name made from any text. -/
def packageName (raw : String) : String :=
  String.ofList (packageChars raw.toList)

@[simp]
theorem toList_packageName (raw : String) :
    (packageName raw).toList = packageChars raw.toList :=
  String.toList_ofList

theorem isNameChar_underscore : isNameChar '_' = true := by
  simp [isNameChar]

theorem maskChars_maskChars (cs : List Char) : maskChars (maskChars cs) = maskChars cs := by
  simp only [maskChars, List.map_map, List.map_inj_left]
  intro c _
  by_cases kept : isNameChar c <;> simp [kept, isNameChar_underscore]

end RpcStubs.Go
