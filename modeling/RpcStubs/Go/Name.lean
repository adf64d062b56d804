import RpcStubs.Text.Upper

/-!
# Exported names

A Go identifier is visible outside its package when it begins with an upper-case letter. A name of
the schema becomes one by putting its first character into upper case; the rest is kept as it is.
-/

namespace RpcStubs.Go

/-- The characters of an exported name. -/
def exportChars : List Char → List Char
  | [] => []
  | c :: rest => Text.upper c ++ rest

/-- A schema name with its first character in upper case. -/
def exported (raw : String) : String :=
  String.ofList (exportChars raw.toList)

/-- Whether a name begins with a character that is its own upper case. -/
def isExported (name : String) : Bool :=
  match name.toList with
  | [] => false
  | c :: _ => Text.upper c == [c]

@[simp]
theorem toList_exported (raw : String) : (exported raw).toList = exportChars raw.toList :=
  String.toList_ofList

theorem exported_empty : exported "" = "" :=
  rfl

/-- A name with first character `c` is exported exactly when `c` is its own upper case. -/
theorem isExported_iff {name : String} {c : Char} {rest : List Char}
    (first : name.toList = c :: rest) : isExported name = true ↔ Text.upper c = [c] := by
  simp [isExported, first]

end RpcStubs.Go
