import RpcStubs.Descriptor.Basic
import RpcStubs.Proofs.Go.Package
import RpcStubs.Proofs.Text.Classes

/-!
# Packages as identifiers

The package that a file is given where it names none is a cleaned name, so it is never empty, never
a keyword, and does not begin with a digit. Cleaning keeps all alphanumeric characters though, and
identifiers admit only letters and decimal digits: the package is an identifier exactly if the text
that it is made from holds no other alphanumeric character (`isIdentifier_goPackage_iff`).
-/

namespace RpcStubs

namespace Go

/-- An identifier: letters, among them the underscore, and decimal digits, of which none comes
first. -/
structure IsIdentifier (name : String) : Prop where
  nonempty : name ≠ ""
  chars : ∀ c ∈ name.toList, (Text.isLetter c = true ∨ c = '_') ∨ Text.isDecimalDigit c = true
  opening : ∀ c ∈ name.toList.head?, Text.isDecimalDigit c = false

variable {c : Char} {name raw : String}

theorem isStray_underscore : Text.isStray '_' = false := by
  decide +kernel

/-- Among the characters that cleaning keeps, the stray ones are those that no identifier holds. -/
theorem isStray_eq_false_iff (kept : Text.isAlphanumeric c = true ∨ c = '_') :
    Text.isStray c = false ↔
      (Text.isLetter c = true ∨ c = '_') ∨ Text.isDecimalDigit c = true := by
  constructor
  · intro plain
    rcases kept with alphanumeric | underscore
    · rcases Text.isAlphanumeric_iff.mp alphanumeric with letter | digit | stray
      · exact .inl (.inl letter)
      · exact .inr digit
      · rw [plain] at stray
        contradiction
    · exact .inl (.inr underscore)
  · rintro ((letter | rfl) | digit)
    · exact Text.isStray_eq_false_of_plain (.inl letter)
    · exact isStray_underscore
    · exact Text.isStray_eq_false_of_plain (.inr digit)

theorem Clean.isDecimalDigit_opening (clean : Clean name) (first : c ∈ name.toList.head?) :
    Text.isDecimalDigit c = false := by
  refine Bool.eq_false_iff.mpr fun digit => ?_
  have numeric := clean.opening c first
  rw [Text.isNumeric_of_isDecimalDigit digit] at numeric
  contradiction

theorem Clean.isIdentifier_iff (clean : Clean name) :
    IsIdentifier name ↔ ∀ c ∈ name.toList, Text.isStray c = false := by
  constructor
  · intro identifier c member
    exact (isStray_eq_false_iff (clean.chars c member)).mpr (identifier.chars c member)
  · intro plain
    refine ⟨clean.nonempty, ?_, fun c => clean.isDecimalDigit_opening⟩
    intro c member
    exact (isStray_eq_false_iff (clean.chars c member)).mp (plain c member)

/-- Cleaning keeps the stray characters of a name and brings in none. -/
theorem forall_packageName_iff :
    (∀ c ∈ (packageName raw).toList, Text.isStray c = false) ↔
      ∀ c ∈ raw.toList, Text.isStray c = false := by
  rcases exists_front_packageName_eq raw with ⟨front, written, underscore, _⟩
  constructor
  · intro plain c member
    refine Bool.eq_false_iff.mpr fun stray => ?_
    have kept : isNameChar c = true :=
      isNameChar_iff.mpr (.inl (Text.isAlphanumeric_iff.mpr (.inr (.inr stray))))
    have masked : c ∈ maskChars raw.toList := List.mem_map.mpr ⟨c, member, if_pos kept⟩
    rw [plain c (written ▸ List.mem_append_right front masked)] at stray
    contradiction
  · intro plain d member
    rw [written] at member
    rcases List.mem_append.mp member with inFront | masked
    · obtain rfl : d = '_' := by
        rcases underscore with rfl | rfl
        · cases inFront
        · exact List.mem_singleton.mp inFront
      exact isStray_underscore
    · rcases List.mem_map.mp masked with ⟨c, inRaw, rfl⟩
      split
      · exact plain c inRaw
      · exact isStray_underscore

theorem isIdentifier_packageName_iff :
    IsIdentifier (packageName raw) ↔ ∀ c ∈ raw.toList, Text.isStray c = false := by
  rw [(clean_packageName raw).isIdentifier_iff, forall_packageName_iff]

end Go

namespace SchemaFile

variable {file : SchemaFile}

/-- The text that the package is made from where the file names none: the last element of the import
path, or the stem of the file name if that element is empty. -/
def packageSource (file : SchemaFile) : String :=
  if Go.lastElement file.importPath ≠ "" then Go.lastElement file.importPath else file.stem

theorem goPackage_eq (derived : file.package = "") :
    file.goPackage = Go.packageName file.packageSource := by
  rw [goPackage, if_neg (not_not_intro derived), packageSource]
  split <;> rfl

/-- Where a file names no package, the one that it is given is no keyword and not empty and does not
begin with a decimal digit. It is an identifier exactly if no character of the text that it is made
from is a letter number, a number of another kind than the decimal digits, or an alphabetic mark or
symbol. -/
theorem isIdentifier_goPackage_iff (derived : file.package = "") :
    file.goPackage ∉ Go.keywords ∧ file.goPackage ≠ "" ∧
    (∀ c ∈ file.goPackage.toList.head?, Text.isDecimalDigit c = false) ∧
    (Go.IsIdentifier file.goPackage ↔
      ∀ c ∈ file.packageSource.toList, Text.isStray c = false) := by
  have clean := Go.clean_packageName file.packageSource
  rw [goPackage_eq derived]
  exact ⟨clean.free, clean.nonempty, fun c => clean.isDecimalDigit_opening,
    Go.isIdentifier_packageName_iff⟩

/-- A digit of another script in front and a dot between letters with accents make an identifier. -/
theorem isIdentifier_goPackage_of_accents :
    let file : SchemaFile := { name := "shop.proto", importPath := "example.com/٣.été" }
    file.package = "" ∧ file.goPackage ∉ Go.keywords ∧ Go.IsIdentifier file.goPackage := by
  intro file
  have derived : file.package = "" := rfl
  rcases isIdentifier_goPackage_iff derived with ⟨free, _, _, identifier⟩
  have plain : (file.packageSource.toList.all fun c => !Text.isStray c) = true := by decide +kernel
  refine ⟨derived, free, identifier.mpr fun c member => ?_⟩
  simpa using List.all_eq_true.mp plain c member

/-- A superscript in the name of a file stays in the package that is made from it, which therefore
is no identifier. -/
theorem not_isIdentifier_goPackage_of_superscript :
    let file : SchemaFile := { name := "area_m².proto" }
    file.package = "" ∧ file.goPackage = "area_m²" ∧ ¬ Go.IsIdentifier file.goPackage := by
  intro file
  have package : file.goPackage = "area_m²" := by decide +kernel
  refine ⟨rfl, package, fun identifier => ?_⟩
  have member : '²' ∈ file.goPackage.toList := by
    rw [package]
    decide
  have held := identifier.chars '²' member
  revert held
  decide +kernel

end SchemaFile

end RpcStubs
