import RpcStubs.Proofs.Go.Comment
import RpcStubs.Proofs.Go.ImportBlock
import RpcStubs.Proofs.Stub.Imports

/-!
# Names inside a generated file

The name of the source file is written behind slashes and import paths are written between quotes,
both as they are. The comment that names the source stays a comment exactly where slashes open every
further line of the name, and an import denotes the path it stands for exactly where that path holds
no quote, no backslash and no line feed (`contained_iff`).
-/

namespace RpcStubs.Stub

open Go.Code (commentText forall_linesOf_comment_iff linesOf slashes)
open Go.File (header importOpening quotedPath)
open Go.Literal (Plain read?)

/-- Nothing that a service adds to a file is a provenance comment. -/
theorem role_ne_provenance {options : Options} {service : ResolvedService} {fragment : Fragment}
    (member : fragment ∈ serviceFragments options service) : fragment.role ≠ .provenance := by
  simp only [serviceFragments, List.mem_append, List.mem_cons, List.mem_map] at member
  rcases member with ((rfl | ⟨_, _, rfl⟩) | (rfl | ⟨_, _, rfl⟩)) | (rfl | ⟨_, _, rfl⟩) <;>
    exact nofun

theorem text_provenance (name : String) :
    (provenance name).text =
      commentText "This following code was generated by rpcx" ++ "\n"
        ++ (commentText ("Generated from " ++ name) ++ "\n" ++ "") := by
  simp [provenance, provenanceCode, Fragment.ofCode, Go.Code.text, Go.Code.textAt,
    Go.Code.layoutAll, Go.Code.layout, Go.Line.text, String.append_assoc]

/-- All lines of the provenance comment open with slashes where all further lines of the name do. -/
theorem forall_linesOf_provenance_iff (name : String) :
    (∀ line ∈ linesOf (provenance name).text, slashes <+: line.toList) ↔
      ∀ piece ∈ (Text.pieces '\n' name.toList).tail, slashes <+: piece := by
  have oneLine :
      (Text.pieces '\n' "This following code was generated by rpcx".toList).tail = [] := by
    decide
  have noFeed : '\n' ∉ "Generated from ".toList := by decide
  have nothing : linesOf "" = [] := by decide
  rw [text_provenance, forall_linesOf_comment_iff, forall_linesOf_comment_iff, oneLine, nothing,
    String.toList_append, Text.pieces_append_of_not_mem noFeed, List.tail_cons]
  simp

variable {options : Options} {file : SchemaFile} {table : SymbolTable} {stubs : FileStubs}

section Generated

variable (made : ((plugin options).generate file table).outcome = .ok (some stubs))

include made

/-- The comment that names the source is the one provenance fragment. -/
theorem fragmentsOf_provenance : stubs.fragmentsOf .provenance = [provenance file.name] := by
  rcases exists_resolved_of_generate made with ⟨services, rfl, _⟩
  have none : ∀ fragment ∈ services.flatMap (serviceFragments options),
      ¬ decide (fragment.role = .provenance) = true := by
    intro fragment member
    rcases List.mem_flatMap.mp member with ⟨service, _, inService⟩
    simpa using role_ne_provenance inService
  rw [FileStubs.fragmentsOf, fileFragments, List.filter_cons_of_pos rfl,
    List.filter_eq_nil_iff.mpr none]

/-- The comment that names the source comes right behind the imports. -/
theorem exists_render_eq (package : String) :
    let goFile := stubs.assemble package
    ∃ rest, goFile.render =
      header goFile.package ++ goFile.importBlock ++ "\n" ++ (provenance file.name).text
        ++ rest := by
  intro goFile
  rcases exists_resolved_of_generate made with ⟨services, filled, _⟩
  have opened : goFile.body = (provenance file.name).text
      :: (services.flatMap (serviceFragments options)).map Fragment.text := by
    rw [FileStubs.body_assemble, filled, fileFragments, List.map_cons]
  rcases Text.exists_intercalate_cons_eq "" ("\n" ++ (provenance file.name).text)
      (((services.flatMap (serviceFragments options)).map Fragment.text).map ("\n" ++ ·)) with
    ⟨rest, found⟩
  refine ⟨rest, ?_⟩
  rw [Go.File.render, opened, List.map_cons, found]
  simp only [String.append_assoc]

end Generated

/-- The one provenance fragment of a generated file comes behind its imports. All lines of it are
comments exactly where slashes open every line of the source file's name but the first. Each import
is written as its path between quotes at the end of a line, and read there as a literal it is that
path exactly where all characters of the path are plain. -/
theorem contained_iff
    (made : ((plugin options).generate file table).outcome = .ok (some stubs)) (package : String) :
    let goFile := stubs.assemble package
    stubs.fragmentsOf .provenance = [provenance file.name]
      ∧ (∃ rest, goFile.render =
        header goFile.package ++ goFile.importBlock ++ "\n" ++ (provenance file.name).text ++ rest)
      ∧ ((∀ line ∈ linesOf (provenance file.name).text, slashes <+: line.toList) ↔
        ∀ piece ∈ (Text.pieces '\n' file.name.toList).tail, slashes <+: piece)
      ∧ ∀ path written, goFile.imports.find? path = some written →
        ∃ before after,
          goFile.importBlock =
              before ++ importOpening written ++ quotedPath path ++ "\n" ++ after
            ∧ (read? (quotedPath path ++ ("\n" ++ after)).toList =
                some (path.toList, ("\n" ++ after).toList) ↔
              ∀ c ∈ path.toList, Plain c) := by
  intro goFile
  refine ⟨fragmentsOf_provenance made, exists_render_eq made package,
    forall_linesOf_provenance_iff file.name, ?imports⟩
  intro path written imported
  rcases Go.File.exists_importBlock_eq_quoted imported with ⟨before, after, found⟩
  exact ⟨before, after, found, Go.File.read?_quotedPath_iff path _⟩

/-- A name of two lines stays a comment where slashes open the second, and the path of a required
package below a plain root is read back. -/
theorem contained_of_plain_names :
    let options : Options := { root := "example.com/rpc" }
    let file : SchemaFile := { name := "shop.proto\n// till.proto", services := [⟨"Shop", []⟩] }
    let table := SymbolTable.ofEntries []
    ∃ stubs, ((plugin options).generate file table).outcome = .ok (some stubs)
      ∧ (∀ line ∈ linesOf (provenance file.name).text, slashes <+: line.toList)
      ∧ ∃ before after,
        (stubs.assemble "shop").importBlock =
            before ++ quotedPath "example.com/rpc/client" ++ "\n" ++ after
          ∧ read? (quotedPath "example.com/rpc/client" ++ ("\n" ++ after)).toList =
            some ("example.com/rpc/client".toList, ("\n" ++ after).toList) := by
  intro options file table
  have complete : file.hasServices = true
      ∧ ∀ mention ∈ file.mentions, SortedMap.contains table mention.ref = true := by
    decide
  rcases exists_generate_eq_ok_iff.mpr complete with ⟨stubs, made⟩
  rcases contained_iff made "shop" with ⟨_, _, lines, imports⟩
  refine ⟨stubs, made, lines.mpr (by decide), ?_⟩
  rcases binds_required made "shop" .client with ⟨written, imported, _⟩
  have path : Required.client.importPath options.root = "example.com/rpc/client" := by decide
  rw [path] at imported
  rcases imports _ _ imported with ⟨before, after, found, reads⟩
  exact ⟨_, after, found, reads.mpr (by simp [Plain])⟩

/-- A name of two lines leaves its second line outside of the comment, and an import path with a
quote in it is not what its literal denotes. -/
theorem leak_of_line_feed_and_quote :
    let file : SchemaFile := {
      name := "shop.proto\nvar Open = 1"
      services := [⟨"Shop", [⟨"Buy", "item", "item"⟩]⟩] }
    let table := SymbolTable.ofEntries [⟨"item", "Item", "", "shop\"v1"⟩]
    ∃ stubs, ((plugin {}).generate file table).outcome = .ok (some stubs)
      ∧ ¬ (∀ line ∈ linesOf (provenance file.name).text, slashes <+: line.toList)
      ∧ ∃ written, (stubs.assemble "shop").imports.find? "shop\"v1" = some written
        ∧ ∀ after : String, read? (quotedPath "shop\"v1" ++ after).toList ≠
          some ("shop\"v1".toList, after.toList) := by
  intro file table
  have complete : file.hasServices = true
      ∧ ∀ mention ∈ file.mentions, SortedMap.contains table mention.ref = true := by
    decide
  rcases exists_generate_eq_ok_iff.mpr complete with ⟨stubs, made⟩
  refine ⟨stubs, made, ?_, ?_⟩
  · rw [forall_linesOf_provenance_iff]
    decide
  · rcases exists_resolved_of_generate made with ⟨_, _, records⟩
    rcases List.forall₂_cons_left_iff.mp records with ⟨_, _, record, _⟩
    rcases List.forall₂_cons_left_iff.mp record.methods with ⟨_, _, method, _⟩
    rcases refersTo_of_backsRef made "shop" method.input with ⟨type, found, _, away⟩
    have held : table.find? "item" = some ⟨"Item", "", "shop\"v1"⟩ := by decide
    obtain rfl := Option.some.inj (held.symm.trans found)
    rcases away (by decide) (by decide) with ⟨_, _, written, imported, _⟩
    refine ⟨written, imported, fun after read => ?_⟩
    rw [Go.File.read?_quotedPath_iff] at read
    simp [Plain] at read

end RpcStubs.Stub
