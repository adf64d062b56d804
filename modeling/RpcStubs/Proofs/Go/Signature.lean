import RpcStubs.Proofs.Go.Function

/-!
# Signatures of methods

A method binds the names of its receiver, its parameters and its results in its body. All of these
are spelled in its header, which stands in front of the body in the text of the method
(`exists_text_eq_of_method`).
-/

namespace RpcStubs.Go

/-- What a method is called with and what it answers, each a name with its type. -/
structure Signature where
  receiver : String × String
  params : List (String × String)
  results : List (String × String)
deriving Repr, DecidableEq

namespace Signature

/-- The names that a method with a signature binds in its body. -/
def names (signature : Signature) : List String :=
  signature.receiver.1 :: (signature.params ++ signature.results).map Prod.fst

/-- A name in front of its type. -/
def spelled (entry : String × String) : String :=
  entry.1 ++ " " ++ entry.2

/-- Names with their types, one after the other. -/
def spelledAll (entries : List (String × String)) : String :=
  ", ".intercalate (entries.map spelled)

/-- What stands in front of the braces of a method. -/
def header (signature : Signature) (name : String) : String :=
  "func (" ++ spelled signature.receiver ++ ") " ++ name ++ "(" ++ spelledAll signature.params
    ++ ") (" ++ spelledAll signature.results ++ ")"

/-- A method with a signature. -/
def method (signature : Signature) (name : String) (body : List Code) : Code :=
  .func (some (spelled signature.receiver)) name (spelledAll signature.params)
    ("(" ++ spelledAll signature.results ++ ")") body

theorem funcHeader_eq_header (signature : Signature) (name : String) :
    Code.funcHeader (some (spelled signature.receiver)) name (spelledAll signature.params)
      ("(" ++ spelledAll signature.results ++ ")") = signature.header name := by
  have written : "(" ++ spelledAll signature.results ++ ")" ≠ "" := by
    intro empty
    have lengths := congrArg String.length empty
    simp at lengths
  -- Headers are put together from these literals in two pieces each.
  have opening : "func (" = "func " ++ "(" := rfl
  have between : ") (" = ")" ++ (" " ++ "(") := rfl
  unfold Code.funcHeader header
  rw [if_neg written]
  simp only [opening, between, String.append_assoc]

end Signature

namespace Code

/-- Each line of laid-out code stands in its text. -/
theorem exists_text_eq_of_mem_layoutAll {code : List Code} {row : Line}
    (member : row ∈ (layoutAll 0 code).1) :
    ∃ before after, text code = before ++ row.text ++ after :=
  Text.exists_intercalate_eq "" (List.mem_map_of_mem member)

/-- Behind a comment a method stands with its header, then its body one level deeper. -/
theorem layoutAll_comment_method (words name : String) (signature : Signature) (body : List Code) :
    (layoutAll 0 [.comment words, signature.method name body]).1 =
      .code 0 (commentText words) :: .code 0 (signature.header name ++ " \x7b")
        :: (layoutAll 1 body).1 ++ [.code ((layoutAll 1 body).2 - 1) "\x7d"] := by
  simp [layoutAll, layout, Signature.method, Signature.funcHeader_eq_header, braced]

/-- The header of a method stands in the text of its code. -/
theorem exists_text_eq_of_method (words name : String) (signature : Signature) (body : List Code) :
    ∃ before after, text [.comment words, signature.method name body] =
      before ++ (signature.header name ++ " \x7b\n") ++ after := by
  have member : .code 0 (signature.header name ++ " \x7b") ∈
      (layoutAll 0 [.comment words, signature.method name body]).1 := by
    simp [layoutAll_comment_method]
  have row : (Line.code 0 (signature.header name ++ " \x7b")).text =
      signature.header name ++ " \x7b\n" := by
    simp [Line.text, String.append_assoc]
  rw [← row]
  exact exists_text_eq_of_mem_layoutAll member

end Code

/-- A method with a settled body stands behind a comment as a whole. -/
theorem Signature.holdsFunction (words name : String) (signature : Signature) {body : List Code}
    (settled : Code.settledAll body = true) :
    HoldsFunction (Code.text [.comment words, signature.method name body]) (signature.header name)
      (Code.layoutAll 1 body).1 := by
  rw [← funcHeader_eq_header]
  refine Code.holdsFunction_of_mem ?_ (List.mem_cons_of_mem _ List.mem_cons_self)
  simpa [Code.settledAll, Code.settled, method] using settled

end RpcStubs.Go
