import RpcStubs.Proofs.Go.Literal
import RpcStubs.Proofs.Go.Qualification
import RpcStubs.Stub.Client

/-!
# Quotations in stubs

The stubs of a service quote its name, the names of its methods and the network, each in the middle
of some code. A reader that has come to such a quotation reads what is quoted, and no more and no
less of the code than was written for it (`literals_exact`).
-/

namespace RpcStubs.Stub

open Go.Literal (Denotes isControl read? write)
open Text (Within)

/-- A text that a fragment quotes, with the code around the literal for it. -/
structure Quotation where
  fragment : Fragment
  opening : String
  text : String
  closing : String
deriving Repr, DecidableEq

/-- The code of a quotation. -/
def Quotation.code (quotation : Quotation) : String :=
  quotation.opening ++ write quotation.text ++ quotation.closing

section Quotations

variable (options : Options) (service : ResolvedService) (method : ResolvedMethod)

/-- The quotation of the network by a factory. -/
def factoryQuotation (fragment : Fragment) : Quotation :=
  ⟨fragment, "d := client.NewPeer2PeerDiscovery(", options.network ++ "@", "+addr, \"\")"⟩

/-- What the stubs of a service and of one of its methods quote. -/
def quotations : List Quotation :=
  let policies := ", " ++ Choice.expression options.failMode ++ ", "
    ++ Choice.expression options.selectMode ++ ", d, opt)"
  [⟨serverSkeleton service options, "s.RegisterName(", service.exported,
      ", new(" ++ Identifier.serverType.spell service.exported ++ "), \"\")"⟩,
    ⟨serverSkeleton service options, "return s.Serve(", options.network, ", addr)"⟩,
    factoryQuotation options (clientWrapper service options),
    ⟨clientWrapper service options, "client.NewXClient(", service.exported, policies⟩,
    ⟨clientMethod service method, "c.xclient.Call(ctx, ", method.raw, ", args, reply)"⟩,
    ⟨oneClientWrapper service options, "", service.raw, ""⟩,
    factoryQuotation options (oneClientWrapper service options),
    ⟨oneClientMethod service method, "c.oneclient.Call(ctx, c.serviceName, ", method.raw,
      ", args, reply)"⟩]

variable {options service method}

/-- What ends a stretch of some code stands in the fragment of the code. -/
theorem within_ofCode {role : Role} {code : List Go.Code} {part : String} (front : String)
    (member : front ++ part ∈ Go.Code.stretchesAll code) :
    Within part (Fragment.ofCode role code).text := by
  rw [Fragment.text_ofCode]
  exact ((Within.refl part).prepend front).trans (Go.Code.within_text member)

/-- The call that a client's method hands on stands in its stub. -/
theorem within_clientMethodWith (role : Role) (type call : String) :
    Within call (Fragment.ofCode role (clientMethodWith type method call)).text := by
  apply within_ofCode "err = "
  simp [clientMethodWith, callBody, Go.Code.stretchesAll, Go.Code.stretches]

/-- Each quotation stands in its fragment. -/
theorem within_of_mem_quotations {quotation : Quotation}
    (member : quotation ∈ quotations options service method) :
    Within quotation.code quotation.fragment.text := by
  simp only [quotations, List.mem_cons, List.not_mem_nil, or_false] at member
  rcases member with rfl | rfl | rfl | rfl | rfl | rfl | rfl | rfl
  · apply within_ofCode ""
    simp [Quotation.code, serverSkeletonCode, Go.Code.stretchesAll, Go.Code.stretches,
      String.append_assoc]
  · apply within_ofCode ""
    simp [Quotation.code, serverSkeletonCode, Go.Code.stretchesAll, Go.Code.stretches]
  · apply within_ofCode ""
    simp [Quotation.code, factoryQuotation, clientWrapperCode, factoryBody, Go.Code.stretchesAll,
      Go.Code.stretches]
  · apply within_ofCode "xclient := "
    simp [Quotation.code, clientWrapperCode, factoryBody, Go.Code.stretchesAll, Go.Code.stretches,
      String.append_assoc]
  · exact within_clientMethodWith .clientMethod _ _
  · apply within_ofCode ""
    simp [Quotation.code, oneClientWrapperCode, Go.Code.stretchesAll, Go.Code.stretches]
  · apply within_ofCode ""
    simp [Quotation.code, factoryQuotation, oneClientWrapperCode, factoryBody,
      Go.Code.stretchesAll, Go.Code.stretches]
  · exact within_clientMethodWith .oneClientMethod _ _

end Quotations

/-- The literal that is written for a text is read as this text wherever it stands, up to its own
end, and holds no control character. So a literal and what follows it can be told apart in one way
only, and different texts have different literals. In the stubs of a service each literal for its
name, for the name of a method or for the network is followed by the code that was put behind it,
and read as what it quotes. -/
theorem literals_exact :
    (∀ text, Denotes (write text) text) ∧
    (∀ text, ∀ c ∈ (write text).toList, isControl c = false) ∧
    (∀ first second back other, write first ++ back = write second ++ other →
      first = second ∧ back = other) ∧
    Function.Injective write ∧
    ∀ options service method, ∀ quotation ∈ quotations options service method,
      ∃ before after,
        quotation.fragment.text =
          before ++ (quotation.opening ++ (write quotation.text ++ (quotation.closing ++ after))) ∧
        read? (write quotation.text ++ (quotation.closing ++ after)).toList =
          some (quotation.text.toList, (quotation.closing ++ after).toList) := by
  refine ⟨Go.Literal.denotes_write, fun text c => Go.Literal.isControl_of_mem_write,
    fun first second back other => Go.Literal.eq_of_write_append_eq, Go.Literal.write_injective,
    ?_⟩
  intro options service method quotation member
  rcases (within_of_mem_quotations member).exists_eq with ⟨before, after, whole⟩
  refine ⟨before, after, ?_, Go.Literal.denotes_write quotation.text _⟩
  simpa only [Quotation.code, String.append_assoc] using whole

/-- A method whose name is made of a quote, a closing bracket, backslashes and a control character
is called by this name. -/
theorem literals_exact_of_hostile_name :
    let name := "\"), nil)\\\u0085"
    let method : ResolvedMethod := ⟨name, ⟨"Item", none⟩, ⟨"Item", none⟩⟩
    let service : ResolvedService := ⟨"Shop", [method]⟩
    let quotation : Quotation :=
      ⟨clientMethod service method, "c.xclient.Call(ctx, ", name, ", args, reply)"⟩
    quotation ∈ quotations {} service method ∧ '\u0085' ∉ (write name).toList ∧
      write name = "\"\\\"), nil)\\\\\\u0085\"" ∧
      ∃ before after,
        quotation.fragment.text =
          before ++ ("c.xclient.Call(ctx, " ++ (write name ++ (", args, reply)" ++ after))) ∧
        read? (write name ++ (", args, reply)" ++ after)).toList =
          some (name.toList, (", args, reply)" ++ after).toList) := by
  intro name method service quotation
  have listed : quotation ∈ quotations {} service method := List.mem_of_getElem? (i := 4) rfl
  rcases literals_exact with ⟨_, plain, _, _, quoted⟩
  have absent : '\u0085' ∉ (write name).toList := by
    intro inLiteral
    have control := plain name _ inLiteral
    revert control
    decide
  exact ⟨listed, absent, by decide, quoted {} service method quotation listed⟩

end RpcStubs.Stub
