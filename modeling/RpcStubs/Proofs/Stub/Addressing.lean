import RpcStubs.Proofs.Go.Literal
import RpcStubs.Proofs.Go.Name
import RpcStubs.Proofs.Stub.Family

/-!
# What the stubs of a service address

A server is registered under a name, and clients reach it and its methods by names of their own
making, all of them literals in code. The dispatching client dials what the server registers, the
exported name of the service; the single-target client holds the name as declared. Both clients call
a method by its name as declared, though every stub of it bears the exported name
(`families_address`).
-/

namespace RpcStubs.Stub

open Go (HoldsFunction)
open Go.Code (funcHeader)
open Go.Literal (Denotes)

/-! ## Methods -/

/-- What the methods of a client hand their call on to, given a literal for the method. A server
answers itself. -/
def Family.call? (literal : String) : Family → Option String
  | server => none
  | client => some ("c.xclient.Call(ctx, " ++ literal ++ ", args, reply)")
  | oneClient => some ("c.oneclient.Call(ctx, c.serviceName, " ++ literal ++ ", args, reply)")

section Method

variable (service : ResolvedService) (method : ResolvedMethod)

theorem holdsFunction_clientMethodWith (role : Role) (type : String) (call : String) :
    HoldsFunction (Fragment.ofCode role (clientMethodWith type method call)).text
      (Go.Signature.header
        ⟨("c", "*" ++ type), [("ctx", "context.Context"), ("args", "*" ++ method.input.name)],
          [("reply", "*" ++ method.output.name), ("err", "error")]⟩
        method.exported)
      (Go.Code.layoutAll 1 (callBody method call)).1 := by
  rw [Fragment.text_ofCode, clientMethodWith, Family.func_client]
  exact Go.Signature.holdsFunction _ _ _ rfl

/-- The stub of a method bears the exported name of the method. A client's stub hands the call on
with the name as declared. -/
theorem holdsFunction_methodStub (family : Family) :
    ∃ body,
      HoldsFunction (family.methodStub service method).text
        ((family.signature service method).header method.exported) body
      ∧ ∀ call ∈ family.call? (Go.Literal.write method.raw), .code 1 ("err = " ++ call) ∈ body := by
  have handedOn (call : String) :
      .code 1 ("err = " ++ call) ∈ (Go.Code.layoutAll 1 (callBody method call)).1 :=
    Go.Code.mem_layoutAll rfl (.tail _ (.head _)) (.head _)
  cases family with
  | server =>
      rw [Family.methodStub, serverMethod, Fragment.text_ofCode, serverMethodCode,
        Family.func_server]
      exact ⟨_, Go.Signature.holdsFunction _ _ _ rfl, nofun⟩
  | client =>
      refine ⟨_, holdsFunction_clientMethodWith method .clientMethod _ _, ?_⟩
      exact fun call called => Option.some.inj called ▸ handedOn _
  | oneClient =>
      refine ⟨_, holdsFunction_clientMethodWith method .oneClientMethod _ _, ?_⟩
      exact fun call called => Option.some.inj called ▸ handedOn _

end Method

/-! ## Wrappers -/

section Wrapper

variable (options : Options) (service : ResolvedService)

/-- The function that serves a service registers it under its exported name. -/
theorem holdsFunction_serve :
    ∃ body,
      HoldsFunction (serverSkeleton service options).text
        (funcHeader none (Identifier.serveFunction.spell service.exported) "addr string" "error")
        body
      ∧ .code 1 ("s.RegisterName(" ++ Go.Literal.write service.exported ++ ", new("
          ++ Identifier.serverType.spell service.exported ++ "), \"\")") ∈ body := by
  have settled : Go.Code.settledAll (serverSkeletonCode service options) = true := rfl
  rw [serverSkeleton, Fragment.text_ofCode]
  apply Go.Code.exists_holdsFunction settled
  simp [serverSkeletonCode, Go.Code.layout]

/-- The function that makes a dispatching client dials the service by its exported name. -/
theorem holdsFunction_clientFactory :
    ∃ body,
      HoldsFunction (clientWrapper service options).text
        (funcHeader none (Identifier.clientFactory.spell service.exported) "addr string"
          "client.XClient")
        body
      ∧ .code 1 ("xclient := " ++ ("client.NewXClient(" ++ Go.Literal.write service.exported ++ ", "
          ++ Choice.expression options.failMode ++ ", " ++ Choice.expression options.selectMode
          ++ ", d, opt)")) ∈ body := by
  have settled : Go.Code.settledAll (clientWrapperCode service options) = true := rfl
  rw [clientWrapper, Fragment.text_ofCode]
  apply Go.Code.exists_holdsFunction settled
  simp [clientWrapperCode, factoryBody, Go.Code.layout]

/-- The function that wraps a single-target client keeps the service name as declared. -/
theorem holdsFunction_oneClientConstructor :
    ∃ body,
      HoldsFunction (oneClientWrapper service options).text
        (funcHeader none (Identifier.oneClientConstructor.spell service.exported)
          "oneclient client.OneClient" ("*" ++ Identifier.oneClientType.spell service.exported))
        body
      ∧ .code 2 ("serviceName: " ++ Go.Literal.write service.raw ++ ",") ∈ body := by
  have settled : Go.Code.settledAll (oneClientWrapperCode service options) = true := rfl
  rw [oneClientWrapper, Fragment.text_ofCode]
  apply Go.Code.exists_holdsFunction settled
  have column : Text.pad (Text.widest ["serviceName:", "oneclient:"] + 1) "serviceName:" =
      "serviceName: " := by
    decide
  simp [oneClientWrapperCode, Go.Code.layout, Text.twoColumns, column, String.append_assoc]

end Wrapper

/-! ## Services -/

/-- The function that serves a service registers a literal for its exported name, which differs from
the name as declared exactly where this is neither empty nor exported, and the function that makes a
dispatching client dials the same literal. A single-target client is wrapped with a literal for the
name as declared. In each family the stub of a method is declared under the exported name of the
method, and both clients call it by one literal for the name as declared. -/
theorem families_address (options : Options) (service : ResolvedService)
    (method : ResolvedMethod) :
    let name := Go.exported service.raw
    ∃ registered held called,
      Denotes registered name ∧ Denotes held service.raw ∧ Denotes called method.raw ∧
      (name ≠ service.raw ↔ service.raw ≠ "" ∧ Go.isExported service.raw = false) ∧
      (∃ body,
        HoldsFunction (serverSkeleton service options).text
            (funcHeader none (Identifier.serveFunction.spell name) "addr string" "error") body
          ∧ .code 1 ("s.RegisterName(" ++ registered ++ ", new(" ++ Identifier.serverType.spell name
            ++ "), \"\")") ∈ body) ∧
      (∃ body,
        HoldsFunction (clientWrapper service options).text
            (funcHeader none (Identifier.clientFactory.spell name) "addr string" "client.XClient")
            body
          ∧ .code 1 ("xclient := " ++ ("client.NewXClient(" ++ registered ++ ", "
            ++ Choice.expression options.failMode ++ ", " ++ Choice.expression options.selectMode
            ++ ", d, opt)")) ∈ body) ∧
      (∃ body,
        HoldsFunction (oneClientWrapper service options).text
            (funcHeader none (Identifier.oneClientConstructor.spell name)
              "oneclient client.OneClient" ("*" ++ Identifier.oneClientType.spell name)) body
          ∧ .code 2 ("serviceName: " ++ held ++ ",") ∈ body) ∧
      ∀ family : Family, ∃ body,
        HoldsFunction (family.methodStub service method).text
            ((family.signature service method).header (Go.exported method.raw)) body
          ∧ ∀ call ∈ family.call? called, .code 1 ("err = " ++ call) ∈ body := by
  intro name
  refine ⟨Go.Literal.write name, Go.Literal.write service.raw, Go.Literal.write method.raw,
    Go.Literal.denotes_write _, Go.Literal.denotes_write _, Go.Literal.denotes_write _, ?differ,
    holdsFunction_serve options service, holdsFunction_clientFactory options service,
    holdsFunction_oneClientConstructor options service, holdsFunction_methodStub service method⟩
  case differ =>
    rw [Ne, Go.exported_eq_self_iff, not_or, Bool.not_eq_true]

end RpcStubs.Stub
