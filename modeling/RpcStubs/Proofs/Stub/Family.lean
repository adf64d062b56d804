import RpcStubs.Proofs.Go.Signature
import RpcStubs.Stub.Plugin

/-!
# Families of stubs

The stubs of a service come in three families: the server, the dispatching client and the
single-target client. A family is a wrapper and then one method for each declared method, in their
order (`serviceFragments_eq`). Every method of a family has the same signature but for the types,
and uses its output type in its body to make an empty answer (`exists_methodStub_eq`).
-/

namespace RpcStubs.Stub

/-- A family of stubs of a service. -/
inductive Family where
  | server
  | client
  | oneClient
deriving Repr, DecidableEq, Inhabited

namespace Family

/-- The families in the order in which a service has them. -/
def all : List Family :=
  [server, client, oneClient]

/-! ## Fragments of a family -/

/-- The role of the wrapper of a family. -/
def wrapperRole : Family → Role
  | server => .serverSkeleton
  | client => .clientWrapper
  | oneClient => .oneClientWrapper

/-- The role of the methods of a family. -/
def methodRole : Family → Role
  | server => .serverMethod
  | client => .clientMethod
  | oneClient => .oneClientMethod

/-- The fragment that a family opens with for a service. -/
def wrapper (options : Options) (service : ResolvedService) : Family → Fragment
  | server => serverSkeleton service options
  | client => clientWrapper service options
  | oneClient => oneClientWrapper service options

/-- The stub of a method in a family. -/
def methodStub (service : ResolvedService) (method : ResolvedMethod) : Family → Fragment
  | server => serverMethod service method
  | client => clientMethod service method
  | oneClient => oneClientMethod service method

/-- The stubs of a service in a family: the wrapper, then the methods as they are declared. -/
def fragments (options : Options) (service : ResolvedService) (family : Family) : List Fragment :=
  family.wrapper options service ::
    service.methods.map fun method => family.methodStub service method

theorem role_wrapper (options : Options) (service : ResolvedService) (family : Family) :
    (family.wrapper options service).role = family.wrapperRole := by
  cases family <;> rfl

theorem role_methodStub (service : ResolvedService) (method : ResolvedMethod) (family : Family) :
    (family.methodStub service method).role = family.methodRole := by
  cases family <;> rfl

/-! ## Methods of a family -/

/-- The identifier of the type that the methods of a family belong to. -/
def receiverType : Family → Identifier
  | server => .serverType
  | client => .clientType
  | oneClient => .oneClientType

/-- The name that the methods of a family give to their receiver. -/
def receiverName : Family → String
  | server => "s"
  | client | oneClient => "c"

/-- The signature of a method in a family. A server gets the answer to fill in from its caller, a
client makes it. -/
def signature (service : ResolvedService) (method : ResolvedMethod) (family : Family) :
    Go.Signature :=
  let receiver := (family.receiverName, "*" ++ family.receiverType.spell service.exported)
  let context := ("ctx", "context.Context")
  let args := ("args", "*" ++ method.input.name)
  let reply := ("reply", "*" ++ method.output.name)
  match family with
  | server => ⟨receiver, [context, args, reply], [("err", "error")]⟩
  | client | oneClient => ⟨receiver, [context, args], [reply, ("err", "error")]⟩

/-- What a method of a family assigns first: an empty message of its output type. -/
def emptyReply (method : ResolvedMethod) : Family → String
  | server => "*reply = " ++ method.output.name ++ "\x7b\x7d"
  | client | oneClient => "reply = &" ++ method.output.name ++ "\x7b\x7d"

/-- The names that the methods of a family bind. -/
theorem names_signature (service : ResolvedService) (method : ResolvedMethod) (family : Family) :
    (family.signature service method).names =
      [family.receiverName, "ctx", "args", "reply", "err"] := by
  cases family <;> rfl

theorem mem_params_signature (service : ResolvedService) (method : ResolvedMethod)
    (family : Family) :
    ("args", "*" ++ method.input.name) ∈ (family.signature service method).params := by
  cases family <;> simp [signature]

theorem mem_results_signature (service : ResolvedService) (method : ResolvedMethod)
    (family : Family) :
    ("reply", "*" ++ method.output.name) ∈
      (family.signature service method).params ++ (family.signature service method).results := by
  cases family <;> simp [signature]

section Spelling

open Go.Signature (spelled spelledAll)

variable (name type input output : String)

theorem spelled_pointer : spelled (name, "*" ++ type) = name ++ " *" ++ type := by
  apply String.toList_inj.mp
  simp [spelled]

theorem spelledAll_serverParams :
    spelledAll [("ctx", "context.Context"), ("args", "*" ++ input), ("reply", "*" ++ output)] =
      "ctx context.Context, args *" ++ input ++ ", reply *" ++ output := by
  apply String.toList_inj.mp
  simp [spelledAll, spelled]

theorem spelledAll_clientParams :
    spelledAll [("ctx", "context.Context"), ("args", "*" ++ input)] =
      "ctx context.Context, args *" ++ input := by
  apply String.toList_inj.mp
  simp [spelledAll, spelled]

theorem spelledAll_clientResults :
    "(" ++ spelledAll [("reply", "*" ++ output), ("err", "error")] ++ ")" =
      "(reply *" ++ output ++ ", err error)" := by
  apply String.toList_inj.mp
  simp [spelledAll, spelled]

end Spelling

section Method

variable (service : ResolvedService) (method : ResolvedMethod)

theorem func_server (body : List Go.Code) :
    .func (some ("s *" ++ Identifier.serverType.spell service.exported)) method.exported
        ("ctx context.Context, args *" ++ method.input.name ++ ", reply *" ++ method.output.name)
        "(err error)" body =
      (server.signature service method).method method.exported body := by
  simp only [signature, receiverName, receiverType, Go.Signature.method, spelled_pointer,
    spelledAll_serverParams]
  rfl

theorem func_client (name type : String) (body : List Go.Code) :
    .func (some ("c *" ++ type)) name ("ctx context.Context, args *" ++ method.input.name)
        ("(reply *" ++ method.output.name ++ ", err error)") body =
      Go.Signature.method
        ⟨("c", "*" ++ type), [("ctx", "context.Context"), ("args", "*" ++ method.input.name)],
          [("reply", "*" ++ method.output.name), ("err", "error")]⟩
        name body := by
  simp only [Go.Signature.method, spelled_pointer, spelledAll_clientParams,
    spelledAll_clientResults]
  rfl

/-- The stub of a method is a comment and a method with the signature of its family, in whose body
an empty message of the output type is assigned. -/
theorem exists_methodStub_eq (family : Family) :
    ∃ words body, family.methodStub service method =
        .ofCode family.methodRole
          [.comment words, (family.signature service method).method method.exported body]
      ∧ .line (family.emptyReply method) ∈ body := by
  cases family with
  | server =>
      exact ⟨_, _, congrArg (fun code => Fragment.ofCode .serverMethod [.comment _, code])
        (func_server service method _), by simp [emptyReply]⟩
  | client =>
      exact ⟨_, _, congrArg (fun code => Fragment.ofCode .clientMethod [.comment _, code])
        (func_client method method.exported _ _), by simp [callBody, emptyReply]⟩
  | oneClient =>
      exact ⟨_, _, congrArg (fun code => Fragment.ofCode .oneClientMethod [.comment _, code])
        (func_client method method.exported _ _), by simp [callBody, emptyReply]⟩

/-- The header of the signature stands in the text of the stub. -/
theorem exists_text_methodStub_eq (family : Family) :
    ∃ before after, (family.methodStub service method).text =
      before ++ ((family.signature service method).header method.exported ++ " \x7b\n")
        ++ after := by
  rcases exists_methodStub_eq service method family with ⟨words, body, written, _⟩
  rw [written]
  exact Go.Code.exists_text_eq_of_method words method.exported _ body

end Method

end Family

/-! ## Services and files -/

/-- The fragments of a service are those of its families, one family after the other. -/
theorem serviceFragments_eq (options : Options) (service : ResolvedService) :
    serviceFragments options service = Family.all.flatMap (Family.fragments options service) := by
  simp only [Family.all, List.flatMap_cons, List.flatMap_nil, List.append_nil, serviceFragments,
    List.append_assoc]
  rfl

/-- The fragments of a file are the provenance comment and the families of its services. -/
theorem fileFragments_eq (options : Options) (file : String) (services : List ResolvedService) :
    fileFragments options file services =
      provenance file :: services.flatMap fun service => Family.all.flatMap fun family =>
        family.wrapper options service ::
          service.methods.map fun method => family.methodStub service method := by
  rw [fileFragments, funext (serviceFragments_eq options)]
  rfl

end RpcStubs.Stub
