import RpcStubs.Go.Literal
import RpcStubs.Options.Basic
import RpcStubs.Stub.Fragment
import RpcStubs.Stub.Identifier
import RpcStubs.Stub.Resolved

/-!
# Server stubs

The server side of a service is a type to be filled in, a function that serves it, and one method
per remote operation that answers with an empty message. The service is registered under its
exported name.
-/

namespace RpcStubs.Stub

open Go (Code)

/-- The comment that opens a generated file. -/
def provenanceCode (file : String) : List Code :=
  [.comment "This following code was generated by rpcx",
    .comment ("Generated from " ++ file)]

/-- The server type of a service and the function that serves it. -/
def serverSkeletonCode (service : ResolvedService) (options : Options) : List Code :=
  let type := Identifier.serverType.spell service.exported
  let serve := Identifier.serveFunction.spell service.exported
  [.comment "================== server skeleton ===================",
    .struct type [],
    .blank,
    .doc (serve ++ " starts a server only registers one service.\n"
      ++ "You can register more services and only start one server.\n"
      ++ "It blocks until the application exits."),
    .func none serve "addr string" "error"
      [.line "s := server.NewServer()",
        .line ("s.RegisterName(" ++ Go.Literal.write service.exported ++ ", new(" ++ type
          ++ "), \"\")"),
        .line ("return s.Serve(" ++ Go.Literal.write options.network ++ ", addr)")]]

/-- A server method that sets its reply to an empty message. -/
def serverMethodCode (service : ResolvedService) (method : ResolvedMethod) : List Code :=
  [.comment (method.exported ++ " is server rpc method as defined"),
    .func (some ("s *" ++ Identifier.serverType.spell service.exported)) method.exported
      ("ctx context.Context, args *" ++ method.input.name ++ ", reply *" ++ method.output.name)
      "(err error)"
      [.comment "Add business logic here.",
        .blank,
        .comment "Set return values.",
        .line ("*reply = " ++ method.output.name ++ "\x7b\x7d"),
        .blank,
        .line "return nil"]]

/-- The provenance fragment of a file. -/
def provenance (file : String) : Fragment :=
  .ofCode .provenance (provenanceCode file)

/-- The server skeleton of a service. -/
def serverSkeleton (service : ResolvedService) (options : Options) : Fragment :=
  .ofCode .serverSkeleton (serverSkeletonCode service options)

/-- The server stub of a method. -/
def serverMethod (service : ResolvedService) (method : ResolvedMethod) : Fragment :=
  .ofCode .serverMethod (serverMethodCode service method)

end RpcStubs.Stub
