import RpcStubs.Stub.Server

/-!
# Client stubs

There are two kinds of client. A dispatching client is made for one service, by its exported name; a
single-target client is told the service with each call, by the name as declared. Each has a wrapper
type, a function that wraps a shared client, a factory, and one method per remote operation.
-/

namespace RpcStubs.Stub

open Go (Code)

/-- What every factory says about its defaults. -/
def factoryAdvice : String :=
  "You can configure this client with more options such as etcd registry, serialize type, "
    ++ "select algorithm and fail mode."

/-- The body of a factory: discovery of a single server, default options, and the client. -/
def factoryBody (options : Options) (variableName making : String) : List Code :=
  [.line ("d := client.NewPeer2PeerDiscovery(" ++ Go.Literal.write (options.network ++ "@")
      ++ "+addr, \"\")"),
    .line "opt := client.DefaultOption",
    .line ("opt.SerializeType = " ++ Choice.expression options.serializeType),
    .blank,
    .line (variableName ++ " := " ++ making),
    .line ("return " ++ variableName)]

/-- The body of a client method around its call. -/
def callBody (method : ResolvedMethod) (call : String) : List Code :=
  [.line ("reply = &" ++ method.output.name ++ "\x7b\x7d"),
    .line ("err = " ++ call),
    .line "return reply, err"]

/-- A method of a client wrapper type. -/
def clientMethodWith (type : String) (method : ResolvedMethod) (call : String) : List Code :=
  [.comment (method.exported ++ " is client rpc method as defined"),
    .func (some ("c *" ++ type)) method.exported
      ("ctx context.Context, args *" ++ method.input.name)
      ("(reply *" ++ method.output.name ++ ", err error)")
      (callBody method call)]

/-! ## Dispatching clients -/

/-- The wrapper type of a dispatching client, its constructor and its factory. -/
def clientWrapperCode (service : ResolvedService) (options : Options) : List Code :=
  let type := Identifier.clientType.spell service.exported
  let constructor := Identifier.clientConstructor.spell service.exported
  let factory := Identifier.clientFactory.spell service.exported
  [.comment "================== client stub ===================",
    .comment (type ++ " is a client wrapped XClient."),
    .struct type [("xclient", "client.XClient")],
    .blank,
    .doc (constructor ++ " wraps a XClient as " ++ type
      ++ ".\nYou can pass a shared XClient object created by " ++ factory ++ "."),
    .func none constructor "xclient client.XClient" ("*" ++ type)
      [.line ("return &" ++ type ++ "\x7bxclient: xclient\x7d")],
    .blank,
    .doc (factory ++ " creates a XClient.\n" ++ factoryAdvice),
    .func none factory "addr string" "client.XClient"
      (factoryBody options "xclient"
        ("client.NewXClient(" ++ Go.Literal.write service.exported ++ ", "
          ++ Choice.expression options.failMode ++ ", "
          ++ Choice.expression options.selectMode ++ ", d, opt)"))]

/-- A dispatching client's method: it names the method as declared. -/
def clientMethodCode (service : ResolvedService) (method : ResolvedMethod) : List Code :=
  clientMethodWith (Identifier.clientType.spell service.exported) method
    ("c.xclient.Call(ctx, " ++ Go.Literal.write method.raw ++ ", args, reply)")

/-- The dispatching client of a service. -/
def clientWrapper (service : ResolvedService) (options : Options) : Fragment :=
  .ofCode .clientWrapper (clientWrapperCode service options)

/-- The dispatching client's stub of a method. -/
def clientMethod (service : ResolvedService) (method : ResolvedMethod) : Fragment :=
  .ofCode .clientMethod (clientMethodCode service method)

/-! ## Single-target clients -/

/-- The wrapper type of a single-target client, its constructor and its factory. The wrapper keeps
the service name as declared. -/
def oneClientWrapperCode (service : ResolvedService) (options : Options) : List Code :=
  let type := Identifier.oneClientType.spell service.exported
  let constructor := Identifier.oneClientConstructor.spell service.exported
  let factory := Identifier.oneClientFactory.spell service.exported
  [.comment "================== oneclient stub ===================",
    .comment (type ++ " is a client wrapped oneClient."),
    .struct type [("serviceName", "string"), ("oneclient", "client.OneClient")],
    .blank,
    .doc (constructor ++ " wraps a OneClient as " ++ type
      ++ ".\nYou can pass a shared OneClient object created by " ++ factory ++ "."),
    .func none constructor "oneclient client.OneClient" ("*" ++ type)
      [.literal "return &" type
        [("serviceName", Go.Literal.write service.raw), ("oneclient", "oneclient")]],
    .blank,
    .doc (factory ++ " creates a OneClient.\n" ++ factoryAdvice),
    .func none factory "addr string" "client.OneClient"
      (factoryBody options "oneclient"
        ("client.NewOneClient(" ++ Choice.expression options.failMode ++ ", "
          ++ Choice.expression options.selectMode ++ ", d, opt)"))]

/-- A single-target client's method: it names the method as declared, the wrapper the service. -/
def oneClientMethodCode (service : ResolvedService) (method : ResolvedMethod) : List Code :=
  clientMethodWith (Identifier.oneClientType.spell service.exported) method
    ("c.oneclient.Call(ctx, c.serviceName, " ++ Go.Literal.write method.raw ++ ", args, reply)")

/-- The single-target client of a service. -/
def oneClientWrapper (service : ResolvedService) (options : Options) : Fragment :=
  .ofCode .oneClientWrapper (oneClientWrapperCode service options)

/-- The single-target client's stub of a method. -/
def oneClientMethod (service : ResolvedService) (method : ResolvedMethod) : Fragment :=
  .ofCode .oneClientMethod (oneClientMethodCode service method)

end RpcStubs.Stub
