/-!
# Version

The generated header and the command line name the same program and version.
-/

namespace RpcStubs

/-- The name of the program. -/
def programName : String :=
  "rpcxgen"

/-- The version of the program. -/
def version : String :=
  "0.1.0"

end RpcStubs
