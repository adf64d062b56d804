import RpcStubs.Text.Cut

/-!
# Import paths

An import path is a text cut into elements by slashes. Its last element is the name a package goes
by when no other is written; its first element tells the standard library from module paths, which
begin with a domain.
-/

namespace RpcStubs.Go

/-- The text after the last slash. -/
def lastElement (path : String) : String :=
  String.ofList (Text.afterLast '/' path.toList)

/-- Whether a path belongs to the standard library: no dot in its first element. -/
def isStandardPath (path : String) : Bool :=
  !(Text.beforeFirst '/' path.toList).contains '.'

end RpcStubs.Go
