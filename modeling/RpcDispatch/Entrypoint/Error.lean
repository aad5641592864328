/-
This file defines the failures of entrypoints and the errors that clients see for them.
-/

import RpcDispatch.Rpc.Error

namespace RpcDispatch.Entrypoint

/-- A failure is an error for the client, a list of violations in the params, or a cause with the
contexts around it, innermost first. -/
inductive Failure where
  | rpc (error : Rpc.Error)
  | schema (violations : List Rpc.Violation)
  | other (cause : String) (contexts : List String)
  deriving DecidableEq

namespace Failure

/-- The short form names the outermost context only. -/
def display : Failure → String
  | .rpc error => error.message
  | .schema violations => s!"params failed validation ({violations.length} errors)"
  | .other cause contexts => contexts.getLastD cause

/-- A cause without an error of its own is internal, with all its contexts, outermost first. -/
def toRpc : Failure → Rpc.Error
  | .rpc error => error
  | .schema violations => .paramsSchema violations
  | .other cause contexts => .internal (": ".intercalate (cause :: contexts).reverse)

end Failure

end RpcDispatch.Entrypoint
