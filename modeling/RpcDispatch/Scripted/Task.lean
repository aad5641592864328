/-
This file defines tasks that note what happens to them.
-/

import RpcDispatch.Scripted.Station
import RpcDispatch.Task.Basic

namespace RpcDispatch.Scripted

/-- A task that notes what happens to it.  Its flag says whether it is pending. -/
def notingTask (name : String) (client : ClientId) (id : Rpc.Id) (hasPriority : Bool)
    (cancelError : Option Rpc.Error) : ExternalTask App where
  client := client
  id := id
  method := name
  hasPriority := hasPriority
  run := note [.string "run", .string name]
  cancel := do
    note [.string "cancel", .string name]
    return match cancelError with
      | some error => .error error
      | none => .ok ()
  disconnect := note [.string "disconnect", .string name]
  isPending app := app.flag name

end RpcDispatch.Scripted
