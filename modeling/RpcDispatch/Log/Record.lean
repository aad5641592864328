/-
This file defines log records: a level, the part of the program that speaks, a message and named
fields.
-/

import RpcDispatch.Bytes

namespace RpcDispatch.Log

inductive Level where
  | trace
  | debug
  | info
  | warn
  | error
  deriving DecidableEq, Inhabited

namespace Level

def name : Level → String
  | .trace => "TRACE"
  | .debug => "DEBUG"
  | .info => "INFO"
  | .warn => "WARN"
  | .error => "ERROR"

/-- More severe levels have smaller ranks. -/
def rank : Level → Nat
  | .error => 1
  | .warn => 2
  | .info => 3
  | .debug => 4
  | .trace => 5

end Level

/-- The parts of the program that write records. -/
inductive Target where
  | dispatch
  | monitor
  | networkTask
  | registry
  | request
  | task
  | transport
  deriving DecidableEq

def Target.name : Target → String
  | .dispatch => "braynsd::dispatch"
  | .monitor => "braynsd::monitor"
  | .networkTask => "braynsd::network_task"
  | .registry => "braynsd::registry"
  | .request => "braynsd::request"
  | .task => "braynsd::task"
  | .transport => "braynsd::transport"

/-- A shown text stands for itself in every layout, a plain text may be quoted. -/
inductive Field where
  | shown (text : String)
  | plain (text : String)
  | integer (value : Int)
  | flag (value : Bool)
  deriving DecidableEq

/-- The text of a field without quotes. -/
def Field.text : Field → String
  | .shown text => text
  | .plain text => text
  | .integer value => toString value
  | .flag value => if value then "true" else "false"

structure Record where
  level : Level
  target : Target
  message : String
  fields : List (String × Field)
  deriving DecidableEq

end RpcDispatch.Log
