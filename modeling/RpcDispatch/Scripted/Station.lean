/-
This file defines the state of scripted entrypoints.  Each has a station, which keeps the requests
that it holds and its job.
-/

import RpcDispatch.Exchange.Script
import RpcDispatch.Job

namespace RpcDispatch.Scripted

structure Station where
  held : List Key := []
  job : Option Job := none
  /-- The bodies of the runs still to come; the last one stays. -/
  bodies : List Body := []
  /-- The request that the next start is for. -/
  next : Option Key := none
  /-- The request that the current run is for. -/
  active : Option Key := none

/-- The stations by method, and the flags of the tasks that the application supplies. -/
structure App where
  stations : List (String × Station) := []
  flags : List (String × Bool) := []

namespace App

def station (app : App) (method : String) : Station :=
  (app.stations.lookup method).getD {}

def setStation (app : App) (method : String) (station : Station) : App :=
  { app with stations := Json.insertMember method station app.stations }

def flag (app : App) (name : String) : Bool :=
  (app.flags.lookup name).getD false

def setFlag (app : App) (name : String) (value : Bool) : App :=
  { app with flags := Json.insertMember name value app.flags }

end App

abbrev AppScript (ρ : Type) := Script App ρ

/-- Changes the station of a method. -/
def changeStation (method : String) (change : Station → Station) : AppScript Unit :=
  .read fun app => .perform (.write (app.setStation method (change (app.station method))))

def note (items : List Json.Value) : AppScript Unit :=
  .perform (.note (.array items))

/-- An error as notes show it. -/
def errorKind : Rpc.Error → String
  | .parsing _ => "ParsingError"
  | .invalidRequest _ _ => "InvalidRequest"
  | .methodNotFound _ => "MethodNotFound"
  | .invalidParams _ _ => "InvalidParams"
  | .internal _ => "InternalError"
  | .taskCancelled => "TaskCancelled"

/-- The members of an error that is shown. -/
def errorMembers (error : Rpc.Error) : List (String × Json.Value) :=
  [("error", .string (errorKind error)), ("code", .integer error.code),
    ("message", .string error.message), ("data", error.data.getD .null)]

def shownError (error : Rpc.Error) : Json.Value :=
  .ofMembers (errorMembers error)

def shownOutcome : Except Rpc.Error Unit → Json.Value
  | .ok () => .string "ok"
  | .error error => shownError error

/-- A float as notes show it, with words for what has no digits. -/
def floatText (amount : Float) : String :=
  match Decimal.classify amount.toBits with
  | .notANumber => "NaN"
  | .infinite negative => if negative then "-inf" else "inf"
  | _ => (Json.Number.float amount.toBits).text

end RpcDispatch.Scripted
