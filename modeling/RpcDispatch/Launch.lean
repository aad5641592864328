/-
This file defines how the program starts.  It stops at once when it is asked for help, and when it
cannot load its configuration, set up its log or bind its socket.
-/

import RpcDispatch.Config.Report
import RpcDispatch.Listener
import RpcDispatch.Log.Layout

namespace RpcDispatch

/-- What the program leaves when it stops. -/
structure Exit where
  code : UInt32
  output : String
  errors : String
  deriving DecidableEq

namespace Exit

def success (output : String) : Exit :=
  ⟨0, output, ""⟩

/-- A failure of the program itself. -/
def failure (message : String) : Exit :=
  ⟨1, "", s!"{Config.programName}: {message}\n"⟩

end Exit

open Config (Stop) in
/-- The exit after arguments that give no configuration. -/
def Exit.ofStop (environment : Config.Environment) (user : String) : Stop → Exit
  | .help => .success (Config.helpText environment user)
  | .version => .success Config.versionText
  | stop => ⟨2, "", stop.report⟩

/-- A program that has started: its configuration, its log and the files with its socket. -/
structure Launched where
  config : Config
  log : Log.Setup
  tree : Files.Tree

/-- Prepares and binds the socket of a configuration. -/
def listen (config : Config) (log : Log.Setup) (tree : Files.Tree) : Except Exit Launched :=
  match config.daemonSocket.prepare tree with
  | (some fault, _) => .error (.failure fault.message)
  | (none, tree) =>
    match config.daemonSocket.bind tree with
    | .error fault => .error (.failure fault.message)
    | .ok tree => .ok ⟨config, log, tree⟩

/-- Starts the program. -/
def launch (arguments : List Bytes) (environment : Config.Environment) (user : String)
    (tree : Files.Tree) : Except Exit Launched :=
  match Config.load arguments environment user with
  | .error (.arguments stop) => .error (.ofStop environment user stop)
  | .error (.violation violation) => .error (.failure violation.message)
  | .ok config =>
    match Log.Setup.initialise none config.logFilter config.logFormat with
    | .error fault => .error (.failure s!"invalid log filter: {fault.message}")
    | .ok log => listen config log tree

end RpcDispatch
