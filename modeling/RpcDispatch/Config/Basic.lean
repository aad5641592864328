/-
This file defines configurations, the values that settings have when nothing else is given, and
the constraints on them.
-/

import RpcDispatch.Endpoint.Basic
import RpcDispatch.Files.Path
import RpcDispatch.Log.Format

namespace RpcDispatch

structure Config where
  daemonSocket : Endpoint
  logFilter : String
  logFormat : Log.Format
  maxFrameBytes : UInt32
  idleTimeoutMs : UInt64
  deriving DecidableEq

namespace Config

/-! ### Standard values -/

def standardLogFilter : String :=
  "info"

/-- Binary data travels in single frames, so the limit is generous: 64 MiB. -/
def standardMaxFrameBytes : UInt32 :=
  0x4000000

def standardIdleTimeoutMs : UInt64 :=
  250

/-- The variables of the environment with their values. -/
abbrev Environment := List (String × Bytes)

/-- The directory for the sockets of the user, if there is one. -/
def runtimeDirectory? (environment : Environment) : Option String :=
  ((environment.lookup "XDG_RUNTIME_DIR").bind Text.Utf8.decode?).filter Files.Path.isAbsolute

def temporaryDirectory (environment : Environment) : String :=
  match environment.lookup "TMPDIR" with
  | none => "/tmp"
  | some bytes => (Text.Utf8.decode? bytes).getD "/tmp"

/-- The socket stands in the directory of the user, or in a part of the temporary directory that
is named for the user. -/
def standardSocket (environment : Environment) (user : String) : Endpoint :=
  let directory := match runtimeDirectory? environment with
    | some directory => Files.Path.child directory "brayns"
    | none =>
      Files.Path.child (Files.Path.child (temporaryDirectory environment) "brayns")
        s!"uid-{user}"
  .unix (Files.Path.child directory "braynsd.sock")

/-- The configuration with nothing given. -/
def standard (environment : Environment) (user : String) : Config where
  daemonSocket := standardSocket environment user
  logFilter := standardLogFilter
  logFormat := .standard
  maxFrameBytes := standardMaxFrameBytes
  idleTimeoutMs := standardIdleTimeoutMs

/-! ### Constraints -/

inductive Violation where
  | zeroFrameLimit
  | emptyFilter
  deriving DecidableEq

def Violation.field : Violation → String
  | .zeroFrameLimit => "max_frame_bytes"
  | .emptyFilter => "log_filter"

def Violation.reason : Violation → String
  | .zeroFrameLimit => "must be positive"
  | .emptyFilter => "must not be empty"

def Violation.message (violation : Violation) : String :=
  s!"invalid value for {violation.field}: {violation.reason}"

/-- A frame may have a byte, and a filter has more than blanks. -/
def validate (config : Config) : Except Violation Unit :=
  if config.maxFrameBytes = 0 then .error .zeroFrameLimit
  else if (Text.trim config.logFilter).isEmpty then .error .emptyFilter
  else .ok ()

def frameLimit (config : Config) : Nat :=
  config.maxFrameBytes.toNat

end Config

end RpcDispatch
