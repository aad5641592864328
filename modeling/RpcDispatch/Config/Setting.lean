/-
This file lists the settings of the program.  Each has a name, from which follow the option of the
command line and the variable of the environment that give it a value.
-/

namespace RpcDispatch.Config

inductive Setting where
  | daemonSocket
  | logFilter
  | logFormat
  | maxFrameBytes
  | idleTimeoutMs
  deriving DecidableEq

namespace Setting

def all : List Setting :=
  [.daemonSocket, .logFilter, .logFormat, .maxFrameBytes, .idleTimeoutMs]

def name : Setting → String
  | .daemonSocket => "daemon-socket"
  | .logFilter => "log-filter"
  | .logFormat => "log-format"
  | .maxFrameBytes => "max-frame-bytes"
  | .idleTimeoutMs => "idle-timeout-ms"

/-- The name with underscores. -/
def field (setting : Setting) : String :=
  setting.name.map fun c => if c = '-' then '_' else c

/-- What stands for the value in usage texts. -/
def placeholder (setting : Setting) : String :=
  setting.field.map Char.toUpper

def environmentName (setting : Setting) : String :=
  "BRAYNS_" ++ setting.placeholder

/-- The option with its placeholder. -/
def usage (setting : Setting) : String :=
  s!"--{setting.name} <{setting.placeholder}>"

def help : Setting → String
  | .daemonSocket =>
    "Socket the daemon listens on (\x60unix:///path\x60 or \x60tcp://host:port\x60)"
  | .logFilter =>
    "Tracing filter expression (for example \x60info,braynsd::dispatch=debug\x60)"
  | .logFormat => "Log output format"
  | .maxFrameBytes => "Largest frame, in bytes, accepted from a client"
  | .idleTimeoutMs => "How long the idle loop blocks waiting for traffic, in milliseconds"

end Setting

end RpcDispatch.Config
