/-
This file defines endpoints: the path of a local socket, or a host and a port.
-/

import RpcDispatch.Url.Basic

namespace RpcDispatch

inductive Endpoint where
  | unix (path : String)
  | tcp (host : String) (port : UInt16)
  deriving DecidableEq

namespace Endpoint

/-- The text of an endpoint, which is written without escapes. -/
def display : Endpoint → String
  | .unix path => s!"unix://{path}"
  | .tcp host port => s!"tcp://{host}:{port.toNat}"

def unixPath? : Endpoint → Option String
  | .unix path => some path
  | .tcp _ _ => none

def isTcp : Endpoint → Bool
  | .unix _ => false
  | .tcp _ _ => true

/-- Why a text names no endpoint. -/
inductive Fault where
  | unsupportedScheme (scheme : String)
  | missingHost (text : String)
  | missingPort (text : String)
  | missingPath (text : String)
  | url (fault : Url.Fault)
  deriving DecidableEq

def Fault.message : Fault → String
  | .unsupportedScheme scheme => s!"unsupported socket scheme '{scheme}'"
  | .missingHost text => s!"missing TCP host in '{text}'"
  | .missingPort text => s!"missing TCP port in '{text}'"
  | .missingPath text => s!"missing Unix socket path in '{text}'"
  | .url fault => fault.message

/-- The endpoint that a URL names.  The text is quoted in faults. -/
def ofUrl (text : String) (url : Url) : Except Fault Endpoint :=
  if url.scheme = "unix" then
    if url.path.isEmpty then .error (.missingPath text) else .ok (.unix url.path)
  else if url.scheme = "tcp" then
    match url.host, url.port with
    | none, _ => .error (.missingHost text)
    | some _, none => .error (.missingPort text)
    | some host, some port => .ok (.tcp host port)
  else .error (.unsupportedScheme url.scheme)

/-- The endpoint that a text names. -/
def parse (text : String) : Except Fault Endpoint :=
  match Url.parse text with
  | .error fault => .error (.url fault)
  | .ok url => ofUrl text url

end Endpoint

end RpcDispatch
