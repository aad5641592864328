/-
This file names the ways in which a text is no URL.
-/

namespace RpcDispatch.Url

inductive Fault where
  | domainCharacter
  | domainName
  | emptyHost
  | ipv4Address
  | ipv6Address
  | noScheme
  | port
  deriving DecidableEq

def Fault.message : Fault → String
  | .domainCharacter => "invalid domain character"
  | .domainName => "invalid international domain name"
  | .emptyHost => "empty host"
  | .ipv4Address => "invalid IPv4 address"
  | .ipv6Address => "invalid IPv6 address"
  | .noScheme => "relative URL without a base"
  | .port => "invalid port number"

end RpcDispatch.Url
