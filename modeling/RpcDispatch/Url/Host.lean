/-
This file reads the hosts of URLs.  A host in brackets is an IPv6 address.  Any other host is kept
as it is written, apart from escapes, unless its scheme takes the names of internet hosts.
-/

import RpcDispatch.Url.Domain.Basic
import RpcDispatch.Url.Fault
import RpcDispatch.Url.Ipv6

namespace RpcDispatch.Url.Host

/-- An address between brackets, in its shortest form. -/
def bracketed (text : List Char) : Except Fault (List Char) :=
  match text.reverse with
  | ']' :: reversed =>
    match Ipv6.parse? (reversed.reverse.drop 1) with
    | some groups => .ok ('[' :: Ipv6.chars groups ++ [']'])
    | none => .error .ipv6Address
  | _ => .error .ipv6Address

/-- The characters that stand in no host. -/
def isForbidden (character : Char) : Bool :=
  ['\x00', '\t', '\n', '\r', ' ', '#', '/', ':', '<', '>', '?', '@', '[', '\\', ']', '^',
    '|'].contains character

/-- A host that is kept as it is written. -/
def asWritten (text : List Char) : Except Fault (List Char) :=
  match text with
  | '[' :: _ => bracketed text
  | _ =>
    if text.any isForbidden then .error .domainCharacter
    else .ok (escapeWhere isUnsafe text)

/-- The name of an internet host stands for what it is without escapes. -/
def named (text : List Char) : Except Fault (List Char) :=
  match text with
  | '[' :: _ => bracketed text
  | _ =>
    match (Text.Utf8.decode? (unescape text)).bind fun name => Domain.normalize? name.toList with
    | none => .error .domainName
    | some name =>
      if name.isEmpty then .error .emptyHost
      else if Ipv4.endsInNumber name && !Ipv4.isLooseAddress name then .error .ipv4Address
      else .ok name

end RpcDispatch.Url.Host
