/-
This file reads URLs as far as an endpoint needs them: the scheme, the host, the port and the path.
-/

import RpcDispatch.Text.Blank
import RpcDispatch.Url.Host
import RpcDispatch.Url.Path

namespace RpcDispatch

structure Url where
  scheme : String
  host : Option String
  port : Option UInt16
  path : String
  deriving DecidableEq

namespace Url

/-- What remains of a text when tabs, line ends and the blanks and controls around it are left
out. -/
def clean (text : List Char) : List Char :=
  (Text.trimWhere (· ≤ ' ') text).filter fun c => c ≠ '\t' && c ≠ '\n' && c ≠ '\r'

/-! ### The scheme -/

def isSchemeChar (character : Char) : Bool :=
  character.isAlphanum || ['+', '-', '.'].contains character

/-- The lower-case scheme before the first colon, and what follows. -/
def splitScheme? (text : List Char) : Option (List Char × List Char) :=
  if text.head?.any Char.isAlpha then
    match text.dropWhile isSchemeChar with
    | ':' :: rest => some ((text.takeWhile isSchemeChar).map Char.toLower, rest)
    | _ => none
  else none

/-- Some schemes have rules of their own for hosts. -/
inductive SchemeKind where
  | plain
  | internet
  | file
  deriving DecidableEq

def SchemeKind.ofScheme (scheme : String) : SchemeKind :=
  if scheme = "file" then .file
  else if ["http", "https", "ws", "wss", "ftp"].contains scheme then .internet
  else .plain

/-! ### The authority -/

/-- The authority ends where the path, the query or the fragment starts. -/
def endsAuthority (kind : SchemeKind) (character : Char) : Bool :=
  ['/', '?', '#'].contains character || kind ≠ .plain && character = '\\'

/-- The text after the last at sign, and the text before it if there is one. -/
def splitUser (authority : List Char) : Option (List Char) × List Char :=
  let place := (authority.reverse.takeWhile (· ≠ '@')).reverse
  if place.length = authority.length then (none, authority)
  else (some (authority.take (authority.length - place.length - 1)), place)

/-- The host and what follows it, which starts with a colon or is empty.  A colon between brackets
belongs to the host. -/
def splitHost : (inBrackets : Bool) → List Char → List Char × List Char
  | _, [] => ([], [])
  | inBrackets, character :: rest =>
    if character = ':' && !inBrackets then ([], character :: rest)
    else
      let inBrackets :=
        if character = '[' then true else if character = ']' then false else inBrackets
      let (host, after) := splitHost inBrackets rest
      (character :: host, after)

/-- The number that decimal digits write, if it is no greater than `limit`. -/
def boundedNumber? (limit : Nat) (digits : List Char) : Option Nat :=
  let value := Ipv4.ofDigits 10 digits
  if value ≤ limit then some value else none

/-- The port after a host, and what follows it.  A backslash ends the digits. -/
def splitPort (text : List Char) : Except Fault (Option UInt16 × List Char) :=
  match text with
  | ':' :: text =>
    let digits := text.takeWhile Char.isDigit
    let rest := text.dropWhile Char.isDigit
    match boundedNumber? 65535 digits with
    | none => .error .port
    | some value =>
      if rest.isEmpty || rest.head? == some '\\' then
        .ok (if digits.isEmpty then none else some (UInt16.ofNat value), rest)
      else .error .port
  | _ => .ok (none, text)

/-- A user or a password has to be followed by a host. -/
def isCredential (user : Option (List Char)) : Bool :=
  user.any fun user => user ≠ [] && user ≠ [':']

structure Authority where
  host : Option String
  port : Option UInt16
  /-- What belongs to the path, although no slash comes before it. -/
  rest : List Char

/-- The authority in the text between the slashes before it and its end, where `isLast` says that
nothing follows. -/
def parseAuthority (kind : SchemeKind) (text : List Char) (isLast : Bool) :
    Except Fault Authority := do
  let (user, place) := splitUser text
  if user = some [] && place.isEmpty && !isLast then throw .emptyHost
  let (host, after) := splitHost false place
  if kind = .internet && host.isEmpty then throw .emptyHost
  let host ← if kind = .plain then Host.asWritten host else Host.named host
  if host.isEmpty && after.head? == some ':' then throw .emptyHost
  let (port, rest) ← splitPort after
  if host.isEmpty && isCredential user then throw .emptyHost
  return ⟨if host.isEmpty then none else some (String.ofList host), port, rest⟩

/-- The authority of a scheme for files is at most a host. -/
def parseFileHost (text : List Char) : Except Fault Authority := do
  if text.isEmpty || Path.isDrive text then return ⟨none, none, text⟩
  let host ← Host.named text
  return ⟨some (String.ofList host), none, []⟩

/-! ### The whole -/

/-- A text up to its query or fragment. -/
def withoutQuery (text : List Char) : List Char :=
  text.takeWhile fun c => c ≠ '?' && c ≠ '#'

/-- A URL with an authority, given by what follows the slashes before it. -/
def parseLocated (scheme : String) (kind : SchemeKind) (text : List Char) : Except Fault Url := do
  let authority := text.takeWhile (!endsAuthority kind ·)
  let after := text.dropWhile (!endsAuthority kind ·)
  let found ← if kind = .file then parseFileHost authority
    else parseAuthority kind authority after.isEmpty
  let path := Path.afterHost (withoutQuery (found.rest ++ after))
  return ⟨scheme, found.host, found.port, String.ofList path⟩

/-- A URL without an authority.  A path that does not start at the root is not resolved. -/
def parseUnlocated (scheme : String) (text : List Char) : Url :=
  let path := match withoutQuery text with
    | '/' :: rest => Path.belowRoot rest
    | rest => escapeWhere isUnsafe rest
  ⟨scheme, none, none, String.ofList path⟩

/-- The URL that a text is. -/
def parse (text : String) : Except Fault Url :=
  match splitScheme? (clean text.toList) with
  | none => .error .noScheme
  | some (scheme, rest) =>
    let scheme := String.ofList scheme
    match SchemeKind.ofScheme scheme, rest with
    | .internet, rest =>
      parseLocated scheme .internet (rest.dropWhile fun c => c = '/' || c = '\\')
    | .file, first :: second :: rest =>
      if (first = '/' || first = '\\') && (second = '/' || second = '\\') then
        parseLocated scheme .file rest
      else .ok (parseUnlocated scheme (first :: second :: rest))
    | .plain, '/' :: '/' :: rest => parseLocated scheme .plain rest
    | _, rest => .ok (parseUnlocated scheme rest)

end Url

end RpcDispatch
