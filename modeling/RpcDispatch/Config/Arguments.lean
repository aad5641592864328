/-
This file reads configurations.  A setting has the value that the command line gives, else that of
the environment, else the standard one.
-/

import RpcDispatch.Config.Basic
import RpcDispatch.Config.Setting
import RpcDispatch.Decimal.Integer

namespace RpcDispatch.Config

/-- Why arguments give no configuration. -/
inductive Stop where
  | help
  | version
  | invalidUtf8
  | missingValue (setting : Setting)
  | repeated (setting : Setting)
  /-- No option has this name.  Some settings were given before. -/
  | unknownOption (name : String) (given : List Setting)
  | unknownArgument (argument : String)
  /-- The option takes no value.  Settings may have been given before. -/
  | surplusValue (option value : String) (afterSettings : Bool)
  | invalidValue (setting : Setting) (value reason : String)
  deriving DecidableEq

/-! ### Values -/

/-- The settings that have been given so far. -/
structure Draft where
  /-- These settings have values, in the order in which they were given. -/
  order : List Setting := []
  daemonSocket : Option Endpoint := none
  logFilter : Option String := none
  logFormat : Option Log.Format := none
  maxFrameBytes : Option UInt32 := none
  idleTimeoutMs : Option UInt64 := none

namespace Draft

def isSet (draft : Draft) (setting : Setting) : Bool :=
  draft.order.contains setting

/-- A number of bytes is read with a sign before its range is checked. -/
def readByteCount (text : String) : Except String UInt32 :=
  match Decimal.parseSigned64 text with
  | .error fault => .error fault.message
  | .ok value =>
    if 0 ≤ value ∧ value < 0x100000000 then .ok (UInt32.ofNat value.toNat)
    else .error s!"{value} is not in 0..=4294967295"

def readMilliseconds (text : String) : Except String UInt64 :=
  match Decimal.parseUnsigned 0xFFFFFFFFFFFFFFFF text with
  | .error fault => .error fault.message
  | .ok value => .ok (UInt64.ofNat value)

/-- Reads the value of a setting, or says why it has none. -/
def read (draft : Draft) (setting : Setting) (text : String) : Except String Draft :=
  match setting with
  | .daemonSocket =>
    match Endpoint.parse text with
    | .error fault => .error fault.message
    | .ok endpoint => .ok { draft with daemonSocket := some endpoint }
  | .logFilter => .ok { draft with logFilter := some text }
  | .logFormat =>
    match Log.Format.parse? text with
    | none => .error Log.Format.unknown
    | some format => .ok { draft with logFormat := some format }
  | .maxFrameBytes =>
    (readByteCount text).map fun count => { draft with maxFrameBytes := some count }
  | .idleTimeoutMs =>
    (readMilliseconds text).map fun time => { draft with idleTimeoutMs := some time }

/-- Gives a setting its value, which has to be text. -/
def give (draft : Draft) (setting : Setting) (value : Bytes) : Except Stop Draft :=
  match Text.Utf8.decode? value with
  | none => .error .invalidUtf8
  | some text =>
    match draft.read setting text with
    | .ok draft => .ok { draft with order := draft.order ++ [setting] }
    | .error reason => .error (.invalidValue setting text reason)

end Draft

/-! ### The command line -/

/-- An option that has been met, with its value as soon as that has been met too. -/
abbrev Pending := Option (Setting × Option Bytes)

/-- The value of an option is read when the next option is met. -/
def settle (draft : Draft) : Pending → Except Stop Draft
  | none => .ok draft
  | some (setting, none) => .error (.missingValue setting)
  | some (setting, some value) =>
    if draft.isSet setting then .error (.repeated setting) else draft.give setting value

/-- The settings that have a value, be it good or bad.  One with two values has none. -/
def given (draft : Draft) : Pending → List Setting
  | some (setting, some _) =>
    if draft.isSet setting then draft.order.erase setting else draft.order ++ [setting]
  | _ => draft.order

/-- What an argument is, unless it is the value of an option. -/
inductive Argument where
  | endOfOptions
  | long (name : Bytes) (value : Option Bytes)
  | short (names : Bytes)
  | plain
  deriving DecidableEq

def Argument.ofBytes : Bytes → Argument
  | [45, 45] => .endOfOptions
  | 45 :: 45 :: option =>
    .long (option.takeWhile (· != 61))
      (if option.contains 61 then some ((option.dropWhile (· != 61)).drop 1) else none)
  | 45 :: name :: names => .short (name :: names)
  | _ => .plain

/-- An option with two dashes. -/
def readLong (draft : Draft) (pending : Pending) (name : Bytes) (value : Option Bytes) :
    Except Stop (Draft × Pending) :=
  let text := Text.Utf8.decodeLossy name
  match Setting.all.find? (·.name = text), value with
  | some setting, none => (settle draft pending).map (·, some (setting, none))
  | some setting, some value => do
    let draft ← settle draft pending
    return (← settle draft (some (setting, some value)), none)
  | none, value =>
    if text = "help" ∨ text = "version" then
      match value with
      | some value =>
        .error (.surplusValue ("--" ++ text) (Text.Utf8.decodeLossy value) !draft.order.isEmpty)
      | none => do
        let _ ← settle draft pending
        throw (if text = "help" then .help else .version)
    else .error (.unknownOption text (given draft pending))

/-- Options with one dash ask for the help text or the version. -/
def readShort (draft : Draft) (pending : Pending) (names : Bytes) : Except Stop (Draft × Pending) :=
  match Text.Utf8.head? names with
  | some ('h', _) => do
    let _ ← settle draft pending
    throw .help
  | some ('V', _) => do
    let _ ← settle draft pending
    throw .version
  | some (name, _) => .error (.unknownArgument (String.ofList ['-', name]))
  | none => .error (.unknownArgument ("-" ++ Text.Utf8.decodeLossy names))

/-- Reads the arguments from left to right. -/
def readArguments (draft : Draft) (pending : Pending) : List Bytes → Except Stop Draft
  | [] => settle draft pending
  | argument :: rest =>
    match Argument.ofBytes argument, pending with
    | .endOfOptions, _ =>
      match rest with
      | [] => settle draft pending
      | argument :: _ => .error (.unknownArgument (Text.Utf8.decodeLossy argument))
    | .long name value, _ =>
      match readLong draft pending name value with
      | .error stop => .error stop
      | .ok (draft, pending) => readArguments draft pending rest
    | .short names, _ =>
      match readShort draft pending names with
      | .error stop => .error stop
      | .ok (draft, pending) => readArguments draft pending rest
    | .plain, some (setting, none) => readArguments draft (some (setting, some argument)) rest
    | .plain, _ => .error (.unknownArgument (Text.Utf8.decodeLossy argument))

/-! ### The whole -/

/-- Gives the settings that the command line left open the values of the environment. -/
def readEnvironment (environment : Environment) (draft : Draft) : Except Stop Draft :=
  Setting.all.foldlM (fun draft setting =>
    match environment.lookup setting.environmentName with
    | some value => if draft.isSet setting then .ok draft else draft.give setting value
    | none => .ok draft) draft

/-- Completes a draft with standard values.  The standard socket is read from its text. -/
def complete (environment : Environment) (user : String) (draft : Draft) :
    Except Stop Config := do
  let standard := standard environment user
  let socket ← match draft.daemonSocket with
    | some socket => pure socket
    | none =>
      let text := standard.daemonSocket.display
      match Endpoint.parse text with
      | .ok socket => pure socket
      | .error fault => throw (.invalidValue .daemonSocket text fault.message)
  return {
    daemonSocket := socket
    logFilter := draft.logFilter.getD standard.logFilter
    logFormat := draft.logFormat.getD standard.logFormat
    maxFrameBytes := draft.maxFrameBytes.getD standard.maxFrameBytes
    idleTimeoutMs := draft.idleTimeoutMs.getD standard.idleTimeoutMs }

/-- Why no configuration could be loaded. -/
inductive Fault where
  | arguments (stop : Stop)
  | violation (violation : Violation)
  deriving DecidableEq

/-- The configuration that the arguments and the environment give. -/
def load (arguments : List Bytes) (environment : Environment) (user : String) :
    Except Fault Config :=
  let resolved := do
    let draft ← readArguments {} none arguments
    complete environment user (← readEnvironment environment draft)
  match resolved with
  | .error stop => .error (.arguments stop)
  | .ok config =>
    match config.validate with
    | .error violation => .error (.violation violation)
    | .ok () => .ok config

end RpcDispatch.Config
