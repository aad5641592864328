/-
This file writes what the program prints instead of running: the help text, the version, and why
arguments were refused.
-/

import RpcDispatch.Config.Arguments
import RpcDispatch.Text.Quoted
import RpcDispatch.Text.Similarity
import RpcDispatch.Text.Terminal

namespace RpcDispatch.Config

open Text.Terminal (highlighted plain)

def programName : String :=
  "braynsd"

def versionText : String :=
  programName ++ " 0.1.0\n"

/-! ### Help -/

/-- A standard value that has blanks is quoted. -/
def shownStandard (text : String) : String :=
  if text.toList.any Text.isBlank then Text.quoted text else text

def standardText (standard : Config) : Setting → String
  | .daemonSocket => standard.daemonSocket.display
  | .logFilter => standard.logFilter
  | .logFormat => standard.logFormat.name
  | .maxFrameBytes => toString standard.maxFrameBytes.toNat
  | .idleTimeoutMs => toString standard.idleTimeoutMs.toNat

/-- What is said of a setting: its purpose, its variable with the value it has, and its standard
value. -/
def describe (environment : Environment) (standard : Config) (setting : Setting) : String :=
  let value := ((environment.lookup setting.environmentName).map Text.Utf8.decodeLossy).getD ""
  s!"{setting.help} [env: {setting.environmentName}={value}]"
    ++ s!" [default: {shownStandard (standardText standard setting)}]"

/-- Further lines of a description stand below its first one. -/
def indented (description : String) : String :=
  "\n          ".intercalate ((Text.splitAt '\n' description.toList).map String.ofList)

/-- An option with its description on the next line. -/
def helpEntry (option description : String) : String :=
  s!"  {option}\n          {indented description}\n"

def helpText (environment : Environment) (user : String) : String :=
  let standard := standard environment user
  let entries := Setting.all.map fun setting =>
    helpEntry ("    " ++ highlighted ("--" ++ setting.name) ++ s!" <{setting.placeholder}>")
      (describe environment standard setting)
  plain ("Brayns JSON-RPC dispatch daemon\n\n"
    ++ s!"Usage: {programName} [OPTIONS]\n\nOptions:\n"
    ++ String.join entries
    ++ helpEntry (highlighted "-h" ++ ", " ++ highlighted "--help") "Print help"
    ++ helpEntry (highlighted "-V" ++ ", " ++ highlighted "--version") "Print version")

/-! ### Refusals -/

/-- The names of all options. -/
def optionNames : List String :=
  Setting.all.map Setting.name ++ ["help", "version"]

/-- How an option is used. -/
def usageOf (name : String) : String :=
  match Setting.all.find? (·.name = name) with
  | some setting => setting.usage
  | none => "--" ++ name

/-- A paragraph that shows how the program is called. -/
def usageText (used : List String) : String :=
  let shown := if used.isEmpty then ["[OPTIONS]"] else used
  "\n\nUsage: " ++ " ".intercalate (programName :: shown)

/-- The option that may have been meant by a name. -/
def suggestion? (name : String) : Option String :=
  Text.Similarity.best? name optionNames 0.7

/-- The names of the options that were given, and of the one that may have been meant. -/
def usedNames (earlier : List Setting) (meant : Option String) : List String :=
  let names := earlier.map Setting.name
  names ++ meant.toList.filter (!names.contains ·)

/-- Any of the settings. -/
def anySetting : String :=
  "<" ++ "|".intercalate (Setting.all.map Setting.usage) ++ ">"

def unexpected (argument : String) : String :=
  s!"unexpected argument '{highlighted argument}' found"

/-- The fault and, where that helps, the use of the program. -/
def Stop.explanation : Stop → String
  | .help | .version => ""
  | .invalidUtf8 => "invalid UTF-8 was detected in one or more arguments" ++ usageText []
  | .missingValue setting =>
    s!"a value is required for '{setting.usage}' but none was supplied"
  | .repeated setting =>
    s!"the argument '{setting.usage}' cannot be used multiple times" ++ usageText []
  | .unknownOption name earlier =>
    let meant := suggestion? name
    let tip := meant.map fun meant =>
      s!"\n\n  tip: a similar argument exists: '--{meant}'"
    unexpected ("--" ++ name) ++ tip.getD "" ++ usageText ((usedNames earlier meant).map usageOf)
  | .unknownArgument argument => unexpected argument ++ usageText []
  | .surplusValue option value afterSettings =>
    s!"unexpected value '{highlighted value}' for '{option}' found; no more were expected"
      ++ usageText (option :: if afterSettings then [anySetting] else [])
  | .invalidValue setting value reason =>
    s!"invalid value '{highlighted value}' for '{setting.usage}': {reason}"

/-- The text that is written to the error output. -/
def Stop.report (stop : Stop) : String :=
  plain s!"error: {stop.explanation}\n\nFor more information, try '--help'.\n"

end RpcDispatch.Config
