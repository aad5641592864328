/-
This file defines the program.  The frames of one client come from the standard input, the replies
go to the standard output and the log goes to the error output.
-/

import RpcDispatch.Daemon
import RpcDispatch.Launch

namespace RpcDispatch.Program

/-! ### Surroundings -/

/-- The variables of the environment that the program looks at. -/
def variableNames : List String :=
  Config.Setting.all.map (·.environmentName) ++ ["XDG_RUNTIME_DIR", "TMPDIR"]

def readEnvironment : IO Config.Environment :=
  variableNames.filterMapM fun name => do
    return (← IO.getEnv name).map fun value => (name, Text.Utf8.encode value)

/-- The number of the user on whose behalf a process with the given status runs. -/
def userOf? (status : String) : Option String := do
  let line ← (Text.splitAt '\n' status.toList).find? (['U', 'i', 'd', ':'].isPrefixOf ·)
  let number ← (Text.splitAt '\t' line)[2]?
  return String.ofList number

def readUser : IO String := do
  try
    return (userOf? (← IO.FS.readFile "/proc/self/status")).getD "0"
  catch _ =>
    return "0"

/-! ### Serving -/

/-- The program has no entrypoints, so it answers the built-in methods alone. -/
def daemon (config : Config) : Daemon Unit :=
  .start (.create ⟨builtinRegistry, none⟩ (.start () fun _ _ => none)) config.frameLimit

/-- Writes the reports of the daemon to the log. -/
def writeReports (setup : Log.Setup) (daemon : Daemon Unit) :
    IO (Log.Setup × Daemon Unit) := do
  let mut log := setup
  for (thread, notice) in daemon.reports do
    let (line, written) := log.write thread.name notice.record
    if let some line := line then IO.eprintln line
    log := written
  return (log, { daemon with reports := [] })

/-- Writes the replies of the first stream. -/
partial def writeReplies (output : IO.FS.Stream) (daemon : Daemon Unit) : IO (Daemon Unit) := do
  match daemon.reply? 0 with
  | none => return daemon
  | some (text, daemon) =>
    output.write ⟨(Wire.textFrame text).encode.toArray⟩
    output.flush
    writeReplies output daemon

/-- Serves the first stream to its end. -/
partial def serve (setup : Log.Setup) (input output : IO.FS.Stream) (daemon : Daemon Unit) :
    IO Unit := do
  let (setup, daemon) ← writeReports setup (← writeReplies output daemon)
  let some stream := daemon.streams[0]? | return
  if stream.isOpen then
    let bytes ← input.read (USize.ofNat (Wire.Frame.lacking stream.unread))
    if bytes.isEmpty then serve setup input output (daemon.close 0)
    else serve setup input output (daemon.receive 0 bytes.toList)

/-- Serves a client as long as there is one. -/
def runDaemon (launched : Launched) : IO Unit := do
  let input ← IO.getStdin
  let output ← IO.getStdout
  serve launched.log input output (daemon launched.config).connect

end RpcDispatch.Program

open RpcDispatch in
/-- The program with its arguments.  The standard streams stand in for the socket, so no files are
in its way. -/
def main (arguments : List String) : IO UInt32 := do
  let environment ← Program.readEnvironment
  let user ← Program.readUser
  match launch (arguments.map Text.Utf8.encode) environment user .empty with
  | .error exit =>
    IO.print exit.output
    IO.eprint exit.errors
    return exit.code
  | .ok launched =>
    Program.runDaemon launched
    return 0
