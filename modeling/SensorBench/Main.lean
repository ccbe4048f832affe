import SensorBench.Cli.CommandLine
import SensorBench.Cli.Execute
import Std.Time.DateTime.Timestamp

/-!
# The program

Reads the command line and the settings file, prints what the command leaves, and
writes its file.
-/

set_option autoImplicit false

namespace SensorBench.Cli

/-- The content of a file. -/
def contentOf (path : String) : IO FileContent := do
  try
    let bytes ← IO.FS.readBinFile path
    return match String.fromUTF8? bytes with
      | some s => .text s
      | none => .binary
  catch _ => return .missing

/-- Words for the noise of a run. -/
def noiseWords : IO (Nat → UInt32) := do
  let words ← (List.replicate 256 ()).mapM fun _ => IO.rand 0 0xffffffff
  return Hal.Signal.cycle (words.map (·.toUInt32)).toArray

/-- The present moment. -/
def present : IO Moment := do
  let t ← Std.Time.Timestamp.now
  return .since1970 t.toNanosecondsSinceUnixEpoch.toInt

/-- Whether a file could be written. -/
def deposited (d : Deposit) : IO Bool := do
  try
    IO.FS.writeFile d.path d.text
    return true
  catch _ => return false

/-- A command carried out. The result is the exit code. -/
def carryOut (c : Command) : IO UInt32 := do
  let content ← match c.config? with
    | some path => contentOf path
    | none => pure .missing
  let o := c.output content (← noiseWords) (← present)
  IO.print o.printed
  let written ← match o.deposit with
    | some d => deposited d
    | none => pure true
  match o.finalFault written with
  | some f =>
    IO.eprintln ("Error: " ++ f.message)
    return 1
  | none => return 0

end SensorBench.Cli

open SensorBench Cli in
/-- The program. -/
def main (args : List String) : IO UInt32 := do
  match Invocation.read args with
  | .ok i => carryOut i.command
  | .error f =>
    match f with
    | .help | .version =>
      IO.println f.message
      return 0
    | f =>
      IO.eprintln f.message
      return 2
