import SensorBench.Cli.Execute

/-!
# Folders

A folder of text files in which commands can be run without a file system: what a
command reads is looked up in it, and what a command writes is put into it.
-/

set_option autoImplicit false

namespace SensorBench.Cli

/-- The parts of a path that lead somewhere. -/
def pathParts (path : String) : List String :=
  ((path.toList.splitOn '/').map String.ofList).filter fun p => p ≠ "" ∧ p ≠ "."

/-- Files by the parts of their paths; the first one with a path counts. -/
abbrev Folder := List (List String × String)

namespace Folder

/-- The text of a file. -/
def text? (f : Folder) (path : String) : Option String := f.lookup (pathParts path)

/-- The content of a file. -/
def content (f : Folder) (path : String) : FileContent :=
  match f.text? path with
  | some s => .text s
  | none => .missing

/-- Whether parts of a path lead to a folder: the folder itself, or one that holds a
file. -/
def isFolder (f : Folder) (parts : List String) : Bool :=
  parts.isEmpty || f.any fun (name, _) => parts.isPrefixOf name.dropLast

/-- A file written, if it has a name and its folder exists. -/
def write? (f : Folder) (d : Deposit) : Option Folder :=
  let parts := pathParts d.path
  if f.isFolder parts.dropLast ∧ !f.isFolder parts then some ((parts, d.text) :: f) else none

end Folder

/-- A command run in a folder: what it prints, the fault in the end, and the folder
afterwards. -/
def Command.runIn (c : Command) (f : Folder) (words : Nat → UInt32) (started : Moment) :
    String × Option CommandFault × Folder :=
  let content := match c.config? with
    | some path => f.content path
    | none => .missing
  let o := c.output content words started
  match o.deposit.map f.write? with
  | none => (o.printed, o.finalFault true, f)
  | some (some f) => (o.printed, o.finalFault true, f)
  | some none => (o.printed, o.finalFault false, f)

end SensorBench.Cli
