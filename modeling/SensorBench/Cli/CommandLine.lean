import SensorBench.Cli.Invocation

/-!
# Command lines

The words of a command line are read from left to right on two levels: options of
the program, a command, and options of the command. Options for the whole program
are welcome on both levels, and the inner level wins. The value of an option is
looked at only when the next option begins or the level ends, so an unknown word
after a bad value is the fault that is found.
-/

set_option autoImplicit false

namespace SensorBench.Cli

/-- An option without a value. -/
inductive Switch where
  | verbose
  | quiet
  | json
  | scenarios
  | help
  | version
  deriving DecidableEq, Repr

/-- An option with a value. -/
inductive Setting where
  | logStyle
  | config
  | takes
  | drops
  | faults
  | report
  | metricsPort
  deriving DecidableEq, Repr

/-- The name of a command. -/
inductive CommandName where
  | run
  | list
  | validate
  deriving DecidableEq, Repr

/-- The level of a command line: the program's own or that of a command. -/
inductive Level where
  | program
  | command (c : CommandName)
  deriving DecidableEq, Repr

/-- What is wrong with a command line, or what it asks for in place of a
command. -/
inductive UsageFault where
  | unknownWord (word : String)
  | unknownCommand (word : String)
  | noValue (s : Setting)
  | badChoice (s : Setting) (value : String)
  | badValue (s : Setting) (value : String)
  | surplusValue (s : Switch)
  | repeated (long : String)
  | quietAndVerbose
  | noCommand
  | nothing
  | help
  | version
  deriving DecidableEq, Repr

/-- An option. -/
inductive Opt where
  | switch (s : Switch)
  | setting (s : Setting)
  deriving DecidableEq, Repr

/-- How an option is written: a word after two dashes, and perhaps a letter after
one. -/
structure Spelling where
  opt : Opt
  long : String
  short : Option Char

namespace Switch

/-- The long spelling. -/
def long : Switch → String
  | verbose => "verbose"
  | quiet => "quiet"
  | json => "json"
  | scenarios => "scenarios"
  | help => "help"
  | version => "version"

/-- The spelling of a switch. -/
def spelling (s : Switch) (short : Option Char) : Spelling := ⟨.switch s, s.long, short⟩

end Switch

namespace Setting

/-- The long spelling. -/
def long : Setting → String
  | logStyle => "log-format"
  | config => "config"
  | takes => "filter"
  | drops => "exclude"
  | faults => "fault"
  | report => "report"
  | metricsPort => "metrics-port"

/-- The spelling of a setting. -/
def spelling (s : Setting) (short : Option Char) : Spelling := ⟨.setting s, s.long, short⟩

end Setting

namespace CommandName

/-- The commands. -/
def all : List CommandName := [run, list, validate]

/-- The word for a command. -/
def word : CommandName → String
  | run => "run"
  | list => "list"
  | validate => "validate"

/-- The command with a word. -/
def ofWord? (w : String) : Option CommandName := all.find? (·.word = w)

/-- The options of a command alone. -/
def spellings : CommandName → List Spelling
  | run => [Setting.config.spelling (some 'c'), Setting.takes.spelling (some 'f'),
      Setting.drops.spelling none, Setting.faults.spelling none, Switch.json.spelling none,
      Setting.report.spelling none, Setting.metricsPort.spelling none]
  | list => [Switch.scenarios.spelling none, Switch.json.spelling none]
  | validate => [Setting.config.spelling (some 'c'), Switch.json.spelling none]

end CommandName

namespace Level

/-- The options on every level. -/
def shared : List Spelling := [Switch.verbose.spelling (some 'v'),
  Switch.quiet.spelling (some 'q'), Setting.logStyle.spelling none,
  Switch.help.spelling (some 'h')]

/-- The options on a level. -/
def spellings : Level → List Spelling
  | program => shared ++ [Switch.version.spelling (some 'V')]
  | command c => shared ++ c.spellings

/-- The option with a long spelling. -/
def long? (l : Level) (name : String) : Option Opt :=
  (l.spellings.find? (·.long = name)).map (·.opt)

/-- The option with a letter. -/
def short? (l : Level) (c : Char) : Option Opt :=
  (l.spellings.find? (·.short = some c)).map (·.opt)

end Level

/-- The options given on one level. -/
structure Given where
  verbose : Nat := 0
  quiet : Bool := false
  json : Bool := false
  scenarios : Bool := false
  logStyle : Option LogStyle := none
  config : Option String := none
  takes : List String := []
  drops : List String := []
  faults : List Fault := []
  report : Option String := none
  metricsPort : Option Nat := none
  deriving DecidableEq, Repr

namespace Given

/-- The highest count of a repeated switch. -/
def verboseLimit : Nat := 255

/-- A switch added. All but one may be given only once. -/
def raise (g : Given) (s : Switch) : Except UsageFault Given :=
  match s with
  | .verbose => .ok { g with verbose := min (g.verbose + 1) verboseLimit }
  | .quiet => if g.quiet then .error (.repeated s.long) else .ok { g with quiet := true }
  | .json => if g.json then .error (.repeated s.long) else .ok { g with json := true }
  | .scenarios =>
    if g.scenarios then .error (.repeated s.long) else .ok { g with scenarios := true }
  | .help => .error .help
  | .version => .error .version

/-- A value that may be given only once. -/
def once {α : Type} (s : Setting) (old : Option α) (new : Except UsageFault α) :
    Except UsageFault (Option α) :=
  match old with
  | some _ => .error (.repeated s.long)
  | none => new.map some

/-- A path, which may not be empty. -/
def path (s : Setting) (value : String) : Except UsageFault String :=
  if value = "" then .error (.noValue s) else .ok value

/-- The parts of a value between commas. -/
def parts (value : String) : List String := (value.toList.splitOn ',').map String.ofList

/-- An integer with an optional sign. -/
def integer? (value : String) : Option Int :=
  match value.toList with
  | '-' :: cs => (Text.decimal? cs).map fun n => -(n : Int)
  | '+' :: cs => (Text.decimal? cs).map Int.ofNat
  | cs => (Text.decimal? cs).map Int.ofNat

/-- A number of sixteen bits. -/
def portNumber (value : String) : Except UsageFault Nat :=
  match integer? value with
  | some n => if 0 ≤ n ∧ n < 65536 then .ok n.toNat else .error (.badValue .metricsPort value)
  | none => .error (.badValue .metricsPort value)

/-- The fault with a name. -/
def fault (value : String) : Except UsageFault Fault :=
  match Fault.ofName? value with
  | some f => .ok f
  | none => .error (.badValue .faults value)

/-- The log style with a name. -/
def style (value : String) : Except UsageFault LogStyle :=
  match LogStyle.ofName? value with
  | some l => .ok l
  | none => .error (.badChoice .logStyle value)

/-- A setting added with its value. -/
def take (g : Given) (s : Setting) (value : String) : Except UsageFault Given := do
  match s with
  | .logStyle => .ok { g with logStyle := ← once s g.logStyle (style value) }
  | .config => .ok { g with config := ← once s g.config (path s value) }
  | .takes => .ok { g with takes := g.takes ++ parts value }
  | .drops => .ok { g with drops := g.drops ++ parts value }
  | .faults => .ok { g with faults := g.faults ++ (← (parts value).mapM fault) }
  | .report => .ok { g with report := ← once s g.report (path s value) }
  | .metricsPort => .ok { g with metricsPort := ← once s g.metricsPort (portNumber value) }

/-- The inner level's word on what is shared by both levels. -/
def beneath (inner outer : Given) : Given :=
  { inner with
    verbose := if inner.verbose = 0 then outer.verbose else inner.verbose
    quiet := inner.quiet || outer.quiet
    logStyle := inner.logStyle <|> outer.logStyle }

end Given

/-- A setting whose option has been read: nothing, one that waits for its value, or
one whose value has not been looked at. -/
inductive Pending where
  | nothing
  | awaits (s : Setting)
  | holds (s : Setting) (value : String)
  deriving DecidableEq, Repr

/-- The reading of one level so far. -/
structure Scan where
  given : Given
  pending : Pending

namespace Scan

/-- Nothing read yet. -/
def start : Scan := ⟨{}, .nothing⟩

/-- Whether the next word may be a value. -/
def isAwaiting (s : Scan) : Bool :=
  match s.pending with
  | .awaits _ => true
  | _ => false

/-- The pending setting looked at. -/
def settle (s : Scan) : Except UsageFault Given :=
  match s.pending with
  | .nothing => .ok s.given
  | .awaits k => .error (.noValue k)
  | .holds k value => s.given.take k value

/-- A switch read. -/
def raise (s : Scan) (k : Switch) : Except UsageFault Scan := do
  .ok ⟨← (← s.settle).raise k, .nothing⟩

/-- A setting read with its value attached. -/
def give (s : Scan) (k : Setting) (value : String) : Except UsageFault Scan := do
  .ok ⟨← (← s.settle).take k value, .nothing⟩

/-- A setting read without a value. -/
def begin (s : Scan) (k : Setting) : Except UsageFault Scan := do
  .ok ⟨← s.settle, .awaits k⟩

/-- A word read that is no option: the value of the setting that waits for one. -/
def hold? (s : Scan) (value : String) : Option Scan :=
  match s.pending with
  | .awaits k => some { s with pending := .holds k value }
  | _ => none

/-- A long option: its name, and its value after an equals sign. -/
def long (l : Level) (body : List Char) (s : Scan) : Except UsageFault Scan :=
  let name := body.takeWhile (· != '=')
  let rest := body.dropWhile (· != '=')
  match l.long? (String.ofList name), rest with
  | none, _ => .error (.unknownWord (String.ofList ('-' :: '-' :: name)))
  | some (.switch k), [] => s.raise k
  | some (.switch k), _ :: _ => .error (.surplusValue k)
  | some (.setting k), [] => s.begin k
  | some (.setting k), _ :: value => s.give k (String.ofList value)

/-- Letters after one dash. A setting takes the letters after its own as its value,
an equals sign between them left out. -/
def short (l : Level) : List Char → Scan → Except UsageFault Scan
  | [], s => .ok s
  | c :: rest, s => match l.short? c with
    | none => .error (.unknownWord (String.ofList ['-', c]))
    | some (.switch k) => do short l rest (← s.raise k)
    | some (.setting k) => match rest with
      | [] => s.begin k
      | '=' :: value => s.give k (String.ofList value)
      | value => s.give k (String.ofList value)

/-- Words after `help`: they have to name a command. -/
def helpOn : List String → UsageFault
  | [] | ["help"] => .help
  | [w] => if (CommandName.ofWord? w).isSome then .help else .unknownCommand w
  | w :: extra :: _ => .unknownCommand (if (CommandName.ofWord? w).isSome then extra else w)

/-- A word that is neither an option nor a value. -/
def stray : Level → String → UsageFault
  | .program, w => .unknownCommand w
  | .command _, w => .unknownWord w

/-- A word after a lone pair of dashes, where no command is looked for. -/
def strayAfterDashes (l : Level) (w : String) : UsageFault :=
  if l = .program ∧ ((CommandName.ofWord? w).isSome ∨ w = "help") then .unknownWord w
  else stray l w

/-- The words of one level read. The result ends with the command that was found
and the words after it. -/
def words (l : Level) : List String → Scan →
    Except UsageFault (Scan × Option (CommandName × List String))
  | [], s => .ok (s, none)
  | w :: rest, s =>
    if l = .program ∧ !s.isAwaiting ∧ w = "help" then .error (helpOn rest)
    else match if l = .program ∧ !s.isAwaiting then CommandName.ofWord? w else none with
    | some c => .ok (s, some (c, rest))
    | none => match w.toList with
      | ['-', '-'] => match rest with
        | [] => .ok (s, none)
        | extra :: _ => .error (strayAfterDashes l extra)
      | '-' :: '-' :: body => do words l rest (← s.long l body)
      | '-' :: c :: letters => do words l rest (← s.short l (c :: letters))
      | _ => match s.hold? w with
        | some s => words l rest s
        | none => .error (stray l w)

end Scan

/-- What is given on a level, unless it contradicts itself. -/
def checked (g : Given) : Except UsageFault Given :=
  if g.quiet ∧ 0 < g.verbose then .error .quietAndVerbose else .ok g

/-- The settings file that is reviewed unless another is named. -/
def defaultConfig : String := "sensors-vts.toml"

/-- The command that the options given for it describe. -/
def commandOf (c : CommandName) (g : Given) : Command :=
  match c with
  | .run => .run {
      config := g.config, takes := g.takes, drops := g.drops, faults := g.faults, json := g.json
      report := g.report, metricsPort := g.metricsPort.getD 0 }
  | .list => .list { scenarios := g.scenarios, json := g.json }
  | .validate => .validate { config := g.config.getD defaultConfig, json := g.json }

/-- A command line read. The inner level is read to its end before the outer one is
looked at as a whole. -/
def Invocation.read (args : List String) : Except UsageFault Invocation := do
  match ← Scan.words .program args .start with
  | (outer, none) =>
    let outer ← outer.settle
    .error (if outer = {} then .nothing else .noCommand)
  | (outer, some (c, rest)) =>
    let (inner, _) ← Scan.words (.command c) rest .start
    let inner ← inner.settle.bind checked
    let outer ← outer.settle.bind checked
    let g := inner.beneath outer
    .ok ⟨g.verbose, g.quiet, g.logStyle.getD .pretty, commandOf c g⟩

/-- A fault of a command line in words. -/
def UsageFault.message : UsageFault → String
  | .unknownWord w => "unexpected argument '" ++ w ++ "'"
  | .unknownCommand w => "unknown command '" ++ w ++ "'"
  | .noValue s => "option '--" ++ s.long ++ "' needs a value"
  | .badChoice s v | .badValue s v => "bad value '" ++ v ++ "' for option '--" ++ s.long ++ "'"
  | .surplusValue s => "option '--" ++ s.long ++ "' takes no value"
  | .repeated long => "option '--" ++ long ++ "' is given twice"
  | .quietAndVerbose => "options '--quiet' and '--verbose' contradict each other"
  | .noCommand | .nothing | .help => usage
  | .version => "sensors-vts 0.1.0"
where
  /-- How the program is used. -/
  usage : String :=
    "usage: sensors-vts [-v|-q] [--log-format STYLE] COMMAND\n" ++
      "  run       [-c FILE] [-f GLOBS] [--exclude GLOBS] [--fault NAMES] [--json]\n" ++
      "            [--report FILE] [--metrics-port N]\n" ++
      "  list      [--scenarios] [--json]\n" ++
      "  validate  [-c FILE] [--json]"

end SensorBench.Cli
