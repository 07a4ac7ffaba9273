import Workcell.CommandLine.Reading
import Workcell.Text.Quoted

namespace Workcell.CommandLine

inductive ProgramOption
  | version
  | help
  deriving DecidableEq, Repr

inductive ExecOption
  | config
  | directory
  | sandbox
  | sandboxNetwork
  | container
  | containerImage
  | containerNetwork
  | mount
  | variable
  | redaction
  | timeout
  | verbose
  | telemetry
  | endpoint
  | dryRun
  | help
  deriving DecidableEq, Repr

def helpText : String := "Show this message and exit."

def programOptions : List (Known ProgramOption) := [
  ⟨.version, ["--version"], none, "Show the version and exit."⟩,
  ⟨.help, ["--help"], none, helpText⟩]

def execOptions : List (Known ExecOption) := [
  ⟨.config, ["--config"], some "FILE", "YAML runner settings file."⟩,
  ⟨.directory, ["--cwd"], some "DIRECTORY", "Working directory (defaults to the current directory)."⟩,
  ⟨.sandbox, ["--sandbox"], none, "Run inside rattler-sandbox."⟩,
  ⟨.sandboxNetwork, ["--sandbox-allow-network"], none, "Allow network access in the sandbox."⟩,
  ⟨.container, ["--container"], none, "Run inside a container."⟩,
  ⟨.containerImage, ["--container-image"], some "TEXT", "Container image (required with --container)."⟩,
  ⟨.containerNetwork, ["--container-allow-network"], none, "Allow network access in the container."⟩,
  ⟨.mount, ["--mount"], some "TEXT", "Extra container mount, PATH or PATH:ro."⟩,
  ⟨.variable, ["-e", "--env"], some "TEXT", "Environment variable KEY=VALUE."⟩,
  ⟨.redaction, ["--redact"], some "TEXT", "Replace FROM with TO in captured output (FROM=TO)."⟩,
  ⟨.timeout, ["--timeout"], some "FLOAT RANGE",
    "Kill the command after this many seconds.  [x>0]"⟩,
  ⟨.verbose, ["-v", "--verbose"], none, "Enable verbose output."⟩,
  ⟨.telemetry, ["--telemetry"], none, "Export tracing spans to the console."⟩,
  ⟨.endpoint, ["--otlp-endpoint"], some "TEXT",
    "Export tracing spans via OTLP/gRPC to this endpoint."⟩,
  ⟨.dryRun, ["--dry-run"], none, "Show the environment and command, do not execute."⟩,
  ⟨.help, ["--help"], none, helpText⟩]

def helpWidth : Nat := 78

/-- Words put into lines of at most some width; blanks inside a word stay, and a longer word has a line of
its own. `line` is the line begun so far. -/
def fill (width : Nat) (line : String) : List String → List String
  | [] => if line.isEmpty then [] else [line]
  | w :: r =>
    if line.isEmpty then fill width w r
    else
      let longer := line ++ " " ++ w
      if longer.length ≤ width then fill width longer r else line :: fill width w r

def paragraph (width : Nat) (text : String) : List String := fill width "" (Text.segments ' ' text)

def blanks (n : Nat) : String := String.ofList (List.replicate n ' ')

def definitions (rows : List (String × String)) : List String :=
  let column := (rows.map fun r => r.1.length).foldl max 0 + 2
  rows.flatMap fun (name, meaning) =>
    match paragraph (helpWidth - column - 2) meaning with
    | [] => [blanks 2 ++ name]
    | first :: more =>
      (blanks 2 ++ name ++ blanks (column - name.length) ++ first) ::
        more.map (blanks (column + 2) ++ ·)

def optionRows {α : Type} (known : List (Known α)) : List (String × String) :=
  known.map fun k => (", ".intercalate k.names ++ (match k.value with
    | some v => " " ++ v
    | none => ""), k.help)

def unlines (lines : List String) : String := String.join (lines.map (· ++ "\n"))

def helpOf (usage about : String) (sections : List (String × List (String × String))) : String :=
  unlines ([s!"Usage: {usage}", ""] ++ (paragraph (helpWidth - 2) about).map (blanks 2 ++ ·) ++
    sections.flatMap fun (title, rows) => ["", title] ++ definitions rows)

def programUsage : String := "main [OPTIONS] COMMAND [ARGS]..."

def execUsage : String := "main exec [OPTIONS] COMMAND..."

def execName : String := "exec"

def execAbout : String := "Execute COMMAND and append its output to conda_build.log."

def programHelp : String :=
  helpOf programUsage "buildrunner — run build scripts on the host, in a sandbox or in a container."
    [("Options:", optionRows programOptions), ("Commands:", [(execName, execAbout)])]

def execHelp : String := helpOf execUsage execAbout [("Options:", optionRows execOptions)]

def versionText : String := "buildrunner, version 0.1.0\n"

namespace UsageError

def header : UsageError → String
  | noSubcommand | noSuchOption _ | noSuchCommand _ =>
    unlines [s!"Usage: {programUsage}", "Try 'main --help' for help.", ""]
  | noCommand | badValue _ => unlines [s!"Usage: {execUsage}", "Try 'main exec --help' for help.", ""]
  | _ => ""

def complaint : UsageError → String
  | noWords => ""
  | noSuchOption name => s!"No such option {Text.quoted name}."
  | noSuchCommand name => s!"No such command {Text.quoted name}."
  | noSubcommand => "Missing command."
  | noCommand => "Missing argument 'COMMAND...'."
  | needsValue name => s!"Option {Text.quoted name} requires an argument."
  | takesNoValue name => s!"Option {Text.quoted name} does not take a value."
  | badValue b => s!"Invalid value for {b.option}: {b.text}"

/-- The text shown for a mistake. Without any words the help is shown. -/
def text : UsageError → String
  | noWords => programHelp
  | e => e.header ++ s!"Error: {e.complaint}\n"

end UsageError

end Workcell.CommandLine
