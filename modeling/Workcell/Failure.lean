import Workcell.Number.Basic
import Workcell.Schema.Problem
import Workcell.Errno

namespace Workcell

inductive RunnerError
  | general (detail : String)
  | configuration (detail : String)
  | toolMissing (tool remediation : String)
  | unsupportedPlatform (platform remediation : String)
  | spawn (detail : String)
  | timedOut (after : Number)
  deriving DecidableEq, Repr

namespace RunnerError

def withRemedy (statement remediation : String) : String :=
  if remediation.isEmpty then statement else s!"{statement}. {remediation}"

def detail : RunnerError → String
  | general detail | configuration detail | spawn detail => detail
  | toolMissing tool remediation => withRemedy s!"{tool} executable not found or not working" remediation
  | unsupportedPlatform platform remediation => withRemedy s!"not supported on {platform}" remediation
  | timedOut after => s!"Execution timed out after {after.text}s"

def message (e : RunnerError) : String :=
  if e.detail.isEmpty then "Runner error" else s!"Runner error: {e.detail}"

end RunnerError

def MarkupError.mostDigits : Nat := 4300

/-- Markup that cannot be shown: a closing tag that closes nothing, and its position, a tag that names a colour by
numbers one of which is missing or too long, or a handler whose parameters have no value. -/
inductive MarkupError
  | unmatched (tag : String) (position : Nat)
  | nothingToClose (tag : String) (position : Nat)
  | notNumber (component : String)
  | badParameters (fault : String)
  deriving DecidableEq, Repr

def MarkupError.message : MarkupError → String
  | unmatched tag position => s!"closing tag '{tag}' at position {position} doesn't match any open tag"
  | nothingToClose tag position => s!"closing tag '{tag}' at position {position} has nothing to close"
  | notNumber component =>
    if component.isEmpty then "invalid literal for int() with base 10: ''"
    else s!"Exceeds the limit ({mostDigits} digits) for integer string conversion: value has " ++
      s!"{component.length} digits; use sys.set_int_max_str_digits() to increase the limit"
  | badParameters fault => fault

inductive Failure
  | runner (e : RunnerError)
  | invalid (problems : List Problem)
  | cancelled
  | nulInPath
  | markup (e : MarkupError)
  deriving DecidableEq, Repr

def nulMessage : String := "embedded null byte"

end Workcell
