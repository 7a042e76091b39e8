import Calculator.CommandLine.Arguments

/-!
# A run of the program

The arguments say what a run works on: the lines of a script, a single line, or the lines that are
typed. How it ends decides the exit status.
-/

namespace Calculator

/-- How a run ends. -/
inductive Ending where
  /-- All lines were evaluated, with these counts. -/
  | completed (summary : Session.Summary)
  /-- Reading or writing failed. -/
  | broken (fault : Fault)
  /-- The script could not be read. -/
  | unreadable (path : String)
  deriving DecidableEq

namespace Ending

/-- The exit status: zero if all lines were evaluated and each one has a value. -/
def status : Ending → Nat
  | completed summary => if summary.failed = 0 then 0 else 1
  | broken _ | unreadable _ => 1

/-- What is written to the error output at the end. -/
def complaint? : Ending → Option String
  | completed _ => none
  | broken fault => some fault.message
  | unreadable path =>
    some ("Failed to read the input file '" ++ path ++ "'. Perhaps this file does not exist?")

end Ending

/-- The exit status of a run whose arguments are refused. -/
def misuseStatus : Nat := 2

/-- The exit status of a run whose log filter is torn: it ends before it reads or writes. -/
def tornFilterStatus : Nat := 101

/-- The name and the version of the program. -/
def versionText : String := "postfixer 0.1.0\n"

/-- How the program is used. -/
def helpText : String :=
  "postfixer evaluates arithmetic expressions with + - * /, parentheses, variables and the\n" ++
  "functions sin, cos and sqrt. Without CONTENTS it reads expressions from standard input\n" ++
  "until exit.\n\n" ++
  "Usage: postfixer [OPTIONS] [CONTENTS]\n\n" ++
  "Arguments:\n" ++
  "  [CONTENTS]  An expression, or a path when --file is given\n\n" ++
  "Options:\n" ++
  "  -f, --file               Read expressions from a file, one per line\n" ++
  "  -v, --var <NAME=VALUE>   Bind a variable before evaluation; may be repeated\n" ++
  "  -p, --postfix            Print the postfix form of each expression before its result\n" ++
  "      --no-prompt          Fail on unbound variables instead of asking for their values\n" ++
  "      --log-level <LEVEL>  Log filter used when RUST_LOG is not set [default: warn]\n" ++
  "  -h, --help               Print help\n" ++
  "  -V, --version            Print version\n"

namespace Arguments

variable {m : Type → Type} [Monad m] [Journal m] [Terminal m]

/-- How a run ends whose session came to an end. -/
def conclude : Session × Except Fault Unit → m Ending
  | (s, .ok ()) => return .completed s.summary
  | (_, .error fault) => do
    Journal.note (.broken fault)
    return .broken fault

/-- Does what the arguments ask for, with an interactive loop and a reader of scripts. -/
def run (a : Arguments) (interact : Session → m (Session × Except Fault Unit))
    (readScript? : String → m (Option String)) : m Ending := do
  match a.content with
  | none => conclude (← interact a.session)
  | some text =>
    if a.file then
      match ← readScript? text with
      | some script => conclude (← a.session.batch (Text.lines script))
      | none => return .unreadable text
    else conclude (← a.session.batch [text])

end Arguments

end Calculator
