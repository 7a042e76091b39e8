import Calculator.CommandLine.Directive

/-!
# Log filters

A log filter is a list of directives. Each one sets how much is shown of some events, and of the
directives that apply to an event the most specific decides.
-/

namespace Calculator

/-- A log filter. -/
abbrev LogFilter := List Directive

namespace LogFilter

/-- Reads a log filter: directives separated by commas. The first one that is refused decides. -/
def parse (text : String) : Except Directive.Refusal LogFilter :=
  ((text.splitOn ",").filter fun piece => !piece.isEmpty).mapM fun piece =>
    Directive.parse piece.toList

/-- The filter that shows errors and warnings. -/
def standard : LogFilter :=
  [{ rank := Level.warn.rank }]

/-- The filter of the first text that is not malformed, else the standard one; none if the text
that decides is torn. -/
def ofTexts? : List String → Option LogFilter
  | [] => some standard
  | text :: texts =>
    match parse text with
    | .ok filter => some filter
    | .error .malformed => ofTexts? texts
    | .error .torn => none

/-- The filter in force: that of the environment, else that of the command line, else the
standard one. -/
def choose? (environment option : Option String) : Option LogFilter :=
  ofTexts? (environment.toList ++ option.toList)

/-- Whether an event is shown: the most specific directive that applies to it decides, and of
equally specific ones the last. -/
def shows (filter : LogFilter) (event : Event) : Bool :=
  let candidates := filter.filter fun d => d.appliesTo event
  let decisive := candidates.foldl (fun best d =>
    match best with
    | none => some d
    | some other => if d.atLeastAsSpecific other then some d else some other) none
  decisive.any fun d => event.level.rank ≤ d.rank

end LogFilter

end Calculator
