import Calculator.Session

/-!
# Command line arguments

The arguments are taken from left to right. One that starts with a dash is an option or a cluster
of one-letter options, `--` ends the options, and anything else is the content. An option that
takes a value finds it behind an equals sign, behind its letter, or in the next argument.
-/

namespace Calculator

/-- What the command line asks for. -/
structure Arguments where
  /-- An expression, or the path of a script. -/
  content : Option String := none
  /-- Whether the content is the path of a script. -/
  file : Bool := false
  /-- The given bindings, in order. -/
  bindings : List (String × Float) := []
  /-- Whether the postfix order is shown. -/
  showRpn : Bool := false
  /-- Whether values are never asked for. -/
  noPrompt : Bool := false
  /-- The log filter. -/
  logFilter : Option String := none

namespace Arguments

/-- Why the arguments ask for no work. -/
inductive Stop where
  /-- Help is asked for. -/
  | help
  /-- The version is asked for. -/
  | version
  /-- The arguments are refused. -/
  | misuse
  deriving DecidableEq

/-- The options that take a value. -/
inductive ValueOption where
  | binding
  | logFilter
  deriving DecidableEq

/-- The options that take no value. -/
inductive Flag where
  | file
  | showRpn
  | noPrompt
  | help
  | version
  deriving DecidableEq

/-- The arguments taken so far. -/
structure Progress where
  arguments : Arguments := {}
  /-- The option whose value must come next. -/
  awaiting : Option ValueOption := none
  /-- Whether the options have ended. -/
  optionsEnded : Bool := false

/-- Sets a switch that may be set once. -/
def setOnce (already : Bool) (a : Arguments) : Except Stop Arguments :=
  if already then .error .misuse else .ok a

/-- Takes a flag. Help and version end the work at once, all others may be given once. -/
def setFlag (a : Arguments) : Flag → Except Stop Arguments
  | .file => setOnce a.file { a with file := true }
  | .showRpn => setOnce a.showRpn { a with showRpn := true }
  | .noPrompt => setOnce a.noPrompt { a with noPrompt := true }
  | .help => .error .help
  | .version => .error .version

/-- Takes the value of an option. Bindings may be given repeatedly, a log filter once. -/
def setValue (a : Arguments) (option : ValueOption) (value : String) : Except Stop Arguments :=
  match option with
  | .binding =>
    match Bindings.parseEntry value with
    | .ok entry => .ok { a with bindings := a.bindings ++ [entry] }
    | .error _ => .error .misuse
  | .logFilter => setOnce a.logFilter.isSome { a with logFilter := some value }

/-- Takes the content, which may be given once. -/
def setContent (a : Arguments) (text : String) : Except Stop Arguments :=
  setOnce a.content.isSome { a with content := some text }

/-- The option that a letter stands for. -/
def short? : Char → Option (Flag ⊕ ValueOption)
  | 'f' => some (.inl .file)
  | 'p' => some (.inl .showRpn)
  | 'h' => some (.inl .help)
  | 'V' => some (.inl .version)
  | 'v' => some (.inr .binding)
  | _ => none

/-- The option with a long name. -/
def long? : String → Option (Flag ⊕ ValueOption)
  | "file" => some (.inl .file)
  | "postfix" => some (.inl .showRpn)
  | "no-prompt" => some (.inl .noPrompt)
  | "help" => some (.inl .help)
  | "version" => some (.inl .version)
  | "var" => some (.inr .binding)
  | "log-level" => some (.inr .logFilter)
  | _ => none

namespace Progress

/-- Goes on with other arguments. -/
def update (p : Progress) (a : Except Stop Arguments) : Except Stop Progress :=
  a.map fun a => { p with arguments := a, awaiting := none }

/-- Takes the letters behind a single dash. A letter that takes a value takes all that follows it,
less an equals sign in front; if nothing follows, the value is the next argument. -/
def takeShort (p : Progress) : List Char → Except Stop Progress
  | [] => .ok p
  | c :: cs =>
    match short? c, cs with
    | some (.inl flag), _ => do (← p.update (p.arguments.setFlag flag)).takeShort cs
    | some (.inr option), [] => .ok { p with awaiting := some option }
    | some (.inr option), '=' :: value =>
      p.update (p.arguments.setValue option (String.ofList value))
    | some (.inr option), value => p.update (p.arguments.setValue option (String.ofList value))
    | none, _ => .error .misuse

/-- Takes what stands behind two dashes: a name, and behind an equals sign a value. -/
def takeLong (p : Progress) (cs : List Char) : Except Stop Progress :=
  let name := String.ofList (cs.takeWhile fun c => c != '=')
  match long? name, cs.dropWhile fun c => c != '=' with
  | some (.inl flag), [] => p.update (p.arguments.setFlag flag)
  | some (.inr option), [] => .ok { p with awaiting := some option }
  | some (.inr option), _ :: value =>
    p.update (p.arguments.setValue option (String.ofList value))
  | _, _ => .error .misuse

/-- Takes one argument. A single dash is a value like any other. -/
def take (p : Progress) (argument : String) : Except Stop Progress :=
  if p.optionsEnded then p.update (p.arguments.setContent argument)
  else
    match argument.toList, p.awaiting with
    | '-' :: _ :: _, some _ => .error .misuse
    | _, some option => p.update (p.arguments.setValue option argument)
    | ['-', '-'], none => .ok { p with optionsEnded := true }
    | '-' :: '-' :: cs, none => p.takeLong cs
    | '-' :: c :: cs, none => p.takeShort (c :: cs)
    | _, none => p.update (p.arguments.setContent argument)

end Progress

/-- Reads the arguments. No option may be left without its value. -/
def parse (arguments : List String) : Except Stop Arguments := do
  let p ← arguments.foldlM Progress.take {}
  if p.awaiting.isSome then throw .misuse else return p.arguments

/-- The session that the arguments describe; of several values for a name the last one counts. -/
def session (a : Arguments) : Session :=
  ⟨{ presets := .ofList a.bindings, prompt := !a.noPrompt, showRpn := a.showRpn }, {}⟩

end Arguments

end Calculator
