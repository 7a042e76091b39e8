import Calculator.CommandLine.Run
import Calculator.Proofs.Batches
import Calculator.Proofs.Entries

/-!
# Runs of a script

A run without prompts that evaluates a script has an exit status and an output that the lines of the
script and the given bindings decide. Options may be given in any order; the bindings among them
keep theirs, and of several for one name the last one counts. Each expression of the script has its
block in the output, also behind one that has no value, and the status tells whether all have one.
-/

namespace Calculator

namespace Bindings

/-- Of several values for a name in a list, the last one counts. -/
theorem get?_ofList_eq_lookup (pairs : List (String × Float)) (name : String) :
    (ofList pairs).get? name = pairs.reverse.lookup name := by
  induction pairs using List.reverseRecOn with
  | nil => rfl
  | append_singleton pairs pair ih =>
    rw [ofList, List.foldl_append, List.foldl_cons, List.foldl_nil, ← ofList, get?_insert, ih,
      List.reverse_append, List.reverse_singleton, List.singleton_append, List.lookup_cons]
    by_cases heq : name = pair.1
    · simp [heq]
    · simp [heq, beq_eq_false_iff_ne.mpr heq]

end Bindings

namespace Session

/-- Only the values of the presets and what is shown decide about the lines. -/
theorem Options.block_congr {o p : Options} (hshow : o.showRpn = p.showRpn)
    (hpresets : ∀ name, o.presets.get? name = p.presets.get? name) :
    o.outcome = p.outcome ∧ o.block = p.block := by
  have hsource : (ValueSource.ofBindings o.presets : ValueSource Id) = .ofBindings p.presets := by
    funext name
    rw [ValueSource.ofBindings, ValueSource.ofBindings, hpresets]
  have houtcome : o.outcome = p.outcome := by
    funext line
    rw [outcome, outcome, hsource]
  refine ⟨houtcome, ?_⟩
  funext line
  rw [block, block, houtcome, rpnLine?, rpnLine?, hshow]

/-- Nothing is counted as failed if all outcomes are values. -/
theorem failed_counting_eq_zero_iff {s : Session} (hs : s.summary.failed = 0)
    (outcomes : List (Except Error Float)) :
    (s.counting outcomes).summary.failed = 0 ↔
      ∀ outcome ∈ outcomes, ∃ value, outcome = .ok value := by
  have hvalue : ∀ outcome : Except Error Float,
      outcome.isOk = true ↔ ∃ value, outcome = .ok value := by
    intro outcome
    cases outcome with
    | error e => simp [Except.isOk, Except.toBool]
    | ok value => simp [Except.isOk, Except.toBool]
  simp [counting, hs, List.countP_eq_zero, hvalue]

end Session

namespace Arguments

open Session (expressionLines)

/-- How a run without prompts ends that evaluates a script, and what it writes. -/
theorem run_script {a : Arguments} {path script : String}
    {readScript? : String → StateT Console Id (Option String)}
    (hcontent : a.content = some path) (hfile : a.file = true) (hprompt : a.noPrompt = true)
    (hread : readScript? path = pure (some script))
    (interact : Session → StateT Console Id (Session × Except Fault Unit))
    (unread written : List UInt8) :
    let expressions := expressionLines (Text.lines script)
    Id.run ((a.run interact readScript?).run ⟨unread, written, none⟩) =
      (.completed (a.session.counting (expressions.map a.session.options.outcome)).summary,
        ⟨unread, written ++ (expressions.map a.session.options.block).flatMap Console.encode,
          none⟩) := by
  intro expressions
  have hsession : a.session.options.prompt = false := by simp [session, hprompt]
  have hbatch := Session.run_batch_unprompted hsession (Text.lines script) unread written
  simp only [run, hcontent, hfile, hread, if_true, pure_bind]
  rw [StateT.run_bind, Id.run_bind, hbatch]
  rfl

/-- An option of a run, written out. -/
inductive Given where
  | file
  | showRpn
  | noPrompt
  | binding (text : String)
  deriving DecidableEq

namespace Given

/-- The arguments that an option is written as. -/
def words : Given → List String
  | file => ["--file"]
  | showRpn => ["--postfix"]
  | noPrompt => ["--no-prompt"]
  | binding text => ["--var", text]

/-- The text of a binding. -/
def binding? : Given → Option String
  | binding text => some text
  | _ => none

end Given

/-- What options ask for whose bindings are read as some entries. -/
def ofGiven (given : List Given) (entries : List (String × Float)) : Arguments where
  file := decide (.file ∈ given)
  showRpn := decide (.showRpn ∈ given)
  noPrompt := decide (.noPrompt ∈ given)
  bindings := entries

/-- A text that is read as a binding does not look like an option. -/
theorem head?_of_parseEntry {text : String} {entry : String × Float}
    (h : Bindings.parseEntry text = .ok entry) : text.toList.head? ≠ some '-' := by
  obtain ⟨name, value⟩ := entry
  obtain ⟨left, right, -, rfl, hleft, -, -, hname⟩ := Bindings.padded_of_parseEntry h
  intro hhead
  have hmem : '-' ∈ left.toList ++ ['='] := by
    rw [String.toList_append, String.toList_append,
      List.head?_append_of_ne_nil _ (by simp)] at hhead
    exact List.mem_of_mem_head? hhead
  rcases List.mem_append.mp hmem with hbefore | hsign
  · rcases Bindings.isBlank_or_isAlphanum hname hleft hbefore with hblank | hletter
    · exact absurd hblank (by decide)
    · exact absurd hletter (by decide)
  · exact absurd hsign (by decide)

/-- A text that does not look like an option is the value of the option in front of it. -/
theorem take_awaited {a : Arguments} {text : String} (hhead : text.toList.head? ≠ some '-')
    (option : ValueOption) :
    Progress.take { arguments := a, awaiting := some option } text =
      (a.setValue option text).map fun b => { arguments := b } := by
  simp only [Progress.take]
  rw [if_neg Bool.false_ne_true]
  split
  · rename_i hdash _
    rw [hdash] at hhead
    exact absurd rfl hhead
  · rename_i hoption _
    cases hoption
    cases a.setValue option text <;> rfl
  all_goals contradiction

/-- A binding is taken from two arguments, and stands behind those that were given before it. -/
theorem take_binding {a : Arguments} {text : String} {entry : String × Float}
    (h : Bindings.parseEntry text = .ok entry) :
    ["--var", text].foldlM Progress.take { arguments := a } =
      .ok { arguments := { a with bindings := a.bindings ++ [entry] } } := by
  have hoption : Progress.take { arguments := a } "--var" =
      .ok { arguments := a, awaiting := some .binding } := rfl
  have hset : a.setValue .binding text = .ok { a with bindings := a.bindings ++ [entry] } := by
    rw [setValue, h]
  simp only [List.foldlM_cons, List.foldlM_nil, hoption, Except.ok_bind,
    take_awaited (head?_of_parseEntry h), hset]
  rfl

/-- A flag is taken if it has not been given before, and changes nothing else. -/
theorem take_flag {given : List Given} {g : Given} (hflag : g.binding? = none) (hnew : g ∉ given)
    (entries : List (String × Float)) :
    g.words.foldlM Progress.take { arguments := ofGiven given entries } =
      .ok { arguments := ofGiven (given ++ [g]) entries } := by
  have htake : ∀ a : Arguments,
      Progress.take { arguments := a } "--file" = ({} : Progress).update (a.setFlag .file) ∧
      Progress.take { arguments := a } "--postfix" = ({} : Progress).update (a.setFlag .showRpn) ∧
      Progress.take { arguments := a } "--no-prompt" =
        ({} : Progress).update (a.setFlag .noPrompt) := fun _ => ⟨rfl, rfl, rfl⟩
  obtain ⟨hfile, hshow, hprompt⟩ := htake (ofGiven given entries)
  cases g with
  | file =>
    rw [Given.words, List.foldlM_cons, hfile]
    simp [setFlag, setOnce, ofGiven, hnew, Progress.update, Except.map]
  | showRpn =>
    rw [Given.words, List.foldlM_cons, hshow]
    simp [setFlag, setOnce, ofGiven, hnew, Progress.update, Except.map]
  | noPrompt =>
    rw [Given.words, List.foldlM_cons, hprompt]
    simp [setFlag, setOnce, ofGiven, hnew, Progress.update, Except.map]
  | binding text => cases hflag

/-- Options, each flag among them at most once, are taken in any order, and the bindings in the
order in which they are given. -/
theorem take_given {given : List Given} {entries : List (String × Float)}
    (honce : (given.filter fun g => g.binding?.isNone).Nodup)
    (haccepted : (given.filterMap Given.binding?).map Bindings.parseEntry = entries.map .ok) :
    (given.flatMap Given.words).foldlM Progress.take {} =
      .ok { arguments := ofGiven given entries } := by
  induction given using List.reverseRecOn generalizing entries with
  | nil =>
    have hentries : entries = [] := by simpa using haccepted.symm
    rw [hentries]
    rfl
  | append_singleton given g ih =>
    rw [List.filter_append, List.nodup_append] at honce
    obtain ⟨hbefore, -, hnew⟩ := honce
    rw [List.filterMap_append, List.map_append, eq_comm, List.map_eq_append_iff] at haccepted
    obtain ⟨first, last, rfl, hfirst, hlast⟩ := haccepted
    rw [List.flatMap_append, List.flatMap_singleton, List.foldlM_append, ih hbefore hfirst.symm,
      Except.ok_bind]
    cases hbinding : g.binding? with
    | none =>
      have hnone : last = [] := by simpa [List.filterMap_cons, hbinding] using hlast
      have hmem : g ∉ given := by
        intro hmem
        exact hnew g (by simp [hmem, hbinding]) g (by simp [hbinding]) rfl
      rw [take_flag hbinding hmem, hnone, List.append_nil]
    | some text =>
      rw [List.filterMap_cons_some hbinding, List.filterMap_nil, List.map_singleton,
        List.map_eq_singleton_iff] at hlast
      obtain ⟨entry, rfl, hentry⟩ := hlast
      cases g with
      | binding other =>
        cases hbinding
        rw [Given.words, take_binding hentry.symm]
        simp [ofGiven]
      | _ => cases hbinding

/-- Options with the content behind them are read as what they ask for. -/
theorem parse_given {given : List Given} {entries : List (String × Float)}
    (honce : (given.filter fun g => g.binding?.isNone).Nodup)
    (haccepted : (given.filterMap Given.binding?).map Bindings.parseEntry = entries.map .ok)
    (path : String) :
    parse (given.flatMap Given.words ++ ["--", path]) =
      .ok { ofGiven given entries with content := some path } := by
  rw [parse, List.foldlM_append, take_given honce haccepted]
  rfl

end Arguments

open Arguments Session

/-- A run of a script without prompts ends with status zero exactly if each expression of the script
has a value with the given bindings, of which the last one for a name counts, and with one
otherwise. It reads nothing, and its output has for each expression in order the postfix order, if
it is to be shown and the brackets match, and the value or the error. An expression without a value
does not keep those behind it from their blocks. -/
theorem script_run {given : List Given} {entries : List (String × Float)} {table : Bindings}
    {path script : String} {readScript? : String → StateT Console Id (Option String)}
    (hfile : .file ∈ given) (hprompt : .noPrompt ∈ given)
    (honce : (given.filter fun g => g.binding?.isNone).Nodup)
    (haccepted : (given.filterMap Given.binding?).map Bindings.parseEntry = entries.map .ok)
    (hlast : ∀ name, table.get? name = entries.reverse.lookup name)
    (hread : readScript? path = pure (some script))
    (interact : Session → StateT Console Id (Session × Except Fault Unit))
    (unread written : List UInt8) :
    let options : Options :=
      { presets := table, prompt := false, showRpn := decide (.showRpn ∈ given) }
    let expressions := expressionLines (Text.lines script)
    ∃ a, Arguments.parse (given.flatMap Given.words ++ ["--", path]) = .ok a ∧
      let result := Id.run ((a.run interact readScript?).run ⟨unread, written, none⟩)
      (result.1.status = 0 ↔
        ∀ line ∈ expressions, ∃ value, Id.run (calculate line (.ofBindings table)) = .ok value) ∧
      (result.1.status = 0 ∨ result.1.status = 1) ∧
      result.2 =
        ⟨unread, written ++ (expressions.map options.block).flatMap Console.encode, none⟩ := by
  intro options expressions
  have hpresets : ∀ name, (Bindings.ofList entries).get? name = options.presets.get? name := by
    intro name
    rw [hlast, Bindings.get?_ofList_eq_lookup]
  refine ⟨_, parse_given honce haccepted path, ?_⟩
  generalize ha : ({ ofGiven given entries with content := some path } : Arguments) = a
  intro result
  have hoptions : a.session.options.showRpn = options.showRpn ∧
      ∀ name, a.session.options.presets.get? name = options.presets.get? name := by
    rw [← ha]
    exact ⟨rfl, hpresets⟩
  obtain ⟨houtcome, hblock⟩ := Options.block_congr hoptions.1 hoptions.2
  have hresult : result =
      (.completed (a.session.counting (expressions.map options.outcome)).summary,
        ⟨unread, written ++ (expressions.map options.block).flatMap Console.encode, none⟩) := by
    rw [← houtcome, ← hblock]
    subst ha
    exact run_script rfl (decide_eq_true hfile) (decide_eq_true hprompt) hread interact unread
      written
  rw [hresult, Ending.status]
  refine ⟨?_, ?_, rfl⟩
  · have hvalues := failed_counting_eq_zero_iff (s := a.session) rfl
      (expressions.map options.outcome)
    rw [List.forall_mem_map] at hvalues
    exact Iff.trans (by simp) hvalues
  · split
    · exact Or.inl rfl
    · exact Or.inr rfl

/-- Two bindings of one name among flags, and a script with a failing line in front of one that has
a value. -/
theorem script_run_of_quotient :
    let given : List Given :=
      [.binding "x = 1", .showRpn, .file, .binding "y=0", .binding " x=2 ", .noPrompt]
    let entries := [("x", 1.0), ("y", 0.0), ("x", 2.0)]
    let table := Bindings.ofList entries
    let script := "x / y\n# note\n\n x + 1\r\n(z"
    let readScript? : String → StateT Console Id (Option String) := fun _ => pure (some script)
    let interact : Session → StateT Console Id (Session × Except Fault Unit) := interact
    (given.filterMap Given.binding?).map Bindings.parseEntry = entries.map .ok ∧
      (∀ name, table.get? name = entries.reverse.lookup name) ∧
      ∃ a, Arguments.parse ["--var", "x = 1", "--postfix", "--file", "--var", "y=0", "--var",
          " x=2 ", "--no-prompt", "--", "-script"] = .ok a ∧
        let result := Id.run ((a.run interact readScript?).run ⟨[10], [], none⟩)
        result.1.status = 1 ∧ result.2 = ⟨[10], Console.encode
          ("postfix: x y /\nError: division by zero\npostfix: x 1 +\n=> 3\n" ++
            "Error: unbalanced brackets\n"), none⟩ := by
  intro given entries table script readScript? interact
  have haccepted : (given.filterMap Given.binding?).map Bindings.parseEntry = entries.map .ok := by
    decide +kernel
  have hlast : ∀ name, table.get? name = entries.reverse.lookup name :=
    Bindings.get?_ofList_eq_lookup entries
  have hfile : .file ∈ given := by decide
  have hread : readScript? "-script" = pure (some script) := rfl
  obtain ⟨a, hparse, hstatus, hcases, hconsole⟩ :=
    script_run hfile (by decide) (by decide) haccepted hlast hread interact [10] []
  refine ⟨haccepted, hlast, a, hparse, ?_, ?_⟩
  · refine hcases.resolve_left fun hzero => ?_
    obtain ⟨value, hvalue⟩ := hstatus.mp hzero "x / y" (by decide +kernel)
    have hfails : (Id.run (calculate "x / y" (.ofBindings table))).isOk = false := by
      decide +kernel
    rw [hvalue] at hfails
    cases hfails
  · exact hconsole.trans (by decide +kernel)

end Calculator
