import Calculator.Proofs.Outcome

/-!
# Consulting a source

A source of values may have a state, and answer differently each time it is asked. A calculation
asks it for each variable once, in the order of first appearance, up to the first that it refuses.
Whether the evaluation would have failed is not found out before all answers are there.
-/

namespace Calculator

/-- The answer of a source for a name. -/
structure Answer where
  name : String
  value : Except SourceError Float

/-- Answers that are values. -/
def Answer.values (pairs : List (String × Float)) : List Answer :=
  pairs.map fun pair => ⟨pair.1, .ok pair.2⟩

/-- The answers for names in order. Either there is a value for each name, or the answers stop at
the first refusal. -/
inductive Answer.For (names : List String) :
    List Answer → Except SourceError (List (String × Float)) → Prop where
  | all (pairs : List (String × Float)) (hnames : pairs.map Prod.fst = names) :
    Answer.For names (values pairs) (.ok pairs)
  | refused (pairs : List (String × Float)) {name : String} {e : SourceError}
    (hnames : pairs.map Prod.fst ++ [name] <+: names) :
    Answer.For names (values pairs ++ [⟨name, .error e⟩]) (.error e)

namespace ValueSource

variable {σ : Type} {source : ValueSource (StateT σ Id)} {state last : σ} {answers : List Answer}

/-- A source is asked for names in a row: what it answers, and the state that it has then. -/
inductive Asked (source : ValueSource (StateT σ Id)) : σ → List Answer → σ → Prop where
  | nil (state : σ) : Asked source state [] state
  | cons {state next last : σ} (first : Answer) {others : List Answer}
    (hfirst : Id.run ((source first.name).run state) = (first.value, next))
    (behind : Asked source next others last) : Asked source state (first :: others) last

/-- A source that also lists the names for which it is asked. -/
def listing (source : ValueSource (StateT σ Id)) : ValueSource (StateT (σ × List String) Id) :=
  fun name state =>
    let (answer, next) := source name state.1
    (answer, (next, state.2 ++ [name]))

/-- The list of names is that of the answers, and changes none of them. -/
theorem Asked.listing (h : source.Asked state answers last) (listed : List String) :
    source.listing.Asked (state, listed) answers (last, listed ++ answers.map Answer.name) := by
  induction h generalizing listed with
  | nil state =>
    rw [List.map_nil, List.append_nil]
    exact .nil _
  | @cons state next last first others hfirst _ ih =>
    have hlisted : Id.run ((source.listing first.name).run (state, listed)) =
        (first.value, (next, listed ++ [first.name])) :=
      congrArg (fun result => (result.1, (result.2, listed ++ [first.name]))) hfirst
    have hbehind := ih (listed ++ [first.name])
    rw [List.append_assoc, List.singleton_append] at hbehind
    exact .cons first hlisted hbehind

/-- There are answers for all names, or up to a refusal. -/
theorem exists_asked (source : ValueSource (StateT σ Id)) (state : σ) (names : List String) :
    ∃ answers collected last, source.Asked state answers last ∧
      Answer.For names answers collected := by
  induction names generalizing state with
  | nil => exact ⟨_, _, state, .nil state, .all [] rfl⟩
  | cons name names ih =>
    cases hanswer : Id.run ((source name).run state) with
    | mk answer next =>
      cases answer with
      | error e =>
        exact ⟨_, _, next, .cons ⟨name, .error e⟩ hanswer (.nil next),
          .refused [] (List.prefix_append [name] names)⟩
      | ok value =>
        obtain ⟨answers, collected, last, hasked, hfor⟩ := ih next
        have hcons := Asked.cons ⟨name, .ok value⟩ hanswer hasked
        cases hfor with
        | all pairs hnames =>
          exact ⟨_, _, last, hcons, .all ((name, value) :: pairs) (by simp [hnames])⟩
        | refused pairs hnames =>
          exact ⟨_, _, last, hcons, .refused ((name, value) :: pairs)
            ((List.prefix_cons_inj name).mpr hnames)⟩

/-- Values are collected one after the other. -/
theorem run_collect_values {pairs : List (String × Float)} {others : List Answer}
    (h : source.Asked state (Answer.values pairs ++ others) last) (acc : Bindings)
    (names : List String) :
    ∃ next, source.Asked next others last ∧
      Id.run ((source.collect acc (pairs.map Prod.fst ++ names)).run state) =
        Id.run ((source.collect (pairs.foldl (fun b pair => b.insert pair.1 pair.2) acc)
          names).run next) := by
  induction pairs generalizing state acc with
  | nil => exact ⟨state, h, rfl⟩
  | cons pair pairs ih =>
    cases h with
    | cons _ hfirst behind =>
      obtain ⟨next, hnext, hrun⟩ := ih behind (acc.insert pair.1 pair.2)
      refine ⟨next, hnext, ?_⟩
      rw [List.foldl_cons, ← hrun, List.map_cons, List.cons_append, collect, StateT.run_bind,
        Id.run_bind, hfirst]

/-- Collecting values asks for each name once, up to the first refusal. -/
theorem run_collect {names : List String} {collected : Except SourceError (List (String × Float))}
    (hasked : source.Asked state answers last) (hfor : Answer.For names answers collected) :
    Id.run ((source.collect .empty names).run state) = (collected.map Bindings.ofList, last) := by
  cases hfor with
  | all pairs hnames =>
    rw [← List.append_nil (Answer.values pairs)] at hasked
    obtain ⟨next, hnext, hrun⟩ := run_collect_values hasked .empty []
    cases hnext
    rw [← hnames, ← List.append_nil (pairs.map Prod.fst), hrun]
    rfl
  | @refused pairs name e hnames =>
    obtain ⟨others, rfl⟩ := hnames
    rw [List.append_assoc]
    obtain ⟨next, hnext, hrun⟩ := run_collect_values hasked .empty ([name] ++ others)
    rw [hrun]
    cases hnext with
    | cons _ hfirst behind =>
      cases behind
      rw [List.singleton_append, collect, StateT.run_bind, Id.run_bind, hfirst]
      rfl

end ValueSource

/-- Inserting values for different names gives each name its own. -/
theorem Bindings.get?_foldl_insert {pairs : List (String × Float)}
    (hnodup : (pairs.map Prod.fst).Nodup) (b : Bindings) (name : String) (value : Float) :
    (pairs.foldl (fun b pair => b.insert pair.1 pair.2) b).get? name = some value ↔
      (name, value) ∈ pairs ∨ name ∉ pairs.map Prod.fst ∧ b.get? name = some value := by
  induction pairs generalizing b with
  | nil => simp
  | cons pair pairs ih =>
    obtain ⟨key, v⟩ := pair
    rw [List.map_cons, List.nodup_cons] at hnodup
    obtain ⟨hnew, hothers⟩ := hnodup
    rw [List.foldl_cons, ih hothers, get?_insert]
    by_cases heq : name = key
    · subst heq
      have hnot : (name, value) ∉ pairs := fun hmem =>
        hnew (List.mem_map.mpr ⟨_, hmem, rfl⟩)
      simp [hnew, hnot, eq_comm]
    · simp [heq]

/-- A table of values for different names has these values and no other. -/
theorem Bindings.get?_ofList {pairs : List (String × Float)}
    (hnodup : (pairs.map Prod.fst).Nodup) (name : String) (value : Float) :
    (ofList pairs).get? name = some value ↔ (name, value) ∈ pairs := by
  rw [ofList, get?_foldl_insert hnodup]
  simp

/-- An induction in the order in which repetitions are left out. What is left behind the first
element is not a part of the list, but shorter. -/
@[elab_as_elim]
theorem eraseDups_induction {motive : List String → Prop} (nil : motive [])
    (cons : ∀ name names, motive (names.filter fun other => !other == name) →
      motive (name :: names)) (names : List String) : motive names := by
  induction hlength : names.length using Nat.strongRecOn generalizing names with
  | _ n ih =>
    cases names with
    | nil => exact nil
    | cons name names =>
      refine cons name names (ih _ ?_ _ rfl)
      rw [← hlength]
      exact Nat.lt_succ_of_le (List.length_filter_le _ names)

/-- Without repetitions, each element is there once. -/
theorem nodup_eraseDups (names : List String) : names.eraseDups.Nodup := by
  induction names using eraseDups_induction with
  | nil => exact List.nodup_nil
  | cons name names ih =>
    rw [List.eraseDups_cons, List.nodup_cons]
    exact ⟨by simp, ih⟩

/-- The outcome of an expression with the values that were collected for it, or the refusal. -/
def Expression.outcomeOf (x : Expression) :
    Except SourceError (List (String × Float)) → Except Error Float
  | .ok pairs => (x.value (.ofList pairs)).mapError .evaluation
  | .error e => .error (.source e)

/-- What a source has answered for the variables of an expression decides its outcome. -/
theorem ValueSource.Asked.run_calculate {σ : Type} {source : ValueSource (StateT σ Id)}
    {state last : σ} {text : String} {x : Expression} {answers : List Answer}
    {collected : Except SourceError (List (String × Float))} (hx : Expression.ofText text = .ok x)
    (hasked : source.Asked state answers last)
    (hfor : Answer.For x.variableNames answers collected) :
    Id.run ((calculate text source).run state) = (x.outcomeOf collected, last) := by
  rw [calculate_eq, hx]
  simp only [Expression.evaluateFrom_eq, StateT.run_bind, Id.run_bind, run_collect hasked hfor]
  cases collected <;> rfl

/-- A calculation asks its source for nothing if the brackets do not match. Otherwise it asks for
each variable once, in the order of first appearance, up to the first that is refused. A refusal is
the error of the calculation, whatever else is wrong with the expression; without one, the postfix
order is evaluated with the answers and nothing else. -/
theorem calculate_asks_once {σ : Type} (text : String) (source : ValueSource (StateT σ Id))
    (state : σ) :
    let tokens := Token.scan text
    let names := (tokens.filterMap Token.variableName?).eraseDups
    let run := Id.run ((calculate text source).run state)
    let listed := Id.run ((calculate text source.listing).run (state, []))
    (Brackets.balanced tokens = false →
      run = (.error (.brackets .unbalanced), state) ∧ listed = (run.1, (state, []))) ∧
    (Brackets.balanced tokens = true →
      ∃ rpn answers collected, Postfix.ofTokens tokens = .ok rpn ∧
        names.Nodup ∧ Answer.For names answers collected ∧ source.Asked state answers run.2 ∧
        listed = (run.1, (run.2, answers.map Answer.name)) ∧
        match collected with
        | .error e => run.1 = .error (.source e)
        | .ok pairs =>
          (∀ name value,
            (Bindings.ofList pairs).get? name = some value ↔ (name, value) ∈ pairs) ∧
          run.1 = (StackMachine.evaluate (.ofList pairs) rpn).mapError .evaluation) := by
  intro tokens names run listed
  cases hx : Expression.ofText text with
  | error e =>
    obtain ⟨hbrackets, rfl⟩ := Expression.ofText_eq_error hx
    refine ⟨fun _ => ?_, fun hbalanced => absurd (hbrackets.symm.trans hbalanced) (by decide)⟩
    simp only [run, listed, calculate_eq, hx]
    exact ⟨rfl, rfl⟩
  | ok x =>
    obtain ⟨htokens, hrpn⟩ := Expression.ofText_eq_ok_iff.mp hx
    have hbalanced : Brackets.balanced tokens = true := Postfix.balanced_of_ofTokens hrpn
    refine ⟨fun hbrackets => absurd (hbrackets.symm.trans hbalanced) (by decide), fun _ => ?_⟩
    have hnames : x.variableNames = names := by
      rw [Expression.variableNames, htokens, Token.variableNames]
    obtain ⟨answers, collected, last, hasked, hfor⟩ :=
      ValueSource.exists_asked source state x.variableNames
    have hrun : run = (x.outcomeOf collected, last) := hasked.run_calculate hx hfor
    have hlisted : listed = (x.outcomeOf collected, (last, [] ++ answers.map Answer.name)) :=
      (hasked.listing []).run_calculate hx hfor
    rw [hrun]
    rw [hnames] at hfor
    refine ⟨x.rpn, answers, collected, hrpn, nodup_eraseDups _, hfor, hasked, hlisted, ?_⟩
    cases hfor with
    | refused => rfl
    | all _ hpairs => exact ⟨Bindings.get?_ofList (hpairs ▸ nodup_eraseDups _), rfl⟩

/-- The first variable has a value, and the second is refused. Neither the third nor the missing
operand at the end is ever looked at. -/
theorem calculate_asks_up_to_refusal :
    let source : ValueSource (StateT Nat Id) := fun name asked =>
      (if asked = 0 then .ok 2.0 else .error (.unbound name), asked + 1)
    let text := "sqrt(a) / b * (a - c) +"
    let run := Id.run ((calculate text source).run 0)
    Brackets.balanced (Token.scan text) = true ∧ run = (.error (.source (.unbound "b")), 2) ∧
      ∃ answers, source.Asked 0 answers 2 ∧ answers.map Answer.name = ["a", "b"] := by
  intro source text run
  have hbalanced : Brackets.balanced (Token.scan text) = true := by decide +kernel
  have hrun : run = (.error (.source (.unbound "b")), 2) := by
    have hscan : Token.scan text = [.function .sqrt, .opening, .name "a", .closing, .operator .div,
      .name "b", .operator .mul, .opening, .name "a", .operator .sub, .name "c", .closing,
      .operator .add] := by decide +kernel
    have hx : Expression.ofText text = .ok ⟨Token.scan text, [.name "a", .function .sqrt, .name "b",
      .operator .div, .name "a", .name "c", .operator .sub, .operator .mul, .operator .add]⟩ := by
      rw [Expression.ofText, hscan]
      rfl
    simp only [run]
    rw [calculate_eq, hx, hscan]
    rfl
  have hlisted : (Id.run ((calculate text source.listing).run (0, []))).2.2 = ["a", "b"] := by
    decide +kernel
  obtain ⟨rpn, answers, collected, -, -, -, hasked, hnames, -⟩ :=
    (calculate_asks_once text source 0).2 hbalanced
  refine ⟨hbalanced, hrun, answers, ?_, ?_⟩
  · rwa [show Id.run ((calculate text source).run 0) = _ from hrun] at hasked
  · rw [← hlisted, hnames]

end Calculator
