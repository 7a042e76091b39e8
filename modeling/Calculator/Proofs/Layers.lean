import Calculator.Proofs.Consultation

/-!
# Tables in front of a source

Several tables may stand in front of a source, one in front of the other. A name is looked up in
them from the front, and the source is asked only for what is in none of them. So the tables act
together as a single one, and whoever watches the source sees it asked for the other names alone.
-/

namespace Calculator

namespace Bindings

/-- The entries of several tables; the first table that has a name decides its value. -/
def union (tables : List Bindings) : Bindings :=
  ⟨tables.flatMap entries⟩

/-- A name has in the union the value of the first table that has it. -/
theorem get?_union (tables : List Bindings) (name : String) :
    (union tables).get? name = tables.findSome? fun table => table.get? name := by
  induction tables with
  | nil => rfl
  | cons table tables ih =>
    simp only [get?, union, List.flatMap_cons, List.lookup_append, List.findSome?_cons] at ih ⊢
    rw [ih]
    cases table.entries.lookup name <;> rfl

/-- A name has no value in the union if it is in none of the tables. -/
theorem isNone_get?_union (tables : List Bindings) (name : String) :
    ((union tables).get? name).isNone = tables.all fun table => (table.get? name).isNone := by
  rw [get?_union]
  induction tables with
  | nil => rfl
  | cons table tables ih =>
    rw [List.findSome?_cons, List.all_cons, ← ih]
    cases table.get? name <;> rfl

end Bindings

open Bindings

namespace ValueSource

section Layers

variable {m : Type → Type} [Monad m] [Journal m]

/-- A source behind tables, the first of which is in front of all others. -/
def layered (tables : List Bindings) (fallback : ValueSource m) : ValueSource m :=
  tables.foldr withPresets fallback

variable [LawfulMonad m] [QuietJournal m]

/-- The union of the tables answers, and the source behind them for all other names. -/
theorem layered_eq (tables : List Bindings) (fallback : ValueSource m) (name : String) :
    fallback.layered tables name =
      match (union tables).get? name with
      | some value => pure (.ok value)
      | none => fallback name := by
  rw [get?_union]
  induction tables with
  | nil => rfl
  | cons table tables ih =>
    rw [layered, List.foldr_cons, ← layered, withPresets, List.findSome?_cons]
    cases table.get? name with
    | none => exact ih
    | some value => simp [QuietJournal.note_eq]

/-- In front of a table, the tables are together a single one. -/
theorem layered_ofBindings {tables : List Bindings} {last single : Bindings}
    (h : ∀ name, single.get? name = (tables ++ [last]).findSome? fun table => table.get? name) :
    (ofBindings last).layered tables = (ofBindings single : ValueSource m) := by
  funext name
  have hsingle : single.get? name = ((union tables).get? name).or (last.get? name) := by
    simp [h, get?_union]
  simp only [layered_eq, ofBindings, hsingle]
  cases (union tables).get? name <;> rfl

end Layers

section Watching

variable {σ : Type} {source : ValueSource (StateT σ Id)} {state last : σ} {answers : List Answer}

/-- A source that is asked for nothing stays as it is. -/
theorem asked_nil_iff : source.Asked state [] last ↔ last = state := by
  constructor
  · intro h
    cases h
    rfl
  · rintro rfl
    exact .nil last

/-- A source is asked for a first name, and then for the others. -/
theorem asked_cons_iff {first : Answer} {others : List Answer} :
    source.Asked state (first :: others) last ↔
      ∃ next, Id.run ((source first.name).run state) = (first.value, next) ∧
        source.Asked next others last := by
  constructor
  · intro h
    cases h with
    | cons _ hfirst behind => exact ⟨_, hfirst, behind⟩
  · rintro ⟨next, hfirst, hbehind⟩
    exact .cons first hfirst hbehind

/-- The answers of a source behind tables: a name in the tables has its value, and for the others in
turn the source is asked. -/
theorem asked_layered_iff (tables : List Bindings) :
    (source.layered tables).Asked state answers last ↔
      (∀ answer ∈ answers, ∀ value, (union tables).get? answer.name = some value →
        answer.value = .ok value) ∧
      source.Asked state (answers.filter fun a => ((union tables).get? a.name).isNone) last := by
  induction answers generalizing state with
  | nil => simp [asked_nil_iff]
  | cons first answers ih =>
    rw [asked_cons_iff, layered_eq, List.forall_mem_cons]
    cases hvalue : (union tables).get? first.name with
    | none =>
      rw [List.filter_cons_of_pos (by simp [hvalue]), asked_cons_iff]
      simp only [ih]
      constructor
      · rintro ⟨next, hfirst, hpresets, hbehind⟩
        exact ⟨⟨by simp, hpresets⟩, next, hfirst, hbehind⟩
      · rintro ⟨⟨-, hpresets⟩, next, hfirst, hbehind⟩
        exact ⟨next, hfirst, hpresets, hbehind⟩
    | some value =>
      rw [List.filter_cons_of_neg (by simp [hvalue])]
      simp only [ih]
      constructor
      · rintro ⟨next, hfirst, hpresets, hbehind⟩
        obtain ⟨hok, rfl⟩ := Prod.mk.inj hfirst
        refine ⟨⟨?_, hpresets⟩, hbehind⟩
        rintro other heq
        cases heq
        exact hok.symm
      · rintro ⟨⟨hok, hpresets⟩, hbehind⟩
        exact ⟨state, congrArg (·, state) (hok value rfl).symm, hpresets, hbehind⟩

end Watching

end ValueSource

/-- Of the answers for names, those remain for which `p` holds, if it holds where one is refused. -/
theorem Answer.For.filter {names : List String} {answers : List Answer}
    {collected : Except SourceError (List (String × Float))}
    (h : Answer.For names answers collected) (p : String → Bool)
    (hrefused : ∀ answer ∈ answers, ∀ e, answer.value = .error e → p answer.name = true) :
    Answer.For (names.filter p) (answers.filter fun answer => p answer.name)
      (collected.map fun pairs => pairs.filter fun pair => p pair.1) := by
  have hvalues : ∀ pairs, (values pairs).filter (fun answer => p answer.name) =
      values (pairs.filter fun pair => p pair.1) := fun pairs => List.filter_map
  have hfirsts : ∀ pairs : List (String × Float), (pairs.map Prod.fst).filter p =
      (pairs.filter fun pair => p pair.1).map Prod.fst := fun pairs => List.filter_map
  cases h with
  | all pairs hnames =>
    rw [hvalues, ← hnames, hfirsts]
    exact .all _ rfl
  | @refused pairs name e hnames =>
    have hname : p name = true := hrefused ⟨name, .error e⟩ (by simp) e rfl
    have hprefix := hnames.filter p
    rw [List.filter_append, hfirsts, List.filter_cons_of_pos hname, List.filter_nil] at hprefix
    rw [List.filter_append, hvalues, List.filter_cons_of_pos (by simpa using hname),
      List.filter_nil]
    exact .refused _ hprefix

/-- Values for names, those in the tables among them, are those of the tables and, behind them, the
values for the other names. -/
theorem Bindings.get?_ofList_layered {tables : List Bindings} {pairs : List (String × Float)}
    (hnodup : (pairs.map Prod.fst).Nodup)
    (hpresets : ∀ pair ∈ pairs, ∀ value, (union tables).get? pair.1 = some value → pair.2 = value)
    {name : String} (hname : name ∈ pairs.map Prod.fst) :
    (ofList pairs).get? name =
      (union (tables ++
        [ofList (pairs.filter fun pair => ((union tables).get? pair.1).isNone)])).get? name := by
  obtain ⟨⟨_, value⟩, hmem, rfl⟩ := List.mem_map.mp hname
  rw [(get?_ofList hnodup _ value).mpr hmem, get?_union, List.findSome?_append, ← get?_union]
  cases hpreset : (union tables).get? _ with
  | some other =>
    have hsame : value = other := hpresets _ hmem other hpreset
    rw [Option.some_or, hsame]
  | none =>
    have hothers : ((pairs.filter fun pair => ((union tables).get? pair.1).isNone).map
        Prod.fst).Nodup := hnodup.sublist (List.filter_sublist.map Prod.fst)
    have hkept := (get?_ofList hothers _ value).mpr (List.mem_filter.mpr ⟨hmem, by simp [hpreset]⟩)
    simp [hkept]

/-- With the answers of a source behind tables, an expression comes to what it does with the tables
and, behind them, the answers that are not theirs. -/
theorem Expression.outcomeOf_layered {text : String} {x : Expression} (hx : ofText text = .ok x)
    {tables : List Bindings} {answers : List Answer}
    {collected : Except SourceError (List (String × Float))}
    (hfor : Answer.For x.variableNames answers collected)
    (hpresets : ∀ answer ∈ answers, ∀ value, (union tables).get? answer.name = some value →
      answer.value = .ok value) :
    x.outcomeOf collected =
      match collected.map fun pairs => pairs.filter fun pair =>
        ((union tables).get? pair.1).isNone with
      | .error e => .error (.source e)
      | .ok pairs => (x.value (union (tables ++ [.ofList pairs]))).mapError .evaluation := by
  cases hfor with
  | refused => rfl
  | all pairs hnames =>
    have hnodup : (pairs.map Prod.fst).Nodup := hnames ▸ nodup_eraseDups _
    have hvalues : ∀ pair ∈ pairs, ∀ value,
        (union tables).get? pair.1 = some value → pair.2 = value := by
      intro pair hmem value hpreset
      have hanswer : (⟨pair.1, .ok pair.2⟩ : Answer) ∈ Answer.values pairs :=
        List.mem_map.mpr ⟨pair, hmem, rfl⟩
      exact Except.ok.inj (hpresets _ hanswer value hpreset)
    have hvalue := value_congr hx fun name hname =>
      Bindings.get?_ofList_layered hnodup hvalues (hnames ▸ hname)
    simp only [outcomeOf, hvalue, Except.map]

/-- A calculation asks a source behind tables for the variables that are in none of the tables, each
once, in the order of first appearance, up to the first that it refuses; and for nothing if the
brackets do not match. The tables and the answers act as a single table in which the first table
that has a name decides it. The same holds if the source is a table itself. -/
theorem calculate_layered (text : String) (tables : List Bindings) :
    (∀ (σ : Type) (source : ValueSource (StateT σ Id)) (state : σ),
      let tokens := Token.scan text
      let names := (Token.variableNames tokens).filter fun name =>
        tables.all fun table => (table.get? name).isNone
      let run := Id.run ((calculate text (source.layered tables)).run state)
      let listed := Id.run ((calculate text (source.listing.layered tables)).run (state, []))
      (Brackets.balanced tokens = false →
        run = (.error (.brackets .unbalanced), state) ∧ listed = (run.1, (state, []))) ∧
      (Brackets.balanced tokens = true →
        ∃ rpn answers collected, Postfix.ofTokens tokens = .ok rpn ∧
          names.Nodup ∧ Answer.For names answers collected ∧ source.Asked state answers run.2 ∧
          listed = (run.1, (run.2, answers.map Answer.name)) ∧
          run.1 = match collected with
            | .error e => .error (.source e)
            | .ok pairs => (StackMachine.evaluate (union (tables ++ [.ofList pairs])) rpn).mapError
                .evaluation)) ∧
    ∀ last single : Bindings,
      (∀ name, single.get? name = (tables ++ [last]).findSome? fun table => table.get? name) →
        Id.run (calculate text ((ValueSource.ofBindings last).layered tables)) =
          Id.run (calculate text (.ofBindings single)) := by
  constructor
  · intro σ source state tokens names run listed
    cases hx : Expression.ofText text with
    | error e =>
      obtain ⟨hbrackets, rfl⟩ := Expression.ofText_eq_error hx
      refine ⟨fun _ => ?_, fun hbalanced => absurd (hbrackets.symm.trans hbalanced) (by decide)⟩
      simp only [run, listed, calculate_eq, hx]
      exact ⟨rfl, rfl⟩
    | ok x =>
      obtain ⟨htokens, hrpn⟩ := Expression.ofText_eq_ok_iff.mp hx
      have hbalanced : Brackets.balanced tokens = true := Postfix.balanced_of_ofTokens hrpn
      refine ⟨fun hbrackets => absurd (hbrackets.symm.trans hbalanced) (by decide), fun _ => ?_⟩
      obtain ⟨answers, collected, last, hasked, hfor⟩ :=
        ValueSource.exists_asked (source.layered tables) state x.variableNames
      have hrun : run = (x.outcomeOf collected, last) := hasked.run_calculate hx hfor
      obtain ⟨hpresets, hbehind⟩ := (ValueSource.asked_layered_iff tables).mp hasked
      have hlisting := (ValueSource.asked_layered_iff tables).mpr
        ⟨hpresets, hbehind.listing []⟩
      have hlisted : listed = (x.outcomeOf collected, (last, _)) :=
        hlisting.run_calculate hx hfor
      have hrefused : ∀ answer ∈ answers, ∀ e, answer.value = .error e →
          ((union tables).get? answer.name).isNone = true := by
        intro answer hmem e herror
        rw [Option.isNone_iff_eq_none, Option.eq_none_iff_forall_ne_some]
        intro value hpreset
        rw [hpresets answer hmem value hpreset] at herror
        cases herror
      have hunknown := hfor.filter (fun name => ((union tables).get? name).isNone) hrefused
      simp only [isNone_get?_union, Expression.variableNames, htokens] at hunknown
      have houtcome := Expression.outcomeOf_layered hx hfor hpresets
      simp only [isNone_get?_union] at houtcome hbehind hlisted
      rw [hrun]
      exact ⟨x.rpn, _, _, hrpn, (nodup_eraseDups _).filter _, hunknown, hbehind, hlisted, houtcome⟩
  · intro last single h
    rw [ValueSource.layered_ofBindings h]

/-- Two tables that both have `a`. The source behind them is asked for `c` and refuses `d`, so it is
never asked for `e`. A table in its place gives all three, and its `b` is never looked at. -/
theorem calculate_layered_of_two :
    let tables := [ofList [("a", 1.0)], ofList [("a", 9.0), ("b", 2.0)]]
    let source : ValueSource (StateT Nat Id) := fun name asked =>
      (if asked = 0 then .ok 4.0 else .error (.unbound name), asked + 1)
    let last := ofList [("b", 7.0), ("c", 4.0), ("d", 8.0), ("e", 2.0)]
    let text := "a + c * b - d / e"
    Brackets.balanced (Token.scan text) = true ∧
      Id.run ((calculate text (source.layered tables)).run 0) =
        (.error (.source (.unbound "d")), 2) ∧
      (∃ answers, source.Asked 0 answers 2 ∧ answers.map Answer.name = ["c", "d"]) ∧
      (∀ name, (union (tables ++ [last])).get? name =
        (tables ++ [last]).findSome? fun table => table.get? name) ∧
      Id.run (calculate text ((ValueSource.ofBindings last).layered tables)) = .ok 5.0 := by
  intro tables source last text
  have hbalanced : Brackets.balanced (Token.scan text) = true := by decide +kernel
  have hscan : Token.scan text = [.name "a", .operator .add, .name "c", .operator .mul, .name "b",
    .operator .sub, .name "d", .operator .div, .name "e"] := by decide +kernel
  have hx : Expression.ofText text = .ok ⟨Token.scan text, [.name "a", .name "c", .name "b",
      .operator .mul, .operator .add, .name "d", .name "e", .operator .div, .operator .sub]⟩ := by
    rw [Expression.ofText, hscan]
    rfl
  have hrun : Id.run ((calculate text (source.layered tables)).run 0) =
      (.error (.source (.unbound "d")), 2) := by
    rw [calculate_eq, hx, hscan]
    rfl
  have hlisted : (Id.run ((calculate text (source.listing.layered tables)).run (0, []))).2.2 =
      ["c", "d"] := by decide +kernel
  have hsingle : Id.run (calculate text (.ofBindings (union (tables ++ [last])))) = .ok 5.0 := by
    rw [calculate_eq, hx, hscan]
    rfl
  obtain ⟨hsource, htable⟩ := calculate_layered text tables
  obtain ⟨rpn, answers, collected, -, -, -, hasked, hnames, -⟩ := (hsource Nat source 0).2 hbalanced
  rw [hrun] at hasked
  rw [hnames] at hlisted
  exact ⟨hbalanced, hrun, ⟨answers, hasked, hlisted⟩, get?_union _,
    (htable last _ (get?_union _)).trans hsingle⟩

end Calculator
