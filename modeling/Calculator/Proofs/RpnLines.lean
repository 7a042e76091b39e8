import Calculator.Proofs.Recognition
import Calculator.Proofs.Replies

/-!
# Reading the postfix order back

The line with the postfix order of an expression has the texts of its tokens with single spaces
between them. No token is written with a space and each is the token of its own text. So the tokens
can be read back from the line, and expressions with the same line have the same value.
-/

namespace Calculator

/-- The parts of a text between its spaces. A text without a space is a single part. -/
def Text.parts (text : String) : List String :=
  (text.split ' ').toList.map String.Slice.copy

namespace Token

variable {tokens others : List Token}

/-- The parts of what tokens are written as are their texts; if there are none, it is one empty
part. -/
theorem parts_spaced (hlexical : ∀ token ∈ tokens, ofText? token.text = some token) :
    Text.parts (spaced tokens) = if tokens = [] then [""] else tokens.map text := by
  have hspace : ∀ part ∈ tokens.map text, ' ' ∉ part.toList := by
    intro part hpart hmem
    obtain ⟨token, htoken, rfl⟩ := List.mem_map.mp hpart
    have hvisible := isBlank_of_ofText? (hlexical token htoken) hmem
    exact absurd hvisible (by decide)
  have hsplit := String.toList_split_intercalate hspace
  simp only [List.map_eq_nil_iff] at hsplit
  exact hsplit

/-- Each part of what tokens are written as is one of them, in order. -/
theorem map_ofText?_parts (hlexical : ∀ token ∈ tokens, ofText? token.text = some token)
    (hne : tokens ≠ []) : (Text.parts (spaced tokens)).map ofText? = tokens.map some := by
  rw [parts_spaced hlexical, if_neg hne, List.map_map]
  exact List.map_congr_left hlexical

/-- An empty part is no token, so no token at all can be read back too. -/
theorem filterMap_ofText?_parts (hlexical : ∀ token ∈ tokens, ofText? token.text = some token) :
    (Text.parts (spaced tokens)).filterMap ofText? = tokens := by
  by_cases hne : tokens = []
  · rw [parts_spaced hlexical, if_pos hne, hne]
    rfl
  · have hparts := congrArg (List.filterMap id) (map_ofText?_parts hlexical hne)
    simpa [List.filterMap_map] using hparts

/-- Different tokens are written differently. -/
theorem spaced_inj (hlexical : ∀ token ∈ tokens, ofText? token.text = some token)
    (hothers : ∀ token ∈ others, ofText? token.text = some token)
    (h : spaced tokens = spaced others) : tokens = others := by
  rw [← filterMap_ofText?_parts hlexical, h, filterMap_ofText?_parts hothers]

end Token

/-- In postfix order there are only tokens of their own texts. -/
theorem Expression.ofText?_of_mem_rpn {text : String} {x : Expression} (hx : ofText text = .ok x)
    {token : Token} (hmem : token ∈ x.rpn) : Token.ofText? token.text = some token :=
  Token.ofText?_of_mem_scan (mem_scan_of_mem_rpn hx hmem)

open Session

/-- A line with the postfix order belongs to an expression that has this postfix order. -/
theorem Session.Options.rpnLine?_eq_some_iff {o : Options} (hshow : o.showRpn = true)
    {text line : String} :
    o.rpnLine? text = some line ↔ ∃ x, Expression.ofText text = .ok x ∧
      line = "postfix: " ++ Token.spaced x.rpn ++ "\n" := by
  rw [rpnLine?, hshow]
  cases hx : Expression.ofText text with
  | error e => simp
  | ok x => simp [eq_comm]

/-- The line with the postfix order of an expression is unambiguous: cut at each space, its parts
are the tokens of the postfix order, one by one. So only expressions with the same postfix order
have the same line, and they have the same value or the same error with all bindings. -/
theorem rpn_read_back {text : String} {x : Expression} (hx : Expression.ofText text = .ok x) :
    (x.rpn ≠ [] → (Text.parts (Token.spaced x.rpn)).map Token.ofText? = x.rpn.map some) ∧
      ∀ (o : Options) (other : String), o.showRpn = true → o.rpnLine? other = o.rpnLine? text →
        ∃ y, Expression.ofText other = .ok y ∧ y.rpn = x.rpn ∧
          ∀ b : Bindings, y.value b = x.value b := by
  refine ⟨Token.map_ofText?_parts fun token => Expression.ofText?_of_mem_rpn hx, ?_⟩
  intro o other hshow hline
  have hshown := (Options.rpnLine?_eq_some_iff hshow).mpr ⟨x, hx, rfl⟩
  obtain ⟨y, hy, hlines⟩ := (Options.rpnLine?_eq_some_iff hshow).mp (hline.trans hshown)
  have hspaced : Token.spaced x.rpn = Token.spaced y.rpn := by
    simpa using hlines
  have hrpn : y.rpn = x.rpn := Token.spaced_inj (fun token => Expression.ofText?_of_mem_rpn hy)
    (fun token => Expression.ofText?_of_mem_rpn hx) hspaced.symm
  refine ⟨y, hy, hrpn, fun b => ?_⟩
  rw [Expression.value, hrpn, ← Expression.value]

/-- A product with superfluous brackets and blanks, and without them. -/
theorem rpn_read_back_of_product :
    let x : Expression := ⟨[.function .sqrt, .opening, .number "16", .closing, .operator .mul,
      .opening, .name "x", .operator .add, .number "1.5", .closing],
      [.number "16", .function .sqrt, .name "x", .number "1.5", .operator .add, .operator .mul]⟩
    let o : Options := { showRpn := true }
    let b := Bindings.ofList [("x", 0.5)]
    Expression.ofText "sqrt(16)*(x+1.5)" = .ok x ∧
      (Text.parts "16 sqrt x 1.5 + *").map Token.ofText? = x.rpn.map some ∧
      o.rpnLine? "(sq rt( (1 6) ) * (x + 1 . 5))" = o.rpnLine? "sqrt(16)*(x+1.5)" ∧
      ∃ y, Expression.ofText "(sq rt( (1 6) ) * (x + 1 . 5))" = .ok y ∧ y.rpn = x.rpn ∧
        y.value b = x.value b := by
  intro x o b
  have hx : Expression.ofText "sqrt(16)*(x+1.5)" = .ok x := by
    rw [Expression.ofText, show Token.scan "sqrt(16)*(x+1.5)" = x.tokens by decide +kernel]
    rfl
  have hline : o.rpnLine? "(sq rt( (1 6) ) * (x + 1 . 5))" = o.rpnLine? "sqrt(16)*(x+1.5)" := by
    decide +kernel
  obtain ⟨hparts, hothers⟩ := rpn_read_back hx
  obtain ⟨y, hy, hrpn, hvalue⟩ := hothers o _ rfl hline
  exact ⟨hx, hparts (by decide), hline, y, hy, hrpn, hvalue b⟩

end Calculator
