/-!
# Lines

A line runs up to and including the next line end, or to the end of the text. The same splitting
serves the bytes of an input stream and the characters of a script.
-/

namespace Calculator.Text

variable {α : Type}

/-- Splits a sequence behind its first line end; without one, all of it is the first line. -/
def firstLine (isEnd : α → Bool) (xs : List α) : List α × List α :=
  let body := xs.takeWhile fun x => !isEnd x
  let rest := xs.dropWhile fun x => !isEnd x
  (body ++ rest.take 1, rest.drop 1)

/-- Puts one element in front of lines: a line end is a line of its own, any other element joins
the line that follows it. -/
def consLine (isEnd : α → Bool) (x : α) (lines : List (List α)) : List (List α) :=
  if isEnd x then [x] :: lines
  else match lines with
    | [] => [[x]]
    | line :: rest => (x :: line) :: rest

/-- The lines of a sequence, each with its line end; only the last may lack one, and none is
empty. -/
def linesOf (isEnd : α → Bool) (xs : List α) : List (List α) :=
  xs.foldr (consLine isEnd) []

/-- The lines of a longer sequence, from those of a shorter one. -/
theorem linesOf_cons (isEnd : α → Bool) (x : α) (xs : List α) :
    linesOf isEnd (x :: xs) = consLine isEnd x (linesOf isEnd xs) := rfl

/-- Nothing is lost between a first line and the rest. -/
theorem firstLine_append (isEnd : α → Bool) (xs : List α) :
    (firstLine isEnd xs).1 ++ (firstLine isEnd xs).2 = xs := by
  rw [firstLine, List.append_assoc, List.take_append_drop, List.takeWhile_append_dropWhile]

/-- A sequence that starts with a line end has it as its first line. -/
theorem firstLine_cons_end {isEnd : α → Bool} {x : α} (h : isEnd x = true) (xs : List α) :
    firstLine isEnd (x :: xs) = ([x], xs) := by
  simp [firstLine, h]

/-- An element that ends no line stands in front of the first line of what follows it. -/
theorem firstLine_cons_body {isEnd : α → Bool} {x : α} (h : isEnd x = false) (xs : List α) :
    firstLine isEnd (x :: xs) = (x :: (firstLine isEnd xs).1, (firstLine isEnd xs).2) := by
  simp [firstLine, h]

/-- The lines of a sequence are its first line and the lines of the rest. -/
theorem linesOf_eq_cons (isEnd : α → Bool) {xs : List α} (h : xs ≠ []) :
    linesOf isEnd xs = (firstLine isEnd xs).1 :: linesOf isEnd (firstLine isEnd xs).2 := by
  induction xs with
  | nil => exact absurd rfl h
  | cons x xs ih =>
    by_cases hx : isEnd x = true
    · simp [linesOf_cons, consLine, hx, firstLine_cons_end hx]
    · rw [linesOf_cons, firstLine_cons_body (by simpa using hx)]
      cases xs with
      | nil => simp [linesOf, consLine, hx, firstLine]
      | cons y ys => simp [ih (List.cons_ne_nil y ys), consLine, hx]

/-- The lines of a sequence concatenate to it. -/
theorem flatten_linesOf (isEnd : α → Bool) (xs : List α) : (linesOf isEnd xs).flatten = xs := by
  induction xs with
  | nil => rfl
  | cons x xs ih =>
    rw [linesOf_cons]
    cases h : linesOf isEnd xs with
    | nil =>
      rw [h] at ih
      by_cases hx : isEnd x = true <;> simp [consLine, hx, ← ih]
    | cons line rest =>
      rw [h] at ih
      by_cases hx : isEnd x = true <;> simp [consLine, hx, ← ih]

/-- A line of characters without its line feed and one carriage return before that. A carriage
return that no line feed follows stays. -/
def withoutLineEnd (line : List Char) : List Char :=
  match line.reverse with
  | '\n' :: '\r' :: body => body.reverse
  | '\n' :: body => body.reverse
  | _ => line

/-- The lines of a text without their line ends. -/
def lines (text : String) : List String :=
  (linesOf (· == '\n') text.toList).map fun line => String.ofList (withoutLineEnd line)

end Calculator.Text
