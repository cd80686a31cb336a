import CellCheck.Proofs.Lexing.Characters

/-!
# String and number literals

What stands between two quotes is read character by character, and a quote after a backslash is part
of the value.  `QuotedAs` says the same as a relation, with one rule for the closing quote, one for a
quote in the value and one for every other character, so that statements about string literals are
proved along their characters.

A number is a run of digits and a `fraction`, which is empty unless a point and a digit follow.
-/

namespace CellCheck
namespace Token

/-! ## Strings -/

/-- Characters after an opening quote start with a value and the closing quote. -/
inductive QuotedAs : List Char → List Char → Nat → Prop
  | close (cs : List Char) : QuotedAs ('"' :: cs) [] 1
  | escape {cs value : List Char} {width : Nat} (rest : QuotedAs cs value width) :
      QuotedAs ('\\' :: '"' :: cs) ('"' :: value) (width + 2)
  | plain {c : Char} {cs value : List Char} {width : Nat} (notQuote : c ≠ '"')
      (notEscape : c = '\\' → cs.head? ≠ some '"') (rest : QuotedAs cs value width) :
      QuotedAs (c :: cs) (c :: value) (width + 1)

/-- A character that is no quote and no backslash in front of one stands for itself. -/
theorem readQuoted_cons {c : Char} {cs : List Char} (notQuote : c ≠ '"')
    (notEscape : c = '\\' → cs.head? ≠ some '"') :
    readQuoted (c :: cs) = (readQuoted cs).map fun (value, width) => (c :: value, width + 1) := by
  apply readQuoted.eq_4 c cs notQuote
  intro ds isBackslash isQuote
  exact notEscape isBackslash (by rw [isQuote]; rfl)

theorem readQuoted_eq_some_iff {cs value : List Char} {width : Nat} :
    readQuoted cs = some (value, width) ↔ QuotedAs cs value width := by
  constructor
  · intro read
    induction cs using readQuoted.induct generalizing value width with
    | case1 => cases read
    | case2 cs =>
      cases read
      exact .close cs
    | case3 cs ih =>
      rcases Option.map_eq_some_iff.mp read with ⟨⟨rest, restWidth⟩, readRest, same⟩
      cases same
      exact .escape (ih readRest)
    | case4 c cs notQuote noEscape ih =>
      have notEscape : c = '\\' → cs.head? ≠ some '"' := by
        intro isBackslash isQuote
        rcases List.head?_eq_some_iff.mp isQuote with ⟨ds, same⟩
        exact noEscape ds isBackslash same
      rw [readQuoted_cons notQuote notEscape] at read
      rcases Option.map_eq_some_iff.mp read with ⟨⟨rest, restWidth⟩, readRest, same⟩
      cases same
      exact .plain notQuote notEscape (ih readRest)
  · intro quoted
    induction quoted with
    | close cs => rfl
    | escape _ ih => rw [readQuoted, ih, Option.map_some]
    | plain notQuote notEscape _ ih => rw [readQuoted_cons notQuote notEscape, ih, Option.map_some]

namespace QuotedAs

variable {cs value : List Char} {width : Nat}

theorem closing (quoted : QuotedAs cs value width) :
    ∃ n, width = n + 1 ∧ cs[n]? = some '"' := by
  induction quoted with
  | close => exact ⟨0, rfl, rfl⟩
  | escape _ ih =>
    rcases ih with ⟨n, rfl, isQuote⟩
    exact ⟨n + 2, rfl, isQuote⟩
  | plain _ _ _ ih =>
    rcases ih with ⟨n, rfl, isQuote⟩
    exact ⟨n + 1, rfl, isQuote⟩

theorem width_le (quoted : QuotedAs cs value width) : width ≤ cs.length := by
  induction quoted with
  | close => exact Nat.le_add_left 1 _
  | escape _ ih => exact Nat.add_le_add_right ih 2
  | plain _ _ _ ih => exact Nat.add_le_add_right ih 1

theorem head?_of_nil (quoted : QuotedAs cs [] width) : cs.head? = some '"' := by
  cases quoted with
  | close => rfl

/-- The value of a string literal does not end in a backslash. -/
theorem getLast?_value_ne (quoted : QuotedAs cs value width) : value.getLast? ≠ some '\\' := by
  induction quoted with
  | close => simp
  | @escape _ value _ _ ih =>
    cases value with
    | nil => simp
    | cons d value => rwa [List.getLast?_cons_cons]
  | @plain c _ value _ _ notEscape rest ih =>
    cases value with
    | nil =>
      -- The quote follows at once, so a backslash would have made it part of the value.
      intro isBackslash
      exact notEscape (Option.some.inj isBackslash) rest.head?_of_nil
    | cons d value => rwa [List.getLast?_cons_cons]

/-- A string literal is read up to its closing quote, whatever comes after it. -/
theorem take_append (quoted : QuotedAs cs value width) (tail : List Char) :
    QuotedAs (cs.take width ++ tail) value width := by
  induction quoted with
  | close => exact .close tail
  | escape _ ih => exact .escape ih
  | @plain c cs value width notQuote notEscape rest ih =>
    refine .plain notQuote ?_ ih
    rcases rest.closing with ⟨n, rfl, _⟩
    cases rest <;> exact notEscape

theorem append_congr {p q : List Char} (quoted : QuotedAs (p ++ q) value width)
    (inside : width ≤ p.length) (tail : List Char) : QuotedAs (p ++ tail) value width := by
  have taken := quoted.take_append (p.drop width ++ tail)
  rwa [List.take_append_of_le_length inside, ← List.append_assoc, List.take_append_drop] at taken

/-- Characters without a quote do not close a string literal. -/
theorem of_append {tail : List Char} (noQuote : '"' ∉ tail)
    (quoted : QuotedAs (cs ++ tail) value width) : QuotedAs cs value width := by
  rcases quoted.closing with ⟨n, rfl, isQuote⟩
  rcases Nat.lt_or_ge n cs.length with inside | beyond
  · have same := quoted.append_congr inside []
    rwa [List.append_nil] at same
  · rw [List.getElem?_append_right beyond] at isQuote
    exact absurd (List.mem_of_getElem? isQuote) noQuote

end QuotedAs

/-! ## Numbers -/

/-- A point and the digits after it, if there are any. -/
def fraction : List Char → List Char
  | '.' :: c :: rest => if c.isDigit then '.' :: (c :: rest).takeWhile Char.isDigit else []
  | _ => []

theorem readNumber_eq (cs : List Char) :
    readNumber cs =
      cs.takeWhile Char.isDigit ++ fraction (cs.drop (cs.takeWhile Char.isDigit).length) := by
  rw [readNumber]
  split
  · next c rest after =>
    rw [after, fraction]
    split
    · rfl
    · rw [List.append_nil]
  · next noPoint => rw [fraction.eq_2 _ noPoint, List.append_nil]

/-- A fraction starts with a point and a digit. -/
theorem fraction_cases (cs : List Char) :
    fraction cs = [] ∨ ∃ c rest, cs = '.' :: c :: rest ∧ c.isDigit = true ∧
      fraction cs = '.' :: c :: rest.takeWhile Char.isDigit := by
  fun_cases fraction cs
  case case1 c rest isDigit =>
    right
    refine ⟨c, rest, rfl, isDigit, ?_⟩
    rw [List.takeWhile_cons_of_pos isDigit]
  all_goals exact .inl rfl

theorem fraction_isPrefix (cs : List Char) : fraction cs <+: cs := by
  rcases fraction_cases cs with nothing | ⟨c, rest, rfl, _, same⟩
  · rw [nothing]
    exact List.nil_prefix
  · rw [same, List.prefix_cons_inj, List.prefix_cons_inj]
    exact List.takeWhile_prefix _

theorem readNumber_isPrefix (cs : List Char) : readNumber cs <+: cs := by
  have split : cs.takeWhile Char.isDigit ++ cs.drop (cs.takeWhile Char.isDigit).length = cs := by
    rw [← List.prefix_iff_eq_append]
    exact List.takeWhile_prefix _
  have inside := (List.prefix_append_right_inj (cs.takeWhile Char.isDigit)).mpr
    (fraction_isPrefix (cs.drop (cs.takeWhile Char.isDigit).length))
  rwa [split, ← readNumber_eq] at inside

end Token
end CellCheck
