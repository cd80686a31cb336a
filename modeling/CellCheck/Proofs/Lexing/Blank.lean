import CellCheck.Proofs.Lexing.Tokens
import Mathlib.Data.List.TakeWhile

/-!
# Texts that leave nothing to be read

A cell has no condition if it has no tokens or a minus sign as its only one.  In terms of characters
these are the texts that are empty or a minus sign once the blanks at both ends are gone.  Both
descriptions are brought to the same form here: blanks only, or blanks around a single character.
-/

namespace CellCheck

/-! ## Trimming -/

namespace Text

/-- Whether a character stands alone among blanks. -/
def Alone (c : Char) (cs : List Char) : Prop :=
  ∃ before after, (∀ d ∈ before, isBlank d = true) ∧ (∀ d ∈ after, isBlank d = true) ∧
    cs = before ++ c :: after

theorem exists_eq_append_trimChars (cs : List Char) :
    ∃ before after, (∀ c ∈ before, isBlank c = true) ∧ (∀ c ∈ after, isBlank c = true) ∧
      cs = before ++ (trimChars cs ++ after) := by
  have split : ∀ ds : List Char, ds.takeWhile isBlank ++ dropBlanks ds = ds := fun _ =>
    List.takeWhile_append_dropWhile
  have middle : dropBlanks cs =
      trimChars cs ++ ((dropBlanks cs).reverse.takeWhile isBlank).reverse := by
    rw [trimChars, ← List.reverse_append, split, List.reverse_reverse]
  refine ⟨cs.takeWhile isBlank, ((dropBlanks cs).reverse.takeWhile isBlank).reverse,
    fun c => List.mem_takeWhile_imp, ?_, ?_⟩
  · intro c member
    exact List.mem_takeWhile_imp (List.mem_reverse.mp member)
  · rw [← middle, split]

theorem trimChars_eq_nil_iff {cs : List Char} :
    trimChars cs = [] ↔ ∀ c ∈ cs, isBlank c = true := by
  constructor
  · intro trimmed
    rcases exists_eq_append_trimChars cs with ⟨before, after, blankBefore, blankAfter, split⟩
    rw [trimmed, List.nil_append] at split
    rw [split, List.forall_mem_append]
    exact ⟨blankBefore, blankAfter⟩
  · intro blank
    rw [trimChars, dropBlanks, dropBlanks, List.dropWhile_eq_nil_iff.mpr blank]
    rfl

/-- Trimming leaves a single character exactly of one that stands alone. -/
theorem trimChars_eq_singleton_iff {c : Char} (notBlank : isBlank c = false) {cs : List Char} :
    trimChars cs = [c] ↔ Alone c cs := by
  constructor
  · intro trimmed
    rcases exists_eq_append_trimChars cs with ⟨before, after, blankBefore, blankAfter, split⟩
    rw [trimmed, List.singleton_append] at split
    exact ⟨before, after, blankBefore, blankAfter, split⟩
  · rintro ⟨before, after, blankBefore, blankAfter, rfl⟩
    have front : dropBlanks (before ++ c :: after) = c :: after := by
      rw [dropBlanks, List.dropWhile_append_of_pos blankBefore,
        List.dropWhile_cons_of_neg (by simp [notBlank])]
    have blankReverse : ∀ d ∈ after.reverse, isBlank d = true :=
      fun d member => blankAfter d (List.mem_reverse.mp member)
    rw [trimChars, front, List.reverse_cons, dropBlanks,
      List.dropWhile_append_of_pos blankReverse, List.dropWhile_cons_of_neg (by simp [notBlank])]
    rfl

end Text

/-! ## Tokens -/

namespace Token

theorem tokens_append_of_isBlank {before : List Char}
    (blank : ∀ c ∈ before, Text.isBlank c = true) (n : Nat) (cs : List Char) :
    Lexer.tokens ⟨n, before ++ cs⟩ = Lexer.tokens ⟨n + before.length, cs⟩ := by
  induction before generalizing n with
  | nil => rfl
  | cons c before ih =>
    rw [List.forall_mem_cons] at blank
    rw [List.cons_append, Lexer.tokens_of_isBlank blank.1, ih blank.2, List.length_cons,
      Nat.add_assoc, Nat.add_comm 1]

theorem ofChars_append_of_isBlank {before : List Char}
    (blank : ∀ c ∈ before, Text.isBlank c = true) (cs : List Char) :
    ofChars (before ++ cs) = ofChars cs := by
  rw [ofChars, tokens_append_of_isBlank blank]
  exact Lexer.tokens_map_token _ _ _

/-- Only blanks have no tokens. -/
theorem ofChars_eq_nil_iff {cs : List Char} :
    ofChars cs = [] ↔ ∀ c ∈ cs, Text.isBlank c = true := by
  induction cs with
  | nil => simp [ofChars_nil]
  | cons c cs ih =>
    rw [List.forall_mem_cons]
    cases isBlank : Text.isBlank c with
    | true => rw [ofChars_of_isBlank isBlank, ih, and_iff_right rfl]
    | false =>
      rw [ofChars_of_not_isBlank isBlank]
      simp

theorem ofWord_ne_minus (word : String) : ofWord word ≠ .symbol .minus := by
  unfold ofWord
  split
  · next keyword isKeyword =>
    have listed := List.mem_of_find?_eq_some isKeyword
    rintro same
    cases same
    exact absurd listed (by decide)
  · simp

theorem eq_of_read_eq_minus {c : Char} {cs : List Char} (isMinus : (read c cs).1 = .symbol .minus) :
    c = '-' := by
  revert isMinus
  fun_cases read c cs
  case case2 => exact fun _ => rfl
  case case19 => exact fun isMinus => absurd isMinus (ofWord_ne_minus _)
  all_goals simp

/-- A text has a minus sign as its only token exactly if the character stands alone. -/
theorem ofChars_eq_minus_iff {cs : List Char} :
    ofChars cs = [.symbol .minus] ↔ Text.Alone '-' cs := by
  constructor
  · intro tokens
    induction cs with
    | nil =>
      rw [ofChars_nil] at tokens
      cases tokens
    | cons c cs ih =>
      cases isBlank : Text.isBlank c with
      | true =>
        rw [ofChars_of_isBlank isBlank] at tokens
        rcases ih tokens with ⟨before, after, blankBefore, blankAfter, rfl⟩
        exact ⟨c :: before, after, List.forall_mem_cons.mpr ⟨isBlank, blankBefore⟩, blankAfter,
          rfl⟩
      | false =>
        rw [ofChars_of_not_isBlank isBlank, List.cons.injEq] at tokens
        obtain rfl := eq_of_read_eq_minus tokens.1
        exact ⟨[], cs, fun _ member => absurd member List.not_mem_nil,
          ofChars_eq_nil_iff.mp tokens.2, rfl⟩
  · rintro ⟨before, after, blankBefore, blankAfter, rfl⟩
    rw [ofChars_append_of_isBlank blankBefore, ofChars_of_not_isBlank (by decide)]
    exact congrArg (List.cons _) (ofChars_eq_nil_iff.mpr blankAfter)

end Token

/-! ## Cells -/

theorem Text.trim_eq_iff {text word : String} :
    Text.trim text = word ↔ Text.trimChars text.toList = word.toList := by
  rw [Text.trim, ← String.toList_inj, String.toList_ofList]

/-- Whether nothing or a minus sign is left of a cell's text after trimming. -/
def Cell.Unconditional (text : String) : Prop := Text.trim text = "" ∨ Text.trim text = "-"

instance (text : String) : Decidable (Cell.Unconditional text) :=
  inferInstanceAs (Decidable (_ ∨ _))

/-- A cell has no condition exactly if nothing or a minus sign is left of its text. -/
theorem Cell.Session.isBlank_ofText_iff {text : String} :
    (ofText text).isBlank = true ↔ Unconditional text := by
  have trimmedEmpty : Text.trim text = "" ↔ ∀ c ∈ text.toList, Text.isBlank c = true :=
    Text.trim_eq_iff.trans Text.trimChars_eq_nil_iff
  have trimmedMinus : Text.trim text = "-" ↔ Text.Alone '-' text.toList :=
    Text.trim_eq_iff.trans (Text.trimChars_eq_singleton_iff (by decide))
  rw [Unconditional, trimmedEmpty, trimmedMinus, isBlank, Token.bare_ofText, Bool.or_eq_true,
    decide_eq_true_eq, decide_eq_true_eq, Token.ofChars_eq_nil_iff, Token.ofChars_eq_minus_iff]

end CellCheck
