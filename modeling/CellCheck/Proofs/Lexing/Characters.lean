import CellCheck.Token.Lexer

/-!
# Classes of characters

The lexer tests a character for being blank, for starting a word, and for being a digit, in this
order and after looking for symbols.  The statements here say that the order does not matter: the
classes have no character in common.  The blank characters and the digits are few, so each of
these facts is a look at finitely many characters, although words may use all of Unicode.
-/

namespace CellCheck
namespace Token

/-- The blank characters one by one. -/
def blankCodes : List Nat :=
  Text.blankRanges.flatMap fun range => List.range' range.1 (range.2 + 1 - range.1)

theorem mem_blankCodes {c : Char} (isBlank : Text.isBlank c = true) : c.toNat ∈ blankCodes := by
  simp only [Text.isBlank, List.any_eq_true, Bool.and_eq_true, decide_eq_true_eq] at isBlank
  rcases isBlank with ⟨range, member, atLeast, atMost⟩
  refine List.mem_flatMap.mpr ⟨range, member, List.mem_range'_1.mpr ⟨atLeast, ?_⟩⟩
  omega

/-- A property that the blank characters are checked for one by one holds of every one. -/
theorem forall_isBlank {p : Char → Bool} (checked : (blankCodes.all fun n => p (Char.ofNat n)) = true)
    {c : Char} (isBlank : Text.isBlank c = true) : p c = true := by
  have holds := List.all_eq_true.mp checked _ (mem_blankCodes isBlank)
  rwa [Char.ofNat_toNat] at holds

theorem forall_isDigit {p : Char → Bool}
    (checked : ((List.range' 48 10).all fun n => p (Char.ofNat n)) = true) {c : Char}
    (isDigit : c.isDigit = true) : p c = true := by
  have bounds : 48 ≤ c.toNat ∧ c.toNat ≤ 57 := by
    simpa [Char.isDigit, UInt32.le_iff_toNat_le] using isDigit
  have holds := List.all_eq_true.mp checked c.toNat
    (List.mem_range'_1.mpr ⟨bounds.1, Nat.lt_succ_of_le bounds.2⟩)
  rwa [Char.ofNat_toNat] at holds

theorem isBlank_eq_false_of_startsWord {c : Char} (starts : startsWord c = true) :
    Text.isBlank c = false := by
  rw [Bool.eq_false_iff]
  intro isBlank
  have noWord := forall_isBlank (p := fun c => !startsWord c) (by decide +kernel) isBlank
  rw [starts] at noWord
  cases noWord

theorem isBlank_eq_false_of_isDigit {c : Char} (isDigit : c.isDigit = true) :
    Text.isBlank c = false := by
  have checked := forall_isDigit (p := fun c => !Text.isBlank c) (by decide) isDigit
  rwa [Bool.not_eq_true'] at checked

theorem startsWord_eq_false_of_isDigit {c : Char} (isDigit : c.isDigit = true) :
    startsWord c = false := by
  have checked := forall_isDigit (p := fun c => !startsWord c) (by decide +kernel) isDigit
  rwa [Bool.not_eq_true'] at checked

theorem continuesWord_of_isDigit {c : Char} (isDigit : c.isDigit = true) :
    continuesWord c = true :=
  forall_isDigit (by decide +kernel) isDigit

/-- Characters of a class are taken off a text up to where the class ends. -/
theorem takeWhile_append_eq_left {p : Char → Bool} {cs rest : List Char}
    (inClass : ∀ c ∈ cs, p c = true) (ends : rest.takeWhile p = []) :
    (cs ++ rest).takeWhile p = cs := by
  rw [List.takeWhile_append_of_pos inClass, ends, List.append_nil]

end Token
end CellCheck
