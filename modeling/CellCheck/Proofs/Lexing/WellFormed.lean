import CellCheck.Proofs.Lexing.Requests
import CellCheck.Proofs.Lexing.Tokens

/-!
# What the lexer guarantees of tokens

The tokens of a text are not arbitrary.  An identifier is a word that is no keyword, and the value
of a string literal never ends in a backslash, because that backslash would have been read together
with the closing quote.  A number token has digits, and if there is a point it stands among them.
-/

namespace CellCheck
namespace Token

/-- A word that is not a keyword. -/
structure IsName (name : String) : Prop where
  word : ∃ c cs, name.toList = c :: cs ∧ startsWord c = true ∧ ∀ d ∈ cs, continuesWord d = true
  notKeyword : keyword? name = none

def WellFormed : Token → Prop
  | identifier name => IsName name
  | string value => value.toList.getLast? ≠ some '\\'
  | _ => True

theorem wellFormed_ofWord {c : Char} {cs : List Char} (starts : startsWord c = true)
    (continues : ∀ d ∈ cs, continuesWord d = true) :
    (ofWord (String.ofList (c :: cs))).WellFormed := by
  unfold ofWord
  split
  · trivial
  · next notKeyword => exact ⟨⟨c, cs, String.toList_ofList, starts, continues⟩, notKeyword⟩

theorem wellFormed_read (c : Char) (cs : List Char) : (read c cs).1.WellFormed := by
  fun_cases read c cs
  case case17 value width quoted =>
    have last := (readQuoted_eq_some_iff.mp quoted).getLast?_value_ne
    rwa [← String.toList_ofList (l := value)] at last
  case case19 starts word =>
    refine wellFormed_ofWord starts ?_
    intro d member
    exact List.all_eq_true.mp (List.all_takeWhile (l := cs)) d member
  all_goals trivial

/-- What holds of everything that is read holds of every token of a text. -/
theorem forall_mem_ofChars {p : Token → Prop} (reads : ∀ c cs, p (read c cs).1) {cs : List Char} :
    ∀ t ∈ ofChars cs, p t := by
  induction size : cs.length using Nat.strongRecOn generalizing cs with
  | ind _ ih =>
    intro t member
    cases cs with
    | nil =>
      rw [ofChars_nil] at member
      cases member
    | cons c cs =>
      cases isBlank : Text.isBlank c with
      | true =>
        rw [ofChars_of_isBlank isBlank] at member
        exact ih cs.length (size ▸ Nat.lt_succ_self _) rfl t member
      | false =>
        rw [ofChars_of_not_isBlank isBlank] at member
        rcases List.mem_cons.mp member with rfl | member
        · exact reads c cs
        · refine ih _ ?_ rfl t member
          have width := Lexer.one_le_width c cs
          simp only [List.length_drop, ← size, List.length_cons]
          omega

/-- Every token of a text is well-formed. -/
theorem wellFormed_of_mem_ofChars {cs : List Char} : ∀ t ∈ ofChars cs, t.WellFormed :=
  forall_mem_ofChars wellFormed_read

/-- A number is read as digits, or as digits on both sides of a point. -/
theorem isNumber_readNumber {c : Char} {cs : List Char} (isDigit : c.isDigit = true) :
    IsNumber (readNumber (c :: cs)) := by
  have areDigits : ∀ ds : List Char, ∀ x ∈ ds.takeWhile Char.isDigit, x.isDigit = true :=
    fun _ => List.all_eq_true.mp List.all_takeWhile
  have wholeDigits : ∀ x ∈ c :: cs.takeWhile Char.isDigit, x.isDigit = true :=
    List.forall_mem_cons.mpr ⟨isDigit, areDigits cs⟩
  rw [readNumber_eq, List.takeWhile_cons_of_pos isDigit]
  rcases fraction_cases ((c :: cs).drop (c :: cs.takeWhile Char.isDigit).length) with
    nothing | ⟨d, rest, _, isDigit', someDigits⟩
  · rw [nothing, List.append_nil]
    exact .whole wholeDigits
  · rw [someDigits]
    exact .decimal wholeDigits (List.forall_mem_cons.mpr ⟨isDigit', areDigits rest⟩)

theorem isNumber_of_mem_ofChars {cs : List Char} {text : String} (member : .number text ∈ ofChars cs) :
    IsNumber text.toList := by
  have reads : ∀ c cs text, (read c cs).1 = .number text → IsNumber text.toList := by
    intro c cs text
    fun_cases read c cs
    case case19 => exact fun isNumber => absurd isNumber (ofWord_ne _ (by simp) (by simp))
    case case20 isDigit number =>
      intro same
      cases same
      rw [String.toList_ofList]
      exact isNumber_readNumber isDigit
    all_goals simp
  exact forall_mem_ofChars (p := fun t => ∀ text, t = .number text → IsNumber text.toList) reads _
    member text rfl

end Token
end CellCheck
