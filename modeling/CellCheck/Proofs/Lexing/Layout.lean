import CellCheck.Proofs.Lexing.Blank
import CellCheck.Proofs.Lexing.Extent
import Mathlib.Data.List.Nodup
import Mathlib.Data.List.TakeWhile

/-!
# The layout of a text

Tokens carry offsets and no lengths.  Still nothing of a text is lost: it falls apart into the texts
of its tokens and the blanks between them.  Each of these texts is read as its token when it stands
alone, so what a token is does not depend on where the text goes on.

The other way round, the blanks do not matter.  Other blanks between the tokens, also where there have
been none, leave the tokens as they are, because no token takes up a blank that comes after it.
Blanks cannot be left out: two numbers would be read as one.
-/

namespace CellCheck

open CellCheck.Token (Placed)

/-! ## The tokens of a text -/

namespace Lexer

theorem map_token_tokenize (text : String) :
    (CellCheck.tokenize text).map Placed.token = Token.ofChars text.toList ++ [.endOfText] := by
  rw [tokenize_eq, List.map_append]
  rfl

theorem next_ofList {c : Char} {cs : List Char} (notBlank : Text.isBlank c = false) :
    (ofText (String.ofList (c :: cs))).next =
      (⟨(Token.read c cs).1, 0⟩,
        ⟨0 + (Token.read c cs).2, (c :: cs).drop (Token.read c cs).2⟩) := by
  rw [ofText, String.toList_ofList, next, next?_of_not_isBlank notBlank,
    Option.getD_some]

theorem tokenize_ofList {c : Char} {cs : List Char} (notBlank : Text.isBlank c = false) :
    CellCheck.tokenize (String.ofList (c :: cs)) =
      ⟨(Token.read c cs).1, 0⟩ ::
        (tokens ⟨0 + (Token.read c cs).2, (c :: cs).drop (Token.read c cs).2⟩ ++
          [⟨.endOfText, (c :: cs).length⟩]) := by
  rw [tokenize_eq, ofText, String.toList_ofList, String.length_ofList,
    tokens_of_not_isBlank notBlank, List.cons_append]

theorem skipBlanks_rest (l : Lexer) : l.skipBlanks.rest = l.rest.dropWhile Text.isBlank := by
  have split : l.rest.takeWhile Text.isBlank ++ l.rest.dropWhile Text.isBlank = l.rest :=
    List.takeWhile_append_dropWhile
  calc l.skipBlanks.rest
      = (l.rest.takeWhile Text.isBlank ++ l.rest.dropWhile Text.isBlank).drop
          (l.rest.takeWhile Text.isBlank).length := by
        rw [split]
        rfl
    _ = l.rest.dropWhile Text.isBlank := List.drop_left

theorem blank_of_next?_eq_none {l : Lexer} (read : l.next? = none) :
    ∀ c ∈ l.rest, Text.isBlank c = true := by
  rw [← List.dropWhile_eq_nil_iff, ← skipBlanks_rest]
  unfold next? at read
  simp only at read
  split at read
  · next here => exact here
  · cases read

end Lexer

/-! ## The pieces of a text -/

/-- A token in a text: the characters in front of it that belong to no token, and its own. -/
structure Lexeme where
  gap : List Char
  text : List Char
  token : Token
deriving DecidableEq, Repr

namespace Lexeme

def chars (l : Lexeme) : List Char := l.gap ++ l.text

/-- A token between blanks and something else, with no more and no less than its own characters. -/
structure Exact (l : Lexeme) : Prop where
  blank : ∀ c ∈ l.gap, Text.isBlank c = true
  notBlank : ∃ c cs, l.text = c :: cs ∧ Text.isBlank c = false
  /-- Alone, its text has the same token. -/
  alone : tokenize (String.ofList l.text) = [⟨l.token, 0⟩, ⟨.endOfText, l.text.length⟩]
  /-- The token takes up all of its text. -/
  whole : (Lexer.ofText (String.ofList l.text)).next.2.rest = []

variable {gap cs : List Char} {c : Char} {token : Token}

/-- A text that is read as one token is the text of that token. -/
theorem exact_of_read (blank : ∀ d ∈ gap, Text.isBlank d = true)
    (notBlank : Text.isBlank c = false) (read : Token.read c cs = (token, cs.length + 1)) :
    Exact ⟨gap, c :: cs, token⟩ := by
  have nothing : (c :: cs).drop (cs.length + 1) = [] := List.drop_length
  refine ⟨blank, ⟨c, cs, rfl, notBlank⟩, ?_, ?_⟩
  · rw [Lexer.tokenize_ofList notBlank, read, nothing, Lexer.tokens_nil, List.nil_append]
  · rw [Lexer.next_ofList notBlank, read, nothing]

theorem Exact.read_eq {l : Lexeme} (exact : l.Exact) :
    ∃ c cs, l.text = c :: cs ∧ Text.isBlank c = false ∧
      Token.read c cs = (l.token, cs.length + 1) := by
  rcases exact.notBlank with ⟨c, cs, same, notBlank⟩
  have alone := exact.alone
  have whole := exact.whole
  rw [same, Lexer.tokenize_ofList notBlank, List.cons.injEq] at alone
  rw [same, Lexer.next_ofList notBlank, List.drop_eq_nil_iff, List.length_cons] at whole
  refine ⟨c, cs, same, notBlank, Prod.ext ?_ ?_⟩
  · exact congrArg Placed.token alone.1
  · exact Nat.le_antisymm (Token.width_le c cs) whole

theorem Exact.gap_lt {l : Lexeme} (exact : l.Exact) : l.gap.length < l.chars.length := by
  rcases exact.notBlank with ⟨c, cs, same, _⟩
  rw [chars, same, List.length_append, List.length_cons]
  omega

/-- The text of a token does not have the mark of the end as its token. -/
theorem Exact.noMark {l : Lexeme} (exact : l.Exact) : l.token ≠ .endOfText := by
  rcases exact.read_eq with ⟨c, cs, _, _, read⟩
  have noMark := Token.read_ne_endOfText c cs
  rwa [read] at noMark

end Lexeme

/-- The pieces of a text: its tokens with their gaps, and what comes after the last one. -/
structure Layout where
  lexemes : List Lexeme
  last : List Char
deriving DecidableEq, Repr

namespace Layout

def chars (l : Layout) : List Char := l.lexemes.flatMap Lexeme.chars ++ l.last

/-- The tokens of some pieces with their places, if the first one starts at an offset. -/
def placed : Nat → List Lexeme → List Placed
  | _, [] => []
  | start, l :: lexemes =>
    ⟨l.token, start + l.gap.length⟩ :: placed (start + l.chars.length) lexemes

structure Of (l : Layout) (text : String) : Prop where
  chars_eq : l.chars = text.toList
  /-- The tokens start where their pieces do, and the text ends with a mark. -/
  tokens_eq : tokenize text = placed 0 l.lexemes ++ [⟨.endOfText, text.length⟩]
  /-- There is no other mark. -/
  noMark : ∀ lexeme ∈ l.lexemes, lexeme.token ≠ .endOfText
  exact : ∀ lexeme ∈ l.lexemes, lexeme.Exact
  blankLast : ∀ c ∈ l.last, Text.isBlank c = true

theorem placed_map_token (start : Nat) (lexemes : List Lexeme) :
    (placed start lexemes).map Placed.token = lexemes.map Lexeme.token := by
  induction lexemes generalizing start with
  | nil => rfl
  | cons l lexemes ih => exact congrArg (List.cons l.token) (ih _)

theorem chars_cons (l : Lexeme) (lexemes : List Lexeme) (last : List Char) :
    chars ⟨l :: lexemes, last⟩ = l.gap ++ (l.text ++ chars ⟨lexemes, last⟩) := by
  simp only [chars, List.flatMap_cons, Lexeme.chars, List.append_assoc]

/-! ## Every text has a layout -/

theorem exists_lexeme_of_next? {l next : Lexer} {first : Placed}
    (read : l.next? = some (first, next)) :
    ∃ lexeme : Lexeme, lexeme.Exact ∧ first = ⟨lexeme.token, l.offset + lexeme.gap.length⟩ ∧
      next.offset = l.offset + lexeme.chars.length ∧ l.rest = lexeme.chars ++ next.rest := by
  rcases Lexer.exists_of_next? read with ⟨c, cs, here, rfl, rfl⟩
  rcases Token.exists_read_take c cs with ⟨n, width, inside, same⟩
  have split : l.rest = l.rest.takeWhile Text.isBlank ++ c :: cs := by
    rw [← here, Lexer.skipBlanks_rest, List.takeWhile_append_dropWhile]
  have notBlank : Text.isBlank c = false := by
    have first := List.head?_dropWhile_not Text.isBlank l.rest
    rwa [← Lexer.skipBlanks_rest, here] at first
  have length : (cs.take n).length = n := by rw [List.length_take, Nat.min_eq_left inside]
  have alone : Token.read c (cs.take n) = ((Token.read c cs).1, (cs.take n).length + 1) := by
    rw [same, length, ← width]
  refine ⟨⟨l.rest.takeWhile Text.isBlank, c :: cs.take n, (Token.read c cs).1⟩,
    Lexeme.exact_of_read (fun _ => List.mem_takeWhile_imp) notBlank alone, rfl, ?_, ?_⟩
  · simp only [Lexer.advance, Lexer.skipBlanks, Lexeme.chars, width, List.length_append,
      List.length_cons, length]
    omega
  · rw [Lexer.advance, here, width, List.drop_succ_cons, Lexeme.chars, List.append_assoc,
      List.cons_append, List.take_append_drop]
    exact split

/-- The characters from a place on fall apart into the tokens from there on and blanks. -/
theorem exists_pieces (l : Lexer) :
    ∃ pieces : Layout, pieces.chars = l.rest ∧ l.tokens = placed l.offset pieces.lexemes ∧
      (∀ lexeme ∈ pieces.lexemes, lexeme.Exact) ∧ ∀ c ∈ pieces.last, Text.isBlank c = true := by
  induction l using Lexer.tokens.induct with
  | case1 l read =>
    refine ⟨⟨[], l.rest⟩, rfl, Lexer.tokens_of_next?_eq_none read, ?_,
      Lexer.blank_of_next?_eq_none read⟩
    exact fun _ member => absurd member List.not_mem_nil
  | case2 l first next read ih =>
    rcases ih with ⟨⟨lexemes, last⟩, chars_eq, tokens_eq, exact, blankLast⟩
    rcases exists_lexeme_of_next? read with ⟨lexeme, isExact, isFirst, nextOffset, rest⟩
    refine ⟨⟨lexeme :: lexemes, last⟩, ?_, ?_, ?_, blankLast⟩
    · rw [chars_cons, chars_eq, rest, Lexeme.chars, List.append_assoc]
    · rw [Lexer.tokens_of_next?_eq_some read, tokens_eq, isFirst, placed, nextOffset]
    · exact List.forall_mem_cons.mpr ⟨isExact, exact⟩

/-- Every text has a layout. -/
theorem exists_of (text : String) : ∃ layout : Layout, layout.Of text := by
  rcases exists_pieces (Lexer.ofText text) with ⟨layout, chars_eq, tokens_eq, exact, blankLast⟩
  refine ⟨layout, chars_eq, ?_, fun lexeme member => (exact lexeme member).noMark, exact, blankLast⟩
  rw [Lexer.tokenize_eq, tokens_eq]
  rfl

/-! ## Offsets -/

/-- The tokens of some pieces start inside these pieces. -/
theorem bounds_of_mem_placed {lexemes : List Lexeme} (exact : ∀ lexeme ∈ lexemes, lexeme.Exact)
    (start : Nat) : ∀ place ∈ placed start lexemes,
      start ≤ place.offset ∧ place.offset < start + (lexemes.flatMap Lexeme.chars).length := by
  induction lexemes generalizing start with
  | nil => exact fun _ member => absurd member List.not_mem_nil
  | cons l lexemes ih =>
    rw [List.forall_mem_cons] at exact
    have short := exact.1.gap_lt
    rw [placed, List.forall_mem_cons, List.flatMap_cons, List.length_append]
    constructor
    · constructor
      · exact Nat.le_add_right _ _
      · simp only
        omega
    · intro place member
      have bounds := ih exact.2 _ place member
      omega

theorem pairwise_placed {lexemes : List Lexeme} (exact : ∀ lexeme ∈ lexemes, lexeme.Exact)
    (start : Nat) :
    (placed start lexemes).Pairwise fun first second => first.offset < second.offset := by
  induction lexemes generalizing start with
  | nil => exact .nil
  | cons l lexemes ih =>
    rw [List.forall_mem_cons] at exact
    rw [placed, List.pairwise_cons]
    refine ⟨?_, ih exact.2 _⟩
    intro place member
    have behind := (bounds_of_mem_placed exact.2 _ place member).1
    exact Nat.lt_of_lt_of_le (Nat.add_lt_add_left exact.1.gap_lt start) behind

/-- **Tokenizing loses nothing.**  The offsets increase from token to token up to the mark of the end,
and every text consists of the texts of its tokens and of blanks. -/
theorem increasing_and_exists_of (text : String) :
    (tokenize text).Pairwise (fun first second => first.offset < second.offset) ∧
      ∃ layout : Layout, layout.Of text := by
  rcases exists_of text with ⟨layout, isOf⟩
  refine ⟨?_, layout, isOf⟩
  have length : (layout.lexemes.flatMap Lexeme.chars).length ≤ text.length := by
    rw [← String.length_toList, ← isOf.chars_eq, chars, List.length_append]
    exact Nat.le_add_right _ _
  rw [isOf.tokens_eq, List.pairwise_append]
  refine ⟨pairwise_placed isOf.exact 0, List.pairwise_singleton _ _, ?_⟩
  intro place member mark isMark
  have inside := (bounds_of_mem_placed isOf.exact 0 place member).2
  rw [Nat.zero_add] at inside
  rw [List.mem_singleton.mp isMark]
  exact Nat.lt_of_lt_of_le inside length

/-! ## Characters at offsets -/

theorem exists_char_of_mem_placed {lexemes : List Lexeme}
    (exact : ∀ lexeme ∈ lexemes, lexeme.Exact) (start : Nat) (rest : List Char) :
    ∀ place ∈ placed start lexemes,
      ∃ c, (lexemes.flatMap Lexeme.chars ++ rest)[place.offset - start]? = some c ∧
        Text.isBlank c = false := by
  induction lexemes generalizing start with
  | nil => exact fun _ member => absurd member List.not_mem_nil
  | cons l lexemes ih =>
    rw [List.forall_mem_cons] at exact
    rw [placed, List.forall_mem_cons, List.flatMap_cons, List.append_assoc]
    constructor
    · rcases exact.1.notBlank with ⟨c, cs, isText, notBlank⟩
      refine ⟨c, ?_, notBlank⟩
      rw [Nat.add_sub_cancel_left, Lexeme.chars, isText, List.append_assoc,
        List.getElem?_append_right (Nat.le_refl _), Nat.sub_self]
      rfl
    · intro place member
      have behind := (bounds_of_mem_placed exact.2 _ place member).1
      rcases ih exact.2 _ place member with ⟨c, isChar, notBlank⟩
      refine ⟨c, ?_, notBlank⟩
      rw [List.getElem?_append_right (Nat.le_sub_of_add_le' behind), ← isChar, Nat.sub_sub]

section CharactersAtOffsets

variable {text : String} {layout : Layout} {place place' : Placed}

/-- A token stands at a character that is not blank, or it is the mark of the end. -/
theorem Of.char_or_mark (isOf : layout.Of text) (member : place ∈ tokenize text) :
    (place ∈ placed 0 layout.lexemes ∧
      ∃ c, text.toList[place.offset]? = some c ∧ Text.isBlank c = false) ∨
    place = ⟨.endOfText, text.length⟩ := by
  rw [isOf.tokens_eq, List.mem_append, List.mem_singleton] at member
  rcases member with inside | isMark
  · have atOffset := exists_char_of_mem_placed isOf.exact 0 layout.last place inside
    rw [← chars, isOf.chars_eq] at atOffset
    exact .inl ⟨inside, atOffset⟩
  · exact .inr isMark

theorem offset_lt {c : Char} {offset : Nat} (isChar : text.toList[offset]? = some c) :
    offset < text.length := by
  rw [← String.length_toList]
  exact (List.getElem?_eq_some_iff.mp isChar).1

/-- No two tokens of a text have the same offset. -/
theorem Of.eq_of_offset_eq (isOf : layout.Of text) (member : place ∈ tokenize text)
    (member' : place' ∈ tokenize text) (same : place.offset = place'.offset) : place = place' := by
  rcases isOf.char_or_mark member with ⟨inside, c, isChar, _⟩ | rfl
  · rcases isOf.char_or_mark member' with ⟨inside', _⟩ | rfl
    · have distinct : ((placed 0 layout.lexemes).map Placed.offset).Nodup :=
        List.pairwise_map.mpr ((pairwise_placed isOf.exact 0).imp Nat.ne_of_lt)
      exact List.inj_on_of_nodup_map distinct inside inside' same
    · exact absurd same (Nat.ne_of_lt (offset_lt isChar))
  · rcases isOf.char_or_mark member' with ⟨_, c, isChar, _⟩ | rfl
    · exact absurd same.symm (Nat.ne_of_lt (offset_lt isChar))
    · rfl

end CharactersAtOffsets

/-! ## Other blanks -/

/-- Whether a gap is left as it is or exchanged for blanks. -/
inductive Regapped (gap : List Char) : List Char → Prop
  | same : Regapped gap gap
  | exchanged {gap' : List Char} (notNil : gap' ≠ []) (blank : ∀ c ∈ gap', Text.isBlank c = true) :
      Regapped gap gap'

/-- Whether a token stands behind another gap. -/
structure Moved (l l' : Lexeme) : Prop where
  same : l' = { l with gap := l'.gap }
  gap : Regapped l.gap l'.gap

/-- Whether two layouts differ in blanks only, where blanks may come in but not go away. -/
structure Respaced (l l' : Layout) : Prop where
  lexemes : List.Forall₂ Moved l.lexemes l'.lexemes
  last : Regapped l.last l'.last

theorem Regapped.blank {gap gap' : List Char} (regapped : Regapped gap gap')
    (blank : ∀ c ∈ gap, Text.isBlank c = true) : ∀ c ∈ gap', Text.isBlank c = true := by
  cases regapped with
  | same => exact blank
  | exchanged _ blank => exact blank

/-- Up to where the blanks differ, the characters are the same. -/
theorem exists_prefix {lexemes lexemes' : List Lexeme} {last last' : List Char}
    (moved : List.Forall₂ Moved lexemes lexemes') (regapped : Regapped last last') :
    ∃ p q q', chars ⟨lexemes, last⟩ = p ++ q ∧ chars ⟨lexemes', last'⟩ = p ++ q' ∧
      Token.BlankFirst q' := by
  induction moved with
  | nil =>
    cases regapped with
    | same => exact ⟨last, [], [], by simp [chars], by simp [chars], Token.blankFirst_nil⟩
    | exchanged notNil blank =>
      refine ⟨[], last, last', rfl, rfl, ?_⟩
      rw [← List.append_nil last']
      exact Token.blankFirst_append notNil blank []
  | @cons l l' lexemes lexemes' isMoved _ ih =>
    rcases ih with ⟨p, q, q', split, split', blankFirst⟩
    rcases isMoved with ⟨same, gap⟩
    have text : l'.text = l.text := by rw [same]
    rw [chars_cons, chars_cons, split, split', text]
    generalize l'.gap = gap' at gap
    cases gap with
    | same => exact ⟨l.gap ++ (l.text ++ p), q, q', by simp, by simp, blankFirst⟩
    | exchanged notNil blank =>
      exact ⟨[], _, _, rfl, rfl, Token.blankFirst_append notNil blank _⟩

/-- The tokens of a text are read again behind other blanks. -/
theorem ofChars_of_moved {lexemes lexemes' : List Lexeme} {last last' : List Char}
    (moved : List.Forall₂ Moved lexemes lexemes') (regapped : Regapped last last')
    (exact : ∀ lexeme ∈ lexemes, lexeme.Exact) (blankLast : ∀ c ∈ last, Text.isBlank c = true)
    (tokens : Token.ofChars (chars ⟨lexemes, last⟩) = lexemes.map Lexeme.token) :
    Token.ofChars (chars ⟨lexemes', last'⟩) = lexemes.map Lexeme.token := by
  induction moved with
  | nil => exact Token.ofChars_eq_nil_iff.mpr (regapped.blank blankLast)
  | @cons l l' lexemes lexemes' isMoved moved ih =>
    rw [List.forall_mem_cons] at exact
    rcases exact.1.read_eq with ⟨c, cs, text, notBlank, alone⟩
    have text' : l'.text = c :: cs := by rw [isMoved.same, text]
    have gap' := isMoved.gap.blank exact.1.blank
    rw [chars_cons, Token.ofChars_append_of_isBlank exact.1.blank, text] at tokens
    rw [chars_cons, Token.ofChars_append_of_isBlank gap', text', List.map_cons]
    have sameToken : (Token.read c (cs ++ chars ⟨lexemes, last⟩)).1 = l.token := by
      rw [List.cons_append, Token.ofChars_of_not_isBlank notBlank, List.map_cons] at tokens
      exact (List.cons.inj tokens).1
    by_cases closed : l.token = .unterminatedString
    · -- The string has taken up all the characters that follow, so it is the last token.
      rw [closed] at alone sameToken ⊢
      rcases Token.unclosed_of_read (congrArg Prod.fst alone) with ⟨rfl, unclosed⟩
      rw [List.cons_append, Token.ofChars_unclosed (Token.unclosed_of_read sameToken).2,
        List.map_cons, List.cons.injEq] at tokens
      obtain rfl := List.map_eq_nil_iff.mp tokens.2.symm
      cases moved
      exact Token.ofChars_unclosed
        (Token.readQuoted_append_eq_none unclosed (regapped.blank blankLast))
    · have read := Token.read_append_of_alone alone sameToken closed
      rw [Token.ofChars_cons cs notBlank read, List.map_cons, List.cons.injEq] at tokens
      rcases exists_prefix moved regapped with ⟨p, q, q', split, split', blankFirst⟩
      rw [split] at read
      have read' := Token.read_of_blankFirst read closed blankFirst
      rw [← split'] at read'
      rw [Token.ofChars_cons cs notBlank read', ih exact.2 tokens.2]

/-- Other blanks leave the tokens of a text as they are. -/
theorem map_token_of_respaced {text : String} {layout layout' : Layout} (isOf : layout.Of text)
    (respaced : layout.Respaced layout') :
    (tokenize (String.ofList layout'.chars)).map Placed.token =
      (tokenize text).map Placed.token := by
  have tokens := congrArg (List.map Placed.token) isOf.tokens_eq
  rw [Lexer.map_token_tokenize, List.map_append, placed_map_token, ← isOf.chars_eq] at tokens
  rw [Lexer.map_token_tokenize, Lexer.map_token_tokenize, String.toList_ofList, ← isOf.chars_eq]
  have tokens := List.append_cancel_right tokens
  rw [ofChars_of_moved respaced.lexemes respaced.last isOf.exact isOf.blankLast tokens, tokens]

end Layout
end CellCheck
