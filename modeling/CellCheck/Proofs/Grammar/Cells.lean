import CellCheck.Cell
import CellCheck.Proofs.Grammar.Completeness

/-!
# Cells and their derivations

The main statement of this folder: a text is a cell with some tree exactly if its tokens have a
derivation with this tree.  Since the parser gives at most one tree, no tokens have derivations with
different trees, although the grammar itself prefers none.
-/

namespace CellCheck
namespace Grammar

/-- Every phrase has a token that is no minus sign, so that neither a blank cell nor a lone minus
sign is a condition. -/
theorem Derives.exists_ne_minus {p : Phrase} {ts : List Token} {e : Expr}
    (derivation : Derives p ts e) : ∃ t ∈ ts, t ≠ .symbol .minus := by
  induction derivation with
  | atom derivation => cases derivation <;> simp
  | parenthesized => exact ⟨.symbol .leftParen, by simp, by simp⟩
  | bounds => exact ⟨.symbol .dots, by simp, by simp⟩
  | negation => exact ⟨.symbol .not, by simp, by simp⟩
  | comparison _ _ ih =>
    rcases ih with ⟨t, member, different⟩
    exact ⟨t, List.mem_cons_of_mem _ member, different⟩
  | base _ ih | operand _ ih | range _ ih | value _ ih | single _ ih => exact ih
  | raised _ _ ih _ | combined _ _ _ ih _ | several _ _ ih _ =>
    rcases ih with ⟨t, member, different⟩
    exact ⟨t, List.mem_append_left _ member, different⟩

theorem derives_ne_blank {p : Phrase} {ts : List Token} {e : Expr} (derivation : Derives p ts e) :
    ts ≠ [] ∧ ts ≠ [.symbol .minus] := by
  rcases derivation.exists_ne_minus with ⟨t, member, different⟩
  constructor
  · rintro rfl
    exact List.not_mem_nil member
  · rintro rfl
    exact different (List.mem_singleton.mp member)

/-- A list of tokens is a cell without a condition, or a condition, but never both. -/
theorem derivesCell_iff {ts : List Token} {e : Expr} :
    DerivesCell ts e ↔
      if ts = [] ∨ ts = [.symbol .minus] then e = .empty else Derives .alternatives ts e := by
  constructor
  · intro derivation
    cases derivation with
    | blank => rw [if_pos (Or.inl rfl)]
    | dash => rw [if_pos (Or.inr rfl)]
    | condition derivation =>
      have ⟨notNil, notMinus⟩ := derives_ne_blank derivation
      rwa [if_neg (by simp [notNil, notMinus])]
  · intro given
    split at given
    · next isBlank =>
      subst given
      rcases isBlank with rfl | rfl
      · exact .blank
      · exact .dash
    · exact .condition given

/-- The tokens that occur in cells, which stand for something and are read to their ends. -/
inductive Legal : Token → Prop
  | identifier (name : String) : Legal (.identifier name)
  | number (text : String) : Legal (.number text)
  | string (value : String) : Legal (.string value)
  | symbol (symbol : Symbol) : Legal (.symbol symbol)

/-- No derivation has a place for a character that starts no token, or for a string without its
closing quote. -/
theorem Derives.legal {p : Phrase} {ts : List Token} {e : Expr} (derivation : Derives p ts e) :
    ∀ t ∈ ts, Legal t := by
  have symbolFirst : ∀ {ts : List Token} (s : Symbol), (∀ t ∈ ts, Legal t) →
      ∀ t ∈ .symbol s :: ts, Legal t :=
    fun s legal => List.forall_mem_cons.mpr ⟨.symbol s, legal⟩
  have symbolLast : ∀ {ts : List Token} (s : Symbol), (∀ t ∈ ts, Legal t) →
      ∀ t ∈ ts ++ [.symbol s], Legal t :=
    fun s legal => List.forall_mem_append.mpr ⟨legal, symbolFirst s (List.forall_mem_nil _)⟩
  induction derivation with
  | atom derivation =>
    cases derivation <;> simp [Legal.identifier, Legal.number, Legal.string, Legal.symbol]
  | base _ ih | operand _ ih | range _ ih | value _ ih | single _ ih => exact ih
  | comparison _ _ ih => exact symbolFirst _ ih
  | parenthesized _ ih => exact symbolLast _ (symbolFirst _ ih)
  | negation _ ih => exact symbolLast _ (symbolFirst _ (symbolFirst _ ih))
  | raised _ _ first second | combined _ _ _ first second | several _ _ first second =>
    exact List.forall_mem_append.mpr ⟨first, symbolFirst _ second⟩
  | bounds _ _ _ _ first second =>
    apply symbolLast
    exact List.forall_mem_append.mpr ⟨symbolFirst _ first, symbolFirst _ second⟩

theorem DerivesCell.legal {ts : List Token} {e : Expr} (derivation : DerivesCell ts e) :
    ∀ t ∈ ts, Legal t := by
  cases derivation with
  | blank => exact List.forall_mem_nil _
  | dash => exact List.forall_mem_singleton.mpr (.symbol .minus)
  | condition derivation => exact derivation.legal

/-- No list of tokens has two derivations with different trees. -/
theorem DerivesCell.unique {ts : List Token} {e e' : Expr} (first : DerivesCell ts e)
    (second : DerivesCell ts e') : e = e' := by
  rw [derivesCell_iff] at first second
  split at first
  · next isBlank =>
    rw [if_pos isBlank] at second
    rw [first, second]
  · next notBlank =>
    rw [if_neg notBlank] at second
    have firstRead := complete_eq_ok_iff_derives.mpr first
    have secondRead := complete_eq_ok_iff_derives.mpr second
    exact Except.ok.inj (firstRead.symm.trans secondRead)

/-- A session that stands at its first token reads a cell exactly as the grammar does. -/
theorem parse_ofText_eq_ok_iff {text : String} {e : Expr} :
    Cell.parse text = .ok e ↔ DerivesCell (Cell.Session.ofText text).bare e := by
  rw [derivesCell_iff]
  have start : (Cell.Session.ofText text).cursor = 0 := rfl
  simp only [Cell.parse, Cell.Session.parse, Cell.Session.isBlank, Bool.or_eq_true,
    decide_eq_true_eq, start, List.drop_zero]
  split
  · simp only [Except.ok.injEq]
    exact eq_comm
  · rw [← complete_eq_ok_iff_derives]
    cases Parser.complete (Cell.Session.ofText text).bare <;> simp

/-- **The parser accepts its grammar and builds the grammar's trees.**  A text is read as a tree
exactly if its tokens derive the tree, and the derivation leaves no choice of the tree.  So the
parser never refuses or misreads a cell because of what it sees after an opening parenthesis or
the word `date`. -/
theorem parse_eq_ok_iff_derives (text : String) :
    (∀ e, Cell.parse text = .ok e ↔ DerivesCell (Cell.Session.ofText text).bare e) ∧
      ∀ e e', DerivesCell (Cell.Session.ofText text).bare e →
        DerivesCell (Cell.Session.ofText text).bare e' → e = e' :=
  ⟨fun _ => parse_ofText_eq_ok_iff, fun _ _ first second => first.unique second⟩

end Grammar
end CellCheck
