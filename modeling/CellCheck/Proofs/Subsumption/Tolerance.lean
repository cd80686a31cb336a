import CellCheck.CommandLine.Run
import CellCheck.Proofs.Number.Distance
import CellCheck.Proofs.Printing.Denoted
import CellCheck.Proofs.Subsumption.Basic

/-!
# Subsumption without a tolerance

The command that compares two cells takes doubles as equal that are no farther apart than a
tolerance, which is zero if the command does not name one.  One expects that this is equality.  It
is for everything that has a distance to itself, and only the infinities have none.

Between intervals even this makes no difference.  The order of two bounds is asked beside their
equality, and settles what is equal.  More generally, a value equality that never equates different
values changes an answer only between two literals, or two variables, that it does not equate
although they are equal.
-/

namespace CellCheck

/-! ## Value equalities that equate only what is equal -/

/-- A value equality under which atoms are equal only if they are equal as values. -/
def ValueEquality.Refines (equal : ValueEquality) : Prop :=
  ∀ {a b : Atom}, equal (.atom a) (.atom b) = true → a.same b = true

namespace ValueEquality.Refines

variable {equal : ValueEquality}

theorem compareBounds_eq (refines : equal.Refines) (x y : Expr) :
    compareBounds equal x y = compareBounds Expr.same x y := by
  unfold compareBounds
  split
  · next a b =>
    refine Option.map_congr fun order compared => ?_
    have level : a.same b = true → order = .eq := fun same => Atom.eq_of_same same compared
    have natural : (if Expr.same (.atom a) (.atom b) then Ordering.eq else order) = order := by
      split
      · next same => exact (level same).symm
      · rfl
    rw [natural]
    split
    · next equated => exact (level (refines equated)).symm
    · rfl
  · rfl

/-- The answers differ only about two atoms that are equal and are not equated. -/
theorem subsumesBy_eq_subsumes_iff (refines : equal.Refines) {outer inner : Expr} :
    Expr.subsumesBy equal outer inner = outer.subsumes inner ↔
      ∀ a b, outer = .atom a → inner = .atom b → a.same b = true →
        equal outer inner = true := by
  unfold Expr.subsumes Expr.subsumesBy
  split
  · simp
  · simp
  · next a b =>
    constructor
    · rintro agree _ _ ⟨⟩ ⟨⟩ same
      rw [if_pos (Atom.sameKind_of_same same), if_pos (Atom.sameKind_of_same same)] at agree
      rw [Option.some.inj agree]
      exact same
    · intro equates
      split
      · congr 1
        exact Bool.eq_iff_iff.mpr ⟨refines, equates a b rfl rfl⟩
      · rfl
  · next noAtoms =>
    refine iff_of_true ?_ ?_
    · simp only [Interval.contains_congr refines.compareBounds_eq]
    · rintro a b rfl rfl
      exact absurd rfl (noAtoms a b rfl)

end ValueEquality.Refines

/-! ## Tolerance zero -/

theorem Expr.within_zero_iff {a b : Atom} :
    within .zero (.atom a) (.atom b) = true ↔
      a.same b = true ∧ ∀ x, a = .double x → x.isInfinite = false := by
  cases a with
  | double x =>
    cases b with
    | double y => simp [within, Double.within_zero_iff, Atom.same]
    | _ => simp [within, same, Atom.same]
  | _ => cases b <;> simp [within, same, Atom.same]

theorem Expr.within_zero_refines : ValueEquality.Refines (within .zero) :=
  fun equated => (within_zero_iff.mp equated).1

theorem Double.rank_infinity_inj :
    ∀ {b c : Bool}, (infinity b).rank = (infinity c).rank → b = c := by
  decide

/-- The only double that is equal to an infinity is the infinity itself. -/
theorem Double.exists_infinity_of_same {x y : Double} (same : x.same y = true)
    (isInfinite : x.isInfinite = true) :
    ∃ negative, x = infinity negative ∧ y = infinity negative := by
  rcases same_iff.mp same with ⟨_, _, level⟩
  have yIsInfinite : y.isInfinite = true := by rw [← isInfinite_eq_of_rank_eq level, isInfinite]
  rw [eq_infinity isInfinite, eq_infinity yIsInfinite] at level
  refine ⟨x.negative, eq_infinity isInfinite, ?_⟩
  rw [rank_infinity_inj level]
  exact eq_infinity yIsInfinite

/-- Without a tolerance the answers are those of equality, except about an infinity and itself. -/
theorem Expr.subsumesBy_within_zero_iff {outer inner : Expr} :
    subsumesBy (within .zero) outer inner = outer.subsumes inner ↔
      ¬ ∃ negative, outer = .atom (.double (.infinity negative)) ∧
        inner = .atom (.double (.infinity negative)) := by
  rw [within_zero_refines.subsumesBy_eq_subsumes_iff]
  constructor
  · rintro equates ⟨negative, rfl, rfl⟩
    have self : (Double.infinity negative).same (.infinity negative) = true := by
      cases negative <;> rfl
    have equated := within_zero_iff.mp (equates _ _ rfl rfl self)
    cases equated.2 _ rfl
  · rintro noInfinity a b rfl rfl same
    refine within_zero_iff.mpr ⟨same, ?_⟩
    rintro x rfl
    rw [← Bool.not_eq_true]
    intro isInfinite
    cases b with
    | double y =>
      rcases Double.exists_infinity_of_same same isInfinite with ⟨negative, rfl, rfl⟩
      exact noInfinity ⟨negative, rfl, rfl⟩
    | _ => cases same

/-! ## The command -/

namespace Command

/-- The line that reports an answer. -/
def answerLine : Option Bool → String
  | some true => "true"
  | some false => "false"
  | none => "incomparable"

/-- Two cells without an option form a command whose tolerance is zero. -/
theorem ofArguments?_subsumes (outer inner : String) :
    ofArguments? ["subsumes", "--", outer, inner] = some (.subsumes outer inner .zero) :=
  rfl

theorem run_subsumes {s t : String} {outer inner : Expr} (readOuter : Cell.parse s = .ok outer)
    (readInner : Cell.parse t = .ok inner) (tolerance : Double) (content : String → FileContent) :
    run content (.subsumes s t tolerance) =
      .success (answerLine (Expr.subsumesBy (Expr.within tolerance) outer inner)) := by
  rw [run, runSubsumes, readOuter, readInner]
  simp only
  rcases Expr.subsumesBy (Expr.within tolerance) outer inner with _ | _ | _ <;> rfl

/-- **Without an option the command answers as equality does, unless both cells are the same
infinity.** -/
theorem run_subsumes_agrees_iff {s t : String} {outer inner : Expr}
    (readOuter : Cell.parse s = .ok outer) (readInner : Cell.parse t = .ok inner) :
    ofArguments? ["subsumes", "--", s, t] = some (.subsumes s t .zero) ∧
      (∀ content, run content (.subsumes s t .zero) =
        .success (answerLine (Expr.subsumesBy (Expr.within .zero) outer inner))) ∧
      (Expr.subsumesBy (Expr.within .zero) outer inner = outer.subsumes inner ↔
        ¬ ∃ negative, outer = .atom (.double (.infinity negative)) ∧
          inner = .atom (.double (.infinity negative))) :=
  ⟨ofArguments?_subsumes s t, run_subsumes readOuter readInner .zero,
    Expr.subsumesBy_within_zero_iff⟩

/-- The two zeros are two doubles, but they are equal and have the distance zero. -/
theorem run_subsumes_agrees_zeros :
    let zero : Expr := .atom (.double .zero)
    let negativeZero : Expr := .atom (.double ⟨true, 0, by decide⟩)
    Cell.parse "0.0" = .ok zero ∧ Cell.parse "-0.0" = .ok negativeZero ∧
      (∀ content, run content (.subsumes "0.0" "-0.0" .zero) = .success "true") ∧
      Expr.subsumesBy (Expr.within .zero) zero negativeZero = zero.subsumes negativeZero := by
  intro zero negativeZero
  have readZero : Cell.parse "0.0" = .ok zero :=
    Grammar.parse_of_print (by decide +kernel) (.single (.value (.atom rfl))) (by decide)
  have readNegative : Cell.parse "-0.0" = .ok negativeZero :=
    Grammar.parse_of_print (by decide +kernel) (.single (.value (.atom rfl))) (by decide)
  rcases run_subsumes_agrees_iff readZero readNegative with ⟨_, ran, agrees⟩
  have noInfinity : ¬ ∃ negative, zero = .atom (.double (.infinity negative)) ∧
      negativeZero = .atom (.double (.infinity negative)) := by decide
  have same := agrees.mpr noInfinity
  have answer : zero.subsumes negativeZero = some true := by decide +kernel
  rw [same, answer] at ran
  exact ⟨readZero, readNegative, ran, same⟩

/-- **Without a tolerance an infinity does not even subsume itself.**  A decimal that is too large for
a double is read as an infinity, and of two such cells the command says that the one does not
subsume the other, although they are the same. -/
theorem run_subsumes_infinity :
    let text := String.ofList Double.hugeChars
    let huge : Expr := .atom (.double (.infinity false))
    Cell.parse text = .ok huge ∧ huge.subsumes huge = some true ∧
      Expr.subsumesBy (Expr.within .zero) huge huge = some false ∧
      ∀ content, run content (.subsumes text text .zero) = .success "false" := by
  intro text huge
  have digits : ∀ c ∈ '1' :: List.replicate 309 '0', c.isDigit = true := by
    intro c member
    rcases List.mem_cons.mp member with rfl | member
    · rfl
    · exact Decimal.isDigit_of_mem_zeros c member
  have place : ∀ c ∈ ['0'], c.isDigit = true := List.all_eq_true.mp rfl
  have read : Cell.parse text = .ok huge := by
    have parsed := Grammar.parse_decimal digits place
    rwa [show '1' :: List.replicate 309 '0' ++ ['.', '0'] = Double.hugeChars from rfl,
      Double.ofDecimal_hugeChars] at parsed
  have answer : Expr.subsumesBy (Expr.within .zero) huge huge = some false := by decide +kernel
  have ran := run_subsumes read read .zero
  rw [answer] at ran
  exact ⟨read, by decide +kernel, answer, ran⟩

end Command
end CellCheck
