import CellCheck.Typing.Infer

/-!
# The type of a list of alternatives

A disjunction nests to the right, so that its alternatives are typed from the first one on, but the
types are compared on the way back, from the last two on.  An alternative that has no type by itself
is therefore reported before any two alternatives are compared, wherever it stands, and of several
pairs of neighbours with different types the last one is reported.

`AlternativesType` says this of the list, without its tree.  It leaves no choice of the result, so
that it is enough to show that inference gives a result which it admits.
-/

namespace CellCheck
namespace Expr

/-- What the type of some alternatives is, given the type of each by itself. -/
inductive AlternativesType (context : Context) (es : List Expr) : Except TypeError Ty → Prop
  /-- Some alternative has no type by itself, and all before it have one. -/
  | failed (place : Nat) {e : Expr} {error : TypeError} (here : es[place]? = some e)
      (fails : e.infer context = .error error)
      (earlier : ∀ before < place, ∀ other, es[before]? = some other →
        ∃ ty, other.infer context = .ok ty) :
      AlternativesType context es (.error error)
  /-- All alternatives have the same type. -/
  | common {ty : Ty} (each : ∀ e ∈ es, e.infer context = .ok ty) :
      AlternativesType context es (.ok ty)
  /-- All alternatives have a type, and the last two neighbours whose types differ are these. -/
  | mismatch (place : Nat) {e next : Expr} {head tail : Ty}
      (each : ∀ e ∈ es, ∃ ty, e.infer context = .ok ty)
      (here : es[place]? = some e) (behind : es[place + 1]? = some next)
      (isHead : e.infer context = .ok head) (isTail : next.infer context = .ok tail)
      (differ : head ≠ tail)
      (last : ∀ later, place < later → ∀ e next, es[later]? = some e →
        es[later + 1]? = some next → e.infer context = next.infer context) :
      AlternativesType context es (.error (.disjunctionMismatch head tail))

namespace AlternativesType

variable {context : Context} {es : List Expr}

/-! ## One more alternative in front -/

/-- An alternative that has no type by itself comes before everything behind it. -/
theorem cons_error {e : Expr} {error : TypeError} (fails : e.infer context = .error error)
    (es : List Expr) : AlternativesType context (e :: es) (.error error) := by
  apply failed 0 rfl fails
  intro before impossible
  exact absurd impossible (Nat.not_lt_zero before)

/-- What is wrong with some alternatives stays so behind one that has a type. -/
theorem cons_of_error {e : Expr} {ty : Ty} {error : TypeError} (typed : e.infer context = .ok ty)
    (others : AlternativesType context es (.error error)) :
    AlternativesType context (e :: es) (.error error) := by
  cases others with
  | failed place here fails earlier =>
    apply failed (place + 1) here fails
    intro before isBefore other isOther
    cases before with
    | zero =>
      cases isOther
      exact ⟨ty, typed⟩
    | succ before => exact earlier before (Nat.lt_of_succ_lt_succ isBefore) other isOther
  | mismatch place each here behind isHead isTail differ last =>
    have each' := List.forall_mem_cons.mpr ⟨⟨ty, typed⟩, each⟩
    apply mismatch (place + 1) each' here behind isHead isTail differ
    intro later isLater first next isFirst isNext
    cases later with
    | zero => exact absurd isLater (Nat.not_lt_zero _)
    | succ later => exact last later (Nat.lt_of_succ_lt_succ isLater) first next isFirst isNext

/-- An alternative before others that have a common type is reported if its own type is another
one, because no neighbours behind it differ. -/
theorem cons_of_ok {e next : Expr} {ty other : Ty} (typed : e.infer context = .ok ty)
    (others : AlternativesType context (next :: es) (.ok other)) :
    AlternativesType context (e :: next :: es)
      (if ty ≠ other then .error (.disjunctionMismatch ty other) else .ok ty) := by
  cases others with
  | common each =>
    by_cases same : ty = other
    · subst same
      rw [if_neg (not_not_intro rfl)]
      exact common (List.forall_mem_cons.mpr ⟨typed, each⟩)
    · rw [if_pos same]
      have typedEach : ∀ e' ∈ e :: next :: es, ∃ ty, e'.infer context = .ok ty :=
        List.forall_mem_cons.mpr ⟨⟨ty, typed⟩, fun e' member => ⟨other, each e' member⟩⟩
      apply mismatch 0 typedEach rfl rfl typed (each next List.mem_cons_self) same
      intro later isLater first second isFirst isSecond
      cases later with
      | zero => exact absurd isLater (Nat.not_lt_zero _)
      | succ later =>
        rw [each first (List.mem_of_getElem? isFirst), each second (List.mem_of_getElem? isSecond)]

/-! ## No choice of the result -/

theorem ne_error_of_typed {place : Nat} {e : Expr} (each : ∀ e ∈ es, ∃ ty, e.infer context = .ok ty)
    (here : es[place]? = some e) (error : TypeError) : e.infer context ≠ .error error := by
  rcases each e (List.mem_of_getElem? here) with ⟨ty, typed⟩
  rw [typed]
  exact fun impossible => by cases impossible

theorem eq_of_common {place : Nat} {e : Expr} {ty common : Ty}
    (each : ∀ e ∈ es, e.infer context = .ok common) (here : es[place]? = some e)
    (typed : e.infer context = .ok ty) : ty = common := by
  rw [each e (List.mem_of_getElem? here), Except.ok.injEq] at typed
  exact typed.symm

/-- Of two results of the same alternatives, one that is due to an alternative without a type is
also the other one. -/
theorem eq_error_of_failed {place : Nat} {e : Expr} {error : TypeError}
    {result : Except TypeError Ty} (here : es[place]? = some e)
    (fails : e.infer context = .error error)
    (earlier : ∀ before < place, ∀ other, es[before]? = some other →
      ∃ ty, other.infer context = .ok ty)
    (second : AlternativesType context es result) : result = .error error := by
  cases second with
  | failed place' here' fails' earlier' =>
    rcases Nat.lt_trichotomy place place' with before | rfl | behind
    · rcases earlier' place before e here with ⟨ty, typed⟩
      rw [fails] at typed
      cases typed
    · rw [here, Option.some.injEq] at here'
      rw [here', fails'] at fails
      exact fails
    · rcases earlier place' behind _ here' with ⟨ty, typed⟩
      rw [fails'] at typed
      cases typed
  | common each =>
    exact absurd fails (ne_error_of_typed (fun e member => ⟨_, each e member⟩) here error)
  | mismatch _ each => exact absurd fails (ne_error_of_typed each here error)

/-- Of two results of alternatives that all have a type, one that is due to two neighbours is also
the other one. -/
theorem eq_error_of_mismatch {place : Nat} {e next : Expr} {head tail : Ty}
    {result : Except TypeError Ty} (each : ∀ e ∈ es, ∃ ty, e.infer context = .ok ty)
    (here : es[place]? = some e) (behind : es[place + 1]? = some next)
    (isHead : e.infer context = .ok head) (isTail : next.infer context = .ok tail)
    (differ : head ≠ tail)
    (last : ∀ later, place < later → ∀ e next, es[later]? = some e →
      es[later + 1]? = some next → e.infer context = next.infer context)
    (second : AlternativesType context es result) :
    result = .error (.disjunctionMismatch head tail) := by
  cases second with
  | failed _ here' fails' => exact absurd fails' (ne_error_of_typed each here' _)
  | common each' =>
    have same := (eq_of_common each' here isHead).trans (eq_of_common each' behind isTail).symm
    exact absurd same differ
  | mismatch place' _ here' behind' isHead' isTail' differ' last' =>
    rcases Nat.lt_trichotomy place place' with before | rfl | after
    · have same := last place' before _ _ here' behind'
      rw [isHead', isTail', Except.ok.injEq] at same
      exact absurd same differ'
    · rw [here, Option.some.injEq] at here'
      rw [behind, Option.some.injEq] at behind'
      subst here' behind'
      rw [isHead, Except.ok.injEq] at isHead'
      rw [isTail, Except.ok.injEq] at isTail'
      rw [isHead', isTail']
    · have same := last' place after _ _ here behind
      rw [isHead, isTail, Except.ok.injEq] at same
      exact absurd same differ

theorem unique {first : Expr} {rest : List Expr} {result result' : Except TypeError Ty}
    (one : AlternativesType context (first :: rest) result)
    (other : AlternativesType context (first :: rest) result') : result = result' := by
  cases one with
  | failed _ here fails earlier => exact (eq_error_of_failed here fails earlier other).symm
  | mismatch _ each here behind isHead isTail differ last =>
    exact (eq_error_of_mismatch each here behind isHead isTail differ last other).symm
  | common each =>
    cases other with
    | common each' => rw [← each first List.mem_cons_self, each' first List.mem_cons_self]
    | failed _ here fails earlier => exact eq_error_of_failed here fails earlier (.common each)
    | mismatch _ typed here behind isHead isTail differ last =>
      exact eq_error_of_mismatch typed here behind isHead isTail differ last (.common each)

end AlternativesType

/-! ## Inference -/

variable {context : Context}

theorem infer_disjunction {head tail : Expr} {headType tailType : Ty}
    (isHead : head.infer context = .ok headType) (isTail : tail.infer context = .ok tailType) :
    (disjunction head tail).infer context =
      if headType ≠ tailType then .error (.disjunctionMismatch headType tailType)
      else .ok headType := by
  rw [infer, isHead, isTail]
  rfl

/-- Inference gives alternatives a result that the list of them admits. -/
theorem alternativesType_infer (context : Context) (first : Expr) (rest : List Expr) :
    AlternativesType context (first :: rest) ((disjunctionFrom first rest).infer context) := by
  induction rest generalizing first with
  | nil =>
    rw [disjunctionFrom]
    cases result : first.infer context with
    | error error => exact .cons_error result []
    | ok ty => exact .common (List.forall_mem_singleton.mpr result)
  | cons next rest ih =>
    rw [disjunctionFrom]
    cases isHead : first.infer context with
    | error error =>
      have failed : (disjunction first (disjunctionFrom next rest)).infer context =
          .error error := by
        rw [infer, isHead]
        rfl
      rw [failed]
      exact .cons_error isHead _
    | ok headType =>
      have others := ih next
      cases isTail : (disjunctionFrom next rest).infer context with
      | error error =>
        have failed : (disjunction first (disjunctionFrom next rest)).infer context =
            .error error := by
          rw [infer, isHead, isTail]
          rfl
        rw [isTail] at others
        rw [failed]
        exact .cons_of_error isHead others
      | ok tailType =>
        rw [isTail] at others
        rw [infer_disjunction isHead isTail]
        exact .cons_of_ok isHead others

/-- **The type of a list of alternatives.**  The first alternative that has no type by itself gives
the error.  If there is none, the alternatives have their common type, or the last two neighbours
whose types differ give the error. -/
theorem exists_infer_disjunctionOf?_iff (context : Context) (first : Expr) (rest : List Expr) :
    ∃ e, disjunctionOf? (first :: rest) = some e ∧
      ∀ result, e.infer context = result ↔ AlternativesType context (first :: rest) result := by
  refine ⟨disjunctionFrom first rest, rfl, fun result => ?_⟩
  have inferred := alternativesType_infer context first rest
  constructor
  · rintro rfl
    exact inferred
  · exact inferred.unique

/-- Neither the first two nor the last two of `1, "a", true, false` are reported, but the ones between. -/
example :
    (disjunctionFrom (atom (.integer 1)) [atom (.string "a"), atom (.boolean true),
      atom (.boolean false)]).infer .empty = .error (.disjunctionMismatch .string .boolean) := rfl

end Expr
end CellCheck
