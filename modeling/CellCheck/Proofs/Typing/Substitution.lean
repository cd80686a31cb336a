import CellCheck.Proofs.Expr.Subtrees
import CellCheck.Typing.Infer

/-!
# Contexts and substitutions

Of a variable, type inference only ever learns what the context says about its name; of any other
part of a tree it only learns the type that the part has, or the error.  Two things follow.  A
context may be exchanged for another one that says the same about the variables of the tree, and a
variable may be exchanged for any tree that has its type, be it a range or a list of alternatives.
Neither changes the result, and this includes the error of a tree that has no type.

Both are cases of one statement, in which each variable is exchanged for a tree of its own and the
context for another one at the same time.
-/

namespace CellCheck

/-! ## What a context says about a name -/

/-- Whether a context gives a type to a name, by a pair that no later one replaces. -/
def Context.Binds (context : Context) (name : String) (ty : Ty) : Prop :=
  ∃ before after, context.bindings = before ++ (name, ty) :: after ∧
    ∀ later ∈ after, later.1 ≠ name

theorem Context.type?_eq_some_iff {context : Context} {name : String} {ty : Ty} :
    context.type? name = some ty ↔ context.Binds name ty := by
  rw [type?, Option.map_eq_some_iff]
  constructor
  · intro found
    rcases found with ⟨⟨_, _⟩, found, rfl⟩
    -- The pairs are searched from the last one on, so what is passed over first comes later.
    rw [List.find?_eq_some_iff_append] at found
    rcases found with ⟨isName, later, earlier, split, others⟩
    obtain rfl := of_decide_eq_true isName
    refine ⟨earlier.reverse, later.reverse, ?_, ?_⟩
    · rw [← List.reverse_reverse context.bindings, split]
      simp
    · intro binding member
      simpa using others binding (List.mem_reverse.mp member)
  · intro binds
    rcases binds with ⟨before, after, split, others⟩
    refine ⟨(name, ty), ?_, rfl⟩
    rw [List.find?_eq_some_iff_append]
    refine ⟨decide_eq_true rfl, after.reverse, before.reverse, ?_, ?_⟩
    · rw [split]
      simp
    · intro binding member
      simpa using others binding (List.mem_reverse.mp member)

namespace Expr

/-! ## Exchanging variables -/

/-- A tree with another tree in the place of each variable. -/
def substitute (term : String → Expr) : Expr → Expr
  | empty => empty
  | atom (.variable name) => term name
  | atom value => atom value
  | range lowerIncluded lower upper upperIncluded =>
    range lowerIncluded (lower.substitute term) (upper.substitute term) upperIncluded
  | unary operator operand => unary operator (operand.substitute term)
  | binary left operator right => binary (left.substitute term) operator (right.substitute term)
  | disjunction head tail => disjunction (head.substitute term) (tail.substitute term)

/-- A tree with another tree wherever one variable occurs. -/
def replaceVariable (e : Expr) (name : String) (replacement : Expr) : Expr :=
  e.substitute fun other => if other = name then replacement else atom (.variable other)

theorem substitute_variable (e : Expr) : (e.substitute fun name => atom (.variable name)) = e := by
  induction e with
  | empty => rfl
  | atom value => cases value <;> rfl
  | range _ _ _ _ first second | binary _ _ _ first second | disjunction _ _ first second =>
    rw [substitute, first, second]
  | unary _ _ ih => rw [substitute, ih]

variable {context context' : Context} {e : Expr}

/-- What is exchanged for a variable matters only by its type or its error. -/
theorem infer_substitute {term : String → Expr}
    (agree : ∀ name, atom (.variable name) ∈ e.subtrees →
      (term name).infer context' = (atom (.variable name)).infer context) :
    (e.substitute term).infer context' = e.infer context := by
  induction e using induction_children with
  | step e ih =>
    have below : ∀ child ∈ e.children, (child.substitute term).infer context' =
        child.infer context := by
      intro child isChild
      apply ih child isChild
      intro name member
      exact agree name (mem_subtrees_iff.mpr (.inl ⟨child, isChild, member⟩))
    cases e with
    | empty => rfl
    | atom value =>
      cases value with
      | «variable» name => exact agree name (self_mem_subtrees _)
      | _ => rfl
    | range _ lower upper _ =>
      rw [substitute, infer, infer, below lower (by simp [children]),
        below upper (by simp [children])]
    | unary _ operand => rw [substitute, infer, infer, below operand (by simp [children])]
    | binary left _ right =>
      rw [substitute, infer, infer, below left (by simp [children]),
        below right (by simp [children])]
    | disjunction head tail =>
      rw [substitute, infer, infer, below head (by simp [children]),
        below tail (by simp [children])]

/-- A context matters only by what it says about the variables of the tree. -/
theorem infer_congr
    (agree : ∀ name, atom (.variable name) ∈ e.subtrees →
      context'.type? name = context.type? name) : e.infer context' = e.infer context := by
  have sameLeaf : ∀ name, atom (.variable name) ∈ e.subtrees →
      (atom (.variable name)).infer context' = (atom (.variable name)).infer context := by
    intro name mentioned
    rw [infer, infer, Atom.infer, Atom.infer, agree name mentioned]
  have exchanged := infer_substitute sameLeaf
  rwa [substitute_variable] at exchanged

/-- A variable may be exchanged for a tree of its type. -/
theorem infer_replaceVariable {name : String} {ty : Ty} {replacement : Expr}
    (bound : context.type? name = some ty) (typed : replacement.infer context = .ok ty) :
    (e.replaceVariable name replacement).infer context = e.infer context := by
  apply infer_substitute
  intro other _
  split
  · next same =>
    rw [same, typed, infer, Atom.infer, bound]
  · rfl

/-- **Contexts and variables may be exchanged.**  Two contexts that bind the variables of a tree to
the same types give it the same result, and so does any tree of the same type in place of a
variable. -/
theorem infer_stable (e : Expr) :
    (∀ first second : Context,
      (∀ name, atom (.variable name) ∈ e.subtrees →
        ∀ ty, first.Binds name ty ↔ second.Binds name ty) →
      e.infer first = e.infer second) ∧
    ∀ (context : Context) name ty replacement, context.Binds name ty →
      replacement.infer context = .ok ty →
      (e.replaceVariable name replacement).infer context = e.infer context := by
  constructor
  · intro first second sameBindings
    apply infer_congr
    intro name mentioned
    apply Option.ext
    intro ty
    rw [Context.type?_eq_some_iff, Context.type?_eq_some_iff]
    exact sameBindings name mentioned ty
  · intro context name ty replacement binds typed
    exact infer_replaceVariable (Context.type?_eq_some_iff.mpr binds) typed

/-- In `<x, "a"` the error stays if a context has further bindings, and if `x` is exchanged for a
range, in which `x` may occur itself. -/
theorem infer_stable_mismatch :
    let e : Expr := disjunction (unary .lt (atom (.variable "x"))) (atom (.string "a"))
    let long : Context := ⟨[("x", .integer), ("x", .double), ("y", .string)]⟩
    let short : Context := ⟨[("x", .double)]⟩
    let interval : Expr := range true (atom (.double .zero)) (atom (.variable "x")) false
    ((∀ name, atom (.variable name) ∈ e.subtrees →
        ∀ ty, long.Binds name ty ↔ short.Binds name ty) ∧ e.infer long = e.infer short) ∧
      (short.Binds "x" .double ∧ interval.infer short = .ok .double) ∧
      e.infer short = .error (.disjunctionMismatch .double .string) ∧
      (e.replaceVariable "x" interval).infer short =
        .error (.disjunctionMismatch .double .string) := by
  intro e long short interval
  rcases infer_stable e with ⟨inContext, inTree⟩
  have sameBindings : ∀ name, atom (.variable name) ∈ e.subtrees →
      ∀ ty, long.Binds name ty ↔ short.Binds name ty := by
    intro name mentioned ty
    obtain rfl : name = "x" := by simpa [e, subtrees] using mentioned
    rw [← Context.type?_eq_some_iff, ← Context.type?_eq_some_iff]
    rfl
  have binds : short.Binds "x" .double := Context.type?_eq_some_iff.mp rfl
  have typed : interval.infer short = .ok .double := rfl
  have error : e.infer short = .error (.disjunctionMismatch .double .string) := rfl
  exact ⟨⟨sameBindings, inContext long short sameBindings⟩, ⟨binds, typed⟩, error,
    (inTree short "x" .double interval binds typed).trans error⟩

end Expr
end CellCheck
