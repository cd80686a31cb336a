import CellCheck.Proofs.Printing.RoundTrip
import CellCheck.Proofs.Typing.Uniform
import CellCheck.Validation.Entry

/-!
# Strings in the column of an enumeration

A string cell of an enumeration passes if its strings are members.  They are collected from the
alternatives of the cell only, and other nodes are not looked into.  No string is missed by this: no
operator and no range accepts strings, so a tree that has the type of strings consists of
alternatives and atoms, at every depth.

The strings that are looked for are therefore all string literals of the tree, from left to right,
and the one that a report names is the leftmost that is no member.
-/

namespace CellCheck

/-- No operator accepts strings. -/
theorem Operator.infer_string_ne_ok (operator : Operator) :
    operator.infer .string ≠ .ok .string := by
  rw [ne_eq, infer_eq_ok_iff]
  cases operator.kind <;> simp

theorem Ty.isSubtype_string_iff {ty : Ty} : ty.isSubtype .string = true ↔ ty = .string := by
  cases ty <;> decide

namespace Expr

def string? : Expr → Option String
  | atom (.string value) => some value
  | _ => none

theorem string?_eq_some_iff {e : Expr} {value : String} :
    e.string? = some value ↔ e = .atom (.string value) := by
  constructor
  · intro isString
    unfold string? at isString
    split at isString <;> cases isString
    rfl
  · rintro rfl
    rfl

/-- In a tree of strings the alternatives hold all string literals, from left to right. -/
theorem alternativeStrings_eq {context : Context} {e : Expr}
    (isString : e.infer context = .ok .string) :
    e.alternativeStrings = e.subtrees.filterMap string? := by
  induction e with
  | empty => cases isString
  | atom value => cases value <;> rfl
  | range => cases (infer_eq_ok_iff.mp isString).1
  | unary operator => exact absurd (infer_eq_ok_iff.mp isString).1.2 operator.infer_string_ne_ok
  | binary _ operator => exact absurd (infer_eq_ok_iff.mp isString).1 operator.infer_string_ne_ok
  | disjunction head tail first second =>
    have children := (infer_eq_ok_iff.mp isString).2
    rw [alternativeStrings, first (children head (by simp [Expr.children])),
      second (children tail (by simp [Expr.children])), subtrees, List.filterMap_append,
      List.filterMap_append]
    exact (List.append_nil _).symm

theorem forall_mem_alternativeStrings_iff {context : Context} {e : Expr} {p : String → Prop}
    (isString : e.infer context = .ok .string) :
    (∀ value ∈ e.alternativeStrings, p value) ↔
      ∀ value, .atom (.string value) ∈ e.subtrees → p value := by
  simp only [alternativeStrings_eq isString, List.mem_filterMap, string?_eq_some_iff]
  constructor
  · intro all value member
    exact all value ⟨_, member, rfl⟩
  · rintro all value ⟨_, member, rfl⟩
    exact all value member

end Expr

namespace EntryPolicy

theorem problem?_eq_judge {policy : EntryPolicy} {lookup : EnumLookup} {context : Context}
    {declared : DeclaredType} {text : String} {e : Expr} {ty : Ty}
    (parsed : Cell.parse text = .ok e) (typed : e.infer context = .ok ty) :
    policy.problem? lookup context declared text = policy.judge lookup declared e ty := by
  simp only [problem?, parsed, typed]

/-- What passes parses and has a type. -/
theorem exists_typed_of_problem?_eq_none {policy : EntryPolicy} {lookup : EnumLookup}
    {context : Context} {declared : DeclaredType} {text : String}
    (passes : policy.problem? lookup context declared text = none) :
    ∃ e ty, Cell.parse text = .ok e ∧ e.infer context = .ok ty ∧
      policy.judge lookup declared e ty = none := by
  unfold problem? at passes
  split at passes
  · cases passes
  · next e parsed =>
    split at passes
    · cases passes
    · next ty typed => exact ⟨e, ty, parsed, typed, passes⟩

/-- In the column of an enumeration strings are judged by their members, and of all other types only
that of the empty cell passes. -/
theorem judge_ofEnumeration (side : Side) (lookup : EnumLookup) (name : String) (e : Expr)
    (ty : Ty) :
    judge ⟨side, true⟩ lookup (.ofEnumeration name) e ty =
      if ty = .string then judgeMembers lookup name e
      else if ty = .top then none else some (.typeMismatch side) := by
  cases ty <;> rfl

theorem judgeMembers_eq_none_iff {lookup : EnumLookup} {name : String} {e : Expr} :
    judgeMembers lookup name e = none ↔
      ∃ members, lookup name = some members ∧ ∀ value ∈ e.alternativeStrings, value ∈ members := by
  unfold judgeMembers
  cases lookup name <;> simp

/-- A report about a member names the first string that is none. -/
theorem judgeMembers_eq_some_iff {lookup : EnumLookup} {name : String} {e : Expr}
    {members : List String} (known : lookup name = some members) {problem : EntryProblem} :
    judgeMembers lookup name e = some problem ↔
      ∃ value, (e.alternativeStrings.find? fun value => !members.contains value) = some value ∧
        .notMember value name = problem := by
  simp only [judgeMembers, known, Option.map_eq_some_iff]

end EntryPolicy

/-- The first result of a selection that passes a test, with its place in the list. -/
theorem exists_split_of_find?_filterMap {α β : Type} {f : α → Option β} {p : β → Bool} {xs : List α}
    {b : β} (found : (xs.filterMap f).find? p = some b) :
    ∃ before x after, xs = before ++ x :: after ∧ f x = some b ∧ p b = true ∧
      ∀ y ∈ before, ∀ c, f y = some c → p c = false := by
  rw [List.find?_eq_some_iff_append] at found
  rcases found with ⟨holds, first, rest, split, noneBefore⟩
  rcases List.filterMap_eq_append_iff.mp split with ⟨front, back, rfl, rfl, isBack⟩
  rcases List.filterMap_eq_cons_iff.mp isBack with ⟨skipped, x, after, rfl, noResult, isB, _⟩
  refine ⟨front ++ skipped, x, after, by simp, isB, holds, ?_⟩
  intro y member c isC
  rcases List.mem_append.mp member with member | member
  · simpa using noneBefore c (List.mem_filterMap.mpr ⟨y, member, isC⟩)
  · rw [noResult y member] at isC
    cases isC

/-- The leftmost string literal of a tree that is no member of an enumeration. -/
structure Expr.LeftmostOutside (members : List String) (e : Expr) (value : String) : Prop where
  outside : value ∉ members
  leftmost : ∃ before after, e.subtrees = before ++ .atom (.string value) :: after ∧
    ∀ earlier, .atom (.string earlier) ∈ before → earlier ∈ members

/-- In a tree of strings the first alternative that is no member is the leftmost such string of the
whole tree. -/
theorem Expr.leftmostOutside_of_find? {context : Context} {e : Expr} {members : List String}
    {value : String} (isString : e.infer context = .ok .string)
    (found : (e.alternativeStrings.find? fun value => !members.contains value) = some value) :
    e.LeftmostOutside members value := by
  rw [alternativeStrings_eq isString] at found
  rcases exists_split_of_find?_filterMap found with
    ⟨before, x, after, split, isValue, outside, membersBefore⟩
  obtain rfl := string?_eq_some_iff.mp isValue
  refine ⟨by simpa using outside, before, after, split, ?_⟩
  intro earlier member
  simpa using membersBefore _ member earlier rfl

namespace EntryPolicy

/-- **Checking an enumeration misses no string.**  A cell in the column of an enumeration passes if
it parses and has a type which is that of the empty cell, or that of the strings while every string
literal in the tree is a member of the enumeration, which must be known.  Of the strings that are
no members the leftmost is reported. -/
theorem problem?_ofEnumeration (side : Side) (lookup : EnumLookup) (context : Context)
    (name text : String) :
    (problem? ⟨side, true⟩ lookup context (.ofEnumeration name) text = none ↔
      ∃ e, Cell.parse text = .ok e ∧
        (e.infer context = .ok .top ∨
          e.infer context = .ok .string ∧ ∃ members, lookup name = some members ∧
            ∀ value, .atom (.string value) ∈ e.subtrees → value ∈ members)) ∧
    ∀ e members problem, Cell.parse text = .ok e → e.infer context = .ok .string →
      lookup name = some members →
      problem? ⟨side, true⟩ lookup context (.ofEnumeration name) text = some problem →
        ∃ value, e.LeftmostOutside members value ∧ problem = .notMember value name ∧
          problem.message = "Value \"" ++ value ++ "\" does not belong to " ++ name := by
  constructor
  · constructor
    · intro passes
      rcases exists_typed_of_problem?_eq_none passes with ⟨e, ty, parsed, typed, accepted⟩
      refine ⟨e, parsed, ?_⟩
      rw [judge_ofEnumeration] at accepted
      split at accepted
      · next isString =>
        subst isString
        rcases judgeMembers_eq_none_iff.mp accepted with ⟨members, known, all⟩
        refine .inr ⟨typed, members, known, ?_⟩
        rwa [Expr.forall_mem_alternativeStrings_iff typed] at all
      · split at accepted
        · next isTop => exact .inl (isTop ▸ typed)
        · cases accepted
    · rintro ⟨e, parsed, typed | ⟨typed, members, known, all⟩⟩
      · rw [problem?_eq_judge parsed typed, judge_ofEnumeration]
        rfl
      · rw [problem?_eq_judge parsed typed, judge_ofEnumeration, if_pos rfl,
          judgeMembers_eq_none_iff]
        exact ⟨members, known, (Expr.forall_mem_alternativeStrings_iff typed).mpr all⟩
  · intro e members problem parsed typed known rejected
    rw [problem?_eq_judge parsed typed, judge_ofEnumeration, if_pos rfl,
      judgeMembers_eq_some_iff known] at rejected
    rcases rejected with ⟨value, found, rfl⟩
    exact ⟨value, Expr.leftmostOutside_of_find? typed found, rfl, rfl⟩

/-- With the one member `Stew`, the cell `"Stew", "Soup", "Tart"` is refused because of `Soup`, which
is the leftmost string that is no member. -/
theorem problem?_ofEnumeration_soup :
    let stew : Expr := .atom (.string "Stew")
    let soup : Expr := .atom (.string "Soup")
    let tart : Expr := .atom (.string "Tart")
    let lookup : EnumLookup := fun name => if name = "Dish" then some ["Stew"] else none
    problem? .input lookup .empty (.ofEnumeration "Dish") "\"Stew\", \"Soup\", \"Tart\"" =
        some (.notMember "Soup" "Dish") ∧
      (Expr.disjunction stew (.disjunction soup tart)).LeftmostOutside ["Stew"] "Soup" := by
  intro stew soup tart lookup
  let e : Expr := .disjunction stew (.disjunction soup tart)
  have written : ∀ value : String, value.toList.getLast? ≠ some '\\' →
      (Expr.atom (.string value)).Written .alternative := fun _ closed => .value (.atom closed)
  have parsed : Cell.parse "\"Stew\", \"Soup\", \"Tart\"" = .ok e :=
    Grammar.parse_of_doubles_eq_nil rfl
      (.several (written _ (by decide)) (.several (written _ (by decide))
        (.single (written _ (by decide))))) (by decide +kernel)
  have typed : e.infer .empty = .ok .string := rfl
  have rejected : problem? .input lookup .empty (.ofEnumeration "Dish")
      "\"Stew\", \"Soup\", \"Tart\"" = some (.notMember "Soup" "Dish") := by
    rw [problem?_eq_judge parsed typed]
    decide
  rcases (problem?_ofEnumeration .input lookup .empty "Dish" _).2 e ["Stew"] _ parsed typed rfl
    rejected with ⟨value, leftmost, same, _⟩
  cases same
  exact ⟨rejected, leftmost⟩

end EntryPolicy
end CellCheck
