import Mathlib.Data.List.Infix

/-! Access by policies that only allow. A statement allows a request whose
action, resource and condition keys match its patterns, and a request that no
statement allows is denied. -/
namespace Access

/-- A pattern matches a text: `*` stands for any characters, `?` for one. -/
def like : List Char → List Char → Bool
  | [], text => text.isEmpty
  | '*' :: pattern, text => text.tails.any (like pattern)
  | _ :: _, [] => false
  | p :: pattern, c :: text => (p == '?' || p == c) && like pattern text

theorem like_star (pattern text : List Char) :
    like ('*' :: pattern) text = text.tails.any (like pattern) := by
  cases text <;> simp [like]

/-- A pattern followed by a star matches every text that its own characters
begin. -/
theorem like_append_star (pattern text : List Char) :
    like (pattern ++ ['*']) (pattern ++ text) = true := by
  induction pattern with
  | nil =>
      rw [List.nil_append, like_star, List.any_eq_true]
      exact ⟨[], (List.mem_tails _ _).mpr (List.nil_suffix), rfl⟩
  | cons p pattern ih =>
      by_cases hStar : p = '*'
      · subst hStar
        rw [List.cons_append, List.cons_append, like_star, List.any_eq_true]
        exact ⟨pattern ++ text, (List.mem_tails _ _).mpr (List.suffix_cons '*' _), ih⟩
      · simp [like, ih]

/-- A text taken as a pattern matches itself. -/
theorem like_self (text : List Char) : like text text = true := by
  induction text with
  | nil => rfl
  | cons c text ih =>
      by_cases hStar : c = '*'
      · subst hStar
        rw [like_star, List.any_eq_true]
        exact ⟨text, (List.mem_tails _ _).mpr (List.suffix_cons '*' _), ih⟩
      · simp [like, ih]

/-- A pattern without wildcards. -/
def IsLiteral (pattern : List Char) : Prop := ∀ c ∈ pattern, c ≠ '*' ∧ c ≠ '?'

theorem isLiteral_append {pattern rest : List Char} (h : IsLiteral pattern) (hRest : IsLiteral rest) :
    IsLiteral (pattern ++ rest) :=
  List.forall_mem_append.mpr ⟨h, hRest⟩

/-- Decides whether a pattern has no wildcards. -/
theorem isLiteral_of_all {pattern : List Char}
    (h : pattern.all (fun c => c ≠ '*' && c ≠ '?') = true) : IsLiteral pattern := by
  intro c hc
  simpa using List.all_eq_true.mp h c hc

/-- The first character of a literal pattern must be that of the text. -/
theorem like_literal_cons {p : Char} (hp : p ≠ '*' ∧ p ≠ '?') (pattern : List Char) (c : Char)
    (text : List Char) : like (p :: pattern) (c :: text) = (p == c && like pattern text) := by
  have hQuestion : (p == '?') = false := beq_eq_false_iff_ne.mpr hp.2
  rw [like, hQuestion, Bool.false_or]
  exact hp.1

/-- Only stars match the empty text. -/
theorem like_nil {p : Char} (hp : p ≠ '*') (pattern : List Char) : like (p :: pattern) [] = false := by
  rw [like]
  exact hp

/-- What a literal pattern followed by a star matches. -/
theorem like_literal_star_iff {pattern : List Char} (h : IsLiteral pattern) (text : List Char) :
    like (pattern ++ ['*']) text = true ↔ pattern <+: text := by
  induction pattern generalizing text with
  | nil => exact iff_of_true (like_append_star [] text) List.nil_prefix
  | cons p pattern ih =>
      have hParts := List.forall_mem_cons.mp h
      cases text with
      | nil =>
          refine iff_of_false ?_ (by simp)
          rw [List.cons_append, like_nil hParts.1.1]
          exact Bool.false_ne_true
      | cons c text =>
          rw [List.cons_append, like_literal_cons hParts.1, Bool.and_eq_true, beq_iff_eq,
            ih hParts.2, List.cons_prefix_cons]

/-- A literal pattern matches itself only. -/
theorem like_literal_iff {pattern : List Char} (h : IsLiteral pattern) (text : List Char) :
    like pattern text = true ↔ pattern = text := by
  induction pattern generalizing text with
  | nil => cases text <;> simp [like]
  | cons p pattern ih =>
      have hParts := List.forall_mem_cons.mp h
      cases text with
      | nil =>
          refine iff_of_false ?_ (by simp)
          rw [like_nil hParts.1.1]
          exact Bool.false_ne_true
      | cons c text =>
          rw [like_literal_cons hParts.1, Bool.and_eq_true, beq_iff_eq, ih hParts.2, List.cons.injEq]

/-- What a caller asks for. A condition key that the request does not carry is
not in its context. -/
structure Request where
  action : List Char
  resource : List Char
  context : List (List Char × List Char)

/-- A statement with the effect to allow. Its conditions are of the operator
`StringLike`. -/
structure Statement where
  actions : List (List Char)
  resources : List (List Char)
  stringLike : List (List Char × List (List Char)) := []

/-- A condition on a key that the request does not carry does not match. -/
def conditionMatches (request : Request) (condition : List Char × List (List Char)) : Bool :=
  match request.context.lookup condition.1 with
  | some value => condition.2.any (like · value)
  | none => false

def Statement.allows (statement : Statement) (request : Request) : Bool :=
  statement.actions.any (like · request.action) &&
    statement.resources.any (like · request.resource) &&
      statement.stringLike.all (conditionMatches request)

def permitted (statements : List Statement) (request : Request) : Bool :=
  statements.any (·.allows request)

variable {statement : Statement} {statements : List Statement} {request : Request}

/-- A statement without conditions allows the actions it names on the resources
that match. -/
theorem allows_of_mem (hAction : request.action ∈ statement.actions) {pattern : List Char}
    (hPattern : pattern ∈ statement.resources) (hResource : like pattern request.resource = true)
    (hConditions : statement.stringLike = []) : statement.allows request = true := by
  have hActions : statement.actions.any (like · request.action) = true :=
    List.any_eq_true.mpr ⟨_, hAction, like_self _⟩
  have hResources : statement.resources.any (like · request.resource) = true :=
    List.any_eq_true.mpr ⟨_, hPattern, hResource⟩
  rw [Statement.allows, hActions, hResources, hConditions]
  rfl

/-- A statement that names other actions allows nothing here. -/
theorem not_allows_of_actions (h : statement.actions.any (like · request.action) = false) :
    statement.allows request = false := by
  rw [Statement.allows, h]
  rfl

/-- A statement on other resources allows nothing here. -/
theorem not_allows_of_resources (h : statement.resources.any (like · request.resource) = false) :
    statement.allows request = false := by
  rw [Statement.allows, h, Bool.and_false, Bool.false_and]

/-- A statement with a condition allows no request without its key. -/
theorem not_allows_of_condition {condition : List Char × List (List Char)}
    (hMem : condition ∈ statement.stringLike) (h : request.context.lookup condition.1 = none) :
    statement.allows request = false := by
  have hNone : statement.stringLike.all (conditionMatches request) = false := by
    refine List.all_eq_false.mpr ⟨condition, hMem, ?_⟩
    simp [conditionMatches, h]
  rw [Statement.allows, hNone, Bool.and_false]

theorem permitted_of_mem (hMem : statement ∈ statements) (h : statement.allows request = true) :
    permitted statements request = true :=
  List.any_eq_true.mpr ⟨statement, hMem, h⟩

theorem not_permitted (h : ∀ statement ∈ statements, statement.allows request = false) :
    permitted statements request = false :=
  List.any_eq_false.mpr fun statement hm => by simp [h statement hm]

end Access
