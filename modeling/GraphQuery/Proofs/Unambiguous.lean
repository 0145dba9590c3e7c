import GraphQuery.Expression.Basic
import GraphQuery.Proofs.Layout

/-! # Written expressions are unambiguous

Two expressions of one text are equal: the text determines its layout, and the layout the expression.

* `Expression.layout` — how an expression is set in text.
* `Expression.chars_layout` — the text of the layout is the canonical form.
* `Layout.read?`, `Expression.read?_layout` — an expression can be read back from its layout.
* `Expression.eq_of_canonical_eq` — the result.
-/

namespace GraphQuery

open Layout (call signed operation)

/-! ## The layout of an expression -/

/-- The function on an argument. -/
def UnaryFunction.layout (f : UnaryFunction) (argument : Layout) : Layout :=
  match f with
  | negate => signed '-' argument
  | not => signed '!' argument
  | abs => call "ABS" [argument]
  | strlen => call "STRLEN" [argument]
  | ucase => call "UCASE" [argument]
  | lcase => call "LCASE" [argument]
  | str => call "STR" [argument]
  | lang => call "LANG" [argument]
  | datatype => call "DATATYPE" [argument]
  | isIri => call "isIRI" [argument]
  | isBlank => call "isBLANK" [argument]
  | isLiteral => call "isLITERAL" [argument]
  | isNumeric => call "isNUMERIC" [argument]

/-- The function or operator on two arguments. -/
def BinaryFunction.layout (f : BinaryFunction) (a b : Layout) : Layout :=
  match f with
  | add => operation "+" a b
  | subtract => operation "-" a b
  | multiply => operation "*" a b
  | divide => operation "/" a b
  | and => operation "&&" a b
  | or => operation "||" a b
  | compare c => operation c.render a b
  | sameTerm => call "sameTerm" [a, b]
  | langMatches => call "langMatches" [a, b]
  | strStarts => call "STRSTARTS" [a, b]
  | strEnds => call "STRENDS" [a, b]
  | contains => call "CONTAINS" [a, b]

namespace Expression

mutual

/-- How the expression is set in text. The members of a list stand in brackets without a name. -/
def layout : Expression → Layout
  | constant t => .slot (.term t)
  | var v => .slot (.var v)
  | bound v => call "BOUND" [.slot (.var v)]
  | unary f e => f.layout e.layout
  | binary f a b => f.layout a.layout b.layout
  | regex text pattern => call "REGEX" [text.layout, pattern.layout]
  | regexWith text pattern letters => call "REGEX" [text.layout, pattern.layout, letters.layout]
  | isIn needle members => operation "IN" needle.layout (call "" (layoutAll members))
  | conditional c a b => call "IF" [c.layout, a.layout, b.layout]
  | concat parts => call "CONCAT" (layoutAll parts)
  | coalesce choices => call "COALESCE" (layoutAll choices)

@[inherit_doc layout]
def layoutAll : List Expression → List Layout
  | [] => []
  | e :: rest => e.layout :: layoutAll rest

end

end Expression

/-! ## Its text -/

theorem UnaryFunction.chars_layout (f : UnaryFunction) {argument : Layout} {text : String}
    (h : argument.chars = text.toList) : (f.layout argument).chars = (f.render text).toList := by
  cases f <;>
    simp [layout, render, Layout.chars_call, Layout.chars_signed, Layout.brackets, List.intercalate, h]

theorem BinaryFunction.chars_layout (f : BinaryFunction) {a b : Layout} {textA textB : String}
    (ha : a.chars = textA.toList) (hb : b.chars = textB.toList) :
    (f.layout a b).chars = (f.render textA textB).toList := by
  have hOperation : ∀ operator, (operation operator a b).chars =
      (renderInfix operator textA textB).toList := by
    simp [Layout.chars_operation, renderInfix, ha, hb]
  have hCall : ∀ name, (call name [a, b]).chars = (renderCall name textA textB).toList := by
    simp [Layout.chars_call, Layout.brackets, renderCall, List.intercalate, ha, hb]
  cases f
  case add | subtract | multiply | divide | and | or | compare => exact hOperation _
  all_goals exact hCall _

namespace Expression

mutual

theorem chars_layout (e : Expression) : e.layout.chars = (e.render []).toList := by
  cases e with
  | constant t => rfl
  | var v => rfl
  | bound v =>
    simp [layout, Layout.chars_call, Layout.chars, Layout.brackets, render, Slot.canonical, Slot.render,
      List.intercalate]
  | unary f e => exact f.chars_layout e.chars_layout
  | binary f a b => exact f.chars_layout a.chars_layout b.chars_layout
  | regex text pattern =>
    simp [layout, Layout.chars_call, Layout.brackets, render, List.intercalate, text.chars_layout,
      pattern.chars_layout]
  | regexWith text pattern letters =>
    simp [layout, Layout.chars_call, Layout.brackets, render, List.intercalate, text.chars_layout,
      pattern.chars_layout, letters.chars_layout]
  | isIn needle members =>
    simp [layout, Layout.chars_operation, Layout.chars_call, Layout.brackets, render,
      needle.chars_layout, chars_layoutAll members]
  | conditional c a b =>
    simp [layout, Layout.chars_call, Layout.brackets, render, List.intercalate, c.chars_layout,
      a.chars_layout, b.chars_layout]
  | concat parts =>
    simp [layout, Layout.chars_call, Layout.brackets, render, chars_layoutAll parts]
  | coalesce choices =>
    simp [layout, Layout.chars_call, Layout.brackets, render, chars_layoutAll choices]

theorem chars_layoutAll (es : List Expression) :
    (layoutAll es).map Layout.chars = (renderAll [] es).map String.toList := by
  cases es with
  | nil => rfl
  | cons e es => simp [layoutAll, renderAll, e.chars_layout, chars_layoutAll es]

end

end Expression

/-! ## Names and operators -/

theorem UnaryFunction.legible_layout (f : UnaryFunction) {argument : Layout} (h : argument.Legible) :
    (f.layout argument).Legible := by
  have hArgs : ∀ arg ∈ [argument], arg.Legible := by simpa using h
  cases f
  case negate | not => exact .signed (by decide) h
  all_goals exact .call (by decide) hArgs

theorem BinaryFunction.legible_layout (f : BinaryFunction) {a b : Layout} (ha : a.Legible)
    (hb : b.Legible) : (f.layout a b).Legible := by
  have hArgs : ∀ arg ∈ [a, b], arg.Legible := by simp [ha, hb]
  cases f
  case compare c => exact .operation (by cases c <;> decide) ha hb
  case add | subtract | multiply | divide | and | or => exact .operation (by decide) ha hb
  all_goals exact .call (by decide) hArgs

namespace Expression

mutual

theorem legible_layout (e : Expression) (h : ∀ v ∈ e.occurrences, Variable.isValidName v.name = true) :
    e.layout.Legible := by
  cases e with
  | constant t => exact .slot trivial
  | var v => exact .slot (h v List.mem_cons_self)
  | bound v =>
    refine .call (by decide) ?_
    simpa using .slot (h v List.mem_cons_self)
  | unary f e => exact f.legible_layout (e.legible_layout h)
  | binary f a b =>
    rw [occurrences, List.forall_mem_append] at h
    exact f.legible_layout (a.legible_layout h.1) (b.legible_layout h.2)
  | regex text pattern =>
    rw [occurrences, List.forall_mem_append] at h
    refine .call (by decide) ?_
    simp [text.legible_layout h.1, pattern.legible_layout h.2]
  | regexWith text pattern letters =>
    rw [occurrences, List.forall_mem_append, List.forall_mem_append] at h
    refine .call (by decide) ?_
    simp [text.legible_layout h.1.1, pattern.legible_layout h.1.2, letters.legible_layout h.2]
  | isIn needle members =>
    rw [occurrences, List.forall_mem_append] at h
    exact .operation (by decide) (needle.legible_layout h.1)
      (.call (by decide) (legible_layoutAll members h.2))
  | conditional c a b =>
    rw [occurrences, List.forall_mem_append, List.forall_mem_append] at h
    refine .call (by decide) ?_
    simp [c.legible_layout h.1.1, a.legible_layout h.1.2, b.legible_layout h.2]
  | concat parts => exact .call (by decide) (legible_layoutAll parts h)
  | coalesce choices => exact .call (by decide) (legible_layoutAll choices h)

theorem legible_layoutAll (es : List Expression)
    (h : ∀ v ∈ occurrencesOfAll es, Variable.isValidName v.name = true) :
    ∀ l ∈ layoutAll es, l.Legible := by
  cases es with
  | nil => exact List.forall_mem_nil _
  | cons e es =>
    rw [occurrencesOfAll, List.forall_mem_append] at h
    exact List.forall_mem_cons.mpr ⟨e.legible_layout h.1, legible_layoutAll es h.2⟩

end

end Expression

/-! ## Reading a layout -/

/-- The function of a name. -/
def UnaryFunction.ofName? : String → Option UnaryFunction
  | "ABS" => some abs
  | "STRLEN" => some strlen
  | "UCASE" => some ucase
  | "LCASE" => some lcase
  | "STR" => some str
  | "LANG" => some lang
  | "DATATYPE" => some datatype
  | "isIRI" => some isIri
  | "isBLANK" => some isBlank
  | "isLITERAL" => some isLiteral
  | "isNUMERIC" => some isNumeric
  | _ => none

namespace BinaryFunction

/-- The function of a name. -/
def ofName? : String → Option BinaryFunction
  | "sameTerm" => some sameTerm
  | "langMatches" => some langMatches
  | "STRSTARTS" => some strStarts
  | "STRENDS" => some strEnds
  | "CONTAINS" => some contains
  | _ => none

/-- The operator of a sign. -/
def ofOperator? : String → Option BinaryFunction
  | "+" => some add
  | "-" => some subtract
  | "*" => some multiply
  | "/" => some divide
  | "&&" => some and
  | "||" => some or
  | "=" => some (compare .eq)
  | "!=" => some (compare .ne)
  | "<" => some (compare .lt)
  | "<=" => some (compare .le)
  | ">" => some (compare .gt)
  | ">=" => some (compare .ge)
  | _ => none

end BinaryFunction

/-- The call of a name on arguments. -/
def Expression.ofCall? : String → List Expression → Option Expression
  | "BOUND", [var v] => some (bound v)
  | "REGEX", [text, pattern] => some (regex text pattern)
  | "REGEX", [text, pattern, letters] => some (regexWith text pattern letters)
  | "IF", [c, a, b] => some (conditional c a b)
  | "CONCAT", parts => some (concat parts)
  | "COALESCE", choices => some (coalesce choices)
  | name, [e] => do return unary (← UnaryFunction.ofName? name) e
  | name, [a, b] => do return binary (← BinaryFunction.ofName? name) a b
  | _, _ => none

namespace Layout

mutual

/-- The expression that is set so. -/
def read? : Layout → Option Expression
  | slot (.term t) => some (.constant t)
  | slot (.var v) => some (.var v)
  | empty name => Expression.ofCall? name []
  | group _ ['-'] e [] => do return .unary .negate (← e.read?)
  | group _ ['!'] e [] => do return .unary .not (← e.read?)
  | group _ _ needle [(.operator "IN", members)] => do
    return .isIn (← needle.read?) (← members.readArguments?)
  | group _ _ a [(.operator operator, b)] => do
    return .binary (← BinaryFunction.ofOperator? operator) (← a.read?) (← b.read?)
  | group name _ first others => do
    Expression.ofCall? name ((← first.read?) :: (← readOthers? others))

/-- The expressions in brackets. -/
def readArguments? : Layout → Option (List Expression)
  | slot _ => none
  | empty _ => some []
  | group _ _ first others => do return (← first.read?) :: (← readOthers? others)

/-- The expressions after separators. -/
def readOthers? : List (Separator × Layout) → Option (List Expression)
  | [] => some []
  | (_, next) :: others => do return (← next.read?) :: (← readOthers? others)

end

theorem readOthers?_comma (ls : List Layout) : readOthers? (ls.map (.comma, ·)) = ls.mapM read? := by
  induction ls with
  | nil => rfl
  | cons l ls ih => rw [List.map_cons, readOthers?, ih, List.mapM_cons]

theorem readArguments?_call (name : String) (args : List Layout) :
    (call name args).readArguments? = args.mapM read? := by
  cases args with
  | nil => rfl
  | cons first others => rw [call, readArguments?, readOthers?_comma, List.mapM_cons]

theorem read?_call (name : String) (args : List Layout) :
    (call name args).read? = args.mapM read? >>= Expression.ofCall? name := by
  cases args with
  | nil => rfl
  | cons first others =>
    -- A comma is no operator, whether or not there is one.
    have hRead : (call name (first :: others)).read? = (do
        Expression.ofCall? name ((← first.read?) :: (← readOthers? (others.map (.comma, ·))))) := by
      cases others <;> rfl
    rw [hRead, readOthers?_comma, List.mapM_cons]
    simp only [bind_assoc, pure_bind]

end Layout

theorem UnaryFunction.read?_layout (f : UnaryFunction) {argument : Layout} {e : Expression}
    (h : argument.read? = some e) : (f.layout argument).read? = some (.unary f e) := by
  have hCall : ∀ {name}, Expression.ofCall? name [e] = some (.unary f e) →
      (call name [argument]).read? = some (.unary f e) := by
    intro name hName
    simp [Layout.read?_call, h, hName]
  cases f
  case negate | not => simp [layout, signed, Layout.read?, h]
  all_goals exact hCall rfl

theorem BinaryFunction.read?_layout (f : BinaryFunction) {la lb : Layout} {a b : Expression}
    (ha : la.read? = some a) (hb : lb.read? = some b) :
    (f.layout la lb).read? = some (.binary f a b) := by
  have hOperation : ∀ {operator}, operator ≠ "IN" → ofOperator? operator = some f →
      (operation operator la lb).read? = some (.binary f a b) := by
    intro operator hIn hOperator
    simp [operation, Layout.read?, hOperator, ha, hb]
  have hCall : ∀ {name}, Expression.ofCall? name [a, b] = some (.binary f a b) →
      (call name [la, lb]).read? = some (.binary f a b) := by
    intro name hName
    simp [Layout.read?_call, ha, hb, hName]
  cases f
  case compare c => cases c <;> exact hOperation (by decide) rfl
  case add | subtract | multiply | divide | and | or => exact hOperation (by decide) rfl
  all_goals exact hCall rfl

namespace Expression

mutual

theorem read?_layout (e : Expression) : e.layout.read? = some e := by
  cases e with
  | constant t => rfl
  | var v => rfl
  | bound v => rfl
  | unary f e => exact f.read?_layout e.read?_layout
  | binary f a b => exact f.read?_layout a.read?_layout b.read?_layout
  | regex text pattern =>
    simp [layout, Layout.read?_call, text.read?_layout, pattern.read?_layout, ofCall?]
  | regexWith text pattern letters =>
    simp [layout, Layout.read?_call, text.read?_layout, pattern.read?_layout, letters.read?_layout,
      ofCall?]
  | isIn needle members =>
    simp [layout, operation, Layout.read?, Layout.readArguments?_call, needle.read?_layout,
      mapM_read?_layoutAll members]
  | conditional c a b =>
    simp [layout, Layout.read?_call, c.read?_layout, a.read?_layout, b.read?_layout, ofCall?]
  | concat parts => simp [layout, Layout.read?_call, mapM_read?_layoutAll parts, ofCall?]
  | coalesce choices => simp [layout, Layout.read?_call, mapM_read?_layoutAll choices, ofCall?]

theorem mapM_read?_layoutAll (es : List Expression) :
    (layoutAll es).mapM Layout.read? = some es := by
  cases es with
  | nil => rfl
  | cons e es => simp [layoutAll, List.mapM_cons, e.read?_layout, mapM_read?_layoutAll es]

end

/-! ## Texts determine expressions -/

theorem layout_injective {e e' : Expression} (h : e.layout = e'.layout) : e = e' :=
  Option.some.inj (by rw [← e.read?_layout, h, e'.read?_layout])

/-- Terms are valid by their types, so only the names of variables need be asked for. -/
theorem eq_of_canonical_eq {e e' : Expression}
    (hNames : ∀ v ∈ e.vars, Variable.isValidName v.name = true)
    (hNames' : ∀ v ∈ e'.vars, Variable.isValidName v.name = true)
    (hEq : e.canonical = e'.canonical) : e = e' := by
  have hLegible : ∀ {e : Expression}, (∀ v ∈ e.vars, Variable.isValidName v.name = true) →
      e.layout.Legible := fun h => legible_layout _ fun v hv => h v (mem_firsts.mpr hv)
  -- A closing bracket after both texts marks where the layouts end.
  have hText : e.layout.chars ++ [')'] = e'.layout.chars ++ [')'] := by
    rw [chars_layout, chars_layout]
    exact congrArg (fun text : String => text.toList ++ [')']) hEq
  have hEnd : Text.AtStop [')'] := .intro (by decide)
  exact layout_injective
    (Layout.eq_of_append_atStop (hLegible hNames) (hLegible hNames') hEnd hEnd hText).1

/-- One literal built in two ways, and two that look like a list of more members. -/
theorem eq_of_canonical_eq_quoted :
    let list (members : List Term) : Expression := isIn (var ⟨"x"⟩) (members.map constant)
    let typed := list [.literal (.ofDatatype "a\", ?x) + \"" Datatype.string.iri)]
    let simple := list [.simple "a\", ?x) + \""]
    ((∀ v ∈ typed.vars, Variable.isValidName v.name = true) ∧
      (∀ v ∈ simple.vars, Variable.isValidName v.name = true) ∧
      typed.canonical = simple.canonical ∧ typed = simple) ∧
    (list [.simple "a, b"]).canonical ≠ (list [.simple "a", .simple "b"]).canonical := by
  intro list typed simple
  have hNames : ∀ v ∈ typed.vars, Variable.isValidName v.name = true := by decide
  have hNames' : ∀ v ∈ simple.vars, Variable.isValidName v.name = true := by decide
  have hEq : typed.canonical = simple.canonical := by decide +kernel
  refine ⟨⟨hNames, hNames', hEq, eq_of_canonical_eq hNames hNames' hEq⟩, fun h => ?_⟩
  have hSame := eq_of_canonical_eq (by decide) (by decide) h
  simp [list] at hSame

/-- A name that no query may use could pass for two variables. -/
example : (concat [.var ⟨"x, ?y"⟩]).canonical = (concat [.var ⟨"x"⟩, .var ⟨"y"⟩]).canonical := by
  decide

end Expression

end GraphQuery
