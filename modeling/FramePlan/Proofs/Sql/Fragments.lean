import FramePlan.Proofs.Eval.Naming
import FramePlan.Proofs.Text.Decimal
import FramePlan.Sql.Parser.Statement

/-!
# Fragments that spell expressions

A fragment of query text has a meaning of its own: its syntax tree is evaluated by the rules for
queries, and its column is named after the leftmost column in the tree. `Spells e s` says that the
query tree `s` is a way to write the expression `e`, with parentheses, quotes, spellings of numbers
and functions, and forms of casts left open, and `toSql` is one such way. The relation is decidable,
so that a text can be read and compared with an expression (`reads`).

1. `eval_of_spells`: the two trees have the same series, or the same fault.
2. `leftmost?_of_spells`: the leftmost column of the query tree is the leftmost name of the
   expression, which the column of the expression has by `name_eval`.
3. `fragment_means_expression` puts the two together: the select item, and the fragment that is read
   as it, give what the expression gives.
-/
namespace FramePlan.Sql

open FramePlan.Eval Table

/-! ## Expressions that queries can say -/

/-- The function of queries that computes an aggregate. -/
def aggregateName : AggOp → String
  | .sum => "sum"
  | .mean => "avg"
  | .min => "min"
  | .max => "max"
  | .count => "count"
  | .first => "first"
  | .last => "last"

/-- The function of queries that computes a function of texts, if there is one. -/
def textName? : StrOp → Option String
  | .len => some "length"
  | .lenBytes => some "octet_length"
  | .upper => some "upper"
  | .lower => some "lower"
  | .reverse => some "reverse"
  | _ => none

def typeName : DataType → TypeName
  | .int64 => ⟨"BIGINT", some .int64⟩
  | .float64 => ⟨"DOUBLE", some .float64⟩
  | .utf8 => ⟨"VARCHAR", some .utf8⟩
  | .boolean => ⟨"BOOLEAN", some .boolean⟩

/-- Literals without a sign and a point. -/
def isPlain : Value → Bool
  | .int i => decide (0 ≤ i)
  | .float _ => false
  | _ => true

/-- A node that queries have a form for. -/
def isSpellable : FramePlan.Expr → Bool
  | .column _ => true
  | .literal v => isPlain v
  | .unary _ _ => true
  | .binary _ _ _ => true
  | .cast _ _ => true
  | .agg _ _ => true
  | .str op _ => (textName? op).isSome
  | _ => false

def callOn (name : String) (s : Expr) : Expr := .call [⟨name, none⟩] (.list "" [.expr s] "") false ""

def literalOf : Value → Literal
  | .int i => .number (Integer.toText i) false
  | .float x => .other (Value.float x).display
  | .str s => .string s
  | .bool b => .bool b
  | .null => .null

/-- The query tree that says what an expression says. What has no form stays a text. -/
def toSql : FramePlan.Expr → Expr
  | .column name => .ident ⟨name, some '"'⟩
  | .literal v => .literal (literalOf v)
  | .unary .not e => .unary .not (toSql e)
  | .unary .neg e => .unary .minus (toSql e)
  | .unary .isNull e => .isNull (toSql e)
  | .unary .isNotNull e => .isNotNull (toSql e)
  | .binary op l r => .binary (.plain op) (toSql l) (toSql r)
  | .cast e target => .cast (toSql e) .call (typeName target) ""
  | .agg op e => callOn (aggregateName op) (toSql e)
  | .str op e => ((textName? op).map (callOn · (toSql e))).getD 
    (.foreign (FramePlan.Expr.str op e).display)
  | .offset func e => .foreign (FramePlan.Expr.offset func e).display
  | .window e spec => .foreign (FramePlan.Expr.window e spec).display
  | .aliased e name => .foreign (FramePlan.Expr.aliased e name).display
  | .raw text => .foreign text

/-! ## Spellings -/

/-- The query tree is a spelling of the expression. -/
inductive Spells : FramePlan.Expr → Expr → Prop
  | column (name : Ident) : Spells (.column name.value) (.ident name)
  | int {i : Int64} {text : String} (long : Bool) (h : Integer.ofText? text = some i) :
      Spells (.literal (.int i)) (.literal (.number text long))
  | str (s : String) : Spells (.literal (.str s)) (.literal (.string s))
  | bool (b : Bool) : Spells (.literal (.bool b)) (.literal (.bool b))
  | null : Spells (.literal .null) (.literal .null)
  | nested {e : FramePlan.Expr} {s : Expr} (h : Spells e s) : Spells e (.nested s)
  | not {e : FramePlan.Expr} {s : Expr} (h : Spells e s) : Spells (.unary .not e) (.unary .not s)
  | neg {e : FramePlan.Expr} {s : Expr} (h : Spells e s) : Spells (.unary .neg e) (.unary .minus s)
  | isNull {e : FramePlan.Expr} {s : Expr} (h : Spells e s) : Spells (.unary .isNull e) (.isNull s)
  | isNotNull {e : FramePlan.Expr} {s : Expr} (h : Spells e s) :
      Spells (.unary .isNotNull e) (.isNotNull s)
  | binary {l r : FramePlan.Expr} {a b : Expr} (op : BinaryOp) (hl : Spells l a) (hr : Spells r b) :
      Spells (.binary op l r) (.binary (.plain op) a b)
  | cast {e : FramePlan.Expr} {s : Expr} {target : DataType} {type : TypeName} (style : CastStyle)
      (format : String) (h : Spells e s) (ht : type.target = some target) :
      Spells (.cast e target) (.cast s style type format)
  | agg {e : FramePlan.Expr} {s : Expr} {op : AggOp} {name : List Ident} (before behind tail : String)
      (h : Spells e s) (hop : aggregateOf? (functionName name) = some op) :
      Spells (.agg op e) (.call name (.list before [.expr s] behind) false tail)
  | text {e : FramePlan.Expr} {s : Expr} {op : StrOp} {name : List Ident} (before behind tail : String)
      (h : Spells e s) (hop : textOf? (functionName name) = some op) :
      Spells (.str op e) (.call name (.list before [.expr s] behind) false tail)

variable {e : FramePlan.Expr} {s : Expr} {t : Table}

theorem isTree_of_isSpellable (e : FramePlan.Expr) (h : isSpellable e = true) : e.isTree = true := by
  cases e <;> first | rfl | cases h

theorem isFlat_of_isSpellable (e : FramePlan.Expr) (h : isSpellable e = true) : e.isFlat = true := by
  cases e <;> first | rfl | cases h

theorem aggregateOf?_aggregateName (op : AggOp) :
    aggregateOf? (functionName [⟨aggregateName op, none⟩]) = some op := by
  cases op <;> rfl

theorem textOf?_textName? {op : StrOp} {name : String} (h : textName? op = some name) :
    textOf? (functionName [⟨name, none⟩]) = some op := by
  cases op <;> cases h <;> rfl

theorem target_typeName (target : DataType) : (typeName target).target = some target := by
  cases target <;> rfl

/-- **The query tree of an expression is a spelling of it.** -/
theorem spells_toSql (h : e.Made isSpellable) : Spells e (toSql e) := by
  induction e with
  | column name => exact .column ⟨name, some '"'⟩
  | literal v =>
    cases v with
    | int i => exact .int false (Integer.ofText?_toText i)
    | float x => exact absurd h.self Bool.false_ne_true
    | str s => exact .str s
    | bool b => exact .bool b
    | null => exact .null
  | unary op e ih =>
    have he := ih (h.only rfl)
    cases op with
    | not => exact .not he
    | neg => exact .neg he
    | isNull => exact .isNull he
    | isNotNull => exact .isNotNull he
  | binary op l r ihl ihr => exact .binary op (ihl h.left) (ihr h.right)
  | cast e target ih =>
    exact .cast .call "" (ih (h.only rfl)) (target_typeName target)
  | agg op e ih =>
    exact .agg "" "" "" (ih (h.only rfl)) (aggregateOf?_aggregateName op)
  | str op e ih =>
    have hop : (textName? op).isSome = true := h.self
    obtain ⟨name, hname⟩ := Option.isSome_iff_exists.mp hop
    have he := ih (h.only rfl)
    rw [toSql, hname]
    exact .text "" "" "" he (textOf?_textName? hname)
  | _ => exact absurd h.self Bool.false_ne_true

/-! ### Telling spellings -/

/-- Whether the query tree is a spelling of the expression, told by looking at the two trees. -/
def isSpelling : FramePlan.Expr → Expr → Bool
  | e, .nested s => isSpelling e s
  | .column name, .ident i => i.value == name
  | .literal (.int i), .literal (.number text _) => Integer.ofText? text == some i
  | .literal (.str s), .literal (.string r) => r == s
  | .literal (.bool b), .literal (.bool c) => c == b
  | .literal .null, .literal .null => true
  | .unary .not e, .unary .not s => isSpelling e s
  | .unary .neg e, .unary .minus s => isSpelling e s
  | .unary .isNull e, .isNull s => isSpelling e s
  | .unary .isNotNull e, .isNotNull s => isSpelling e s
  | .binary op l r, .binary (.plain p) a b => p == op && isSpelling l a && isSpelling r b
  | .cast e target, .cast s _ type _ => type.target == some target && isSpelling e s
  | .agg op e, .call name (.list _ [.expr s] _) false _ =>
    aggregateOf? (functionName name) == some op && isSpelling e s
  | .str op e, .call name (.list _ [.expr s] _) false _ =>
    textOf? (functionName name) == some op && isSpelling e s
  | _, _ => false
termination_by structural _ s => s

theorem spells_of_isSpelling (h : isSpelling e s = true) : Spells e s := by
  fun_induction isSpelling e s with
  | case1 e s ih => exact .nested (ih h)
  | case2 name i =>
    obtain rfl := beq_iff_eq.mp h
    exact .column i
  | case3 i text long => exact .int long (beq_iff_eq.mp h)
  | case4 s r =>
    obtain rfl := beq_iff_eq.mp h
    exact .str _
  | case5 b c =>
    obtain rfl := beq_iff_eq.mp h
    exact .bool _
  | case6 => exact .null
  | case7 e s ih => exact .not (ih h)
  | case8 e s ih => exact .neg (ih h)
  | case9 e s ih => exact .isNull (ih h)
  | case10 e s ih => exact .isNotNull (ih h)
  | case11 op l r p a b ihl ihr =>
    simp only [Bool.and_eq_true, beq_iff_eq] at h
    obtain ⟨⟨rfl, hl⟩, hr⟩ := h
    exact .binary _ (ihl hl) (ihr hr)
  | case12 e target s style type format ih =>
    simp only [Bool.and_eq_true, beq_iff_eq] at h
    exact .cast style format (ih h.2) h.1
  | case13 op e name before s behind tail ih =>
    simp only [Bool.and_eq_true, beq_iff_eq] at h
    exact .agg before behind tail (ih h.2) h.1
  | case14 op e name before s behind tail ih =>
    simp only [Bool.and_eq_true, beq_iff_eq] at h
    exact .text before behind tail (ih h.2) h.1
  | case15 => cases h

theorem isSpelling_of_spells (h : Spells e s) : isSpelling e s = true := by
  induction h with
  | null => rfl
  | column name | str s | bool b => exact beq_self_eq_true _
  | int long h => exact beq_iff_eq.mpr h
  | nested h ih | not h ih | neg h ih | isNull h ih | isNotNull h ih =>
    rw [isSpelling]
    exact ih
  | binary op hl hr ihl ihr => simp [isSpelling, ihl, ihr]
  | cast style format h hop ih | agg before behind tail h hop ih | text before behind tail h hop ih =>
    simp [isSpelling, hop, ih]

instance : Decidable (Spells e s) :=
  decidable_of_iff (isSpelling e s = true) ⟨spells_of_isSpelling, isSpelling_of_spells⟩

/-! ## Meaning -/

section

variable {height : Nat} {name : String} {x : Outcome Series}

theorem applyFunction_aggregate {op : AggOp} (h : aggregateOf? name = some op) :
    applyFunction height name [.series x] = x >>= aggregate op := by
  unfold applyFunction
  split
  · rename_i heq
    cases heq
  · cases h
  · cases h
  · rw [h]
    rfl

theorem applyFunction_text {op : StrOp} (h : textOf? name = some op) :
    applyFunction height name [.series x] = x >>= string op := by
  have hname : name ∈ ["length", "char_length", "len", "octet_length", "upper", "lower", "reverse"] := by
    by_contra hnot
    simp only [List.mem_cons, List.not_mem_nil, or_false, not_or] at hnot
    simp [textOf?, hnot] at h
  have hagg : aggregateOf? name = none := by
    simp only [List.mem_cons, List.not_mem_nil, or_false] at hname
    rcases hname with rfl | rfl | rfl | rfl | rfl | rfl | rfl <;> rfl
  unfold applyFunction
  split
  · rename_i heq
    cases heq
  · cases h
  · cases h
  · rw [h, hagg]
    rfl

end

/-- **A spelling has the series of the expression, or its fault.** -/
theorem eval_of_spells [Sql.Reader] (h : Spells e s) (t : Table) : s.eval t = e.eval t := by
  induction h with
  | column name => rw [Expr.eval, FramePlan.Expr.eval]
  | int long h =>
    rw [Expr.eval, Literal.value, h]
    rfl
  | str s => rw [Expr.eval]; rfl
  | bool b => rw [Expr.eval]; rfl
  | null => rw [Expr.eval]; rfl
  | nested h ih => rw [Expr.eval, ih]
  | not h ih => rw [Expr.eval, FramePlan.Expr.eval, ih]; rfl
  | neg h ih => rw [Expr.eval, FramePlan.Expr.eval, ih]; rfl
  | isNull h ih => rw [Expr.eval, FramePlan.Expr.eval, ih]
  | isNotNull h ih => rw [Expr.eval, FramePlan.Expr.eval, ih]
  | binary op hl hr ihl ihr => rw [Expr.eval, FramePlan.Expr.eval, ihl, ihr]; rfl
  | cast style format h ht ih =>
    rw [Expr.eval, FramePlan.Expr.eval, ih]
    simp only [ht]
  | agg before behind tail h hop ih =>
    rw [Expr.eval, FramePlan.Expr.eval, ← ih]
    simp only [Args.eval, evalArgs, understood, pure_eq_ok, ok_bind, Bool.false_eq_true, if_false]
    exact applyFunction_aggregate hop
  | text before behind tail h hop ih =>
    rw [Expr.eval, FramePlan.Expr.eval, ← ih]
    simp only [Args.eval, evalArgs, understood, pure_eq_ok, ok_bind, Bool.false_eq_true, if_false]
    exact applyFunction_text hop

/-! ## Names -/

theorem leftmost?_of_spells (h : Spells e s) : s.leftmost? = e.leadName? := by
  induction h with
  | column name => rw [Expr.leftmost?, FramePlan.Expr.leadName?]
  | int long h => rw [Expr.leftmost?, FramePlan.Expr.leadName?]
  | str s => rw [Expr.leftmost?, FramePlan.Expr.leadName?]
  | bool b => rw [Expr.leftmost?, FramePlan.Expr.leadName?]
  | null => rw [Expr.leftmost?, FramePlan.Expr.leadName?]
  | nested h ih => rw [Expr.leftmost?, ih]
  | not h ih | neg h ih | isNull h ih | isNotNull h ih =>
    rw [Expr.leftmost?, FramePlan.Expr.leadName?, ih]
  | binary op hl hr ihl ihr => rw [Expr.leftmost?, FramePlan.Expr.leadName?, ihl, ihr]
  | cast style format h ht ih => rw [Expr.leftmost?, FramePlan.Expr.leadName?, ih]
  | agg before behind tail h hop ih | text before behind tail h hop ih =>
    rw [Expr.leftmost?, FramePlan.Expr.leadName?, Args.leftmost?, leftmostArg?, leftmostArg?, ih]
    simp

/-- The column of a spelling without an alias is named by the leftmost name of the expression. -/
theorem defaultName_of_spells (h : Spells e s) : s.defaultName = e.leadName?.getD "literal" := by
  rw [← leftmost?_of_spells h]
  unfold Expr.defaultName
  split
  · cases h
  · rfl

/-! ## Items and fragments -/

theorem namedIn_of_spellable (h : e.Made isSpellable)
    (exact : ∀ name, .column name ∈ e.nodes → name ∈ t.names ∧ name ≠ "literal") : e.NamedIn t := by
  refine ⟨?_, ?_, ?_⟩
  · intro name hn
    exact (exact name hn).1
  · intro hn
    exact (exact "literal" hn).2 rfl
  · intro x hx
    exact absurd (h _ hx) Bool.false_ne_true

/-- The text, as a fragment, is read as the one select item that the tree is. -/
def ReadAs [Sql.Reader] (text : String) (s : Expr) : Prop :=
  ∃ select q, readSelect ("SELECT " ++ text ++ " FROM " ++ inputTable) = .ok (select, q) ∧
    select.items = [.unnamed s]

theorem evalFragment_of_readAs [Sql.Reader] {text : String} (h : ReadAs text s) :
    evalFragment text t = (Item.unnamed s).eval t := by
  obtain ⟨select, q, hread, hitems⟩ := h
  rw [evalFragment, hread]
  simp only [ok_bind, hitems]

/-- **A fragment means what the expression means that it spells.** Let an expression be made of
columns, literals without sign and point, and the operators, casts, aggregates and functions of texts
that queries have, and let a table have its columns under just their names, none of which is
`literal`. Then the query tree of the expression is a spelling of it; every spelling, as a select item,
has the series of the expression with its name and its type, or its fault; and so has every fragment
that is read as this item. -/
theorem fragment_means_expression [Sql.Reader] (spellable : e.Made isSpellable)
    (exact : ∀ name, .column name ∈ e.nodes → name ∈ t.names ∧ name ≠ "literal") :
    Spells e (toSql e) ∧ ∀ s, Spells e s → (Item.unnamed s).eval t = e.eval t ∧
      ∀ text, ReadAs text s → (FramePlan.Expr.raw text).eval t = e.eval t := by
  refine ⟨spells_toSql spellable, ?_⟩
  intro s hs
  have hitem : (Item.unnamed s).eval t = e.eval t := by
    have tree : e.Made FramePlan.Expr.isTree := spellable.mono isTree_of_isSpellable
    have flat : e.Made FramePlan.Expr.isFlat := spellable.mono isFlat_of_isSpellable
    have hname := name_eval tree (namedIn_of_spellable spellable exact) (.inr flat)
    rw [Item.eval, eval_of_spells hs, defaultName_of_spells hs]
    cases heval : e.eval t with
    | error fault => rfl
    | ok r =>
      have hr : r.name = e.leadName?.getD "literal" := hname r heval
      rw [← hr]
      rfl
  refine ⟨hitem, ?_⟩
  intro text htext
  rw [FramePlan.Expr.eval, evalFragment_of_readAs htext]
  exact hitem

/-! ### A text -/

/-- Whether the text, as a fragment, is read as a spelling of the expression. -/
def reads [Sql.Reader] (e : FramePlan.Expr) (text : String) : Bool :=
  match readSelect ("SELECT " ++ text ++ " FROM " ++ inputTable) with
  | .ok (select, _) =>
    match select.items with
    | [.unnamed s] => decide (Spells e s)
    | _ => false
  | .error _ => false

theorem readAs_of_reads [Sql.Reader] {text : String} (h : reads e text = true) :
    ∃ s, ReadAs text s ∧ Spells e s := by
  unfold reads at h
  split at h
  · rename_i select q hread
    split at h
    · rename_i s hitems
      exact ⟨s, ⟨select, q, hread, hitems⟩, of_decide_eq_true h⟩
    · cases h
  · cases h

/-- Twice what is one more than the amount. -/
def twiceMore : FramePlan.Expr :=
  .binary .mul (.literal (.int 2)) (.binary .add (.column "n") (.literal (.int 1)))

attribute [local instance] Sql.dialect

/-- A text with parentheses, and with a number written longer than it needs to be. The literal on the
    left gives way to the column for the name. -/
theorem fragment_means_expression_twiceMore :
    (FramePlan.Expr.raw "02 * (n + 1)").eval amounts = .ok ⟨"n", .i64, [.int 4, .null, .int 8]⟩ := by
  have hread : reads twiceMore "02 * (n + 1)" = true := by decide +kernel
  obtain ⟨s, htext, hs⟩ := readAs_of_reads hread
  have spellable : twiceMore.Made isSpellable := by
    simp [FramePlan.Expr.Made, FramePlan.Expr.nodes, twiceMore, isSpellable, isPlain]
  have exact : ∀ name, .column name ∈ twiceMore.nodes → name ∈ amounts.names ∧ name ≠ "literal" := by
    simp [FramePlan.Expr.nodes, twiceMore, names, amounts]
  rw [((fragment_means_expression spellable exact).2 s hs).2 _ htext]
  decide +kernel

end FramePlan.Sql
