import FramePlan.Eval.Plan

/-!
# What a run comes by

`trace` lists what the run of a plan comes by on its way to its table: the tables that it evaluates
something on, the series of every expression and of every expression inside it, and what its operators and
aggregates were given and made of it. It goes beside the evaluator, by the same recursion and with the
values that the evaluator finds.

Where an evaluation stops with a fault, what stands behind the fault in the tree is listed all the same. A
run that comes to its table has no such place, but for items and windows that are tried on no rows.
-/
namespace FramePlan

inductive Event
  | table (t : Table)
  | series (s : Series)
  /-- Two series and what an operator makes of them. -/
  | combined (op : BinaryOp) (left right result : Series)
  /-- A series and what an aggregate makes of it. -/
  | reduced (op : AggOp) (s result : Series)

namespace Eval

/-- What comes of a computation that succeeds. -/
def onSuccess {α : Type} (x : Outcome α) (f : α → List Event) : List Event :=
  match x with
  | .ok a => f a
  | .error _ => []

def noted (x : Outcome Series) : List Event := onSuccess x fun s => [.series s]

theorem mem_noted {x : Outcome Series} {s : Series} (h : x = .ok s) : .series s ∈ noted x := by
  rw [h]
  exact List.mem_singleton_self _

def combination (op : BinaryOp) (x y : Outcome Series) : List Event :=
  onSuccess x fun l => onSuccess y fun r => onSuccess (binary op l r) fun s => [.combined op l r s]

/-- What an aggregate is given and makes of it. -/
def reduction (op : AggOp) (x : Outcome Series) : List Event :=
  onSuccess x fun s => onSuccess (aggregate op s) fun r => [.reduced op s r]

/-- An item on each of several parts of a table. -/
def onParts (parts : List Table) (item : Table → List Event) : List Event :=
  parts.flatMap fun part => .table part :: item part

/-- The parts of a table that groups of its rows make, or what an item is tried on if there are none. -/
def groupParts (t trial : Table) (groups : List (List Nat)) : List Table :=
  if groups.isEmpty then [trial] else groups.map t.take

/-- An item on the groups of a table, or on no rows if there are no groups. -/
def onGroups (t : Table) (groups : List (List Nat)) (item : Table → List Event) : List Event :=
  onParts (groupParts t (t.take []) groups) item

/-- The inside of a window on the partitions of a table, or on the table itself if there are none. -/
def onWindow (t : Table) (spec : WindowSpec) (inner : Table → List Event) : List Event :=
  onSuccess (windowGroups t spec) fun groups => onParts (groupParts t t groups) inner

end Eval

/-! ## Queries -/

namespace Sql

open FramePlan.Eval

def callReduction (name : String) (args : Outcome (List Given)) : List Event :=
  onSuccess args fun given =>
    match aggregateOf? name with
    | some op => reduction op (single name given)
    | none => []

mutual

def Expr.trace (t : Table) : Expr → List Event
  | .ident name => noted ((Expr.ident name).eval t)
  | .compound parts => noted ((Expr.compound parts).eval t)
  | .literal l => noted ((Expr.literal l).eval t)
  | .nested e => e.trace t ++ noted ((Expr.nested e).eval t)
  | .binary op l r =>
    l.trace t ++ (r.trace t ++ onSuccess op.meaning fun op => combination op (l.eval t) (r.eval t)) ++
      noted ((Expr.binary op l r).eval t)
  | .unary sign e => e.trace t ++ noted ((Expr.unary sign e).eval t)
  | .isNull e => e.trace t ++ noted ((Expr.isNull e).eval t)
  | .isNotNull e => e.trace t ++ noted ((Expr.isNotNull e).eval t)
  | .between e n low high =>
    e.trace t ++ (low.trace t ++ high.trace t) ++ noted ((Expr.between e n low high).eval t)
  | .inList e items n => e.trace t ++ traceAll t items ++ noted ((Expr.inList e items n).eval t)
  | .cast e style type format => e.trace t ++ noted ((Expr.cast e style type format).eval t)
  | .case operand branches otherwise =>
    traceOptional t operand ++ (traceBranches t branches ++ traceOptional t otherwise) ++
      noted ((Expr.case operand branches otherwise).eval t)
  | .call name args windowed tail =>
    (if windowed then [] else args.trace t ++ callReduction (functionName name) (args.eval t)) ++
      noted ((Expr.call name args windowed tail).eval t)
  | .subquery _ => []
  | .foreign _ => []

def traceOptional (t : Table) : Option Expr → List Event
  | none => []
  | some e => e.trace t

def traceAll (t : Table) : List Expr → List Event
  | [] => []
  | e :: es => e.trace t ++ traceAll t es

def traceBranches (t : Table) : List (Expr × Expr) → List Event
  | [] => []
  | (c, r) :: rest => c.trace t ++ (r.trace t ++ traceBranches t rest)

def Args.trace (t : Table) : Args → List Event
  | .bare => []
  | .query _ => []
  | .list _ args _ => traceArgs t args

def traceArgs (t : Table) : List Arg → List Event
  | [] => []
  | .expr e :: rest => e.trace t ++ traceArgs t rest
  | .wildcard :: rest => traceArgs t rest
  | .foreign _ :: rest => traceArgs t rest

end

def Item.trace (t : Table) : Item → List Event
  | .unnamed e => e.trace t ++ noted ((Item.unnamed e).eval t)
  | .named e name => e.trace t ++ noted ((Item.named e name).eval t)
  | .wildcard _ => []
  | .foreign _ => []

/-- The series of an expression is listed behind those of the expressions inside it. -/
theorem Expr.series_mem_trace {t : Table} {e : Expr} {s : Series} (h : e.eval t = .ok s) :
    .series s ∈ e.trace t := by
  cases e with
  | ident name => exact mem_noted h
  | compound parts => exact mem_noted h
  | literal l => exact mem_noted h
  | subquery text => cases h
  | foreign text => cases h
  | _ => exact List.mem_append_right _ (mem_noted h)

theorem Item.series_mem_trace {t : Table} {item : Item} {s : Series} (h : item.eval t = .ok s) :
    .series s ∈ item.trace t := by
  cases item with
  | unnamed e => exact List.mem_append_right _ (mem_noted h)
  | named e name => exact List.mem_append_right _ (mem_noted h)
  | wildcard tail => cases h
  | foreign text => cases h

def traceFragment [Sql.Reader] (text : String) (t : Table) : List Event :=
  onSuccess (readSelect ("SELECT " ++ text ++ " FROM " ++ inputTable)) fun p =>
    match p.1.items with
    | [item] => item.trace t
    | _ => []

def tracePerGroup (e : Expr) (group : Table) : List Event :=
  if e.isAggregate ∨ group.height = 0 then e.trace group
  else onParts [group.take [0]] e.trace

def traceGrouped (t : Table) (groups : List (List Nat)) (e : Expr) : List Event :=
  onGroups t groups (tracePerGroup e) ++ noted (aggregateGroups t groups (perGroup e))

def traceGroupedItem (t : Table) (groups : List (List Nat)) : Item → List Event
  | .unnamed e => traceGrouped t groups e
  | .named e _ => traceGrouped t groups e
  | _ => []

def allGroups (t : Table) (keys : List Expr) : Outcome (List (List Nat)) := do
  let series ← keys.mapM fun e => do (← e.eval t).broadcast t.height
  pure (if keys.isEmpty then [List.range t.height] else partition series t.height)

def traceGrouping (t : Table) (select : Select) (keys : List Expr) : List Event :=
  keys.flatMap (Expr.trace t) ++ onSuccess (allGroups t keys) fun all =>
    ((select.having.map (traceGrouped t all)).getD []) ++
      onSuccess (keepGroups t all select.having) fun groups =>
        select.items.flatMap (traceGroupedItem t groups)

def Select.filtered (select : Select) (source : Table) : Outcome Table :=
  match select.filter with
  | some condition => do mask source (← condition.eval source)
  | none => .ok source

def Select.trace (select : Select) (input : Option Table) : List Event :=
  if select.distinct.isSome then []
  else
    onSuccess (sourceRows input select.sources) fun source =>
      .table source :: (traceOptional source select.filter ++
        onSuccess (select.filtered source) fun t =>
          .table t :: onSuccess select.groupBy.keys fun keys =>
            if !keys.isEmpty || select.items.any Item.isAggregate then traceGrouping t select keys
            else select.items.flatMap (Item.trace t))

def traceSortKey (output : Table) : Expr → List Event
  | .literal (.number _ _) => []
  | e => e.trace output

def traceQuery [Sql.Reader] (text : String) (input : Option Table) : List Event :=
  onSuccess (readSelect text) fun p =>
    p.1.trace input ++ onSuccess (p.1.rows input) fun output =>
      .table output :: (p.2.orderBy.flatMap (fun o => traceSortKey output o.expr) ++
        onSuccess (ordered output p.2.orderBy) fun sorted => [.table sorted])

end Sql

/-! ## Expressions of plans -/

open Eval in
def Expr.trace [Sql.Reader] : Expr → Table → List Event
  | .column name, t => noted ((Expr.column name).eval t)
  | .literal v, t => noted ((Expr.literal v).eval t)
  | .aliased e name, t => e.trace t ++ noted ((Expr.aliased e name).eval t)
  | .unary op e, t => e.trace t ++ noted ((Expr.unary op e).eval t)
  | .binary op l r, t =>
    l.trace t ++ (r.trace t ++ combination op (l.eval t) (r.eval t)) ++
      noted ((Expr.binary op l r).eval t)
  | .cast e target, t => e.trace t ++ noted ((Expr.cast e target).eval t)
  | .str op e, t => e.trace t ++ noted ((Expr.str op e).eval t)
  | .agg op e, t => e.trace t ++ reduction op (e.eval t) ++ noted ((Expr.agg op e).eval t)
  | .offset func e, t => e.trace t ++ noted ((Expr.offset func e).eval t)
  | .window e spec, t =>
    onWindow t spec (fun part => e.trace part) ++ noted ((Expr.window e spec).eval t)
  | .raw text, t => Sql.traceFragment text t ++ noted ((Expr.raw text).eval t)

theorem Expr.series_mem_trace [Sql.Reader] {t : Table} {e : Expr} {s : Series} (h : e.eval t = .ok s) :
    .series s ∈ e.trace t := by
  cases e with
  | column name => exact Eval.mem_noted h
  | literal v => exact Eval.mem_noted h
  | _ => exact List.mem_append_right _ (Eval.mem_noted h)

open Eval in
def Selector.trace [Sql.Reader] (s : Selector) (t : Table) : List Event :=
  match s with
  | .name column => noted (t.column column)
  | .expr e => e.trace t
  | .raw text => Sql.traceFragment text t

/-! ## Plans -/

namespace Eval

def traceAll [Sql.Reader] (items : List Selector) (t : Table) : List Event := items.flatMap (·.trace t)

/-- The columns that a grouping goes by, over the rows of the table. -/
def groupKeys [Sql.Reader] (t : Table) (keys : List Selector) : Outcome (List Series) :=
  keys.mapM fun k => do (← k.eval t).broadcast t.height

def traceGroupBy [Sql.Reader] (t : Table) (keys aggs : List Selector) : List Event :=
  traceAll keys t ++ onSuccess (groupKeys t keys) fun series =>
    aggs.flatMap fun a => onGroups t (partition series t.height) a.trace

def traceSource [Sql.Reader] : Operation → List Event
  | .query sql => Sql.traceQuery sql none
  | _ => []

mutual

def traceApply [Sql.Reader] (files : Files) (t : Table) : Operation → List Event
  | .query sql => Sql.traceQuery sql (some t)
  | .select items => traceAll items t
  | .filter predicate => predicate.trace t
  | .withColumns items => traceAll items t
  | .groupBy keys aggs => traceGroupBy t keys aggs
  | .join other _ => trace files other
  | .concat other => trace files other
  | _ => []

/-- What the run of a plan comes by. -/
def trace [Sql.Reader] (files : Files) : Plan → List Event
  | [] => []
  | op :: rest =>
    traceSource op ++ onSuccess (source files op) fun t => .table t :: traceRest files t rest

def traceRest [Sql.Reader] (files : Files) (t : Table) : Plan → List Event
  | [] => []
  | op :: rest =>
    traceApply files t op ++ onSuccess (apply files t op) fun u => .table u :: traceRest files u rest

end

end Eval
end FramePlan
