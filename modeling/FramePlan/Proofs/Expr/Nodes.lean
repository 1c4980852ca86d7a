import FramePlan.Expr.Basic
import Mathlib.Data.List.Basic

/-!
# The nodes of an expression

`Expr.nodes` lists an expression and all the expressions inside it. What a statement asks of an
expression it asks of these: an expression is free of raw fragments, say, if none of its nodes is
one. A kind of node is told by its head alone, so `Made kind e` says that the expression is made of
nodes of that kind, and it goes over to children (`Made.child`).
-/
namespace FramePlan.Expr

/-- The expression and every expression inside it, from the outside to the inside and from left to
    right. -/
def nodes : Expr → List Expr
  | .column name => [.column name]
  | .literal v => [.literal v]
  | .raw text => [.raw text]
  | .unary op e => .unary op e :: e.nodes
  | .binary op l r => .binary op l r :: (l.nodes ++ r.nodes)
  | .cast e target => .cast e target :: e.nodes
  | .str op e => .str op e :: e.nodes
  | .agg op e => .agg op e :: e.nodes
  | .offset func e => .offset func e :: e.nodes
  | .window e spec => .window e spec :: e.nodes
  | .aliased e name => .aliased e name :: e.nodes

variable {e c : Expr}

theorem self_mem_nodes (e : Expr) : e ∈ e.nodes := by
  cases e <;> exact List.mem_cons_self

theorem nodes_subset_of_child (h : c ∈ e.children) : c.nodes ⊆ e.nodes := by
  cases e with
  | column name => simp [children] at h
  | literal v => simp [children] at h
  | raw text => simp [children] at h
  | binary op l r =>
    have hc : c = l ∨ c = r := by simpa [children] using h
    rw [nodes]
    obtain rfl | rfl := hc
    · exact List.subset_cons_of_subset _ (List.subset_append_left _ _)
    · exact List.subset_cons_of_subset _ (List.subset_append_right _ _)
  | _ =>
    rw [List.mem_singleton.mp h, nodes]
    exact List.subset_cons_self _ _

theorem nodes_subset_of_mem (h : c ∈ e.nodes) : c.nodes ⊆ e.nodes := by
  have below {d e : Expr} (hd : d ∈ e.children) (hc : c.nodes ⊆ d.nodes) : c.nodes ⊆ e.nodes :=
    List.Subset.trans hc (nodes_subset_of_child hd)
  induction e with
  | column _ | literal _ | raw _ =>
    rw [List.mem_singleton.mp h]
    exact List.Subset.refl _
  | binary op l r ihl ihr =>
    obtain rfl | h := List.mem_cons.mp h
    · exact List.Subset.refl _
    obtain h | h := List.mem_append.mp h
    · exact below List.mem_cons_self (ihl h)
    · exact below (List.mem_cons_of_mem _ List.mem_cons_self) (ihr h)
  | unary _ e ih | cast e _ ih | str _ e ih | agg _ e ih | offset _ e ih | window e _ ih
  | aliased e _ ih =>
    obtain rfl | h := List.mem_cons.mp h
    · exact List.Subset.refl _
    · exact below List.mem_cons_self (ih h)

/-! ## Kinds of nodes -/

/-- Every node of the expression is of the kind. -/
def Made (kind : Expr → Bool) (e : Expr) : Prop := ∀ x ∈ e.nodes, kind x = true

variable {kind : Expr → Bool}

theorem Made.self (h : Made kind e) : kind e = true := h e (self_mem_nodes e)

theorem Made.mono {wider : Expr → Bool} (h : Made kind e) (hk : ∀ x, kind x = true → wider x = true) :
    Made wider e :=
  fun x hx => hk x (h x hx)

theorem Made.child (h : Made kind e) (hc : c ∈ e.children) : Made kind c :=
  fun x hx => h x (nodes_subset_of_child hc hx)

theorem Made.of_mem (h : Made kind e) (hc : c ∈ e.nodes) : Made kind c :=
  fun x hx => h x (nodes_subset_of_mem hc hx)

theorem Made.only (h : Made kind e) (hc : e.children = [c]) : Made kind c :=
  h.child (hc ▸ List.mem_singleton_self c)

theorem Made.left {op : BinaryOp} {l r : Expr} (h : Made kind (.binary op l r)) : Made kind l :=
  h.child List.mem_cons_self

theorem Made.right {op : BinaryOp} {l r : Expr} (h : Made kind (.binary op l r)) : Made kind r :=
  h.child (List.mem_cons_of_mem _ (List.mem_singleton_self r))

def isTree : Expr → Bool
  | .raw _ => false
  | _ => true

/-- Not a raw fragment, and no replacement by a pattern. -/
def isStructured : Expr → Bool
  | .raw _ => false
  | .str (.replace _ _ false) _ => false
  | _ => true

def isFlat : Expr → Bool
  | .window _ _ => false
  | _ => true

/-- A node that looks at one row at a time. -/
def isRowWise : Expr → Bool
  | .agg _ _ => false
  | .offset _ _ => false
  | .window _ _ => false
  | .raw _ => false
  | _ => true

end FramePlan.Expr
