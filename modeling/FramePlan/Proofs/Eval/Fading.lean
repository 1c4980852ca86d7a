import FramePlan.Proofs.Eval.Heads

/-!
# Heads without rows

A window has no type on a table without rows. What else is computed there goes by that: its type may be
none where there is one on rows, or a number of another kind (`Dtype.Fades`), but it has one, and the same
name. All rules for types put up with this, except that two texts of no type are added like numbers.

`fades_head` goes from rows to no rows: an expression with a head on rows has a head without, as long as
its additions of texts keep one of the two texts (`Expr.KeepsText`). `unfades_head` goes back: an expression
whose operators look at no window's type (`Expr.checksOwnTypes`) fails on rows only if a window in it does.
-/
namespace FramePlan

open Eval

/-- What a type can become where windows have no rows to find theirs on. -/
def Dtype.Fades (d d' : Dtype) : Prop := d' = d ∨ d' = .null ∨ d.isNumeric = true ∧ d'.isNumeric = true

instance (d d' : Dtype) : Decidable (d.Fades d') := inferInstanceAs (Decidable (_ ∨ _ ∨ _ ∧ _))

namespace Eval

variable {a b a' b' d d' r : Dtype} {name : String}

/-! ## Types of one operand -/

theorem unaryType_fades {op : UnaryOp} (hd : d.Fades d') (h : unaryType op d = .ok r) :
    ∃ r', unaryType op d' = .ok r' ∧ r.Fades r' ∧ (op ≠ .neg ∨ d' = d → r' = r) := by
  cases op <;> cases d <;> cases h <;> cases d' <;> revert hd <;> first
    | exact fun _ => ⟨_, rfl, by decide, by decide⟩
    | exact fun h => absurd h (by decide)

theorem stringType_fades {op : StrOp} (hd : d.Fades d') (h : stringType op d = .ok r) :
    stringType op d' = .ok r := by
  cases d <;> cases h <;> cases d' <;> revert hd <;> first
    | exact fun _ => rfl
    | exact fun h => absurd h (by decide)

theorem aggregateType_fades {op : AggOp} (hd : d.Fades d') (h : aggregateType op name d = .ok r) :
    ∃ r', aggregateType op name d' = .ok r' ∧ r.Fades r' ∧
      (op = .count ∨ op = .mean ∨ d' = d → r' = r) := by
  obtain rfl | rfl | ⟨hn, hn'⟩ := hd
  · exact ⟨r, h, .inl rfl, fun _ => rfl⟩
  · cases op <;> cases d <;> cases h <;> exact ⟨_, rfl, by decide, by decide⟩
  · cases op <;> cases d <;> cases hn <;> cases d' <;> cases hn' <;> cases h <;>
      exact ⟨_, rfl, by decide, by decide⟩

/-! ## Types of two operands -/

theorem isTruthType_fades (hd : d.Fades d') (h : isTruthType d = true) : isTruthType d' = true := by
  cases d <;> cases h <;> cases d' <;> revert hd <;> decide

theorem comparable_fades (ha : a.Fades a') (hb : b.Fades b') (h : comparable a b = true) :
    comparable a' b' = true := by
  simp only [comparable, Bool.or_eq_true, beq_iff_eq, Bool.and_eq_true] at h ⊢
  obtain rfl | rfl | ⟨ha, ha'⟩ := ha
  · obtain rfl | rfl | ⟨hb, hb'⟩ := hb
    · exact h
    · simp
    · obtain ((rfl | rfl) | rfl) | ⟨hn, -⟩ := h
      · simp
      · cases hb
      · exact .inr ⟨hb, hb'⟩
      · exact .inr ⟨hn, hb'⟩
  · simp
  · obtain rfl | rfl | ⟨hb, hb'⟩ := hb
    · obtain ((rfl | rfl) | rfl) | ⟨-, hn⟩ := h
      · cases ha
      · simp
      · exact .inr ⟨ha', ha⟩
      · exact .inr ⟨ha', hn⟩
    · simp
    · exact .inr ⟨ha', hb'⟩

def isCountable (d : Dtype) : Bool := d.isNumeric || d == .null

theorem isCountable_fades (hd : d.Fades d') (h : isCountable d = true) : isCountable d' = true := by
  cases d <;> cases h <;> cases d' <;> revert hd <;> decide

theorem arithType_cases {op : BinaryOp} (h : arithType op a b = .ok r) :
    (r = .str ∧ op = .add ∧ (a = .str ∨ a = .null) ∧ (b = .str ∨ b = .null) ∧ (a = .str ∨ b = .str)) ∨
      r.isNumeric = true ∧ isCountable a = true ∧ isCountable b = true := by
  have number {d : Dtype} (hd : d.isNumeric = true) : isCountable d = true := by simp [isCountable, hd]
  have none : isCountable .null = true := rfl
  unfold arithType at h
  split_ifs at h with h1 h2 h3 h4 h5 h6 h7 <;> cases h
  · obtain ⟨rfl, rfl⟩ := h1
    exact .inr ⟨rfl, none, none⟩
  · obtain ⟨rfl, hb⟩ := h2
    exact .inr ⟨hb, none, number hb⟩
  · obtain ⟨rfl, ha⟩ := h3
    exact .inr ⟨ha, number ha, none⟩
  · obtain ⟨hop, ha, hb⟩ := h4
    refine .inl ⟨rfl, hop, ha, hb, ?_⟩
    -- Two nulls came first.
    obtain ha | ha := ha
    · exact .inl ha
    · exact .inr (hb.resolve_right fun hb => h1 ⟨ha, hb⟩)
  · obtain ⟨rfl, rfl, -⟩ := h5
    exact .inr ⟨rfl, rfl, rfl⟩
  · exact .inr ⟨rfl, number (isNumeric_of_isInteger h6.1), number (isNumeric_of_isInteger h6.2)⟩
  · exact .inr ⟨rfl, number h7.1, number h7.2⟩

theorem exists_arithType (op : BinaryOp) (ha : isCountable a = true) (hb : isCountable b = true) :
    ∃ r, arithType op a b = .ok r ∧ r.isNumeric = true := by
  unfold arithType
  cases a <;> cases ha <;> cases b <;> cases hb <;> simp [Dtype.isNumeric, Dtype.isInteger]
  split_ifs <;> simp

theorem arithType_add_str (ha : a = .str ∨ a = .null) (hb : b = .str ∨ b = .null)
    (htext : a = .str ∨ b = .str) : arithType .add a b = .ok .str := by
  obtain rfl | rfl := ha
  · obtain rfl | rfl := hb <;> rfl
  · obtain rfl := htext.resolve_left (by decide)
    rfl

theorem fades_str (hd : d.Fades d') (h : d = .str ∨ d = .null) : d' = .str ∨ d' = .null := by
  obtain rfl | rfl := h <;> cases d' <;> revert hd <;> decide

theorem arithType_fades {op : BinaryOp} (ha : a.Fades a') (hb : b.Fades b')
    (texts : op = .add → r = .str → a' = .str ∨ b' = .str) (h : arithType op a b = .ok r) :
    ∃ r', arithType op a' b' = .ok r' ∧ r.Fades r' := by
  obtain ⟨rfl, rfl, hta, htb, -⟩ | ⟨hr, hna, hnb⟩ := arithType_cases h
  · exact ⟨.str, arithType_add_str (fades_str ha hta) (fades_str hb htb) (texts rfl rfl), .inl rfl⟩
  · obtain ⟨r', hr', hn⟩ := exists_arithType op (isCountable_fades ha hna) (isCountable_fades hb hnb)
    exact ⟨r', hr', .inr (.inr ⟨hr, hn⟩)⟩

theorem resultType_fades {op : BinaryOp} (ha : a.Fades a') (hb : b.Fades b')
    (texts : op = .add → r = .str → a' = .str ∨ b' = .str) (h : resultType op a b = .ok r) :
    ∃ r', resultType op a' b' = .ok r' ∧ r.Fades r' ∧
      (family op ≠ .arithmetic ∨ a' = a ∧ b' = b → r' = r) := by
  unfold resultType at h ⊢
  cases hf : family op with
  | arithmetic =>
    simp only [hf] at h ⊢
    obtain ⟨r', hr', hfades⟩ := arithType_fades ha hb texts h
    refine ⟨r', hr', hfades, ?_⟩
    rintro (hne | ⟨rfl, rfl⟩)
    · exact absurd rfl hne
    · exact Except.ok.inj (hr'.symm.trans h)
  | connective =>
    simp only [hf, Bool.and_eq_true] at h ⊢
    split_ifs at h with hc
    cases h
    exact ⟨.bool, if_pos ⟨isTruthType_fades ha hc.1, isTruthType_fades hb hc.2⟩, .inl rfl, fun _ => rfl⟩
  | comparison =>
    simp only [hf] at h ⊢
    split_ifs at h with hc
    cases h
    exact ⟨.bool, if_pos (comparable_fades ha hb hc), .inl rfl, fun _ => rfl⟩

end Eval

/-! ## Types that are not those of windows -/

namespace Expr

/-- The type is not that of a window. -/
def hasOwnType : Expr → Bool
  | .window _ _ => false
  | .unary op e => op != .neg || e.hasOwnType
  | .binary op l r => family op != .arithmetic || (l.hasOwnType && r.hasOwnType)
  | .agg op e => op == .count || op == .mean || e.hasOwnType
  | .offset _ e => e.hasOwnType
  | .aliased e _ => e.hasOwnType
  | _ => true

/-- A text on rows whose type is not that of a window. -/
def IsOwnText (schema : List Head) (e : Expr) : Prop :=
  e.hasOwnType = true ∧ ∃ name, e.head true schema = .ok ⟨name, .str⟩

/-- No addition of texts that all come from windows. -/
def KeepsText (schema : List Head) : Expr → Prop
  | .binary .add l r => (∃ name, (Expr.binary .add l r).head true schema = .ok ⟨name, .str⟩) →
    l.IsOwnText schema ∨ r.IsOwnText schema
  | _ => True

/-- No operator that looks at the type of a window. -/
def checksOwnTypes : Expr → Bool
  | .unary .not e => e.hasOwnType
  | .unary .neg e => e.hasOwnType
  | .binary _ l r => l.hasOwnType && r.hasOwnType
  | .str _ e => e.hasOwnType
  | .agg .sum e => e.hasOwnType
  | .agg .mean e => e.hasOwnType
  | _ => true

end Expr

/-- What a head can become without rows: the name stays, and so does the type if it is not that of a
    window. -/
structure Head.Fades (own : Bool) (h h' : Head) : Prop where
  name : h'.name = h.name
  dtype : h.dtype.Fades h'.dtype
  own : own = true → h'.dtype = h.dtype

namespace Expr

variable {e c : Expr} {schema : List Head} {spec : WindowSpec} {h h' : Head}

theorem check_empty (h : spec.check true schema = .ok ()) : spec.check false schema = .ok () := by
  obtain ⟨_, hkeys, -⟩ := bind_eq_ok.mp h
  exact bind_eq_ok.mpr ⟨(), hkeys, rfl⟩

/-- An addition that gives texts keeps a text, if one of its operands is a text of its own. -/
theorem KeepsText.keeps {op : BinaryOp} {l r : Expr} {a b a' b' : Head} {d : Dtype}
    (texts : (Expr.binary op l r).KeepsText schema) (ha : l.head true schema = .ok a)
    (hb : r.head true schema = .ok b) (hd : resultType op a.dtype b.dtype = .ok d)
    (hl : a.Fades l.hasOwnType a') (hr : b.Fades r.hasOwnType b') (hop : op = .add) (htext : d = .str) :
    a'.dtype = .str ∨ b'.dtype = .str := by
  subst hop htext
  have hhead : ∃ name, (Expr.binary .add l r).head true schema = .ok ⟨name, .str⟩ := by
    rw [Expr.head, ha, ok_bind, hb, ok_bind, hd]
    exact ⟨_, rfl⟩
  obtain ⟨hown, name, hl'⟩ | ⟨hown, name, hr'⟩ := texts hhead
  · cases ha.symm.trans hl'
    exact .inl (hl.own hown)
  · cases hb.symm.trans hr'
    exact .inr (hr.own hown)

/-- **What has a head on rows has a head without.** -/
theorem fades_head (texts : ∀ x ∈ e.nodes, x.KeepsText schema) (h : e.head true schema = .ok h') :
    ∃ h'', e.head false schema = .ok h'' ∧ h'.Fades e.hasOwnType h'' := by
  have child {e c : Expr} (hc : c ∈ e.children) (texts : ∀ x ∈ e.nodes, x.KeepsText schema) :
      ∀ x ∈ c.nodes, x.KeepsText schema := fun x hx => texts x (nodes_subset_of_child hc hx)
  induction e generalizing h' with
  | column name => exact ⟨h', h, rfl, .inl rfl, fun _ => rfl⟩
  | literal v => exact ⟨h', h, rfl, .inl rfl, fun _ => rfl⟩
  | raw text => cases h
  | unary op e ih =>
    obtain ⟨g, hg, h⟩ := bind_eq_ok.mp h
    obtain ⟨d, hd, rfl⟩ := map_eq_ok.mp h
    obtain ⟨g', hg', hfades⟩ := ih (child List.mem_cons_self texts) hg
    obtain ⟨d', hd', hdtype, hown⟩ := unaryType_fades hfades.dtype hd
    refine ⟨⟨g'.name, d'⟩, by rw [Expr.head, hg', ok_bind, hd']; rfl, hfades.name, hdtype, ?_⟩
    intro own
    rw [hasOwnType, Bool.or_eq_true, bne_iff_ne] at own
    exact hown (own.imp_right hfades.own)
  | binary op l r ihl ihr =>
    obtain ⟨a, ha, h⟩ := bind_eq_ok.mp h
    obtain ⟨b, hb, h⟩ := bind_eq_ok.mp h
    obtain ⟨d, hd, rfl⟩ := map_eq_ok.mp h
    obtain ⟨a', ha', hl⟩ := ihl (child List.mem_cons_self texts) ha
    obtain ⟨b', hb', hr⟩ := ihr (child (List.mem_cons_of_mem _ List.mem_cons_self) texts) hb
    have keeps := (texts _ (self_mem_nodes _)).keeps ha hb hd hl hr
    obtain ⟨d', hd', hdtype, hown⟩ := resultType_fades hl.dtype hr.dtype keeps hd
    refine ⟨_, by rw [Expr.head, ha', ok_bind, hb', ok_bind, hd']; rfl, ?_, hdtype, ?_⟩
    · simp only [hl.name, hr.name]
    · intro own
      rw [hasOwnType, Bool.or_eq_true, bne_iff_ne, Bool.and_eq_true] at own
      exact hown (own.imp_right fun own => ⟨hl.own own.1, hr.own own.2⟩)
  | str op e ih =>
    obtain ⟨g, hg, h⟩ := bind_eq_ok.mp h
    obtain ⟨d, hd, rfl⟩ := map_eq_ok.mp h
    obtain ⟨g', hg', hfades⟩ := ih (child List.mem_cons_self texts) hg
    have hd' := stringType_fades hfades.dtype hd
    exact ⟨⟨g'.name, d⟩, by rw [Expr.head, hg', ok_bind, hd']; rfl, hfades.name, .inl rfl, fun _ => rfl⟩
  | agg op e ih =>
    obtain ⟨g, hg, h⟩ := bind_eq_ok.mp h
    obtain ⟨d, hd, rfl⟩ := map_eq_ok.mp h
    obtain ⟨g', hg', hfades⟩ := ih (child List.mem_cons_self texts) hg
    obtain ⟨d', hd', hdtype, hown⟩ := aggregateType_fades hfades.dtype hd
    rw [← hfades.name] at hd'
    refine ⟨⟨g'.name, d'⟩, by rw [Expr.head, hg', ok_bind, hd']; rfl, hfades.name, hdtype, ?_⟩
    intro own
    rw [hasOwnType, Bool.or_eq_true, Bool.or_eq_true, beq_iff_eq, beq_iff_eq, or_assoc] at own
    exact hown (own.imp_right (Or.imp_right hfades.own))
  | cast e target ih =>
    obtain ⟨g, hg, rfl⟩ := map_eq_ok.mp h
    obtain ⟨g', hg', hfades⟩ := ih (child List.mem_cons_self texts) hg
    exact ⟨⟨g'.name, Dtype.ofDataType target⟩, by rw [Expr.head, hg']; rfl, hfades.name, .inl rfl, fun _ => rfl⟩
  | aliased e name ih =>
    obtain ⟨g, hg, rfl⟩ := map_eq_ok.mp h
    obtain ⟨g', hg', hfades⟩ := ih (child List.mem_cons_self texts) hg
    exact ⟨⟨name, g'.dtype⟩, by rw [Expr.head, hg']; rfl, rfl, hfades.dtype, hfades.own⟩
  | offset func e ih => exact ih (child List.mem_cons_self texts) h
  | window e spec ih =>
    obtain ⟨_, hcheck, h⟩ := bind_eq_ok.mp h
    obtain ⟨g', hg', hfades⟩ := ih (child List.mem_cons_self texts) h
    refine ⟨⟨g'.name, .null⟩, ?_, hfades.name, .inr (.inl rfl), fun own => (Bool.false_ne_true own).elim⟩
    rw [Expr.head, check_empty hcheck, ok_bind, hg']
    rfl

/-- Where operators look at no window's type, a text of a window is not added to another one. -/
theorem keepsText_of_checksOwnTypes (h : e.checksOwnTypes = true) : e.KeepsText schema := by
  unfold KeepsText
  split
  · rename_i l r
    rintro ⟨name, hhead⟩
    obtain ⟨a, ha, hhead⟩ := bind_eq_ok.mp hhead
    obtain ⟨b, hb, hhead⟩ := bind_eq_ok.mp hhead
    obtain ⟨d, hd, hd'⟩ := map_eq_ok.mp hhead
    cases hd'
    obtain ⟨hl, hr⟩ := Bool.and_eq_true_iff.mp h
    obtain ⟨-, -, -, -, htext⟩ | ⟨hn, -⟩ := arithType_cases hd
    · obtain ha' | hb' := htext
      · exact .inl ⟨hl, a.name, ha' ▸ ha⟩
      · exact .inr ⟨hr, b.name, hb' ▸ hb⟩
    · cases hn
  · trivial

/-- A window in the expression has no head on rows. -/
def HidesFault (schema : List Head) (e : Expr) : Prop :=
  ∃ w ∈ e.nodes, w.isFlat = false ∧ ∃ fault, w.head true schema = .error fault

theorem HidesFault.parent (h : c.HidesFault schema) (hc : c ∈ e.children) : e.HidesFault schema := by
  obtain ⟨w, hm, hfault⟩ := h
  exact ⟨w, nodes_subset_of_child hc hm, hfault⟩

/-- **What has a head without rows has one on rows**, or it hides a fault. -/
theorem unfades_head (checks : e.Made checksOwnTypes) (h : e.head false schema = .ok h') :
    (∃ h, e.head true schema = .ok h) ∨ e.HidesFault schema := by
  -- What a part becomes without rows is known from the other direction.
  have back {c : Expr} {g g' : Head} (hc : c.Made checksOwnTypes) (hg : c.head true schema = .ok g)
      (hg' : c.head false schema = .ok g') : g.Fades c.hasOwnType g' := by
    obtain ⟨g'', hg'', hfades⟩ := fades_head (fun x hx => keepsText_of_checksOwnTypes (hc x hx)) hg
    cases hg''.symm.trans hg'
    exact hfades
  induction e generalizing h' with
  | column name => exact .inl ⟨h', h⟩
  | literal v => exact .inl ⟨h', h⟩
  | raw text => cases h
  | unary op e ih =>
    obtain ⟨g', hg', h⟩ := bind_eq_ok.mp h
    obtain ⟨d, hd, rfl⟩ := map_eq_ok.mp h
    obtain ⟨g, hg⟩ | hidden := ih (checks.only rfl) hg'
    · have hfades := back (checks.only rfl) hg hg'
      have hown : ∃ d, unaryType op g.dtype = .ok d := by
        cases op with
        | isNull | isNotNull => exact ⟨_, rfl⟩
        | not | neg => exact ⟨d, hfades.own checks.self ▸ hd⟩
      obtain ⟨d, hd⟩ := hown
      exact .inl ⟨_, by rw [Expr.head, hg, ok_bind, hd]; rfl⟩
    · exact .inr (hidden.parent List.mem_cons_self)
  | binary op l r ihl ihr =>
    obtain ⟨a', ha', h⟩ := bind_eq_ok.mp h
    obtain ⟨b', hb', h⟩ := bind_eq_ok.mp h
    obtain ⟨d, hd, rfl⟩ := map_eq_ok.mp h
    obtain ⟨a, ha⟩ | hidden := ihl checks.left ha'
    · obtain ⟨b, hb⟩ | hidden := ihr checks.right hb'
      · obtain ⟨hl, hr⟩ := Bool.and_eq_true_iff.mp checks.self
        rw [(back checks.left ha ha').own hl, (back checks.right hb hb').own hr] at hd
        exact .inl ⟨_, by rw [Expr.head, ha, ok_bind, hb, ok_bind, hd]; rfl⟩
      · exact .inr (hidden.parent (List.mem_cons_of_mem _ List.mem_cons_self))
    · exact .inr (hidden.parent List.mem_cons_self)
  | str op e ih =>
    obtain ⟨g', hg', h⟩ := bind_eq_ok.mp h
    obtain ⟨d, hd, rfl⟩ := map_eq_ok.mp h
    obtain ⟨g, hg⟩ | hidden := ih (checks.only rfl) hg'
    · rw [(back (checks.only rfl) hg hg').own checks.self] at hd
      exact .inl ⟨_, by rw [Expr.head, hg, ok_bind, hd]; rfl⟩
    · exact .inr (hidden.parent List.mem_cons_self)
  | agg op e ih =>
    obtain ⟨g', hg', h⟩ := bind_eq_ok.mp h
    obtain ⟨d, hd, rfl⟩ := map_eq_ok.mp h
    obtain ⟨g, hg⟩ | hidden := ih (checks.only rfl) hg'
    · have hfades := back (checks.only rfl) hg hg'
      have hown : ∃ d, aggregateType op g.name g.dtype = .ok d := by
        rw [hfades.name] at hd
        cases op with
        | sum | mean => exact ⟨d, hfades.own checks.self ▸ hd⟩
        | _ => exact ⟨_, rfl⟩
      obtain ⟨d, hd⟩ := hown
      exact .inl ⟨_, by rw [Expr.head, hg, ok_bind, hd]; rfl⟩
    · exact .inr (hidden.parent List.mem_cons_self)
  | cast e _ ih | aliased e _ ih =>
    obtain ⟨g', hg', rfl⟩ := map_eq_ok.mp h
    obtain ⟨g, hg⟩ | hidden := ih (checks.only rfl) hg'
    · exact .inl ⟨_, by rw [Expr.head, hg]; rfl⟩
    · exact .inr (hidden.parent List.mem_cons_self)
  | offset func e ih => exact (ih (checks.only rfl) h).imp_right fun hidden => hidden.parent List.mem_cons_self
  | window e spec ih =>
    cases hw : (Expr.window e spec).head true schema with
    | ok h => exact .inl ⟨h, rfl⟩
    | error fault => exact .inr ⟨_, List.mem_cons_self, rfl, fault, hw⟩

end Expr
end FramePlan
