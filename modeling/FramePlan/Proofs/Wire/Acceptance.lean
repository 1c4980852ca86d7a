import FramePlan.Error
import FramePlan.Proofs.Text.Utf8
import FramePlan.Proofs.Wire.Grammar
import FramePlan.Proofs.Wire.Reading

/-!
# What the reader accepts

`decode` accepts the grammar of plan records and nothing else: it succeeds with a plan exactly if
the records spell that plan, and fails with a fault otherwise.

Each reader has one lemma that says when it succeeds and with what. A reader that is a sequence of
steps succeeds if all of them do, so its lemma puts theirs together; the readers of nodes and of
operations are taken by the recursion of the records, together with those of their lists.
-/
namespace FramePlan.Wire

/-! ## Arrays, texts and codes -/

theorem read_eq_ok {α : Type} {b : Buffer α} {xs : List α} : b.read = .ok xs ↔ b.Gives xs := by
  cases b with
  | items ys =>
    refine ⟨?_, ?_⟩
    · intro h
      cases h
      exact .items _
    · intro h
      cases h
      rfl
  | null n =>
    refine ⟨?_, ?_⟩
    · intro h
      simp only [Buffer.read] at h
      split at h
      · cases h
        subst n
        exact .null
      · cases h
    · intro h
      cases h
      rfl

theorem orFault_eq_ok {α : Type} {fault : Malformed} {o : Option α} {a : α} :
    orFault fault o = .ok a ↔ o = some a := by
  cases o <;> simp [orFault]

theorem readEach_eq_ok_of {α β : Type} {f : α → Reading β} {R : α → β → Prop}
    (h : ∀ {a b}, f a = .ok b ↔ R a b) {as : List α} {bs : List β} :
    readEach f as = .ok bs ↔ List.Forall₂ R as bs := by
  rw [readEach_eq_ok]
  simp only [h]

theorem read_readEach_eq_ok {α β : Type} {f : α → Reading β} {R : α → β → Prop}
    (h : ∀ {a b}, f a = .ok b ↔ R a b) {b : Buffer α} {bs : List β} :
    (b.read >>= readEach f) = .ok bs ↔ ∃ as, b.Gives as ∧ List.Forall₂ R as bs := by
  simp only [bind_eq_ok, read_eq_ok, readEach_eq_ok_of h]

theorem decodeText_eq_ok {t : Text} {s : String} : decodeText t = .ok s ↔ SpellsText t s := by
  simp only [decodeText, bind_eq_ok, read_eq_ok, orFault_eq_ok, Text.Utf8.decode?_eq_some_iff,
    exists_eq_right]
  rfl

theorem decodeNames_eq_ok {names : Buffer Text} {ss : List String} :
    decodeNames names = .ok ss ↔ SpellsNames names ss :=
  read_readEach_eq_ok decodeText_eq_ok

theorem decodeValue_eq_ok {v : ValueRecord} {a : Value} :
    decodeValue v = .ok a ↔ SpellsValue v a := by
  refine ⟨?_, ?_⟩
  · intro h
    unfold decodeValue at h
    split at h
    · cases h
      exact .int ‹_›
    split at h
    · cases h
      exact .float ‹_›
    split at h
    · obtain ⟨s, hs, h⟩ := bind_eq_ok.mp h
      cases h
      exact .str ‹_› (decodeText_eq_ok.mp hs)
    split at h
    · cases h
      exact .bool ‹_›
    split at h
    · cases h
      exact .null ‹_›
    · cases h
  · intro h
    cases h with
    | str ht hs => simp [decodeValue, ht, decodeText_eq_ok.mpr hs]
    | _ ht => simp [decodeValue, ht]

theorem lookup_eq_some_of {α : Type} {code : α → UInt8} {table : List (UInt8 × α)} {c : UInt8}
    {a : α} (all : ∀ a, table.lookup (code a) = some a) (own : ∀ p ∈ table, p.1 = code p.2) :
    table.lookup c = some a ↔ c = code a := by
  refine ⟨?_, ?_⟩
  · intro h
    obtain ⟨l, r, rfl, -⟩ := List.lookup_eq_some_iff.mp h
    exact own (c, a) (by simp)
  · intro h
    subst h
    exact all a

theorem unaryOp_eq_some {c : UInt8} {op : UnaryOp} : UnaryOp.ofCode? c = some op ↔ c = op.code :=
  lookup_eq_some_of UnaryOp.ofCode?_code (by decide)

theorem binaryOp_eq_some {c : UInt8} {op : BinaryOp} :
    BinaryOp.ofCode? c = some op ↔ c = op.code :=
  lookup_eq_some_of BinaryOp.ofCode?_code (by decide)

theorem aggOp_eq_some {c : UInt8} {op : AggOp} : AggOp.ofCode? c = some op ↔ c = op.code :=
  lookup_eq_some_of AggOp.ofCode?_code (by decide)

theorem joinType_eq_some {c : UInt8} {t : JoinType} : JoinType.ofCode? c = some t ↔ c = t.code :=
  lookup_eq_some_of JoinType.ofCode?_code (by decide)

theorem dataType_eq_some {c : UInt8} {t : DataType} :
    DataType.ofCode? c = some t ↔ c = t.code := by
  refine ⟨?_, ?_⟩
  · intro h
    unfold DataType.ofCode? at h
    split_ifs at h with h0 h1 h2 h3 <;> cases h <;> assumption
  · intro h
    subst h
    exact DataType.ofCode?_code t

theorem offsetFunc_eq_some {c : UInt8} {n : Int64} {f : OffsetFunc} :
    OffsetFunc.ofCode? c n = some f ↔ c = f.code ∧ n = f.rows := by
  refine ⟨?_, ?_⟩
  · intro h
    unfold OffsetFunc.ofCode? at h
    split_ifs at h with h0 h1 <;> cases h <;> exact ⟨‹_›, rfl⟩
  · intro h
    obtain ⟨rfl, rfl⟩ := h
    exact OffsetFunc.ofCode?_code f

theorem unsigned32?_eq_some {n : Int64} {w : UInt32} :
    unsigned32? n = some w ↔ n.toInt = w.toNat := by
  have hw := w.toNat_lt
  unfold unsigned32?
  refine ⟨?_, ?_⟩
  · intro h
    split_ifs at h with hn
    cases h
    rw [UInt32.toNat_ofNat']
    omega
  · intro h
    rw [if_pos (by omega), h, Int.toNat_natCast, UInt32.ofNat_toNat]

theorem char?_eq_some {code : UInt32} {c : Char} : char? code = some c ↔ code = c.val := by
  unfold char?
  refine ⟨?_, ?_⟩
  · intro h
    split_ifs at h with hv
    cases h
    rfl
  · intro h
    subst h
    rw [dif_pos c.valid]

theorem decodeWidth_eq_ok {h : NodeHead} {w : UInt32} :
    decodeWidth h = .ok w ↔ h.n.toInt = w.toNat :=
  orFault_eq_ok.trans unsigned32?_eq_some

theorem decodeFill_eq_ok {h : NodeHead} {c : Char} : decodeFill h = .ok c ↔ h.fill = c.val :=
  orFault_eq_ok.trans char?_eq_some

/-! ## Nodes -/

theorem withText_eq_ok {t : Text} {f : String → StrOp} {op : StrOp} :
    (decodeText t >>= fun s => pure (f s)) = .ok op ↔ ∃ s, SpellsText t s ∧ f s = op := by
  simp only [bind_eq_ok, decodeText_eq_ok, pure_eq_ok, Except.ok.injEq]

theorem padded_eq_ok {h : NodeHead} {f : UInt32 → Char → StrOp} {op : StrOp} :
    (decodeWidth h >>= fun width => decodeFill h >>= fun fill => pure (f width fill)) = .ok op ↔
      ∃ width fill, (h.n.toInt = width.toNat ∧ h.fill = fill.val) ∧ f width fill = op := by
  simp only [bind_eq_ok, decodeWidth_eq_ok, decodeFill_eq_ok, pure_eq_ok, Except.ok.injEq,
    exists_and_left, and_assoc]

theorem spells_of_decodeStrOp {h : NodeHead} {op : StrOp} (hd : decodeStrOp h = .ok op) :
    h.op = op.code ∧ SpellsArguments h op := by
  unfold decodeStrOp at hd
  dsimp only at hd
  -- One case for each code, in the order of the codes; the last is no code of a function.
  split at hd
  · cases hd
    exact ⟨UInt8.toNat_inj.mp ‹_›, trivial⟩
  · cases hd
    exact ⟨UInt8.toNat_inj.mp ‹_›, trivial⟩
  · cases hd
    exact ⟨UInt8.toNat_inj.mp ‹_›, trivial⟩
  · cases hd
    exact ⟨UInt8.toNat_inj.mp ‹_›, trivial⟩
  · obtain ⟨s, hs, rfl⟩ := withText_eq_ok.mp hd
    exact ⟨UInt8.toNat_inj.mp ‹_›, hs⟩
  · split at hd
    · obtain ⟨length, hl, hd⟩ := bind_eq_ok.mp hd
      cases hd
      exact ⟨UInt8.toNat_inj.mp ‹_›, rfl, ‹_›, unsigned32?_eq_some.mp (orFault_eq_ok.mp hl)⟩
    · cases hd
      exact ⟨UInt8.toNat_inj.mp ‹_›, rfl, Bool.eq_false_iff.mpr ‹_›⟩
  · obtain ⟨pattern, hp, hd⟩ := bind_eq_ok.mp hd
    obtain ⟨value, hv, hd⟩ := bind_eq_ok.mp hd
    cases hd
    exact ⟨UInt8.toNat_inj.mp ‹_›, decodeText_eq_ok.mp hp, decodeText_eq_ok.mp hv, rfl⟩
  · obtain ⟨s, hs, rfl⟩ := withText_eq_ok.mp hd
    exact ⟨UInt8.toNat_inj.mp ‹_›, hs⟩
  · cases hd
    exact ⟨UInt8.toNat_inj.mp ‹_›, trivial⟩
  · cases hd
    exact ⟨UInt8.toNat_inj.mp ‹_›, rfl⟩
  · cases hd
    exact ⟨UInt8.toNat_inj.mp ‹_›, rfl⟩
  · obtain ⟨width, fill, hs, rfl⟩ := padded_eq_ok.mp hd
    exact ⟨UInt8.toNat_inj.mp ‹_›, hs⟩
  · obtain ⟨width, fill, hs, rfl⟩ := padded_eq_ok.mp hd
    exact ⟨UInt8.toNat_inj.mp ‹_›, hs⟩
  · obtain ⟨width, hw, hd⟩ := bind_eq_ok.mp hd
    cases hd
    exact ⟨UInt8.toNat_inj.mp ‹_›, decodeWidth_eq_ok.mp hw⟩
  · obtain ⟨s, hs, rfl⟩ := withText_eq_ok.mp hd
    exact ⟨UInt8.toNat_inj.mp ‹_›, hs⟩
  · obtain ⟨s, hs, rfl⟩ := withText_eq_ok.mp hd
    exact ⟨UInt8.toNat_inj.mp ‹_›, hs⟩
  · obtain ⟨s, hs, rfl⟩ := withText_eq_ok.mp hd
    exact ⟨UInt8.toNat_inj.mp ‹_›, hs⟩
  · obtain ⟨s, hs, rfl⟩ := withText_eq_ok.mp hd
    exact ⟨UInt8.toNat_inj.mp ‹_›, hs⟩
  · obtain ⟨s, hs, rfl⟩ := withText_eq_ok.mp hd
    exact ⟨UInt8.toNat_inj.mp ‹_›, hs⟩
  · cases hd

theorem decodeStrOp_of_spells {h : NodeHead} {op : StrOp} (hc : h.op = op.code)
    (hs : SpellsArguments h op) : decodeStrOp h = .ok op := by
  cases op with
  | slice offset length =>
    cases length with
    | none =>
      obtain ⟨rfl, hf⟩ := hs
      simp [decodeStrOp, hc, StrOp.code, hf]
    | some length =>
      obtain ⟨rfl, hf, hl⟩ := hs
      simp [decodeStrOp, hc, StrOp.code, hf, unsigned32?_eq_some.mpr hl, orFault]
  | replace pattern value literal =>
    obtain ⟨hp, hv, rfl⟩ := hs
    simp [decodeStrOp, hc, StrOp.code, decodeText_eq_ok.mpr hp, decodeText_eq_ok.mpr hv]
  | padStart width fill =>
    simp [decodeStrOp, hc, StrOp.code, decodeWidth_eq_ok.mpr hs.1, decodeFill_eq_ok.mpr hs.2]
  | padEnd width fill =>
    simp [decodeStrOp, hc, StrOp.code, decodeWidth_eq_ok.mpr hs.1, decodeFill_eq_ok.mpr hs.2]
  | zfill width => simp [decodeStrOp, hc, StrOp.code, decodeWidth_eq_ok.mpr hs]
  | head count =>
    cases hs
    simp [decodeStrOp, hc, StrOp.code]
  | tail count =>
    cases hs
    simp [decodeStrOp, hc, StrOp.code]
  | len | lenBytes | upper | lower | reverse => simp [decodeStrOp, hc, StrOp.code]
  | _ => simp [decodeStrOp, hc, StrOp.code, decodeText_eq_ok.mpr hs]

theorem decodeStrOp_eq_ok {h : NodeHead} {op : StrOp} :
    decodeStrOp h = .ok op ↔ h.op = op.code ∧ SpellsArguments h op :=
  ⟨spells_of_decodeStrOp, fun ⟨hc, hs⟩ => decodeStrOp_of_spells hc hs⟩

theorem operand_eq_ok {h : NodeHead} {es : List Expr} {e : Expr} :
    operand h es = .ok e ↔ ∃ rest, es = e :: rest := by
  rw [operand, orFault_eq_ok, List.head?_eq_some_iff]

/-- A kind with an operator and one operand: the operator is read, and then the operand is asked
    for. -/
theorem withOperand_eq_ok {α : Type} {h : NodeHead} {es : List Expr} {x : Reading α}
    {f : α → Expr → Expr} {r : Expr} :
    (x >>= fun a => operand h es >>= fun e => pure (f a e)) = .ok r ↔
      ∃ a e rest, x = .ok a ∧ es = e :: rest ∧ f a e = r := by
  simp only [bind_eq_ok, operand_eq_ok, pure_eq_ok, Except.ok.injEq]
  refine ⟨?_, ?_⟩
  · intro h
    obtain ⟨a, ha, e, ⟨rest, rfl⟩, rfl⟩ := h
    exact ⟨a, e, rest, ha, rfl, rfl⟩
  · intro h
    obtain ⟨a, e, rest, ha, rfl, rfl⟩ := h
    exact ⟨a, ha, e, ⟨rest, rfl⟩, rfl⟩

theorem spells_of_assemble {h : NodeHead} {es : List Expr} {e : Expr}
    (ha : assemble h es = .ok e) : SpellsHead h es e := by
  unfold assemble at ha
  dsimp only at ha
  -- One case for each kind, in the order of the kinds; the last is no kind.
  split at ha
  · obtain ⟨name, hn, ha⟩ := bind_eq_ok.mp ha
    cases ha
    exact .column (UInt8.toNat_inj.mp ‹_›) (decodeText_eq_ok.mp hn)
  · obtain ⟨v, hv, ha⟩ := bind_eq_ok.mp ha
    cases ha
    exact .literal (UInt8.toNat_inj.mp ‹_›) (decodeValue_eq_ok.mp hv)
  · obtain ⟨op, e, rest, hop, rfl, rfl⟩ := withOperand_eq_ok.mp ha
    exact .unary (UInt8.toNat_inj.mp ‹_›) (unaryOp_eq_some.mp (orFault_eq_ok.mp hop))
  · obtain ⟨op, hop, ha⟩ := bind_eq_ok.mp ha
    obtain ⟨l, hl, ha⟩ := bind_eq_ok.mp ha
    obtain ⟨r, hr, ha⟩ := bind_eq_ok.mp ha
    obtain ⟨rest, rfl⟩ := operand_eq_ok.mp hl
    obtain ⟨rest, rfl⟩ := operand_eq_ok.mp hr
    cases ha
    exact .binary (UInt8.toNat_inj.mp ‹_›) (binaryOp_eq_some.mp (orFault_eq_ok.mp hop))
  · obtain ⟨target, e, rest, ht, rfl, rfl⟩ := withOperand_eq_ok.mp ha
    exact .cast (UInt8.toNat_inj.mp ‹_›) (dataType_eq_some.mp (orFault_eq_ok.mp ht))
  · obtain ⟨op, e, rest, hop, rfl, rfl⟩ := withOperand_eq_ok.mp ha
    obtain ⟨hc, hs⟩ := decodeStrOp_eq_ok.mp hop
    exact .str (UInt8.toNat_inj.mp ‹_›) hc hs
  · obtain ⟨op, e, rest, hop, rfl, rfl⟩ := withOperand_eq_ok.mp ha
    exact .agg (UInt8.toNat_inj.mp ‹_›) (aggOp_eq_some.mp (orFault_eq_ok.mp hop))
  · obtain ⟨func, e, rest, hf, rfl, rfl⟩ := withOperand_eq_ok.mp ha
    obtain ⟨hc, hn⟩ := offsetFunc_eq_some.mp (orFault_eq_ok.mp hf)
    exact .offset (UInt8.toNat_inj.mp ‹_›) hc hn
  · obtain ⟨e, he, ha⟩ := bind_eq_ok.mp ha
    obtain ⟨partitionBy, hp, ha⟩ := bind_eq_ok.mp ha
    obtain ⟨orderBy, ho, ha⟩ := bind_eq_ok.mp ha
    cases ha
    obtain ⟨rest, rfl⟩ := operand_eq_ok.mp he
    exact .window (UInt8.toNat_inj.mp ‹_›) (decodeNames_eq_ok.mp hp) (decodeNames_eq_ok.mp ho)
  · obtain ⟨e, he, ha⟩ := bind_eq_ok.mp ha
    obtain ⟨name, hn, ha⟩ := bind_eq_ok.mp ha
    cases ha
    obtain ⟨rest, rfl⟩ := operand_eq_ok.mp he
    exact .aliased (UInt8.toNat_inj.mp ‹_›) (decodeText_eq_ok.mp hn)
  · obtain ⟨text, ht, ha⟩ := bind_eq_ok.mp ha
    cases ha
    exact .raw (UInt8.toNat_inj.mp ‹_›) (decodeText_eq_ok.mp ht)
  · cases ha

theorem assemble_of_spells {h : NodeHead} {es : List Expr} {e : Expr} (hs : SpellsHead h es e) :
    assemble h es = .ok e := by
  cases hs with
  | column hk hn => simp [assemble, hk, decodeText_eq_ok.mpr hn]
  | literal hk hv => simp [assemble, hk, decodeValue_eq_ok.mpr hv]
  | unary hk hop => simp [assemble, hk, unaryOp_eq_some.mpr hop, orFault, operand]
  | binary hk hop => simp [assemble, hk, binaryOp_eq_some.mpr hop, orFault, operand]
  | cast hk ht => simp [assemble, hk, dataType_eq_some.mpr ht, orFault, operand]
  | str hk hc hs => simp [assemble, hk, decodeStrOp_of_spells hc hs, orFault, operand]
  | agg hk hop => simp [assemble, hk, aggOp_eq_some.mpr hop, orFault, operand]
  | offset hk hc hn => simp [assemble, hk, offsetFunc_eq_some.mpr ⟨hc, hn⟩, orFault, operand]
  | window hk hp ho =>
    simp [assemble, hk, orFault, operand, decodeNames_eq_ok.mpr hp, decodeNames_eq_ok.mpr ho]
  | aliased hk hn => simp [assemble, hk, orFault, operand, decodeText_eq_ok.mpr hn]
  | raw hk ht => simp [assemble, hk, decodeText_eq_ok.mpr ht]

theorem assemble_eq_ok {h : NodeHead} {es : List Expr} {e : Expr} :
    assemble h es = .ok e ↔ SpellsHead h es e :=
  ⟨spells_of_assemble, assemble_of_spells⟩

theorem decodeNodes_nil_eq_ok {es : List Expr} : decodeNodes [] = .ok es ↔ SpellsNodes [] es := by
  refine ⟨?_, ?_⟩
  · intro h
    cases h
    exact .nil
  · intro h
    cases h
    rfl

mutual

theorem decodeNode_eq_ok : ∀ {n : Node} {e : Expr}, decodeNode n = .ok e ↔ SpellsNode n e
  | .mk h children, e => by
    rw [decodeNode_mk]
    refine ⟨?_, ?_⟩
    · intro hd
      -- The children come first, all of them, and the head takes what it needs.
      obtain ⟨cs, hcs, hd⟩ := bind_eq_ok.mp hd
      obtain ⟨es, hes, ha⟩ := bind_eq_ok.mp hd
      have hg := read_eq_ok.mp hcs
      exact .mk hg ((decodeChildren_eq_ok hg).mp hes) (assemble_eq_ok.mp ha)
    · intro hs
      obtain ⟨hg, hcs, hh⟩ := hs
      rw [read_eq_ok.mpr hg, ok_bind, (decodeChildren_eq_ok hg).mpr hcs, ok_bind]
      exact assemble_eq_ok.mpr hh

theorem decodeChildren_eq_ok : ∀ {children : Buffer Node} {cs : List Node} {es : List Expr},
    children.Gives cs → (decodeNodes cs = .ok es ↔ SpellsNodes cs es)
  | .items cs, _, es, hg => by
    cases hg
    exact decodeNodes_eq_ok
  | .null n, _, es, hg => by
    -- The empty list is no part of a null array, so the lemma on lists may not be used here.
    cases hg
    exact decodeNodes_nil_eq_ok

theorem decodeNodes_eq_ok : ∀ {cs : List Node} {es : List Expr},
    decodeNodes cs = .ok es ↔ SpellsNodes cs es
  | [], es => decodeNodes_nil_eq_ok
  | c :: cs, es => by
    rw [decodeNodes]
    refine ⟨?_, ?_⟩
    · intro hd
      obtain ⟨e, he, hd⟩ := bind_eq_ok.mp hd
      obtain ⟨rest, hrest, hd⟩ := bind_eq_ok.mp hd
      cases hd
      exact .cons (decodeNode_eq_ok.mp he) (decodeNodes_eq_ok.mp hrest)
    · intro hs
      obtain ⟨⟩ | ⟨hc, hcs⟩ := hs
      rw [decodeNode_eq_ok.mpr hc, ok_bind, decodeNodes_eq_ok.mpr hcs, ok_bind, pure_eq_ok]

end

/-! ## Parts of operations -/

theorem decodeEntry_eq_ok {r : EntryRecord} {s : Selector} :
    decodeEntry r = .ok s ↔ SpellsEntry r s := by
  refine ⟨?_, ?_⟩
  · intro hd
    unfold decodeEntry at hd
    split at hd
    · obtain ⟨column, hc, hd⟩ := bind_eq_ok.mp hd
      cases hd
      exact .name ‹_› (decodeText_eq_ok.mp hc)
    split at hd
    · obtain ⟨text, ht, hd⟩ := bind_eq_ok.mp hd
      cases hd
      exact .raw ‹_› (decodeText_eq_ok.mp ht)
    split at hd
    · cases hn : r.node with
      | none => simp [hn] at hd
      | some n =>
        rw [hn] at hd
        obtain ⟨e, he, hd⟩ := bind_eq_ok.mp hd
        cases hd
        exact .expr ‹_› hn (decodeNode_eq_ok.mp he)
    · cases hd
  · intro hs
    cases hs with
    | name ht hc => simp [decodeEntry, ht, decodeText_eq_ok.mpr hc]
    | expr ht hn he => simp [decodeEntry, ht, hn, decodeNode_eq_ok.mpr he]
    | raw ht hs => simp [decodeEntry, ht, decodeText_eq_ok.mpr hs]

theorem decodeEntries_eq_ok {entries : Buffer EntryRecord} {items : List Selector} :
    decodeEntries entries = .ok items ↔ SpellsEntries entries items :=
  read_readEach_eq_ok decodeEntry_eq_ok

theorem decodeColumn_eq_ok {r : ColumnRecord} {c : Column} :
    decodeColumn r = .ok c ↔ SpellsColumn r c := by
  simp only [decodeColumn, bind_eq_ok, read_eq_ok, readEach_eq_ok_of decodeValue_eq_ok,
    decodeText_eq_ok, pure_eq_ok, Except.ok.injEq]
  refine ⟨?_, ?_⟩
  · intro h
    obtain ⟨vs, hvs, values, hvalues, name, hname, rfl⟩ := h
    exact ⟨hname, vs, hvs, hvalues⟩
  · intro h
    obtain ⟨hname, vs, hvs, hvalues⟩ := h
    exact ⟨vs, hvs, c.values, hvalues, c.name, hname, rfl⟩

theorem decodeSortField_eq_ok {r : SortRecord} {f : SortField} :
    decodeSortField r = .ok f ↔ SpellsSortField r f := by
  simp only [decodeSortField, bind_eq_ok, decodeText_eq_ok, pure_eq_ok, Except.ok.injEq]
  refine ⟨?_, ?_⟩
  · intro h
    obtain ⟨column, hc, rfl⟩ := h
    exact ⟨hc, rfl⟩
  · intro h
    obtain ⟨hc, hd⟩ := h
    exact ⟨f.column, hc, by rw [hd]⟩

theorem readEach_dataType_eq_ok {cs : List UInt8} {ts : List DataType} :
    readEach (fun c => orFault (.dataType c) (DataType.ofCode? c)) cs = .ok ts ↔
      cs = ts.map DataType.code := by
  rw [readEach_eq_ok_of (orFault_eq_ok.trans dataType_eq_some), ← List.forall₂_map_right_iff,
    List.forall₂_eq_eq_eq]

theorem Buffer.Gives.count_eq {α : Type} {b : Buffer α} {xs : List α} (h : b.Gives xs) :
    b.count = xs.length := by
  cases h <;> rfl

theorem decodeTypes_eq_ok {codes : Buffer UInt8} {ts : Option (List DataType)} :
    decodeTypes codes = .ok ts ↔ SpellsTypes codes ts := by
  unfold decodeTypes
  refine ⟨?_, ?_⟩
  · intro hd
    split at hd
    · cases hd
      exact .none ‹_›
    · obtain ⟨cs, hcs, hd⟩ := bind_eq_ok.mp hd
      obtain ⟨types, ht, hd⟩ := bind_eq_ok.mp hd
      cases hd
      have hg := read_eq_ok.mp hcs
      rw [readEach_dataType_eq_ok.mp ht] at hg
      cases types with
      | nil =>
        -- A list of no overrides is never read: its count is zero.
        exact absurd hg.count_eq ‹_›
      | cons t ts => exact .some hg
  · intro hs
    cases hs with
    | none hc => rw [if_pos hc]
    | @some t ts hg =>
      have hc : ¬codes.count = 0 := by simp [hg.count_eq]
      rw [if_neg hc, read_eq_ok.mpr hg, ok_bind, readEach_dataType_eq_ok.mpr rfl, ok_bind,
        pure_eq_ok]

theorem readKeys_eq_ok {address : Option (List Text)} {count : Nat} {names : List String} :
    (readCounted address count >>= readEach decodeText) = .ok names ↔
      SpellsKeys address count names := by
  unfold readCounted SpellsKeys
  by_cases hc : count = 0
  · rw [if_pos hc, ok_bind, readEach_eq_ok_of decodeText_eq_ok]
    simp [hc]
  · rw [if_neg hc]
    cases address with
    | none => simp [hc]
    | some texts => simp [hc, readEach_eq_ok_of decodeText_eq_ok]

theorem spells_of_assembleJoin {how : JoinType} {a : JoinRecord} {other : Plan} {op : Operation}
    (hh : a.how = how.code) (hd : assembleJoin how a other = .ok op) :
    ∃ spec, op = .join other spec ∧ SpellsJoin a spec := by
  unfold assembleJoin at hd
  obtain ⟨leftTexts, hlt, hd⟩ := bind_eq_ok.mp hd
  obtain ⟨leftOn, hl, hd⟩ := bind_eq_ok.mp hd
  obtain ⟨rightTexts, hrt, hd⟩ := bind_eq_ok.mp hd
  obtain ⟨rightOn, hr, hd⟩ := bind_eq_ok.mp hd
  obtain ⟨suffix, hs, hd⟩ := bind_eq_ok.mp hd
  cases hd
  exact ⟨⟨leftOn, rightOn, how, suffix, a.coalesce⟩, rfl,
    readKeys_eq_ok.mp (bind_eq_ok.mpr ⟨leftTexts, hlt, hl⟩),
    readKeys_eq_ok.mp (bind_eq_ok.mpr ⟨rightTexts, hrt, hr⟩),
    hh, decodeText_eq_ok.mp hs, rfl⟩

theorem assembleJoin_of_spells {a : JoinRecord} {spec : JoinSpec} (hs : SpellsJoin a spec)
    (other : Plan) : assembleJoin spec.how a other = .ok (.join other spec) := by
  obtain ⟨leftTexts, hlt, hl⟩ := bind_eq_ok.mp (readKeys_eq_ok.mpr hs.leftOn)
  obtain ⟨rightTexts, hrt, hr⟩ := bind_eq_ok.mp (readKeys_eq_ok.mpr hs.rightOn)
  simp only [assembleJoin, hlt, hl, hrt, hr, decodeText_eq_ok.mpr hs.suffix, hs.coalesce, ok_bind,
    pure_eq_ok]

theorem decodeBare_eq_ok {opcode : UInt16} {op : Operation} :
    decodeBare opcode = .ok op ↔ SpellsOp (.bare opcode) op := by
  refine ⟨?_, ?_⟩
  · intro hd
    unfold decodeBare at hd
    split at hd
    · subst opcode
      cases hd
      exact .count
    split at hd <;> cases hd
  · intro h
    cases h
    rfl

theorem decodeCsv_eq_ok {a : CsvRecord} {op : Operation} :
    decodeCsv a = .ok op ↔ SpellsOp (.readCsv a) op := by
  simp only [decodeCsv, bind_eq_ok, decodeTypes_eq_ok, decodeText_eq_ok, pure_eq_ok,
    Except.ok.injEq]
  refine ⟨?_, ?_⟩
  · intro h
    obtain ⟨dtypes, ht, path, hp, rfl⟩ := h
    exact .readCsv hp ht
  · intro h
    cases h
    exact ⟨_, ‹_›, _, ‹_›, rfl⟩

theorem decodeRole_eq_ok {role : EntriesRole} {entries : Buffer EntryRecord} {op : Operation} :
    (decodeEntries entries >>= assembleRole role) = .ok op ↔ SpellsOp (.entries role entries) op := by
  simp only [bind_eq_ok, decodeEntries_eq_ok]
  refine ⟨?_, ?_⟩
  · intro h
    obtain ⟨items, hi, hd⟩ := h
    cases role with
    | select =>
      cases hd
      exact .select hi
    | withColumns =>
      cases hd
      exact .withColumns hi
    | filter =>
      match items with
      | [] => cases hd
      | [predicate] =>
        cases hd
        exact .filter hi
      | _ :: _ :: _ => cases hd
  · intro hs
    cases hs with
    | select hi => exact ⟨_, hi, rfl⟩
    | filter hi => exact ⟨_, hi, rfl⟩
    | withColumns hi => exact ⟨_, hi, rfl⟩

/-! ## Operations -/

theorem decodeOps_nil_eq_ok {ops : List Operation} :
    decodeOps [] = .ok ops ↔ SpellsOps [] ops := by
  refine ⟨?_, ?_⟩
  · intro h
    cases h
    exact .nil
  · intro h
    cases h
    rfl

mutual

theorem decodeOp_eq_ok : ∀ {r : OpRecord} {op : Operation}, decodeOp r = .ok op ↔ SpellsOp r op
  | .bare opcode, op => by rw [decodeOp, decodeBare_eq_ok]
  | .readCsv a, op => by rw [decodeOp, decodeCsv_eq_ok]
  | .entries role entries, op => by rw [decodeOp, decodeRole_eq_ok]
  | .fromMemory columns, op => by
    simp only [decodeOp, bind_eq_ok, read_eq_ok, readEach_eq_ok_of decodeColumn_eq_ok, pure_eq_ok,
      Except.ok.injEq]
    refine ⟨?_, ?_⟩
    · intro h
      obtain ⟨rs, hg, cs, hcs, rfl⟩ := h
      exact .fromMemory hg hcs
    · intro h
      cases h
      exact ⟨_, ‹_›, _, ‹_›, rfl⟩
  | .query sql, op => by
    simp only [decodeOp, bind_eq_ok, decodeText_eq_ok, pure_eq_ok, Except.ok.injEq]
    refine ⟨?_, ?_⟩
    · intro h
      obtain ⟨s, hs, rfl⟩ := h
      exact .query hs
    · intro h
      cases h
      exact ⟨_, ‹_›, rfl⟩
  | .groupBy keys aggs, op => by
    simp only [decodeOp, bind_eq_ok, decodeEntries_eq_ok, pure_eq_ok, Except.ok.injEq]
    refine ⟨?_, ?_⟩
    · intro h
      obtain ⟨ks, hk, as, ha, rfl⟩ := h
      exact .groupBy hk ha
    · intro h
      cases h
      exact ⟨_, ‹_›, _, ‹_›, rfl⟩
  | .sort fields, op => by
    simp only [decodeOp, bind_eq_ok, read_eq_ok, readEach_eq_ok_of decodeSortField_eq_ok,
      pure_eq_ok, Except.ok.injEq]
    refine ⟨?_, ?_⟩
    · intro h
      obtain ⟨rs, hg, fs, hfs, rfl⟩ := h
      exact .sort hg hfs
    · intro h
      cases h
      exact ⟨_, ‹_›, _, ‹_›, rfl⟩
  | .limit rows, op => by
    rw [decodeOp]
    refine ⟨?_, ?_⟩
    · intro hd
      cases hd
      exact .limit
    · intro h
      cases h
      rfl
  | .join plan a, op => by
    rw [decodeOp_join]
    refine ⟨?_, ?_⟩
    · intro hd
      -- The type is read before the other plan, and the keys and the suffix after it.
      obtain ⟨how, hh, hd⟩ := bind_eq_ok.mp hd
      obtain ⟨rs, hrs, hd⟩ := bind_eq_ok.mp hd
      obtain ⟨other, ho, hd⟩ := bind_eq_ok.mp hd
      have hg := read_eq_ok.mp hrs
      have hh := joinType_eq_some.mp (orFault_eq_ok.mp hh)
      obtain ⟨spec, rfl, hs⟩ := spells_of_assembleJoin hh hd
      exact .join hg ((decodePlan_eq_ok hg).mp ho) hs
    · intro hs
      cases hs with
      | @join _ rs other _ spec hg ho hs =>
        have hh : orFault (.joinType a.how) (JoinType.ofCode? a.how) = .ok spec.how :=
          orFault_eq_ok.mpr (joinType_eq_some.mpr hs.how)
        rw [hh, ok_bind, read_eq_ok.mpr hg, ok_bind, (decodePlan_eq_ok hg).mpr ho, ok_bind]
        exact assembleJoin_of_spells hs other
  | .concat plan, op => by
    rw [decodeOp_concat]
    refine ⟨?_, ?_⟩
    · intro hd
      obtain ⟨rs, hrs, hd⟩ := bind_eq_ok.mp hd
      obtain ⟨other, ho, hd⟩ := bind_eq_ok.mp hd
      cases hd
      have hg := read_eq_ok.mp hrs
      exact .concat hg ((decodePlan_eq_ok hg).mp ho)
    · intro hs
      cases hs with
      | concat hg ho =>
        rw [read_eq_ok.mpr hg, ok_bind, (decodePlan_eq_ok hg).mpr ho, ok_bind, pure_eq_ok]

theorem decodePlan_eq_ok : ∀ {plan : PlanRecord} {rs : List OpRecord} {ops : List Operation},
    plan.Gives rs → (decodeOps rs = .ok ops ↔ SpellsOps rs ops)
  | .items rs, _, ops, hg => by
    cases hg
    exact decodeOps_eq_ok
  | .null n, _, ops, hg => by
    cases hg
    exact decodeOps_nil_eq_ok

theorem decodeOps_eq_ok : ∀ {rs : List OpRecord} {ops : List Operation},
    decodeOps rs = .ok ops ↔ SpellsOps rs ops
  | [], ops => decodeOps_nil_eq_ok
  | r :: rs, ops => by
    rw [decodeOps]
    refine ⟨?_, ?_⟩
    · intro hd
      obtain ⟨op, hop, hd⟩ := bind_eq_ok.mp hd
      obtain ⟨rest, hrest, hd⟩ := bind_eq_ok.mp hd
      cases hd
      exact .cons (decodeOp_eq_ok.mp hop) (decodeOps_eq_ok.mp hrest)
    · intro hs
      obtain ⟨⟩ | ⟨hr, hrs⟩ := hs
      rw [decodeOp_eq_ok.mpr hr, ok_bind, decodeOps_eq_ok.mpr hrs, ok_bind, pure_eq_ok]

end

theorem decode_eq_ok {w : Option PlanRecord} {ops : Plan} :
    decode w = .ok ops ↔ SpellsPlan w ops := by
  cases w with
  | none =>
    refine ⟨?_, ?_⟩
    · intro hd
      cases hd
    · intro h
      obtain ⟨plan, rs, hw, -, -⟩ := h
      cases hw
  | some plan =>
    refine ⟨?_, ?_⟩
    · intro hd
      obtain ⟨rs, hrs, hd⟩ := bind_eq_ok.mp hd
      exact ⟨plan, rs, rfl, read_eq_ok.mp hrs, decodeOps_eq_ok.mp hd⟩
    · intro h
      obtain ⟨_, rs, ⟨⟩, hg, hs⟩ := h
      rw [decode, read_eq_ok.mpr hg, ok_bind]
      exact decodeOps_eq_ok.mpr hs

/-- **The reader accepts the grammar.** Reading a record gives a plan exactly if the record spells
it. A record that spells no plan, and only such a record, is refused, with a fault that says that the
plan is malformed. -/
theorem decode_accepts_grammar (w : Option PlanRecord) :
    (∀ ops, decode w = .ok ops ↔ SpellsPlan w ops) ∧
      ((∃ cause, decode w = .error cause ∧
          (Error.malformed cause).message = "malformed plan: " ++ cause.reason) ↔
        ¬∃ ops, SpellsPlan w ops) := by
  refine ⟨fun ops => decode_eq_ok, ?_⟩
  simp only [← decode_eq_ok]
  cases decode w with
  | ok ops =>
    refine ⟨?_, ?_⟩
    · intro h
      obtain ⟨cause, ⟨⟩, -⟩ := h
    · intro h
      exact absurd ⟨ops, rfl⟩ h
  | error cause =>
    refine ⟨?_, ?_⟩
    · intro _ hops
      obtain ⟨ops, ⟨⟩⟩ := hops
    · intro _
      exact ⟨cause, rfl, rfl⟩

/-- A column has no use for a child, and a child that is no node is refused all the same. -/
example (name : Text) (cs : List Node) :
    decodeNode (.mk { NodeHead.blank 0 with name }
      (.items (.mk (NodeHead.blank 99) (.null 0) :: cs))) = .error (.exprKind 99) := rfl

end FramePlan.Wire
