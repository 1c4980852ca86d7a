import FramePlan.Text.Utf8

/-!
# Reading UTF-8 that was written

Two facts hold the reader to the writer. Reading what `encode` wrote gives the text back, in both
ways of reading (`decode?_encode`, `decodeLossy_encode`); and bytes that are read without a gap are
the bytes that `encode` writes (`eq_flatMap_of_scan`), so a text has one form in bytes and
`decode?` accepts nothing else (`decode?_eq_some_iff`).

The arithmetic is done once for each length of a character: `lead_two` to `lead_four` say what the
first byte of a character begins, `encodeChar_two` to `encodeChar_four` which bytes a begun
character ends up as.
-/
namespace FramePlan.Text.Utf8

theorem toNat_range (c : Char) : c.toNat < 0xD800 ∨ 0xDFFF < c.toNat ∧ c.toNat < 0x110000 := by
  exact c.valid

theorem toNat_ofNat {n : Nat} (h : n < 0xD800 ∨ 0xDFFF < n ∧ n < 0x110000) : (Char.ofNat n).toNat = n := by
  have hv : n.isValidChar := h
  rw [Char.ofNat, dif_pos hv]
  rfl

theorem ofNat_eq {n : Nat} {b : UInt8} (h : n = b.toNat) : UInt8.ofNat n = b := by
  rw [h, UInt8.ofNat_toNat]

/-! ## Reading what was written -/

theorem scan_lead {b : Nat} (hb : b < 256) {p : Pending} (h : lead b = .begins p) (bs : List UInt8) :
    scan none (UInt8.ofNat b :: bs) = scan (some p) bs := by
  simp only [scan, UInt8.toNat_ofNat_of_lt' hb, h]

theorem scan_last {v low high b : Nat} (hb : b < 256) (h₁ : low ≤ b) (h₂ : b ≤ high)
    (bs : List UInt8) : scan (some ⟨v, 1, low, high⟩) (UInt8.ofNat b :: bs) =
      some (Char.ofNat (v * 64 + (b - 0x80))) :: scan none bs := by
  simp [scan, UInt8.toNat_ofNat_of_lt' hb, h₁, h₂]

theorem scan_more {v k low high b : Nat} (hb : b < 256) (h₁ : low ≤ b) (h₂ : b ≤ high)
    (bs : List UInt8) : scan (some ⟨v, k + 2, low, high⟩) (UInt8.ofNat b :: bs) =
      scan (some ⟨v * 64 + (b - 0x80), k + 1, 0x80, 0xBF⟩) bs := by
  simp [scan, UInt8.toNat_ofNat_of_lt' hb, h₁, h₂]

theorem lead_two {n : Nat} (h₁ : 0x80 ≤ n) (h₂ : n < 0x800) :
    lead (0xC0 + n / 64) = .begins ⟨n / 64, 1, 0x80, 0xBF⟩ := by
  unfold lead
  rw [if_neg (by omega), if_neg (by omega), if_pos (by omega), Nat.add_sub_cancel_left]

theorem lead_three {n : Nat} (h₁ : 0x800 ≤ n) (h₂ : n < 0xD800 ∨ 0xDFFF < n ∧ n < 0x10000) :
    ∃ low high, lead (0xE0 + n / 4096) = .begins ⟨n / 4096, 2, low, high⟩ ∧
      low ≤ 0x80 + n / 64 % 64 ∧ 0x80 + n / 64 % 64 ≤ high := by
  unfold lead
  rw [if_neg (by omega), if_neg (by omega), if_neg (by omega), Nat.add_sub_cancel_left]
  split
  · have h0 : n / 4096 = 0 := by omega
    exact ⟨0xA0, 0xBF, by rw [h0], by omega, by omega⟩
  split
  · have h13 : n / 4096 = 13 := by omega
    exact ⟨0x80, 0x9F, by rw [h13], by omega, by omega⟩
  rw [if_pos (by omega)]
  exact ⟨0x80, 0xBF, rfl, by omega, by omega⟩

theorem lead_four {n : Nat} (h₁ : 0x10000 ≤ n) (h₂ : n < 0x110000) :
    ∃ low high, lead (0xF0 + n / 262144) = .begins ⟨n / 262144, 3, low, high⟩ ∧
      low ≤ 0x80 + n / 4096 % 64 ∧ 0x80 + n / 4096 % 64 ≤ high := by
  unfold lead
  rw [if_neg (by omega), if_neg (by omega), if_neg (by omega), if_neg (by omega), if_neg (by omega),
    if_neg (by omega), Nat.add_sub_cancel_left]
  split
  · have h0 : n / 262144 = 0 := by omega
    exact ⟨0x90, 0xBF, by rw [h0], by omega, by omega⟩
  split
  · exact ⟨0x80, 0xBF, rfl, by omega, by omega⟩
  have h4 : n / 262144 = 4 := by omega
  rw [if_pos (by omega)]
  exact ⟨0x80, 0x8F, by rw [h4], by omega, by omega⟩

/-- **A written character is read as itself**, whatever follows it. -/
theorem scan_encodeChar (c : Char) (bs : List UInt8) :
    scan none (encodeChar c ++ bs) = some c :: scan none bs := by
  have hr := toNat_range c
  generalize hn : c.toNat = n at hr
  have hc : ∀ m, m = n → Char.ofNat m = c := by
    intro m hm
    rw [hm, ← hn, Char.ofNat_toNat]
  simp only [encodeChar, hn]
  split
  · -- one byte
    have hl : lead n = .whole (Char.ofNat n) := by rw [lead, if_pos (by assumption)]
    simp only [List.singleton_append, scan, UInt8.toNat_ofNat_of_lt' (show n < 256 by omega), hl, hc n rfl]
  split
  · -- two bytes
    rw [List.cons_append, scan_lead (by omega) (lead_two (by omega) (by omega)), List.cons_append,
      scan_last (by omega) (by omega) (by omega), hc _ (by omega), List.nil_append]
  split
  · -- three bytes
    obtain ⟨low, high, hl, h₁, h₂⟩ := lead_three (n := n) (by omega) (by omega)
    rw [List.cons_append, scan_lead (by omega) hl, List.cons_append, scan_more (by omega) h₁ h₂,
      List.cons_append, scan_last (by omega) (by omega) (by omega), hc _ (by omega), List.nil_append]
  · -- four bytes
    obtain ⟨low, high, hl, h₁, h₂⟩ := lead_four (n := n) (by omega) (by omega)
    rw [List.cons_append, scan_lead (by omega) hl, List.cons_append, scan_more (by omega) h₁ h₂,
      List.cons_append, scan_more (by omega) (by omega) (by omega), List.cons_append,
      scan_last (by omega) (by omega) (by omega), hc _ (by omega), List.nil_append]

theorem scan_flatMap (cs : List Char) : scan none (cs.flatMap encodeChar) = cs.map some := by
  induction cs with
  | nil => rfl
  | cons c cs ih => rw [List.flatMap_cons, scan_encodeChar, ih, List.map_cons]

theorem scan_encode (s : String) : scan none (encode s) = s.toList.map some := scan_flatMap s.toList

theorem decode?_encode (s : String) : decode? (encode s) = some s := by
  simp [decode?, scan_encode, List.filterMap_map, Function.comp_def]

example : decode? (encode "aé日😀") = some "aé日😀" := by decide +kernel

theorem decodeLossy_encode (s : String) : decodeLossy (encode s) = s := by
  simp [decodeLossy, scan_encode, Function.comp_def]

/-! ## Writing what was read -/

theorem encodeChar_two {v : Nat} {a b : UInt8} (ha : a.toNat = 0xC0 + v) (h₁ : 2 ≤ v) (h₂ : v < 32)
    (h₃ : 0x80 ≤ b.toNat) (h₄ : b.toNat ≤ 0xBF) :
    encodeChar (Char.ofNat (v * 64 + (b.toNat - 0x80))) = [a, b] := by
  have hn := toNat_ofNat (n := v * 64 + (b.toNat - 0x80)) (by omega)
  simp only [encodeChar, hn]
  rw [if_neg (by omega), if_pos (by omega)]
  simp only [List.cons.injEq, and_true]
  exact ⟨ofNat_eq (by omega), ofNat_eq (by omega)⟩

theorem encodeChar_three {v : Nat} {a b c : UInt8} (ha : a.toNat = 0xE0 + v) (hv : v < 16)
    (h₁ : 0x80 ≤ b.toNat) (h₂ : b.toNat ≤ 0xBF) (h₃ : 0x80 ≤ c.toNat) (h₄ : c.toNat ≤ 0xBF)
    (hlow : v = 0 → 0xA0 ≤ b.toNat) (hhigh : v = 13 → b.toNat ≤ 0x9F) :
    encodeChar (Char.ofNat ((v * 64 + (b.toNat - 0x80)) * 64 + (c.toNat - 0x80))) = [a, b, c] := by
  have hn := toNat_ofNat (n := (v * 64 + (b.toNat - 0x80)) * 64 + (c.toNat - 0x80)) (by omega)
  simp only [encodeChar, hn]
  rw [if_neg (by omega), if_neg (by omega), if_pos (by omega)]
  simp only [List.cons.injEq, and_true]
  exact ⟨ofNat_eq (by omega), ofNat_eq (by omega), ofNat_eq (by omega)⟩

theorem encodeChar_four {v : Nat} {a b c d : UInt8} (ha : a.toNat = 0xF0 + v) (hv : v < 5)
    (h₁ : 0x80 ≤ b.toNat) (h₂ : b.toNat ≤ 0xBF) (h₃ : 0x80 ≤ c.toNat) (h₄ : c.toNat ≤ 0xBF)
    (h₅ : 0x80 ≤ d.toNat) (h₆ : d.toNat ≤ 0xBF)
    (hlow : v = 0 → 0x90 ≤ b.toNat) (hhigh : v = 4 → b.toNat ≤ 0x8F) :
    encodeChar (Char.ofNat
      (((v * 64 + (b.toNat - 0x80)) * 64 + (c.toNat - 0x80)) * 64 + (d.toNat - 0x80))) =
      [a, b, c, d] := by
  have hn := toNat_ofNat
    (n := ((v * 64 + (b.toNat - 0x80)) * 64 + (c.toNat - 0x80)) * 64 + (d.toNat - 0x80)) (by omega)
  simp only [encodeChar, hn]
  rw [if_neg (by omega), if_neg (by omega), if_neg (by omega)]
  simp only [List.cons.injEq, and_true]
  exact ⟨ofNat_eq (by omega), ofNat_eq (by omega), ofNat_eq (by omega), ofNat_eq (by omega)⟩

theorem encodeChar_whole {a : UInt8} {c : Char} (h : lead a.toNat = .whole c) :
    encodeChar c = [a] := by
  unfold lead at h
  repeat' split at h
  all_goals simp only [reduceCtorEq, Lead.whole.injEq] at h
  subst h
  have hn := toNat_ofNat (n := a.toNat) (by omega)
  simp only [encodeChar, hn]
  rw [if_pos (by assumption), UInt8.ofNat_toNat]

theorem lead_begins {a v owed low high : Nat} (h : lead a = .begins ⟨v, owed, low, high⟩) :
    (owed = 1 ∧ a = 0xC0 + v ∧ 2 ≤ v ∧ v < 32 ∧ 0x80 ≤ low ∧ high ≤ 0xBF) ∨
    (owed = 2 ∧ a = 0xE0 + v ∧ v < 16 ∧ 0x80 ≤ low ∧ high ≤ 0xBF ∧
      (v = 0 → 0xA0 ≤ low) ∧ (v = 13 → high ≤ 0x9F)) ∨
    (owed = 3 ∧ a = 0xF0 + v ∧ v < 5 ∧ 0x80 ≤ low ∧ high ≤ 0xBF ∧
      (v = 0 → 0x90 ≤ low) ∧ (v = 4 → high ≤ 0x8F)) := by
  unfold lead at h
  repeat' split at h
  all_goals simp only [reduceCtorEq, Lead.begins.injEq, Pending.mk.injEq] at h
  all_goals omega

theorem scan_pending_inv {p : Pending} {bs : List UInt8} {cs : List Char}
    (h : scan (some p) bs = cs.map some) :
    ∃ b rest, bs = b :: rest ∧ p.low ≤ b.toNat ∧ b.toNat ≤ p.high := by
  cases bs with
  | nil => cases cs <;> simp [scan] at h
  | cons b rest =>
    by_cases hb : p.low ≤ b.toNat ∧ b.toNat ≤ p.high
    · exact ⟨b, rest, rfl, hb⟩
    · exfalso
      simp only [scan, if_neg hb] at h
      cases cs <;> split at h <;> simp at h

theorem scan_last_inv {v low high : Nat} {bs : List UInt8} {cs : List Char}
    (h : scan (some ⟨v, 1, low, high⟩) bs = cs.map some) :
    ∃ b rest ds, bs = b :: rest ∧ low ≤ b.toNat ∧ b.toNat ≤ high ∧
      cs = Char.ofNat (v * 64 + (b.toNat - 0x80)) :: ds ∧ scan none rest = ds.map some := by
  obtain ⟨b, rest, rfl, h₁, h₂⟩ := scan_pending_inv h
  have hs := scan_last b.toNat_lt h₁ h₂ rest (v := v)
  rw [UInt8.ofNat_toNat] at hs
  rw [hs] at h
  obtain ⟨c, ds, rfl, hc, hr⟩ := List.map_eq_cons_iff.mp h.symm
  refine ⟨b, rest, ds, rfl, h₁, h₂, ?_, hr.symm⟩
  rw [Option.some.inj hc]

theorem scan_more_inv {v k low high : Nat} {bs : List UInt8} {cs : List Char}
    (h : scan (some ⟨v, k + 2, low, high⟩) bs = cs.map some) :
    ∃ b rest, bs = b :: rest ∧ low ≤ b.toNat ∧ b.toNat ≤ high ∧
      scan (some ⟨v * 64 + (b.toNat - 0x80), k + 1, 0x80, 0xBF⟩) rest = cs.map some := by
  obtain ⟨b, rest, rfl, h₁, h₂⟩ := scan_pending_inv h
  have hs := scan_more b.toNat_lt h₁ h₂ rest (v := v) (k := k)
  rw [UInt8.ofNat_toNat] at hs
  rw [hs] at h
  exact ⟨b, rest, rfl, h₁, h₂, h⟩

/-- A begun character is read to its end, and its bytes are the ones that encode it. -/
theorem scan_begins {a : UInt8} {p : Pending} (hl : lead a.toNat = .begins p) {bs : List UInt8}
    {cs : List Char} (h : scan (some p) bs = cs.map some) : ∃ c ds tail rest,
      cs = c :: ds ∧ bs = tail ++ rest ∧ encodeChar c = a :: tail ∧ scan none rest = ds.map some := by
  obtain ⟨v, owed, low, high⟩ := p
  obtain ⟨rfl, ha, hv₁, hv₂, hlow, hhigh⟩ | ⟨rfl, ha, hv, hlow, hhigh, h0, h13⟩ |
    ⟨rfl, ha, hv, hlow, hhigh, h0, h4⟩ := lead_begins hl
  · -- two bytes
    obtain ⟨b, rest, ds, rfl, hb₁, hb₂, rfl, hr⟩ := scan_last_inv h
    exact ⟨_, ds, [b], rest, rfl, rfl, encodeChar_two ha hv₁ hv₂ (by omega) (by omega), hr⟩
  · -- three bytes
    obtain ⟨b, bs, rfl, hb₁, hb₂, h⟩ := scan_more_inv h
    obtain ⟨c, rest, ds, rfl, hc₁, hc₂, rfl, hr⟩ := scan_last_inv h
    exact ⟨_, ds, [b, c], rest, rfl, rfl, encodeChar_three ha hv (by omega) (by omega) hc₁ hc₂
      (by omega) (by omega), hr⟩
  · -- four bytes
    obtain ⟨b, bs, rfl, hb₁, hb₂, h⟩ := scan_more_inv h
    obtain ⟨c, bs, rfl, hc₁, hc₂, h⟩ := scan_more_inv h
    obtain ⟨d, rest, ds, rfl, hd₁, hd₂, rfl, hr⟩ := scan_last_inv h
    exact ⟨_, ds, [b, c, d], rest, rfl, rfl, encodeChar_four ha hv (by omega) (by omega) hc₁ hc₂
      hd₁ hd₂ (by omega) (by omega), hr⟩

/-- **Bytes read without a gap are the bytes of the characters read.** -/
theorem eq_flatMap_of_scan : ∀ (bs : List UInt8) (cs : List Char), scan none bs = cs.map some →
    bs = cs.flatMap encodeChar
  | [], cs, h => by
    cases cs
    · rfl
    · simp [scan] at h
  | a :: bs, cs, h => by
    cases hl : lead a.toNat with
    | whole c =>
      simp only [scan, hl] at h
      obtain ⟨d, ds, rfl, hd, hr⟩ := List.map_eq_cons_iff.mp h.symm
      cases hd
      rw [List.flatMap_cons, encodeChar_whole hl, ← eq_flatMap_of_scan bs ds hr.symm, List.cons_append,
        List.nil_append]
    | refused => cases cs <;> simp [scan, hl] at h
    | begins p =>
      simp only [scan, hl] at h
      obtain ⟨c, ds, tail, rest, rfl, hb, hc, hr⟩ := scan_begins hl h
      have hlt : rest.length < bs.length + 1 := by rw [hb, List.length_append]; omega
      rw [List.flatMap_cons, hc, ← eq_flatMap_of_scan rest ds hr, hb, List.cons_append]
termination_by bs => bs.length

theorem eq_map_some {α : Type} : ∀ {l : List (Option α)}, l.all Option.isSome = true →
    l = (l.filterMap id).map some
  | [], _ => rfl
  | none :: l, h => by simp at h
  | some a :: l, h => by
    have hl : l.all Option.isSome = true := by simpa using h
    rw [List.filterMap_cons, id_eq, List.map_cons, ← eq_map_some hl]

theorem decode?_eq_some_iff {bs : List UInt8} {s : String} : decode? bs = some s ↔ bs = encode s := by
  refine ⟨?_, ?_⟩
  · intro h
    simp only [decode?] at h
    split at h
    · next ha =>
      have hs := Option.some.inj h
      subst hs
      rw [encode, String.toList_ofList]
      exact eq_flatMap_of_scan bs _ (eq_map_some ha)
    · simp at h
  · intro h
    subst h
    exact decode?_encode s

end FramePlan.Text.Utf8
