/-!
# White space

The characters with the Unicode property White_Space, and a text without those at its ends.
-/
namespace FramePlan.Text

/-- The blank characters: tab to carriage return, the space, the next-line control, and the
    spaces and separators of other scripts. -/
def isBlank (c : Char) : Bool :=
  let n := c.toNat
  (decide (9 ≤ n) && decide (n ≤ 13)) || n == 0x20 || n == 0x85 || n == 0xA0 || n == 0x1680 ||
    (decide (0x2000 ≤ n) && decide (n ≤ 0x200A)) || n == 0x2028 || n == 0x2029 || n == 0x202F ||
    n == 0x205F || n == 0x3000

/-- A list without the items at its end that satisfy `p`. -/
def dropRightWhile {α : Type} (p : α → Bool) (xs : List α) : List α :=
  (xs.reverse.dropWhile p).reverse

/-- A list without the items at both ends that satisfy `p`. -/
def dropBothWhile {α : Type} (p : α → Bool) (xs : List α) : List α :=
  dropRightWhile p (xs.dropWhile p)

/-- A text without the blanks at its ends. -/
def trim (cs : List Char) : List Char := dropBothWhile isBlank cs

/-! ## Small facts -/

theorem dropWhile_eq_self {α : Type} {p : α → Bool} {xs : List α} (h : ∀ x ∈ xs, p x = false) :
    xs.dropWhile p = xs := by
  cases xs with
  | nil => rfl
  | cons x xs => exact List.dropWhile_cons_of_neg (by simp [h x List.mem_cons_self])

theorem dropRightWhile_eq_self {α : Type} {p : α → Bool} {xs : List α} (h : ∀ x ∈ xs, p x = false) :
    dropRightWhile p xs = xs := by
  rw [dropRightWhile, dropWhile_eq_self fun x hx => h x (List.mem_reverse.mp hx), List.reverse_reverse]

/-- A text without blanks is as it is. -/
theorem trim_eq_self {cs : List Char} (h : ∀ c ∈ cs, isBlank c = false) : trim cs = cs := by
  rw [trim, dropBothWhile, dropWhile_eq_self h, dropRightWhile_eq_self h]

end FramePlan.Text
