/-!
# UTF-8

A text as bytes and bytes as a text. `encode` writes every character in the one form that UTF-8 has
for it. `scan` reads bytes one at a time and gives, for each stretch of them, a character or
`none`: a stretch that starts like a character and is cut off, as long as possible, is one `none`.
`decode?` accepts bytes with no such stretch; `decodeLossy` puts the replacement character in place
of each.

A byte that may not continue a character ends the stretch before it and is read anew, so no byte is
skipped and none is read twice.
-/
namespace FramePlan.Text.Utf8

/-- The bytes of a character: one to four, the first of them saying how many. -/
def encodeChar (c : Char) : List UInt8 :=
  let n := c.toNat
  let tail (shift : Nat) : UInt8 := UInt8.ofNat (0x80 + n / shift % 64)
  if n < 0x80 then [UInt8.ofNat n]
  else if n < 0x800 then [UInt8.ofNat (0xC0 + n / 64), tail 1]
  else if n < 0x10000 then [UInt8.ofNat (0xE0 + n / 4096), tail 64, tail 1]
  else [UInt8.ofNat (0xF0 + n / 262144), tail 4096, tail 64, tail 1]

/-- The bytes of a text. -/
def encode (s : String) : List UInt8 := s.toList.flatMap encodeChar

/-- How many bytes a text has. -/
def byteCount (s : String) : Nat := (encode s).length

/-- A character that has been begun: its leading bits so far, how many bytes are owed, and the
    bounds of the next one. -/
structure Pending where
  value : Nat
  owed : Nat
  low : Nat
  high : Nat

/-- What a byte does at the start of a character. -/
inductive Lead
  | whole (c : Char)
  | begins (p : Pending)
  | refused

/-- The first byte of a character. The bounds of the second byte shut out the longer forms of
    smaller characters, the surrogates, and what is above the last character. -/
def lead (b : Nat) : Lead :=
  if b < 0x80 then .whole (Char.ofNat b)
  else if b < 0xC2 then .refused
  else if b < 0xE0 then .begins ⟨b - 0xC0, 1, 0x80, 0xBF⟩
  else if b = 0xE0 then .begins ⟨0, 2, 0xA0, 0xBF⟩
  else if b = 0xED then .begins ⟨13, 2, 0x80, 0x9F⟩
  else if b < 0xF0 then .begins ⟨b - 0xE0, 2, 0x80, 0xBF⟩
  else if b = 0xF0 then .begins ⟨0, 3, 0x90, 0xBF⟩
  else if b < 0xF4 then .begins ⟨b - 0xF0, 3, 0x80, 0xBF⟩
  else if b = 0xF4 then .begins ⟨4, 3, 0x80, 0x8F⟩
  else .refused

/-- The characters of the bytes, with `none` for each stretch that is none. -/
def scan : Option Pending → List UInt8 → List (Option Char)
  | none, [] => []
  | some _, [] => [none]
  | none, b :: bs =>
    match lead b.toNat with
    | .whole c => some c :: scan none bs
    | .begins p => scan (some p) bs
    | .refused => none :: scan none bs
  | some p, b :: bs =>
    if p.low ≤ b.toNat ∧ b.toNat ≤ p.high then
      let value := p.value * 64 + (b.toNat - 0x80)
      if p.owed ≤ 1 then some (Char.ofNat value) :: scan none bs
      else scan (some ⟨value, p.owed - 1, 0x80, 0xBF⟩) bs
    else
      match lead b.toNat with
      | .whole c => none :: some c :: scan none bs
      | .begins q => none :: scan (some q) bs
      | .refused => none :: none :: scan none bs

/-- The text that the bytes encode. -/
def decode? (bs : List UInt8) : Option String :=
  let found := scan none bs
  if found.all Option.isSome then some (String.ofList (found.filterMap id)) else none

/-- The text of any bytes: what is no character reads as U+FFFD. -/
def decodeLossy (bs : List UInt8) : String :=
  String.ofList ((scan none bs).map (·.getD '\uFFFD'))

end FramePlan.Text.Utf8
