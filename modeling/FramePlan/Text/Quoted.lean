import FramePlan.Text.VisibleTable
import FramePlan.Text.Case

/-!
# Quoted text

A text between double quotes with nothing invisible in it: the quote, the backslash and four control
characters have short escapes, and every other character that is not visible is written by its code
point in hexadecimal.
-/
namespace FramePlan.Text

/-- The hexadecimal digits of a natural, in lower case. -/
def hexDigits (n : Nat) : List Char := Nat.toDigits 16 n

/-- A character as it stands inside quotes. -/
def quoteChar (c : Char) : List Char :=
  if c = '"' then ['\\', '"']
  else if c = '\\' then ['\\', '\\']
  else if c = '\n' then ['\\', 'n']
  else if c = '\r' then ['\\', 'r']
  else if c = '\t' then ['\\', 't']
  else if c.toNat = 0 then ['\\', '0']
  else if inRanges visibleRanges c.toNat then [c]
  else "\\u\x7b".toList ++ hexDigits c.toNat ++ "\x7d".toList

/-- A text in double quotes. -/
def quote (s : String) : String := String.ofList ('"' :: s.toList.flatMap quoteChar ++ ['"'])

/-- A list of texts in brackets, each quoted. -/
def quoteList (xs : List String) : String := "[" ++ ", ".intercalate (xs.map quote) ++ "]"

end FramePlan.Text
