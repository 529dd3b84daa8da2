import PageAudit.Text.Numeral
import PageAudit.Text.Unprintable
import PageAudit.Text.Combining

/-!
# Quoted text

A text from a log is quoted before it stands in a message, so that the message stays on one
line and shows what is there: the delimiter, the backslash and the common controls have short
escapes, whatever has no picture of its own is given by its code point.
-/
namespace PageAudit.Text

/-- Whether a character stands for itself between quotes. -/
def isPlain (c : Char) : Bool :=
  if c.toNat < 0x7F then 0x20 ≤ c.toNat
  else !unprintable.covers c && !combining.covers c

/-- A character between delimiters: it stands for itself or is escaped. -/
def escape (delimiter c : Char) : Text :=
  match c with
  | '\x00' => ['\\', '0']
  | '\t' => ['\\', 't']
  | '\r' => ['\\', 'r']
  | '\n' => ['\\', 'n']
  | '\\' => ['\\', '\\']
  | _ =>
    if c = delimiter then ['\\', c]
    else if isPlain c then [c]
    else ['\\', 'u', '\x7b'] ++ hex c.toNat ++ ['\x7d']

/-- A text between two delimiters, itself escaped. -/
def quoted (delimiter : Char) (t : Text) : Text :=
  delimiter :: t.flatMap (escape delimiter) ++ [delimiter]

/-- The two delimiters escape themselves and leave each other alone. -/
example : quoted '"' "a\"b'\n".toList = "\"a\\\"b'\\n\"".toList ∧
    quoted '\x27' ['\x27'] = "'\\''".toList := by decide

end PageAudit.Text
