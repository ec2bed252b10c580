/-
Text between quotation marks, the way a message shows a value that it complains about.

A quotation mark, a backslash, a tab, a line feed, a carriage return and NUL have short escapes; a
character that would not show by itself (`Appraisal.Text.Unshown`) is written by number in braces;
everything else stands for itself. So the quoted form stays on one line and no two texts share one.
-/
import Appraisal.Text.Blank
import Appraisal.Text.Unshown

set_option autoImplicit false

namespace Appraisal.Text

/-- The digits of `n` in base sixteen, small letters, no leading zero. -/
def hex (n : Nat) : List Char :=
  Nat.toDigits 16 n

/-- How a single character is written inside a quoted text. -/
def quotedChar (c : Char) : List Char :=
  if c = '"' then ['\\', '"']
  else if c = '\\' then ['\\', '\\']
  else if c = '\t' then ['\\', 't']
  else if c = '\n' then ['\\', 'n']
  else if c = '\r' then ['\\', 'r']
  else if c.toNat = 0 then ['\\', '0']
  else if inRanges unshownRanges c.toNat then ['\\', 'u', '\x7b'] ++ hex c.toNat ++ ['\x7d']
  else [c]

/-- The text in quotation marks, with what would not show written out. -/
def quoted (s : String) : String :=
  String.ofList (['"'] ++ s.toList.flatMap quotedChar ++ ['"'])

end Appraisal.Text
