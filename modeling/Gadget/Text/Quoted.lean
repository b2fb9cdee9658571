import Gadget.Text.GraphemeExtend
import Gadget.Text.Unprintable
/-!
# Quoted text

Text in double quotes for a reader of messages, so that nothing in it is invisible or ambiguous:
quotes, backslashes and the common control characters have short escapes, every other character
that does not stand for itself on paper is written by its number, and the rest are written as they
are.
-/
namespace Gadget.Text

/-- Whether a character is written by its number. -/
def needsNumber (c : Char) : Bool := graphemeExtend.has c || unprintable.has c

/-- A character by its number, in lower case hexadecimal without leading zeros. -/
def numberEscape (c : Char) : List Char :=
  ['\\', 'u', '\x7b'] ++ Nat.toDigits 16 c.toNat ++ ['\x7d']

/-- A character as it stands between the quotes. -/
def escape (c : Char) : List Char :=
  match c with
  | '\x00' => ['\\', '0']
  | '\t' => ['\\', 't']
  | '\r' => ['\\', 'r']
  | '\n' => ['\\', 'n']
  | '"' => ['\\', '"']
  | '\\' => ['\\', '\\']
  | c => if needsNumber c then numberEscape c else [c]

/-- Text in double quotes. -/
def quoted (s : String) : String :=
  .ofList ('"' :: s.toList.flatMap escape ++ ['"'])

end Gadget.Text
