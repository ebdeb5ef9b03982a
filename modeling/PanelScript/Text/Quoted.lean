import PanelScript.Text.Printable

/-!
# Quoted text

A text in double quotes, in which quotes, backslashes and characters without a picture of their own
are escaped: `"a\"b"`, `"tab \t"`, `"\u{301}"`.

* `Quoted.escape` is the form of one character, `quoted` that of a text.
-/

namespace PanelScript

/-- How quoted text shows one character. -/
def Quoted.escape (c : Char) : List Char :=
  match c with
  | '\x00' => ['\\', '0']
  | '\t' => ['\\', 't']
  | '\r' => ['\\', 'r']
  | '\n' => ['\\', 'n']
  | '\\' => ['\\', '\\']
  | '"' => ['\\', '"']
  | c =>
    if isPrintable c then [c]
    else "\\u\x7b".toList ++ Nat.toDigits 16 c.toNat ++ ['}']

/-- The text in double quotes, with its special characters escaped. -/
def quoted (s : String) : String :=
  String.ofList ('"' :: s.toList.flatMap Quoted.escape ++ ['"'])

end PanelScript
