import LandingPage.Text.Unprintable

/-!
Quoted text for messages. A text is put between double quotes with a backslash before a double quote
and a backslash, short forms for the four common control characters, and the code point in braces
for every other character that does not show on its own.
-/
namespace LandingPage.Text

/-- A code point in lower case hexadecimal, as in `\u{301}`. -/
def codePointEscape (c : Char) : List Char :=
  '\\' :: 'u' :: '\x7b' :: (Nat.toDigits 16 c.toNat ++ ['\x7d'])

def quoteChar (c : Char) : List Char :=
  match c with
  | '\x00' => ['\\', '0']
  | '\t' => ['\\', 't']
  | '\r' => ['\\', 'r']
  | '\n' => ['\\', 'n']
  | '\\' => ['\\', '\\']
  | '"' => ['\\', '"']
  | c => if isUnprintable c then codePointEscape c else [c]

def quote (text : String) : String :=
  String.ofList ('"' :: (text.toList.flatMap quoteChar ++ ['"']))

example : quote "it's \"a\"\\\n" = "\"it's \\\"a\\\"\\\\\\n\"" := by cbv

end LandingPage.Text
