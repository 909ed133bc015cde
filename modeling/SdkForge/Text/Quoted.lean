import SdkForge.Text.PrintableTable

/-!
# String literals

A text as the literal that generated code has for it. What cannot be seen, or would join the
character before it, is spelled by its code point.
-/

namespace SdkForge.Text

/-- Whether a literal shows the character as it is. -/
def isShown (c : Char) : Bool :=
  if c.toNat < 128 then 0x20 ≤ c.toNat && c.toNat != 0x7F
  else !inRuns PrintableTable.glyphless c && !inRuns PrintableTable.extending c

/-- A character by its code point. -/
def codePointEscape (c : Char) : List Char :=
  '\\' :: 'u' :: '\x7b' :: Nat.toDigits 16 c.toNat ++ ['\x7d']

/-- A character as a literal spells it. -/
def quoteChar (c : Char) : List Char :=
  match c with
  | '\t' => ['\\', 't']
  | '\r' => ['\\', 'r']
  | '\n' => ['\\', 'n']
  | '\\' => ['\\', '\\']
  | '"' => ['\\', '"']
  | '\x00' => ['\\', '0']
  | _ => if isShown c then [c] else codePointEscape c

/-- A text as a literal. -/
def quote (text : String) : String := "\"" ++ String.ofList (text.toList.flatMap quoteChar) ++ "\""

end SdkForge.Text
