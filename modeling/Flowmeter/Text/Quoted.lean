-- SUMMARY: Quoted text, as names appear inside messages.
import Flowmeter.Text.Escaped

/-!
# Quoted text

A name that a message shows is put between double quotes. Quotes and
backslashes are escaped with a backslash, the four common controls have an
escape of one letter, and any other character without a shape of its own is
written as its code point in braces. An apostrophe is left alone.
-/

namespace Flowmeter.Text

/-- The code point of `c` in lower case hexadecimal digits between braces. -/
def codePoint (c : Char) : List Char :=
  '\\' :: 'u' :: '\x7b' :: Nat.toDigits 16 c.toNat ++ ['\x7d']

/-- How `c` appears inside a quoted text. -/
def quoteChar (c : Char) : List Char :=
  if c = '\x00' then ['\\', '0']
  else if c = '\t' then ['\\', 't']
  else if c = '\r' then ['\\', 'r']
  else if c = '\n' then ['\\', 'n']
  else if c = '"' then ['\\', '"']
  else if c = '\\' then ['\\', '\\']
  else if isEscaped c then codePoint c
  else [c]

/-- The text `s` between double quotes. -/
def quote (s : String) : String :=
  String.ofList ('"' :: s.toList.flatMap quoteChar ++ ['"'])

/-- The texts `ss`, each quoted, as a list in brackets. -/
def quoteList (ss : List String) : String :=
  "[" ++ String.intercalate ", " (ss.map quote) ++ "]"

end Flowmeter.Text
