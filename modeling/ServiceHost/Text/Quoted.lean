import ServiceHost.Text.Unprintable

/-!
This module contains the quoted form of a text that messages show: between double quotes, with
backslash escapes for quotes, backslashes and the usual control characters, and with the code point
of every other character that cannot be shown.
-/

namespace ServiceHost.Text

def hexDigits (n : Nat) : List Char :=
  Nat.toDigits 16 n

def quoteChar (c : Char) : List Char :=
  if c = '\x00' then ['\\', '0']
  else if c = '\t' then ['\\', 't']
  else if c = '\n' then ['\\', 'n']
  else if c = '\r' then ['\\', 'r']
  else if c = '"' then ['\\', '"']
  else if c = '\\' then ['\\', '\\']
  else if isUnprintable c then ['\\', 'u', '\x7b'] ++ hexDigits c.toNat ++ ['\x7d']
  else [c]

def quoted (text : String) : String :=
  .ofList ('"' :: text.toList.flatMap quoteChar ++ ['"'])

def quotedList (texts : List String) : String :=
  "[" ++ ", ".intercalate (texts.map quoted) ++ "]"

example : quoted "a\"b\\c\n" = "\"a\\\"b\\\\c\\n\"" := by
  decide +kernel

end ServiceHost.Text
