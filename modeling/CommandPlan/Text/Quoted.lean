import CommandPlan.Text.Unprintable

/-! Quoted text for messages: double quotes around the text, a backslash before
a quote or a backslash, short escapes for the usual controls, and the code
point of every other character that cannot be shown. -/
namespace CommandPlan.Text

def hexDigits (code : Nat) : List Char :=
  Nat.toDigits 16 code

def quoteChar (c : Char) : List Char :=
  if c = '"' then ['\\', '"']
  else if c = '\\' then ['\\', '\\']
  else if c = '\n' then ['\\', 'n']
  else if c = '\r' then ['\\', 'r']
  else if c = '\t' then ['\\', 't']
  else if c.toNat = 0 then ['\\', '0']
  else if isUnprintable c then ['\\', 'u', '\x7b'] ++ hexDigits c.toNat ++ ['\x7d']
  else [c]

def quote (text : String) : String :=
  String.ofList (['"'] ++ text.toList.flatMap quoteChar ++ ['"'])

end CommandPlan.Text
