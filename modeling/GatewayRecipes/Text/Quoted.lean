import GatewayRecipes.Text.Hidden

/-! Texts in double quotes, in which everything that is hard to see is written as an escape. -/
namespace GatewayRecipes.Text

/-- An escape by code point: `\u`, then hexadecimal digits in braces. -/
def codePointEscape (c : Char) : List Char :=
  "\\u\x7b".toList ++ Nat.toDigits 16 c.toNat ++ ['\x7d']

def quoteChar (c : Char) : List Char :=
  if c = '\x00' then ['\\', '0']
  else if c = '\t' then ['\\', 't']
  else if c = '\r' then ['\\', 'r']
  else if c = '\n' then ['\\', 'n']
  else if c = '\\' then ['\\', '\\']
  else if c = '"' then ['\\', '"']
  else if isHidden c then codePointEscape c
  else [c]

def quote (text : List Char) : List Char := '"' :: text.flatMap quoteChar ++ ['"']

def quoted (text : String) : String := String.ofList (quote text.toList)

end GatewayRecipes.Text
