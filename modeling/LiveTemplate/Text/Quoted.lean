import LiveTemplate.Text.Hex
import LiveTemplate.Text.Printable

/-! Quoted text. Single quotes enclose it, unless it holds a single quote and no double
one. The backslash, the enclosing quote and the unprintable characters are escaped: three
line controls by letter, all others by the shortest of two, four or eight hexadecimal
digits. -/
namespace LiveTemplate.Text

def escapeCode (n : Nat) : List Char :=
  if n < 0x100 then '\\' :: 'x' :: hexDigits 2 n
  else if n < 0x10000 then '\\' :: 'u' :: hexDigits 4 n
  else '\\' :: 'U' :: hexDigits 8 n

def escapeIn (quote : Char) (c : Char) : List Char :=
  if c = quote || c = '\\' then ['\\', c]
  else if c = '\n' then ['\\', 'n']
  else if c = '\r' then ['\\', 'r']
  else if c = '\t' then ['\\', 't']
  else if isPrintable c then [c]
  else escapeCode c.toNat

def enclosingQuote (cs : List Char) : Char :=
  if cs.contains '\x27' && !cs.contains '"' then '"' else '\x27'

def quoted (text : String) : String :=
  let quote := enclosingQuote text.toList
  String.ofList (quote :: text.toList.flatMap (escapeIn quote) ++ [quote])

end LiveTemplate.Text
