import TraitIndex.Text.Printable
import TraitIndex.Text.Digit

/-!
Text inside quotation marks, as messages and content ids show it.

A text stands in single quotation marks, or in double ones when it holds a
single mark and no double one.  Backslashes, the mark itself and line ends are
escaped; other unprintable characters are written by their code point.
-/

namespace TraitIndex.Text

def singleMark : Char := '\x27'

def doubleMark : Char := '"'

def quotationMark (text : List Char) : Char :=
  if text.contains singleMark && !text.contains doubleMark then doubleMark
  else singleMark

def codePointEscape (c : Char) : List Char :=
  if c.toNat < 0x100 then '\\' :: 'x' :: hexDigits 2 c.toNat
  else if c.toNat < 0x10000 then '\\' :: 'u' :: hexDigits 4 c.toNat
  else '\\' :: 'U' :: hexDigits 8 c.toNat

def quotedChar (mark c : Char) : List Char :=
  if c = mark || c = '\\' then ['\\', c]
  else if c = '\n' then ['\\', 'n']
  else if c = '\r' then ['\\', 'r']
  else if c = '\t' then ['\\', 't']
  else if isPrintable c then [c]
  else codePointEscape c

def quotedChars (text : List Char) : List Char :=
  let mark := quotationMark text
  mark :: text.flatMap (quotedChar mark) ++ [mark]

def quoted (text : String) : String :=
  String.ofList (quotedChars text.toList)

end TraitIndex.Text
