import TraitIndex.Value.Show

/-!
Writing JSON on one line, without blanks after separators.

Strings keep their characters where they can; a string that must be ASCII writes
the others by their code, in two parts beyond the first 65536.
-/

namespace TraitIndex.Json

def codeUnitEscape (code : Nat) : List Char :=
  '\\' :: 'u' :: Text.hexDigits 4 code

def requiredEscape? (c : Char) : Option (List Char) :=
  if c = '"' then some ['\\', '"']
  else if c = '\\' then some ['\\', '\\']
  else if c = '\n' then some ['\\', 'n']
  else if c = '\r' then some ['\\', 'r']
  else if c = '\t' then some ['\\', 't']
  else if c = '\x0c' then some ['\\', 'f']
  else if c = '\x08' then some ['\\', 'b']
  else if c.toNat < 0x20 then some (codeUnitEscape c.toNat)
  else none

def stringChar (c : Char) : List Char :=
  (requiredEscape? c).getD [c]

def asciiStringChar (c : Char) : List Char :=
  match requiredEscape? c with
  | some escape => escape
  | none =>
      if c.toNat < 0x7F then [c]
      else if c.toNat < 0x10000 then codeUnitEscape c.toNat
      else
        let beyond := c.toNat - 0x10000
        codeUnitEscape (0xD800 + beyond / 0x400) ++ codeUnitEscape
          (0xDC00 + beyond % 0x400)

def encodeString (text : String) : List Char :=
  '"' :: text.toList.flatMap stringChar ++ ['"']

def encodeAsciiString (text : String) : List Char :=
  '"' :: text.toList.flatMap asciiStringChar ++ ['"']

def encodeFloat : Number.Binary64 → String
  | .nan => "NaN"
  | .infinite negative => if negative then "-Infinity" else "Infinity"
  | number => number.toText

def keyName : Value → String
  | .text value => value
  | .null => "null"
  | .bool value => if value then "true" else "false"
  | .float value => encodeFloat value
  | key => key.toText

def separated (parts : List (List Char)) : List Char :=
  List.intercalate [','] parts

mutual

/-- A value as JSON.  Values that JSON does not know are written as their
text. -/
def encode : Value → List Char
  | .null => "null".toList
  | .bool value => (if value then "true" else "false").toList
  | .int value => (toString value).toList
  | .float value => (encodeFloat value).toList
  | .text value => encodeString value
  | .list values => '[' :: separated (encodeItems values) ++ [']']
  | .mapping fields => '\x7b' :: separated (encodeFields fields) ++ ['\x7d']
  | value => encodeString value.toText

def encodeItems : List Value → List (List Char)
  | [] => []
  | item :: rest => encode item :: encodeItems rest

def encodeFields : List (Value × Value) → List (List Char)
  | [] => []
  | (key, item) :: rest =>
      (encodeString (keyName key) ++ ':' :: encode item) :: encodeFields rest

end

end TraitIndex.Json
