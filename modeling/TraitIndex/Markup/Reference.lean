import TraitIndex.Markup.NamedCharacter
import TraitIndex.Value.Fault

/-!
Character references: `&amp;`, `&#38;`, `&#x26;` and their like.

A numeric reference may lack its semicolon.  A named one may lack it when the
name is an old one; then the longest old name at the start of the word counts.
-/

namespace TraitIndex.Markup

/-! ## Numeric references -/

def oldCodes : List Nat := [
  0x20AC, 0x81, 0x201A, 0x192, 0x201E, 0x2026, 0x2020, 0x2021, 0x2C6, 0x2030,
    0x160, 0x2039, 0x152,
  0x8D, 0x17D, 0x8F, 0x90, 0x2018, 0x2019, 0x201C, 0x201D, 0x2022, 0x2013,
  0x2014, 0x2DC, 0x2122, 0x161, 0x203A, 0x153, 0x9D, 0x17E, 0x178]

/-- Codes that stand for no character at all: most control characters and the
codes Unicode keeps unused. -/
def isSilentCode (code : Nat) : Bool :=
  (1 ≤ code && code ≤ 8) || code = 0xB || (0xE ≤ code && code ≤ 0x1F) ||
  (0x7F ≤ code && code ≤ 0x9F)
    || (0xFDD0 ≤ code && code ≤ 0xFDEF) || 0xFFFE ≤ code % 0x10000

def textOfCode (code : Nat) : List Char :=
  if code = 0 then ['\ufffd']
  else if 0x80 ≤ code && code ≤ 0x9F then
    (oldCodes[code - 0x80]?.map Char.ofNat).toList
  else if (0xD800 ≤ code && code ≤ 0xDFFF) || 0x10FFFF < code then ['\ufffd']
  else if isSilentCode code then []
  else [Char.ofNat code]

def semicolonLength : List Char → Nat
  | ';' :: _ => 1
  | _ => 0

/-- What a numeric reference stands for, and the characters used after `&#`. -/
def numericReference? (text : List Char) :
    Except ValueFault (Option (List Char × Nat)) :=
  let decimal := text.takeWhile Text.isAsciiDigit
  if !decimal.isEmpty then
    if Value.digitLimit < decimal.length then
      .error (.longLiteral decimal.length)
    else
      let code := Text.ofDigits 10 (decimal.filterMap Text.hexValue?)
      .ok (some (textOfCode code, decimal.length + semicolonLength
        (text.drop decimal.length)))
  else
    match text with
    | [] => .ok none
    | x :: digits =>
        let hexadecimal := digits.takeWhile fun c => (Text.hexValue? c).isSome
        if (x = 'x' || x = 'X') && !hexadecimal.isEmpty then
          let code := Text.ofDigits 16 (hexadecimal.filterMap Text.hexValue?)
          let used := hexadecimal.length
          .ok (some (textOfCode code, 1 + used + semicolonLength
            (digits.drop used)))
        else .ok none

/-! ## Named references -/

def textOfName? (name : List Char) : Option (List Char) :=
  match name with
  | [] => none
  | letter :: _ =>
      ((namesStartingWith letter).find? fun named => named.1.toList == name).map
        fun named =>
        named.2.map Char.ofNat

def isBareName (name : List Char) : Bool :=
  bareNames.any fun bare => bare.toList == name

def isNameChar (c : Char) : Bool :=
  !(c = '\t' || c = '\n' || c = '\x0c' || c = ' ' || c = '<' || c = '&' ||
    c = '#' || c = ';')

/-- The longest old name among the initial parts of a word that have at most the
given length. -/
def bareReference? (word : List Char) : Nat → Option (List Char × Nat)
  | 0 => none
  | length + 1 =>
      let name := word.take (length + 1)
      if isBareName name then (textOfName? name).map fun text =>
        (text, length + 1)
      else bareReference? word length

/-- What a named reference stands for, and the characters used after `&`.  At
most 32 characters count as a name. -/
def namedReference? (text : List Char) : Option (List Char × Nat) :=
  let word := (text.takeWhile isNameChar).take 32
  let whole :=
    if semicolonLength (text.drop word.length) = 1 then
      (textOfName? word).map fun content => (content, word.length + 1)
    else none
  whole.or (bareReference? word word.length)

/-! ## Whole texts -/

def reference? : List Char → Except ValueFault (Option (List Char × Nat))
  | '#' :: rest => do
      let found ← numericReference? rest
      return found.map fun (text, used) => (text, used + 1)
  | text => .ok (namedReference? text)

/-- A text after its first `skip` characters, with every reference replaced by
what it stands for. -/
def resolveFrom : Nat → List Char → Except ValueFault (List Char)
  | _, [] => .ok []
  | skip + 1, _ :: rest => resolveFrom skip rest
  | 0, c :: rest =>
      if c = '&' then do
        match ← reference? rest with
        | some (text, used) => return text ++ (← resolveFrom used rest)
        | none => return '&' :: (← resolveFrom 0 rest)
      else do return c :: (← resolveFrom 0 rest)

def resolveReferences (text : List Char) : Except ValueFault (List Char) :=
  resolveFrom 0 text

/-! ## Escaping -/

def escapeChar (c : Char) : List Char :=
  if c = '&' then "&amp;".toList
  else if c = '<' then "&lt;".toList
  else if c = '>' then "&gt;".toList
  else [c]

def escape (text : List Char) : List Char :=
  text.flatMap escapeChar

end TraitIndex.Markup
