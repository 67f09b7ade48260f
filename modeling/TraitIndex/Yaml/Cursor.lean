import TraitIndex.Text.Digit
import TraitIndex.Text.Pieces
import TraitIndex.Value.Fault

/-!
Reading a YAML text character by character.

A cursor is the text that is left with the place it starts at.  The end of the
text reads as the character 0, which no YAML text contains.  A text that is read
in pieces may break off before its end; nothing that depends on what comes after
is known then.
-/

namespace TraitIndex.Yaml

/-- Why a text cannot be read: it is no acceptable YAML, it holds a value that
cannot be made, its bytes are no characters, or taking it apart never ends. -/
inductive DecodeFault where
  | malformed
  | value (fault : ValueFault)
  | bytes (fault : Text.Utf8Fault)
  | endless
  deriving DecidableEq, Repr

def isAllowed (c : Char) : Bool :=
  let code := c.toNat
  code = 9 || code = 0xA || code = 0xD || (0x20 ≤ code && code ≤ 0x7E) ||
    code = 0x85
    || (0xA0 ≤ code && code ≤ 0xD7FF) || (0xE000 ≤ code && code ≤ 0xFFFD)
    || (0x10000 ≤ code && code ≤ 0x10FFFF)

def endMark : Char := '\x00'

def isEnd (c : Char) : Bool := c = endMark

def isBreak (c : Char) : Bool :=
  c = '\r' || c = '\n' || c = '\x85' || c = '\u2028' || c = '\u2029'

def isBreakOrEnd (c : Char) : Bool := isBreak c || isEnd c

def isGap (c : Char) : Bool := c = ' ' || isBreakOrEnd c

def isWideGap (c : Char) : Bool := c = '\t' || isGap c

def isWordChar (c : Char) : Bool :=
  Text.isAsciiDigit c || ('A' ≤ c && c ≤ 'Z') || ('a' ≤ c && c ≤ 'z') ||
    c = '-' || c = '_'

/-- A place in a text of the given length.  `breaksOff` says why no more of the
text can be read than there is, if that is so. -/
structure Cursor where
  rest : List Char
  index : Nat
  line : Nat
  column : Nat
  length : Nat
  breaksOff : Option DecodeFault
  deriving DecidableEq, Repr

namespace Cursor

/-- The pieces before the first one with a character that may not occur, and why
the text breaks off after them. -/
def readable (fault : Option Text.Utf8Fault) :
    List (List Char) → List Char × Option DecodeFault
  | [] => ([], fault.map .bytes)
  | piece :: rest =>
      if piece.all isAllowed then
        let (text, breaksOff) := readable fault rest
        (piece ++ text, breaksOff)
      else ([], some .malformed)

def start (text : Text.Pieces) : Cursor :=
  let (known, breaksOff) := match text.pieces, text.fault with
    | first :: second :: rest, fault =>
        readable fault ((first ++ second) :: rest)
    | [_], some fault => readable (some fault) []
    | pieces, fault => readable fault pieces
  ⟨known, 0, 0, 0, known.length, breaksOff⟩

def peekAt (cursor : Cursor) (distance : Nat) : Char :=
  (cursor.rest[distance]?).getD endMark

def peek (cursor : Cursor) : Char :=
  cursor.rest.headD endMark

/-- One character further.  A carriage return before a line feed does not end
the line, and a byte order mark takes no column. -/
def step (cursor : Cursor) : Cursor :=
  match cursor.rest with
  | [] => cursor
  | c :: rest =>
      if isBreak c && !(c = '\r' && rest.head? = some '\n') then
        { cursor with
          rest := rest
          index := cursor.index + 1
          line := cursor.line + 1
          column := 0 }
      else if c = '\ufeff' then
        { cursor with rest := rest, index := cursor.index + 1 }
      else
        { cursor with
          rest := rest
          index := cursor.index + 1
          column := cursor.column + 1 }

def forward (cursor : Cursor) : Nat → Cursor
  | 0 => cursor
  | count + 1 => cursor.step.forward count

def takeWhile (cursor : Cursor) (condition : Char → Bool) :
    List Char × Cursor :=
  let taken := cursor.rest.takeWhile condition
  (taken, cursor.forward taken.length)

def skipWhile (cursor : Cursor) (condition : Char → Bool) : Cursor :=
  (cursor.takeWhile condition).2

def skipSpaces (cursor : Cursor) : Cursor :=
  cursor.skipWhile (· = ' ')

def skipComment (cursor : Cursor) : Cursor :=
  if cursor.peek = '#' then cursor.skipWhile fun c => !isBreak c else cursor

def lineBreak? (cursor : Cursor) : Option (Char × Cursor) :=
  match cursor.rest with
  | '\r' :: '\n' :: _ => some ('\n', cursor.forward 2)
  | c :: _ =>
      if c = '\u2028' || c = '\u2029' then some (c, cursor.step)
      else if isBreak c then some ('\n', cursor.step)
      else none
  | [] => none

def isMarker (cursor : Cursor) (c : Char) : Bool :=
  cursor.rest.take 3 = [c, c, c] && isWideGap (cursor.peekAt 3)

def isDocumentMarker (cursor : Cursor) : Bool :=
  cursor.isMarker '-' || cursor.isMarker '.'

def fuel (cursor : Cursor) : Nat :=
  cursor.length + 1

def demand (cursor : Cursor) : Except DecodeFault Unit :=
  match cursor.breaksOff with
  | some fault => if cursor.rest.isEmpty then .error fault else .ok ()
  | none => .ok ()

def refuse {α : Type} (cursor : Cursor) : Except DecodeFault α := do
  cursor.demand
  .error .malformed

end Cursor

def malformed {α : Type} : Except DecodeFault α := .error .malformed

def endOfLine (cursor : Cursor) : Except DecodeFault Cursor :=
  let cursor := cursor.skipSpaces.skipComment
  if isBreakOrEnd cursor.peek then
    match cursor.lineBreak? with
    | some (_, after) => .ok after
    | none => .ok cursor
  else cursor.refuse

end TraitIndex.Yaml
