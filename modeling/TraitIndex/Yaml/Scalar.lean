import TraitIndex.Yaml.Cursor

/-!
The three ways of writing a scalar in YAML: plain, in quotes, and as a block of
lines.

Line ends inside plain and quoted scalars fold into spaces; further empty lines
stay as line feeds.
-/

namespace TraitIndex.Yaml

def foldBreaks (first : Char) (others : List Char) : List Char :=
  if first != '\n' then first :: others
  else if others.isEmpty then [' ']
  else others

/-! ## Plain scalars -/

/-- The line ends and leading spaces after a first line end, up to the next
text.  Nothing is read when a document marker comes. -/
def plainBreaks : Nat → Cursor → Option (List Char) × Cursor
  | 0, cursor => (some [], cursor)
  | fuel + 1, cursor =>
      if cursor.peek = ' ' then plainBreaks fuel cursor.step
      else
        match cursor.lineBreak? with
        | none => (some [], cursor)
        | some (c, after) =>
            if after.isDocumentMarker then (none, after)
            else
              match plainBreaks fuel after with
              | (some breaks, last) => (some (c :: breaks), last)
              | (none, last) => (none, last)

/-- What stands between two pieces of a plain scalar, and whether a line ended
there.  Without anything the scalar is over. -/
def plainGap (cursor : Cursor) : List Char × Bool × Cursor :=
  let (spaces, afterSpaces) := cursor.takeWhile (· = ' ')
  match afterSpaces.lineBreak? with
  | none => (spaces, false, afterSpaces)
  | some (c, after) =>
      if after.isDocumentMarker then ([], true, after)
      else
        match plainBreaks after.fuel after with
        | (some breaks, last) => (foldBreaks c breaks, true, last)
        | (none, last) => ([], true, last)

def plainLength (inFlow : Bool) : List Char → Nat
  | [] => 0
  | c :: rest =>
      let next := rest.headD endMark
      let colonEnds :=
        isWideGap next || (inFlow && ",[]\x7b\x7d".toList.contains next)
      if isWideGap c || (c = ':' && colonEnds) ||
        (inFlow && ",?[]\x7b\x7d".toList.contains c) then 0
      else plainLength inFlow rest + 1

/-- A plain scalar, after the text read so far, which is kept backwards.  The
flag says whether a line ended after the last piece. -/
def plainPieces (inFlow : Bool) (indent : Int) : Nat → List Char → Cursor →
    (List Char × Bool) × Cursor
  | 0, before, cursor => ((before.reverse, false), cursor)
  | fuel + 1, before, cursor =>
      let length := plainLength inFlow cursor.rest
      if length = 0 then ((before.reverse, false), cursor)
      else
        let before := (cursor.rest.take length).reverse ++ before
        let (gap, gapEnded, next) := plainGap (cursor.forward length)
        if gap.isEmpty || next.peek = '#' ||
          (!inFlow && (next.column : Int) < indent)
            || plainLength inFlow next.rest = 0 then
          ((before.reverse, gapEnded), next)
        else plainPieces inFlow indent fuel (gap.reverse ++ before) next

def plainScalar (inFlow : Bool) (indent : Int) (cursor : Cursor) :
    (List Char × Bool) × Cursor :=
  plainPieces inFlow (indent + 1) cursor.fuel [] cursor

/-! ## Quoted scalars -/

def escapedChar? (c : Char) : Option Char :=
  match c with
  | '0' => some '\x00'
  | 'a' => some '\x07'
  | 'b' => some '\x08'
  | 't' => some '\t'
  | '\t' => some '\t'
  | 'n' => some '\n'
  | 'v' => some '\x0b'
  | 'f' => some '\x0c'
  | 'r' => some '\r'
  | 'e' => some '\x1b'
  | ' ' => some ' '
  | '"' => some '"'
  | '\\' => some '\\'
  | '/' => some '/'
  | 'N' => some '\x85'
  | '_' => some '\xa0'
  | 'L' => some '\u2028'
  | 'P' => some '\u2029'
  | _ => none

def escapeWidth? (c : Char) : Option Nat :=
  match c with
  | 'x' => some 2
  | 'u' => some 4
  | 'U' => some 8
  | _ => none

def hexNumber? (width : Nat) (text : List Char) : Option Nat :=
  let digits := (text.take width).filterMap Text.hexValue?
  if digits.length = width then some (Text.ofDigits 16 digits) else none

/-- The character with a code, if there is one.  Surrogates are not paired. -/
def charWithCode (code : Nat) : Except DecodeFault Char :=
  if 0x10FFFF < code then .error (.value (.badCharacter code))
  else if 0xD800 ≤ code && code ≤ 0xDFFF then .ok (Text.loneSurrogate code)
  else .ok (Char.ofNat code)

def quotedBreaks : Nat → Cursor → Except DecodeFault (List Char × Cursor)
  | 0, cursor => .ok ([], cursor)
  | fuel + 1, cursor =>
      if cursor.isDocumentMarker then (cursor.forward 3).refuse
      else
        let cursor := cursor.skipWhile fun c => c = ' ' || c = '\t'
        match cursor.lineBreak? with
        | none => .ok ([], cursor)
        | some (c, after) => do
            let (breaks, last) ← quotedBreaks fuel after
            return (c :: breaks, last)

def quotedGap (cursor : Cursor) : Except DecodeFault (List Char × Cursor) :=
  let (blanks, cursor) := cursor.takeWhile fun c => c = ' ' || c = '\t'
  match cursor.lineBreak? with
  | some (c, after) => do
      let (breaks, last) ← quotedBreaks after.fuel after
      return (foldBreaks c breaks, last)
  | none => if isEnd cursor.peek then cursor.refuse else .ok (blanks, cursor)

def escapeText (cursor : Cursor) : Except DecodeFault (List Char × Cursor) :=
  let c := cursor.peek
  match escapedChar? c, escapeWidth? c with
  | some escaped, _ => .ok ([escaped], cursor.step)
  | none, some width =>
      match hexNumber? width (cursor.rest.drop 1) with
      | none =>
          (cursor.step.skipWhile fun c => (Text.hexValue? c).isSome).refuse
      | some code => do
          let escaped ← charWithCode code
          return ([escaped], cursor.forward (width + 1))
  | none, none =>
      match cursor.lineBreak? with
      | some (_, after) => quotedBreaks after.fuel after
      | none => cursor.refuse

def quotedPieces (double : Bool) :
    Nat → List Char → Cursor → Except DecodeFault (List Char × Cursor)
  | 0, _, _ => malformed
  | fuel + 1, before, cursor =>
      let c := cursor.peek
      let quote := if double then '"' else '\x27'
      if isWideGap c then do
        let (gap, after) ← quotedGap cursor
        quotedPieces double fuel (gap.reverse ++ before) after
      else if !double && c = quote && cursor.peekAt 1 = quote then
        quotedPieces double fuel (quote :: before) (cursor.forward 2)
      else if c = quote then .ok (before.reverse, cursor.step)
      else if double && c = '\\' then do
        let (escaped, after) ← escapeText cursor.step
        quotedPieces double fuel (escaped.reverse ++ before) after
      else quotedPieces double fuel (c :: before) cursor.step

def quotedScalar (double : Bool) (cursor : Cursor) :
    Except DecodeFault (List Char × Cursor) :=
  quotedPieces double cursor.fuel [] cursor.step

/-! ## Block scalars -/

inductive Chomping where
  | clip
  | strip
  | keep
  deriving DecidableEq, Repr

def chomping? (c : Char) : Option Chomping :=
  if c = '+' then some .keep else if c = '-' then some .strip else none

def writtenIndent (cursor : Cursor) :
    Except DecodeFault (Option Nat × Cursor) :=
  let c := cursor.peek
  if Text.isAsciiDigit c then
    if c = '0' then malformed else .ok (some (c.toNat - 48), cursor.step)
  else .ok (none, cursor)

def blockHead (cursor : Cursor) :
    Except DecodeFault ((Chomping × Option Nat) × Cursor) := do
  let ((chomping, indent), cursor) ←
    match chomping? cursor.peek with
    | some chomping => do
        let (indent, cursor) ← writtenIndent cursor.step
        pure ((chomping, indent), cursor)
    | none => do
        let (indent, cursor) ← writtenIndent cursor
        match indent, chomping? cursor.peek with
        | some _, some chomping => pure ((chomping, indent), cursor.step)
        | _, _ => pure ((Chomping.clip, indent), cursor)
  if isGap cursor.peek then return ((chomping, indent), cursor)
  else cursor.refuse

def blockIndentation : Nat → Nat → Cursor → (List Char × Nat) × Cursor
  | 0, deepest, cursor => (([], deepest), cursor)
  | fuel + 1, deepest, cursor =>
      if cursor.peek = ' ' then
        let after := cursor.step
        blockIndentation fuel (max deepest after.column) after
      else
        match cursor.lineBreak? with
        | none => (([], deepest), cursor)
        | some (c, after) =>
            let ((breaks, deepest), last) := blockIndentation fuel deepest after
            ((c :: breaks, deepest), last)

def skipIndent (indent : Int) : Nat → Cursor → Cursor
  | 0, cursor => cursor
  | fuel + 1, cursor =>
      if (cursor.column : Int) < indent && cursor.peek = ' ' then
        skipIndent indent fuel cursor.step
      else cursor

def blockBreaks (indent : Int) : Nat → Cursor → List Char × Cursor
  | 0, cursor => ([], cursor)
  | fuel + 1, cursor =>
      let cursor := skipIndent indent cursor.fuel cursor
      match cursor.lineBreak? with
      | none => ([], cursor)
      | some (c, after) =>
          let (breaks, last) := blockBreaks indent fuel after
          (c :: breaks, last)

/-- The lines of a block, after the empty lines before them.  What is left at
the end is the last line end and the empty lines after it. -/
def blockLines (folded : Bool) (indent : Int) : Nat → List Char → Cursor →
    (List Char × List Char × List Char) × Cursor
  | 0, breaks, cursor => (([], [], breaks), cursor)
  | fuel + 1, breaks, cursor =>
      if (cursor.column : Int) != indent || isEnd cursor.peek then
        (([], [], breaks), cursor)
      else
        let leadingText := !(cursor.peek = ' ' || cursor.peek = '\t')
        let (line, cursor) := cursor.takeWhile fun c => !isBreak c
        let (lineEnd, cursor) := match cursor.lineBreak? with
          | some (c, after) => ([c], after)
          | none => ([], cursor)
        let (nextBreaks, cursor) := blockBreaks indent cursor.fuel cursor
        if (cursor.column : Int) = indent && !isEnd cursor.peek then
          let textFollows := !(cursor.peek = ' ' || cursor.peek = '\t')
          let between :=
            if folded && lineEnd = ['\n'] && leadingText && textFollows then
              if nextBreaks.isEmpty then [' '] else []
            else lineEnd
          let ((text, lastEnd, lastBreaks), last) :=
            blockLines folded indent fuel nextBreaks cursor
          ((breaks ++ line ++ between ++ text, lastEnd, lastBreaks), last)
        else ((breaks ++ line, lineEnd, nextBreaks), cursor)

def blockScalar (folded : Bool) (indent : Int) (cursor : Cursor) :
    Except DecodeFault (List Char × Cursor) := do
  let ((chomping, written), cursor) ← blockHead cursor.step
  let cursor ← endOfLine cursor
  let least : Int := max (indent + 1) 1
  let ((breaks, column), cursor) := match written with
    | none =>
        let ((breaks, deepest), cursor) := blockIndentation cursor.fuel 0 cursor
        ((breaks, max least (deepest : Int)), cursor)
    | some increment =>
        let column := least + increment - 1
        let (breaks, cursor) := blockBreaks column cursor.fuel cursor
        ((breaks, column), cursor)
  let ((text, lastEnd, lastBreaks), cursor) :=
    blockLines folded column cursor.fuel breaks cursor
  return match chomping with
    | .strip => (text, cursor)
    | .clip => (text ++ lastEnd, cursor)
    | .keep => (text ++ lastEnd ++ lastBreaks, cursor)

end TraitIndex.Yaml
