import TraitIndex.Yaml.Token

/-!
Cutting a YAML text into tokens.

Indentation opens and closes block collections.  Whether a token is the key of a
mapping shows only at the colon after it, so the scanner remembers where the
last possible key of every level of brackets stands and puts the missing tokens
before it when the colon comes.  Until then nobody may look at that token: the
scanner reads on, and a fault it meets comes before all that could be wrong with
the token.
-/

namespace TraitIndex.Yaml

/-- A token that may turn out to be a key.  It stands at the given place among
the tokens. -/
structure PossibleKey where
  place : Nat
  isRequired : Bool
  index : Nat
  line : Nat
  column : Nat
  deriving DecidableEq, Repr

/-- A scanner in the middle of its work.  The tokens are kept backwards, with
their number; `indents` holds the indentations of the enclosing block
collections, `keys` the possible keys by depth of brackets. -/
structure Scanner where
  cursor : Cursor
  tokens : List Token
  count : Nat
  depth : Nat
  indent : Int
  indents : List Int
  keyAllowed : Bool
  keys : List (Nat × PossibleKey)
  deriving Repr

namespace Scanner

def start (text : Text.Pieces) : Scanner where
  cursor := .start text
  tokens := []
  count := 0
  depth := 0
  indent := -1
  indents := []
  keyAllowed := true
  keys := []

def inFlow (scanner : Scanner) : Bool := scanner.depth != 0

def column (scanner : Scanner) : Int := scanner.cursor.column

def emit (scanner : Scanner) (token : Token) : Scanner :=
  { scanner with tokens := token :: scanner.tokens, count := scanner.count + 1 }

def emitAt (scanner : Scanner) (place : Nat) (token : Token) : Scanner :=
  { scanner with
    tokens := scanner.tokens.insertIdx (scanner.count - place) token,
    count := scanner.count + 1 }

def emitOver (scanner : Scanner) (token : Token) (length : Nat) : Scanner :=
  { scanner.emit token with cursor := scanner.cursor.forward length }

/-! ## Possible keys -/

/-- Whether a possible key is too far behind to be one: on an earlier line, or
more than 1024 characters away. -/
def isStale (scanner : Scanner) (key : PossibleKey) : Bool :=
  key.line != scanner.cursor.line || 1024 < scanner.cursor.index - key.index

def dropStaleKeys (scanner : Scanner) : Except DecodeFault Scanner :=
  if scanner.keys.any fun entry => scanner.isStale entry.2 &&
    entry.2.isRequired then malformed
  else
    .ok { scanner with
      keys := scanner.keys.filter fun entry => !scanner.isStale entry.2 }

def dropKey (scanner : Scanner) : Except DecodeFault Scanner :=
  if scanner.keys.any fun entry => entry.1 = scanner.depth &&
    entry.2.isRequired then malformed
  else
    .ok { scanner with
      keys := scanner.keys.filter fun entry => entry.1 != scanner.depth }

def saveKey (scanner : Scanner) : Except DecodeFault Scanner :=
  if !scanner.keyAllowed then .ok scanner
  else do
    let required := !scanner.inFlow && scanner.indent = scanner.column
    let cleared ← scanner.dropKey
    let key : PossibleKey :=
      ⟨scanner.count, required, scanner.cursor.index, scanner.cursor.line,
        scanner.cursor.column⟩
    return { cleared with keys := (scanner.depth, key) :: cleared.keys }

/-! ## Indentation -/

def closeBlocks (column : Int) : List Int → Scanner → Scanner
  | [], scanner => scanner
  | outer :: indents, scanner =>
      if column < scanner.indent then
        closeBlocks column indents
          { scanner.emit .blockEnd with indent := outer, indents := indents }
      else scanner

def unwind (scanner : Scanner) (column : Int) : Scanner :=
  if scanner.inFlow then scanner else closeBlocks column scanner.indents scanner

def openBlock (scanner : Scanner) (column : Int) (place : Nat) (token : Token) :
    Scanner :=
  if scanner.indent < column then
    { scanner.emitAt place token with
      indent := column, indents := scanner.indent :: scanner.indents }
  else scanner

def openBlockHere (scanner : Scanner) (token : Token) : Scanner :=
  scanner.openBlock scanner.column scanner.count token

/-! ## Single tokens -/

def outermost (scanner : Scanner) : Except DecodeFault Scanner := do
  let scanner ← (scanner.unwind (-1)).dropKey
  return { scanner with keyAllowed := false }

def flowStart (scanner : Scanner) (token : Token) :
    Except DecodeFault Scanner := do
  let scanner ← scanner.saveKey
  return { scanner.emitOver token 1 with
    depth := scanner.depth + 1
    keyAllowed := true }

def flowEnd (scanner : Scanner) (token : Token) :
    Except DecodeFault Scanner := do
  let scanner ← scanner.dropKey
  return { scanner.emitOver token 1 with
    depth := scanner.depth - 1
    keyAllowed := false }

def flowEntry (scanner : Scanner) : Except DecodeFault Scanner := do
  let scanner ← scanner.dropKey
  return { scanner.emitOver .flowEntry 1 with keyAllowed := true }

def blockEntry (scanner : Scanner) : Except DecodeFault Scanner := do
  if !scanner.inFlow && !scanner.keyAllowed then malformed
  else
    let opened := if scanner.inFlow then scanner
      else scanner.openBlockHere .blockSequenceStart
    let opened ← opened.dropKey
    return { opened.emitOver .blockEntry 1 with keyAllowed := true }

def explicitKey (scanner : Scanner) : Except DecodeFault Scanner := do
  if !scanner.inFlow && !scanner.keyAllowed then malformed
  else
    let opened := if scanner.inFlow then scanner
      else scanner.openBlockHere .blockMappingStart
    let opened ← opened.dropKey
    return { opened.emitOver .key 1 with keyAllowed := !scanner.inFlow }

/-- The colon after a possible key: the tokens that were missing come before the
key. -/
def valueAfterKey (scanner : Scanner) (key : PossibleKey) : Scanner :=
  let scanner := { scanner with
    keys := scanner.keys.filter fun entry => entry.1 != scanner.depth,
    keyAllowed := false }
  let scanner := scanner.emitAt key.place .key
  let scanner :=
    if scanner.inFlow then scanner
    else scanner.openBlock key.column key.place .blockMappingStart
  scanner.emitOver .value 1

def valueAlone (scanner : Scanner) : Except DecodeFault Scanner := do
  if !scanner.inFlow && !scanner.keyAllowed then malformed
  else
    let opened := if scanner.inFlow then scanner
      else scanner.openBlockHere .blockMappingStart
    let opened ← opened.dropKey
    return { opened.emitOver .value 1 with keyAllowed := !scanner.inFlow }

def value (scanner : Scanner) : Except DecodeFault Scanner :=
  match scanner.keys.find? fun entry => entry.1 = scanner.depth with
  | some entry => .ok (scanner.valueAfterKey entry.2)
  | none => scanner.valueAlone

def keyToken (scanner : Scanner)
    (reader : Cursor → Except DecodeFault (Token × Cursor)) :
    Except DecodeFault Scanner := do
  let scanner ← scanner.saveKey
  let (token, cursor) ← reader scanner.cursor
  return { scanner.emit token with cursor := cursor, keyAllowed := false }

def quoted (scanner : Scanner) (double : Bool) : Except DecodeFault Scanner :=
  scanner.keyToken fun cursor => do
    let (text, after) ← quotedScalar double cursor
    return (.scalar (String.ofList text) false, after)

def plain (scanner : Scanner) : Except DecodeFault Scanner := do
  let scanner ← scanner.saveKey
  let ((text, lineEnded), cursor) :=
    plainScalar scanner.inFlow scanner.indent scanner.cursor
  return { scanner.emit (.scalar (String.ofList text) true) with
    cursor := cursor, keyAllowed := lineEnded }

def block (scanner : Scanner) (folded : Bool) : Except DecodeFault Scanner := do
  let scanner ← scanner.dropKey
  let (text, cursor) ← blockScalar folded scanner.indent scanner.cursor
  return { scanner.emit (.scalar (String.ofList text) false) with
    cursor := cursor, keyAllowed := true }

/-! ## The next token -/

def skipToToken : Nat → Scanner → Scanner
  | 0, scanner => scanner
  | fuel + 1, scanner =>
      let cursor := scanner.cursor.skipSpaces.skipComment
      match cursor.lineBreak? with
      | none => { scanner with cursor := cursor }
      | some (_, after) =>
          skipToToken fuel { scanner with
            cursor := after,
            keyAllowed := scanner.keyAllowed || !scanner.inFlow }

def skipByteOrderMark (scanner : Scanner) : Scanner :=
  if scanner.cursor.index = 0 && scanner.cursor.peek = '\ufeff' then
    { scanner with cursor := scanner.cursor.step }
  else scanner

def plainStarts (scanner : Scanner) : Bool :=
  let c := scanner.cursor.peek
  let next := scanner.cursor.peekAt 1
  !(isWideGap c || "-?:,[]\x7b\x7d#&*!|>\x27\"%@\x60".toList.contains c)
    || (!isWideGap next &&
      (c = '-' || (!scanner.inFlow && (c = '?' || c = ':'))))

def token (scanner : Scanner) : Except DecodeFault Scanner :=
  let cursor := scanner.cursor
  let c := cursor.peek
  let gapNext := isWideGap (cursor.peekAt 1)
  let atLineStart := cursor.column = 0
  if c = '%' && atLineStart then do
    let scanner ← scanner.outermost
    let (token, cursor) ← directiveToken scanner.cursor
    return { scanner.emit token with cursor := cursor }
  else if atLineStart && cursor.isMarker '-' then do
    let scanner ← scanner.outermost
    return scanner.emitOver .documentStart 3
  else if atLineStart && cursor.isMarker '.' then do
    let scanner ← scanner.outermost
    return scanner.emitOver .documentEnd 3
  else if c = '[' then scanner.flowStart .flowSequenceStart
  else if c = '\x7b' then scanner.flowStart .flowMappingStart
  else if c = ']' then scanner.flowEnd .flowSequenceEnd
  else if c = '\x7d' then scanner.flowEnd .flowMappingEnd
  else if c = ',' then scanner.flowEntry
  else if c = '-' && gapNext then scanner.blockEntry
  else if c = '?' && (scanner.inFlow || gapNext) then scanner.explicitKey
  else if c = ':' && (scanner.inFlow || gapNext) then scanner.value
  else if c = '*' then scanner.keyToken fun cursor => do
    let (name, after) ← anchorName cursor
    return (.alias name, after)
  else if c = '&' then scanner.keyToken fun cursor => do
    let (name, after) ← anchorName cursor
    return (.anchor name, after)
  else if c = '!' then scanner.keyToken tagToken
  else if c = '|' && !scanner.inFlow then scanner.block false
  else if c = '>' && !scanner.inFlow then scanner.block true
  else if c = '\x27' then scanner.quoted false
  else if c = '"' then scanner.quoted true
  else if scanner.plainStarts then scanner.plain
  else malformed

def advance (scanner : Scanner) : Except DecodeFault (Scanner × Bool) := do
  let scanner := (← scanner.dropStaleKeys).skipByteOrderMark
  let scanner := skipToToken scanner.cursor.fuel scanner
  scanner.cursor.demand
  let scanner ← scanner.dropStaleKeys
  let scanner := scanner.unwind scanner.column
  if isEnd scanner.cursor.peek then
    return (← (scanner.unwind (-1)).dropKey, true)
  else do
    let scanner ← scanner.token
    scanner.cursor.demand
    return (scanner, false)

/-- The tokens that may be looked at before the scanner reads on: those before
the first one that may still turn out to be a key. -/
def settled (scanner : Scanner) : List Token :=
  let pending := scanner.keys.filter fun entry => !scanner.isStale entry.2
  let count :=
    pending.foldl (fun count entry => min count entry.2.place) scanner.count
  scanner.tokens.reverse.take count

/-- Reads tokens to the end of the text.  A fault becomes the last token, after
those that could be looked at before it was met. -/
def run : Nat → Scanner → List Token
  | 0, scanner => scanner.tokens.reverse
  | fuel + 1, scanner =>
      match scanner.advance with
      | .error fault => scanner.settled ++ [.broken fault]
      | .ok (scanner, isOver) =>
          if isOver then scanner.tokens.reverse else run fuel scanner

end Scanner

def tokens (text : Text.Pieces) : List Token :=
  let scanner := Scanner.start text
  Scanner.run scanner.cursor.fuel scanner

end TraitIndex.Yaml
