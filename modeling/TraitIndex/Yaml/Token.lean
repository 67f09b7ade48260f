import TraitIndex.Text.Utf8
import TraitIndex.Yaml.Scalar

/-!
The tokens of YAML, and the tokens that are words of their own: directives,
anchors and tags.
-/

namespace TraitIndex.Yaml

inductive Directive where
  | version (major minor : Nat)
  | handle (handle start : String)
  | other
  deriving DecidableEq, Repr

inductive Token where
  | directive (directive : Directive)
  | documentStart
  | documentEnd
  | blockSequenceStart
  | blockMappingStart
  | blockEnd
  | flowSequenceStart
  | flowSequenceEnd
  | flowMappingStart
  | flowMappingEnd
  | blockEntry
  | flowEntry
  | key
  | value
  | alias (name : String)
  | anchor (name : String)
  | tag (handle : Option String) (name : String)
  | scalar (text : String) (isPlain : Bool)
  | broken (fault : DecodeFault)
  deriving DecidableEq, Repr

/-! ## Anchors -/

def anchorName (cursor : Cursor) : Except DecodeFault (String × Cursor) :=
  let (name, after) := cursor.step.takeWhile isWordChar
  let follows :=
    isWideGap after.peek || "?:,]\x7d%@\x60".toList.contains after.peek
  if name.isEmpty || !follows then after.refuse
  else .ok (String.ofList name, after)

/-! ## Tags -/

/-- A handle: an exclamation mark, alone or with a word and another one. -/
def tagHandle (cursor : Cursor) : Except DecodeFault (String × Cursor) :=
  if cursor.peek != '!' then cursor.refuse
  else if cursor.peekAt 1 = ' ' then .ok ("!", cursor.step)
  else
    let (word, after) := cursor.step.takeWhile isWordChar
    if after.peek = '!' then
      .ok (String.ofList ('!' :: word ++ ['!']), after.step)
    else after.refuse

def isUriChar (c : Char) : Bool :=
  isWordChar c || ";/?:@&=+$,.!~*\x27()[]".toList.contains c

def uriBytes : Nat → Cursor → Except DecodeFault (List UInt8 × Cursor)
  | 0, cursor => .ok ([], cursor)
  | fuel + 1, cursor =>
      if cursor.peek = '%' then
        match hexNumber? 2 cursor.step.rest with
        | none =>
            (cursor.step.skipWhile fun c => (Text.hexValue? c).isSome).refuse
        | some byte => do
            let (bytes, after) ← uriBytes fuel (cursor.forward 3)
            return (UInt8.ofNat byte :: bytes, after)
      else .ok ([], cursor)

def uriText : Nat → Cursor → Except DecodeFault (List Char × Cursor)
  | 0, cursor => .ok ([], cursor)
  | fuel + 1, cursor =>
      if isUriChar cursor.peek then do
        let (text, after) ← uriText fuel cursor.step
        return (cursor.peek :: text, after)
      else if cursor.peek = '%' then do
        let (bytes, escaped) ← uriBytes cursor.fuel cursor
        match Text.decodeUtf8 bytes with
        | .error _ => escaped.refuse
        | .ok text => do
            let (more, after) ← uriText fuel escaped
            return (text ++ more, after)
      else .ok ([], cursor)

def uri (cursor : Cursor) : Except DecodeFault (String × Cursor) := do
  let (text, after) ← uriText cursor.fuel cursor
  if after.index = cursor.index then after.refuse
  else return (String.ofList text, after)

def tagToken (cursor : Cursor) : Except DecodeFault (Token × Cursor) := do
  let c := cursor.peekAt 1
  let (token, after) ←
    if c = '<' then do
      let (name, after) ← uri (cursor.forward 2)
      if after.peek = '>' then pure (Token.tag none name, after.step)
      else after.refuse
    else if isWideGap c then pure (Token.tag none "!", cursor.step)
    else
      let word := cursor.step.rest.takeWhile fun c => !isGap c
      if word.contains '!' then do
        let (handle, after) ← tagHandle cursor
        let (name, after) ← uri after
        pure (Token.tag (some handle) name, after)
      else do
        let (name, after) ← uri cursor.step
        pure (Token.tag (some "!") name, after)
  if isGap after.peek then return (token, after) else after.refuse

/-! ## Directives -/

def versionNumber (cursor : Cursor) : Except DecodeFault (Nat × Cursor) := do
  let (digits, after) := cursor.takeWhile Text.isAsciiDigit
  after.demand
  if digits.isEmpty then malformed
  else if Value.digitLimit < digits.length then
    .error (.value (.longLiteral digits.length))
  else .ok (Text.ofDigits 10 (digits.filterMap Text.hexValue?), after)

def versionDirective (cursor : Cursor) :
    Except DecodeFault (Directive × Cursor) := do
  let (major, cursor) ← versionNumber cursor.skipSpaces
  if cursor.peek != '.' then cursor.refuse
  else
    let (minor, cursor) ← versionNumber cursor.step
    if isGap cursor.peek then return (.version major minor, cursor)
    else cursor.refuse

def handleDirective (cursor : Cursor) :
    Except DecodeFault (Directive × Cursor) := do
  let (handle, cursor) ← tagHandle cursor.skipSpaces
  if cursor.peek != ' ' then cursor.refuse
  else
    let (start, cursor) ← uri cursor.skipSpaces
    if isGap cursor.peek then return (.handle handle start, cursor)
    else cursor.refuse

def directiveToken (cursor : Cursor) : Except DecodeFault (Token × Cursor) := do
  let (name, cursor) := cursor.step.takeWhile isWordChar
  if name.isEmpty || !isGap cursor.peek then cursor.refuse
  else
    let (directive, cursor) ←
      if name = "YAML".toList then versionDirective cursor
      else if name = "TAG".toList then handleDirective cursor
      else pure (Directive.other, cursor.skipWhile fun c => !isBreak c)
    let cursor ← endOfLine cursor
    return (.directive directive, cursor)

end TraitIndex.Yaml
