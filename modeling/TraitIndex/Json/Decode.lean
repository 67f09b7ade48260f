import TraitIndex.Json.Fault
import TraitIndex.Text.Search
import TraitIndex.Text.Utf8

/-!
Reading JSON.

Beyond the standard the three names `NaN`, `Infinity` and `-Infinity` are
numbers.  Every reader takes the text that is left and returns what it read with
the text after it, or the complaint with the text at the place it is about.
-/

namespace TraitIndex.Json

open Number

/-- Why reading stopped: a complaint about the start of the given rest of the
text, or a value that cannot be held. -/
inductive Stop where
  | malformed (complaint : Complaint) (rest : List Char)
  | value (fault : ValueFault)
  deriving DecidableEq, Repr

abbrev Read (α : Type) := Except Stop (α × List Char)

def isSpace (c : Char) : Bool :=
  c = ' ' || c = '\t' || c = '\n' || c = '\r'

def skipSpace (text : List Char) : List Char :=
  text.dropWhile isSpace

/-! ## Strings -/

def hexQuad? (a b c d : Char) : Option Nat := do
  let a ← Text.hexValue? a
  let b ← Text.hexValue? b
  let c ← Text.hexValue? c
  let d ← Text.hexValue? d
  return Text.ofDigits 16 [a, b, c, d]

def isHighSurrogate (code : Nat) : Bool :=
  0xD800 ≤ code && code ≤ 0xDBFF

def isLowSurrogate (code : Nat) : Bool :=
  0xDC00 ≤ code && code ≤ 0xDFFF

def joinSurrogates (high low : Nat) : Char :=
  Char.ofNat (0x10000 + (high - 0xD800) * 0x400 + (low - 0xDC00))

def charOfCode (code : Nat) : Char :=
  if isHighSurrogate code || isLowSurrogate code then Text.loneSurrogate code
  else Char.ofNat code

def simpleEscape? (c : Char) : Option Char :=
  match c with
  | '"' => some '"'
  | '\\' => some '\\'
  | '/' => some '/'
  | 'b' => some '\x08'
  | 'f' => some '\x0c'
  | 'n' => some '\n'
  | 'r' => some '\r'
  | 't' => some '\t'
  | _ => none

def consChar (c : Char) : Read (List Char) → Read (List Char)
  | .ok (text, rest) => .ok (c :: text, rest)
  | .error stop => .error stop

/-- The character that four hexadecimal digits after `u` stand for, and how many
characters were used with the `u`.  A character must follow the digits.  A high
surrogate joins with an escaped low one after it. -/
def unicodeEscape (text : List Char) : Except Stop (Char × Nat) :=
  match text with
  | _ :: a :: b :: c :: d :: next :: after =>
      match hexQuad? a b c d with
      | none => .error (.malformed .unicodeEscape text)
      | some high =>
          match isHighSurrogate high, next, after with
          | true, '\\', 'u' :: e :: f :: g :: h :: _ :: _ =>
              match hexQuad? e f g h with
              | none => .error (.malformed .unicodeEscape after)
              | some low =>
                  if isLowSurrogate low then .ok (joinSurrogates high low, 11)
                  else .ok (charOfCode high, 5)
          | _, _, _ => .ok (charOfCode high, 5)
  | _ => .error (.malformed .unicodeEscape text)

/-- The character that the text after a backslash stands for, and how many
characters were used.  The two rests of the text start at the opening quote and
at the backslash. -/
def escapeSequence (opening backslash : List Char) :
    List Char → Except Stop (Char × Nat)
  | [] => .error (.malformed .unterminatedString opening)
  | c :: rest =>
      if c = 'u' then unicodeEscape (c :: rest)
      else
        match simpleEscape? c with
        | some escaped => .ok (escaped, 1)
        | none => .error (.malformed .escape backslash)

/-- A string after its opening quote, which stands at the start of `opening`.
The first `skip` characters have been read already. -/
def stringBody (opening : List Char) : Nat → List Char → Read (List Char)
  | _, [] => .error (.malformed .unterminatedString opening)
  | skip + 1, _ :: rest => stringBody opening skip rest
  | 0, c :: rest =>
      if c = '"' then .ok ([], rest)
      else if c = '\\' then
        match escapeSequence opening (c :: rest) rest with
        | .error stop => .error stop
        | .ok (escaped, used) => consChar escaped (stringBody opening used rest)
      else if c.toNat < 0x20 then
        .error (.malformed .controlCharacter (c :: rest))
      else consChar c (stringBody opening 0 rest)

/-! ## Numbers and names -/

def digitsAhead (text : List Char) : List Char × List Char :=
  text.span Text.isAsciiDigit

def wholePart? : List Char → Option (List Char × List Char)
  | [] => none
  | c :: rest =>
      if c = '0' then some (['0'], rest)
      else if Text.isAsciiDigit c then
        let (digits, after) := digitsAhead rest
        some (c :: digits, after)
      else none

def fractionPart : List Char → Option (List Char) × List Char
  | '.' :: rest =>
      match digitsAhead rest with
      | ([], _) => (none, '.' :: rest)
      | (digits, after) => (some digits, after)
  | text => (none, text)

def exponentPart (text : List Char) : Option (Bool × List Char) × List Char :=
  match text with
  | [] => (none, text)
  | c :: rest =>
      if c = 'e' || c = 'E' then
        let (negative, afterSign) := match rest with
          | '-' :: more => (true, more)
          | '+' :: more => (false, more)
          | _ => (false, rest)
        match digitsAhead afterSign with
        | ([], _) => (none, text)
        | (digits, after) => (some (negative, digits), after)
      else (none, text)

def decimalValue (digits : List Char) : Nat :=
  Text.ofDigits 10 (digits.map fun c => c.toNat - 48)

def numberValue (negative : Bool) (whole : List Char)
    (fraction : Option (List Char)) (exponent : Option (Bool × List Char)) :
    Except ValueFault Value :=
  match fraction, exponent with
  | none, none =>
      if Value.digitLimit < whole.length then .error (.longLiteral whole.length)
      else
        let magnitude : Int := decimalValue whole
        .ok (.int (if negative then -magnitude else magnitude))
  | _, _ =>
      let places := fraction.getD []
      let power : Int := match exponent with
        | none => 0
        | some (below, digits) =>
            if below then -(decimalValue digits : Int) else decimalValue digits
      .ok (.float (.ofDecimal negative (decimalValue (whole ++ places))
        (power - places.length)))

def number (text : List Char) : Read Value :=
  let (negative, unsigned) := match text with
    | '-' :: rest => (true, rest)
    | _ => (false, text)
  match wholePart? unsigned with
  | none => .error (.malformed .value text)
  | some (whole, afterWhole) =>
      let (fraction, afterFraction) := fractionPart afterWhole
      let (exponent, rest) := exponentPart afterFraction
      match numberValue negative whole fraction exponent with
      | .ok value => .ok (value, rest)
      | .error fault => .error (.value fault)

def namedValues : List (List Char × Value) := [
  ("null".toList, .null),
  ("true".toList, .bool true),
  ("false".toList, .bool false),
  ("NaN".toList, .float .nan),
  ("Infinity".toList, .float (.infinite false)),
  ("-Infinity".toList, .float (.infinite true))]

def namedValue? (text : List Char) : Option (Value × List Char) :=
  namedValues.findSome? fun named =>
    (Text.stripInitial? named.1 text).map fun rest => (named.2, rest)

def plainValue (text : List Char) : Read Value :=
  match namedValue? text with
  | some found => .ok found
  | none => number text

/-! ## Collections -/

mutual

def value : Nat → List Char → Read Value
  | 0, text => .error (.malformed .value text)
  | fuel + 1, text =>
      match text with
      | '"' :: rest =>
          match stringBody text 0 rest with
          | .ok (content, after) => .ok (.text (String.ofList content), after)
          | .error stop => .error stop
      | '[' :: rest =>
          match skipSpace rest with
          | ']' :: after => .ok (.list [], after)
          | start =>
              match items fuel start with
              | .ok (values, after) => .ok (.list values, after)
              | .error stop => .error stop
      | '\x7b' :: rest =>
          match skipSpace rest with
          | '\x7d' :: after => .ok (.mapping [], after)
          | start =>
              match members fuel start with
              | .ok (fields, after) => .ok (.ofFields fields, after)
              | .error stop => .error stop
      | _ => plainValue text

def items : Nat → List Char → Read (List Value)
  | 0, text => .error (.malformed .value text)
  | fuel + 1, text =>
      match value fuel text with
      | .error stop => .error stop
      | .ok (item, after) =>
          match skipSpace after with
          | ']' :: rest => .ok ([item], rest)
          | ',' :: rest =>
              match items fuel (skipSpace rest) with
              | .ok (more, rest) => .ok (item :: more, rest)
              | .error stop => .error stop
          | rest => .error (.malformed .comma rest)

def members : Nat → List Char → Read (List (Value × Value))
  | 0, text => .error (.malformed .propertyName text)
  | fuel + 1, text =>
      match text with
      | '"' :: afterQuote =>
          match stringBody text 0 afterQuote with
          | .error stop => .error stop
          | .ok (key, afterKey) =>
              match skipSpace afterKey with
              | ':' :: afterColon =>
                  match value fuel (skipSpace afterColon) with
                  | .error stop => .error stop
                  | .ok (item, after) =>
                      let field := (Value.text (String.ofList key), item)
                      match skipSpace after with
                      | '\x7d' :: rest => .ok ([field], rest)
                      | ',' :: rest =>
                          match members fuel (skipSpace rest) with
                          | .ok (more, rest) => .ok (field :: more, rest)
                          | .error stop => .error stop
                      | rest => .error (.malformed .comma rest)
              | rest => .error (.malformed .colon rest)
      | _ => .error (.malformed .propertyName text)

end

/-- Fuel for reading a text: every two steps use at least one character. -/
def enoughFuel (text : List Char) : Nat :=
  2 * text.length + 2

def document (text : List Char) : Except Stop Value :=
  match text with
  | '\ufeff' :: _ => .error (.malformed .byteOrderMark text)
  | _ =>
      match value (enoughFuel text) (skipSpace text) with
      | .error stop => .error stop
      | .ok (content, after) =>
          match skipSpace after with
          | [] => .ok content
          | rest => .error (.malformed .extraData rest)

def decodeChars (text : List Char) : Except DecodeFault Value :=
  match document text with
  | .ok content => .ok content
  | .error (.value fault) => .error (.value fault)
  | .error (.malformed complaint rest) =>
      .error (.malformed (.inText text complaint (text.length - rest.length)))

def decode (text : String) : Except DecodeFault Value :=
  decodeChars text.toList

end TraitIndex.Json
