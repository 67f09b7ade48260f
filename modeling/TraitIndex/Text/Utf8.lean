import TraitIndex.Text.Digit

/-!
Strict UTF-8.

Decoding stops at the first byte sequence that is no character and says where
it starts, how many bytes belong to it and what is wrong with it.  Overlong
forms, surrogates and numbers past the last code point are refused.
-/

namespace TraitIndex.Text

inductive Utf8Complaint where
  | startByte
  | continuationByte
  | endOfData
  deriving DecidableEq, Repr

/-- The first byte of the sequence at fault, and the positions it covers. -/
structure Utf8Fault where
  byte : UInt8
  first : Nat
  last : Nat
  complaint : Utf8Complaint
  deriving DecidableEq, Repr

def Utf8Complaint.wording : Utf8Complaint → String
  | .startByte => "invalid start byte"
  | .continuationByte => "invalid continuation byte"
  | .endOfData => "unexpected end of data"

def Utf8Fault.wording (fault : Utf8Fault) : String :=
  let place :=
    if fault.first = fault.last then
      "byte 0x" ++ String.ofList (hexDigits 2 fault.byte.toNat)
        ++ " in position " ++ toString fault.first
    else "bytes in position " ++ toString fault.first ++ "-" ++
      toString fault.last
  "'utf-8' codec can't decode " ++ place ++ ": " ++ fault.complaint.wording

def continuation? (byte : UInt8) : Option (Nat × UInt8 × UInt8) :=
  if byte < 0x80 then some (0, 0, 0)
  else if byte < 0xC2 then none
  else if byte < 0xE0 then some (1, 0x80, 0xBF)
  else if byte = 0xE0 then some (2, 0xA0, 0xBF)
  else if byte = 0xED then some (2, 0x80, 0x9F)
  else if byte < 0xF0 then some (2, 0x80, 0xBF)
  else if byte = 0xF0 then some (3, 0x90, 0xBF)
  else if byte < 0xF4 then some (3, 0x80, 0xBF)
  else if byte = 0xF4 then some (3, 0x80, 0x8F)
  else none

/-- A character still being read: its first byte, where it started, its bits so
far, how many bytes it still needs and the range the next of them lies in. -/
structure Utf8Partial where
  byte : UInt8
  first : Nat
  bits : Nat
  missing : Nat
  low : UInt8
  high : UInt8
  deriving DecidableEq, Repr

def utf8Chars (position : Nat) :
    Option Utf8Partial → List UInt8 → Except Utf8Fault (List Char)
  | none, [] => .ok []
  | some unfinished, [] =>
      .error ⟨unfinished.byte, unfinished.first, position - 1, .endOfData⟩
  | none, byte :: rest =>
      match continuation? byte with
      | none => .error ⟨byte, position, position, .startByte⟩
      | some (0, _, _) =>
          (utf8Chars (position + 1) none rest).map (Char.ofNat byte.toNat :: ·)
      | some (missing, low, high) =>
          let bits := byte.toNat % Nat.pow 2 (6 - missing)
          utf8Chars (position + 1)
            (some ⟨byte, position, bits, missing, low, high⟩) rest
  | some unfinished, byte :: rest =>
      if unfinished.low ≤ byte && byte ≤ unfinished.high then
        let bits := unfinished.bits * 64 + byte.toNat % 64
        if unfinished.missing ≤ 1 then
          (utf8Chars (position + 1) none rest).map (Char.ofNat bits :: ·)
        else
          utf8Chars (position + 1)
            (some { unfinished with
              bits := bits, missing := unfinished.missing - 1, low := 0x80,
              high := 0xBF })
            rest
      else .error ⟨unfinished.byte, unfinished.first, position - 1,
        .continuationByte⟩

def decodeUtf8 (bytes : List UInt8) : Except Utf8Fault (List Char) :=
  utf8Chars 0 none bytes

def utf8Bytes (c : Char) : List UInt8 :=
  let code := c.toNat
  let tail (part : Nat) : UInt8 := UInt8.ofNat (0x80 + part % 64)
  if code < 0x80 then [UInt8.ofNat code]
  else if code < 0x800 then [UInt8.ofNat (0xC0 + code / 64), tail code]
  else if code < 0x10000 then
    [UInt8.ofNat (0xE0 + code / 4096), tail (code / 64), tail code]
  else [UInt8.ofNat (0xF0 + code / 262144), tail (code / 4096),
    tail (code / 64), tail code]

def encodeUtf8 (text : List Char) : List UInt8 :=
  text.flatMap utf8Bytes

/-! ## Lone surrogates

An escape can give one half of a surrogate pair without the other.  It is no
character and cannot be encoded.  In texts a code of plane 13, which has no
characters, stands for it and tells it from all characters and from any other
half.
-/

def loneSurrogate (code : Nat) : Char :=
  Char.ofNat (0xD0000 + code)

def isLoneSurrogate (c : Char) : Bool :=
  0xDD800 ≤ c.toNat && c.toNat ≤ 0xDDFFF

def isEncodable (text : String) : Bool :=
  text.toList.all fun c => !isLoneSurrogate c

end TraitIndex.Text
