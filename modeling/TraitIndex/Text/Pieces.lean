import TraitIndex.Text.Blank
import TraitIndex.Text.Utf8

/-!
Texts that are read in pieces.

The bytes are taken in blocks and made into characters block by block, with the
line ends unified.  A fault in them is met when its block is reached and counts
positions from there.  The characters are handed out in pieces of one length.
-/

namespace TraitIndex.Text

/-- A text in pieces.  The fault, if there is one, is met by whoever asks for a
piece more. -/
structure Pieces where
  pieces : List (List Char)
  fault : Option Utf8Fault
  deriving DecidableEq, Repr, Inhabited

namespace Pieces

def ofText (text : List Char) : Pieces := ⟨[text], none⟩

def cons (piece : List Char) (rest : Pieces) : Pieces :=
  { rest with pieces := piece :: rest.pieces }

end Pieces

/-- A text being read: the bytes left, the bytes of a character that is not
complete, whether a carriage return waits for what comes after it, the
characters not handed out yet, and how many bytes and characters the last block
had. -/
structure Feed where
  bytes : List UInt8
  incomplete : List UInt8
  returnWaits : Bool
  ready : List Char
  blockBytes : Nat
  blockChars : Nat
  deriving DecidableEq, Repr

namespace Feed

def start (bytes : List UInt8) : Feed := ⟨bytes, [], false, [], 0, 0⟩

def pieceLength : Nat := 4096

def leastBlock : Nat := 8192

/-- How many bytes are taken when so many characters are wanted: as many as they
take at the rate of the last block, but not too few. -/
def blockSize (feed : Feed) (wanted : Nat) : Nat :=
  max leastBlock (feed.blockBytes * wanted / feed.blockChars)

/-- Whether the bytes of a character may go on in the next block: they are the
start of one, or two of three bytes that would make a surrogate, about which
only the third one decides. -/
def goesOn (fault : Utf8Fault) (sequence : List UInt8) : Bool :=
  match sequence with
  | [0xED, second] =>
      0xA0 ≤ second && second ≤ 0xBF || fault.complaint = .endOfData
  | _ => fault.complaint = .endOfData

def decodeBlock (isLast : Bool) (bytes : List UInt8) :
    Except Utf8Fault (List Char × List UInt8) :=
  match decodeUtf8 bytes with
  | .ok text => .ok (text, [])
  | .error fault =>
      if goesOn fault (bytes.drop fault.first) && !isLast then
        (decodeUtf8 (bytes.take fault.first)).map fun text =>
        (text, bytes.drop fault.first)
      else .error fault

def refill (feed : Feed) (wanted : Nat) : Except Utf8Fault Feed := do
  let block := feed.bytes.take (feed.blockSize wanted)
  let isLast := block.isEmpty
  let (decoded, incomplete) ← decodeBlock isLast (feed.incomplete ++ block)
  let isMore := isLast || !decoded.isEmpty
  let text := if feed.returnWaits && isMore then '\r' :: decoded else decoded
  let returnEnds := !isLast && text.getLast? = some '\r'
  let complete := unifyLineEnds (if returnEnds then text.dropLast else text)
  return {
    bytes := feed.bytes.drop (feed.blockSize wanted)
    incomplete := incomplete
    returnWaits := returnEnds || (feed.returnWaits && !isMore)
    ready := feed.ready ++ complete
    blockBytes := block.length
    blockChars := complete.length }

def fill (count : Nat) : Nat → Feed → Except Utf8Fault Feed
  | 0, feed => .ok feed
  | fuel + 1, feed =>
      if count ≤ feed.ready.length then .ok feed
      else do
        let more ← feed.refill (count - feed.ready.length)
        if feed.bytes.isEmpty then return more else fill count fuel more

def pieces : Nat → Feed → Pieces
  | 0, _ => ⟨[], none⟩
  | fuel + 1, feed =>
      match feed.fill pieceLength (feed.bytes.length + 1) with
      | .error fault => ⟨[], some fault⟩
      | .ok feed =>
          if feed.ready.isEmpty then ⟨[], none⟩
          else
            (pieces fuel
              { feed with ready := feed.ready.drop pieceLength }).cons
                (feed.ready.take pieceLength)

end Feed

def piecesOfBytes (bytes : List UInt8) : Pieces :=
  (Feed.start bytes).pieces (bytes.length + 1)

end TraitIndex.Text
