import TraitIndex.Text.Digit

/-!
The SHA-1 digest of a sequence of bytes.
-/

namespace TraitIndex.Digest

structure Sha1State where
  a : UInt32
  b : UInt32
  c : UInt32
  d : UInt32
  e : UInt32
  deriving DecidableEq, Repr

def sha1Start : Sha1State :=
  ⟨0x67452301, 0xEFCDAB89, 0x98BADCFE, 0x10325476, 0xC3D2E1F0⟩

def rotateLeft (word : UInt32) (count : UInt32) : UInt32 :=
  (word <<< count) ||| (word >>> (32 - count))

def bigEndian (number : Nat) : Nat → List UInt8
  | 0 => []
  | count + 1 =>
      UInt8.ofNat (number / Nat.pow 256 count) :: bigEndian number count

/-- A message filled up to whole blocks of 64 bytes, the last eight of which
hold its length in bits. -/
def padded (message : List UInt8) : List UInt8 :=
  let zeros := (119 - message.length % 64) % 64
  message ++ 0x80 :: List.replicate zeros 0 ++ bigEndian (message.length * 8) 8

def wordOfBytes (a b c d : UInt8) : UInt32 :=
  (a.toUInt32 <<< 24) ||| (b.toUInt32 <<< 16) ||| (c.toUInt32 <<< 8) |||
    d.toUInt32

def wordsOf : List UInt8 → List UInt32
  | a :: b :: c :: d :: rest => wordOfBytes a b c d :: wordsOf rest
  | _ => []

def schedule (words : Array UInt32) : Nat → Array UInt32
  | 0 => words
  | count + 1 =>
      let at' (distance : Nat) := words.getD (words.size - distance) 0
      schedule (words.push
        (rotateLeft (at' 3 ^^^ at' 8 ^^^ at' 14 ^^^ at' 16) 1)) count

def roundMix (round : Nat) (b c d : UInt32) : UInt32 × UInt32 :=
  if round < 20 then ((b &&& c) ||| (~~~b &&& d), 0x5A827999)
  else if round < 40 then (b ^^^ c ^^^ d, 0x6ED9EBA1)
  else if round < 60 then ((b &&& c) ||| (b &&& d) ||| (c &&& d), 0x8F1BBCDC)
  else (b ^^^ c ^^^ d, 0xCA62C1D6)

def sha1Round (state : Sha1State) (round : Nat) (word : UInt32) : Sha1State :=
  let (mixed, constant) := roundMix round state.b state.c state.d
  let first := rotateLeft state.a 5 + mixed + state.e + constant + word
  ⟨first, state.a, rotateLeft state.b 30, state.c, state.d⟩

def sha1Block (state : Sha1State) (block : List UInt32) : Sha1State :=
  let words := (schedule block.toArray 64).toList
  let mixed :=
    words.zipIdx.foldl
      (fun state entry => sha1Round state entry.2 entry.1) state
  ⟨state.a + mixed.a, state.b + mixed.b, state.c + mixed.c, state.d + mixed.d,
    state.e + mixed.e⟩

/-- The state after all blocks of sixteen words; the fuel bounds their
number. -/
def sha1Blocks (state : Sha1State) : Nat → List UInt32 → Sha1State
  | 0, _ => state
  | _ + 1, [] => state
  | fuel + 1, words =>
      sha1Blocks (sha1Block state (words.take 16)) fuel (words.drop 16)

def sha1 (message : List UInt8) : List Char :=
  let words := wordsOf (padded message)
  let state := sha1Blocks sha1Start words.length words
  [state.a, state.b, state.c, state.d, state.e].flatMap fun word =>
    Text.hexDigits 8 word.toNat

end TraitIndex.Digest
