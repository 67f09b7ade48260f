/-!
White space and line ends, and the words and lines they separate.

Blank characters are the ASCII blanks and separators together with the spaces
and line separators of Unicode.  In a file a carriage return, alone or before a
line feed, ends a line just as a line feed does.
-/

namespace TraitIndex.Text

def isBlank (c : Char) : Bool :=
  let code := c.toNat
  (9 ≤ code && code ≤ 13) || (0x1C ≤ code && code ≤ 0x20) || code == 0x85 ||
    code == 0xA0
    || code == 0x1680 || (0x2000 ≤ code && code ≤ 0x200A) || code == 0x2028 ||
      code == 0x2029
    || code == 0x202F || code == 0x205F || code == 0x3000

def consWord (word : List Char) (words : List (List Char)) : List (List Char) :=
  if word.isEmpty then words else word :: words

/-- The unfinished word at the start of a text, and the words after it. -/
def splitWords : List Char → List Char × List (List Char)
  | [] => ([], [])
  | c :: rest =>
      let (word, following) := splitWords rest
      if isBlank c then ([], consWord word following)
      else (c :: word, following)

def words (text : List Char) : List (List Char) :=
  let (word, following) := splitWords text
  consWord word following

def singleSpaced (text : List Char) : List Char :=
  List.intercalate [' '] (words text)

/-! ## Lines -/

def unifyLineEnds : List Char → List Char
  | [] => []
  | '\r' :: '\n' :: rest => '\n' :: unifyLineEnds rest
  | '\r' :: rest => '\n' :: unifyLineEnds rest
  | c :: rest => c :: unifyLineEnds rest

def lineFeeds (text : List Char) : Nat :=
  text.count '\n'

def lastLineLength (text : List Char) : Nat :=
  (text.reverse.takeWhile (· != '\n')).length

end TraitIndex.Text
