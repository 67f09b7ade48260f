/-!
Styled text, and what commands show of it on a terminal.

A style tag stands in brackets, and a backslash before it makes it plain text.
`literal` writes a text so that nothing in it is taken for a tag, and `plain`
reads styled text without its styles.
-/

namespace TraitIndex.Console

def isTagInitial (c : Char) : Bool :=
  c.isLower || c == '#' || c == '/' || c == '@'

/-- Whether the bracket before a text opens a style tag: a closing bracket comes
before any other opening one. -/
def opensTag : List Char → Bool
  | [] => false
  | c :: rest =>
      isTagInitial c &&
        (rest.dropWhile fun d => d != '[' && d != ']').head? == some ']'

/-- The characters of a text with every tag made plain: the backslashes before
it are doubled, and one more is added.  The number counts the backslashes just
written. -/
def literalChars (backslashes : Nat) : List Char → List Char
  | [] => []
  | c :: rest =>
      if c = '\\' then c :: literalChars (backslashes + 1) rest
      else if c = '[' && opensTag rest then
        List.replicate (backslashes + 1) '\\' ++ c :: literalChars 0 rest
      else c :: literalChars 0 rest

/-- A text whose last backslash must not make anything behind it plain: a single
one is doubled. -/
def closeLiteral (text : List Char) : List Char :=
  match text.reverse with
  | '\\' :: '\\' :: _ => text
  | '\\' :: _ => text ++ ['\\']
  | _ => text

def literal (text : String) : String :=
  String.ofList (closeLiteral (literalChars 0 text.toList))

/-- The characters of a styled text without its styles.  The number counts the
backslashes that have been read and not yet been written; `inTag` says whether a
tag is being passed over. -/
def plainChars (inTag : Bool) (backslashes : Nat) : List Char → List Char
  | [] => List.replicate backslashes '\\'
  | c :: rest =>
      if inTag then plainChars (c != ']') 0 rest
      else if c = '\\' then plainChars false (backslashes + 1) rest
      else if c = '[' && opensTag rest then
        List.replicate (backslashes / 2) '\\'
          ++ if backslashes % 2 = 0 then plainChars true 0 rest
            else c :: plainChars false 0 rest
      else List.replicate backslashes '\\' ++ c :: plainChars false 0 rest

def plain (styled : String) : String :=
  String.ofList (plainChars false 0 styled.toList)

/-- Something shown as a whole.  All texts but a panel's title are styled. -/
inductive Display where
  | line (text : String)
  | table (title : String) (columns : List String) (rows : List (List String))
  | panel (title text : String)
  deriving DecidableEq, Repr, Inhabited

/-- A display as bare text: the cells of a row are set apart by tabs. -/
def Display.plain : Display → String
  | line text => Console.plain text
  | table title columns rows =>
      "\n".intercalate (Console.plain title ::
        (columns :: rows).map fun cells => "\t".intercalate
        (cells.map Console.plain))
  | panel title text => title ++ "\n" ++ Console.plain text

end TraitIndex.Console
