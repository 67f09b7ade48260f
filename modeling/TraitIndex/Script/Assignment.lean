import TraitIndex.Text.Blank
import TraitIndex.Text.Search

/-!
Finding the assignments of a fragment script.

An assignment starts a line: the word `implementors`, a quoted crate name in
brackets, an equals sign, and a bracketed list that ends the line but for a
semicolon and blanks.  Blanks around the equals sign may include line ends, and
so may the quoted name; the list stands on one line.
-/

namespace TraitIndex.Script

structure Assignment where
  crate : List Char
  descriptors : List Char
  deriving DecidableEq, Repr

/-- The rest of a quoted literal with its closing quote, and what follows.  A
backslash takes the next character with it, which may not be a line feed. -/
def quotedRest? : List Char → Option (List Char × List Char)
  | [] => none
  | '"' :: rest => some (['"'], rest)
  | '\\' :: c :: rest =>
      if c = '\n' then none
      else (quotedRest? rest).map fun (literal, after) =>
        ('\\' :: c :: literal, after)
  | ['\\'] => none
  | c :: rest =>
      (quotedRest? rest).map fun (literal, after) => (c :: literal, after)

def splitLine (text : List Char) : List Char × List Char :=
  text.span (· != '\n')

def trimEnd (line : List Char) : List Char :=
  (line.reverse.dropWhile Text.isBlank).reverse

def listOfLine? (line : List Char) : Option (List Char) :=
  match line, (trimEnd line).reverse with
  | '[' :: _, ';' :: ']' :: inner =>
      if inner.isEmpty then none else some (']' :: inner).reverse
  | _, _ => none

def opening : List Char := "implementors[\"".toList

/-- The assignment at the start of a text, and the text from the end of its line
on. -/
def assignmentAt? (text : List Char) : Option (Assignment × List Char) := do
  let afterQuote ← Text.stripInitial? opening text
  let (literal, afterLiteral) ← quotedRest? afterQuote
  let afterBracket ← Text.stripInitial? [']'] afterLiteral
  let afterEquals ←
    Text.stripInitial? ['='] (afterBracket.dropWhile Text.isBlank)
  let (line, rest) := splitLine (afterEquals.dropWhile Text.isBlank)
  let descriptors ← listOfLine? line
  return (⟨'"' :: literal, descriptors⟩, rest)

/-- The assignments of a text after its first `skip` characters; `atStart` says
that a line starts here. -/
def assignmentsFrom (atStart : Bool) : Nat → List Char → List Assignment
  | _, [] => []
  | skip + 1, c :: rest => assignmentsFrom (c = '\n') skip rest
  | 0, c :: rest =>
      match if atStart then assignmentAt? (c :: rest) else none with
      | some (assignment, after) =>
          assignment :: assignmentsFrom (c = '\n')
            (rest.length - after.length) rest
      | none => assignmentsFrom (c = '\n') 0 rest

def assignments (text : List Char) : List Assignment :=
  assignmentsFrom true 0 text

end TraitIndex.Script
