import TraitIndex.Markup.Reference
import TraitIndex.Text.Blank

/-!
Rendered documentation as plain text.

Tags count as blanks, references as the characters they stand for, and runs of
blanks as one space.  Since a tag inside a path or a type argument leaves a
space that was never meant, spaces before a closing token and after an opening
one are closed up again.
-/

namespace TraitIndex.Markup

/-- A text with every tag replaced by a space.  `opened` holds, in reverse, what
was read after a `<` whose `>` is still to come; without one the `<` is an
ordinary character. -/
def blankTagsFrom : Option (List Char) → List Char → List Char
  | none, [] => []
  | some opened, [] => '<' :: opened.reverse
  | none, c :: rest =>
      if c = '<' then blankTagsFrom (some []) rest
      else c :: blankTagsFrom none rest
  | some opened, c :: rest =>
      if c = '>' then
        if opened.isEmpty then '<' :: '>' :: blankTagsFrom none rest
        else ' ' :: blankTagsFrom none rest
      else blankTagsFrom (some (c :: opened)) rest

def blankTags (markup : List Char) : List Char :=
  blankTagsFrom none markup

def isCloser (c : Char) : Bool :=
  c = '<' || c = '>' || c = ',' || c = ')' || c = ']'

def isOpener (c : Char) : Bool :=
  c = '(' || c = '<' || c = '&' || c = '['

def closerAhead : List Char → Bool
  | [] => false
  | c :: rest => if Text.isBlank c then closerAhead rest else isCloser c

def closeBefore : List Char → List Char
  | [] => []
  | c :: rest =>
      if Text.isBlank c && closerAhead rest then closeBefore rest
      else c :: closeBefore rest

/-- A text without the blanks after opening tokens and after `::`.  `opened`
says that the text before ends in such a token, `colon` that it ends in a
colon. -/
def closeAfterFrom (opened colon : Bool) : List Char → List Char
  | [] => []
  | c :: rest =>
      if Text.isBlank c then
        if opened then closeAfterFrom true false rest
        else c :: closeAfterFrom false false rest
      else c :: closeAfterFrom (isOpener c || (colon && c = ':')) (c = ':') rest

def closeAfter (text : List Char) : List Char :=
  closeAfterFrom false false text

def plainChars (markup : List Char) : Except ValueFault (List Char) :=
  (resolveReferences (blankTags markup)).map fun text =>
    closeAfter (closeBefore (Text.singleSpaced text))

def plainText (markup : String) : Except ValueFault String :=
  (plainChars markup.toList).map String.ofList

end TraitIndex.Markup
