/-!
Finding one text inside another and taking texts apart at a separator.

Texts are lists of characters here, so that every function recurses on the text
it reads.
-/

namespace TraitIndex.Text

def stripInitial? : List Char → List Char → Option (List Char)
  | [], text => some text
  | _ :: _, [] => none
  | p :: part, c :: text => if p = c then stripInitial? part text else none

theorem stripInitial?_eq_some_iff {part text rest : List Char} :
    stripInitial? part text = some rest ↔ text = part ++ rest := by
  induction part generalizing text with
  | nil => simp [stripInitial?, eq_comm]
  | cons p part ih =>
      cases text with
      | nil => simp [stripInitial?]
      | cons c text =>
          by_cases h : p = c <;> simp [stripInitial?, h, ih, eq_comm]

@[simp] theorem stripInitial?_append (part rest : List Char) :
    stripInitial? part (part ++ rest) = some rest :=
  stripInitial?_eq_some_iff.2 rfl

def contains (part : List Char) : List Char → Bool
  | [] => part.isEmpty
  | c :: text => (stripInitial? part (c :: text)).isSome || contains part text

def splitAt (separator : Char) : List Char → List (List Char)
  | [] => [[]]
  | c :: text =>
      if c = separator then [] :: splitAt separator text
      else
        match splitAt separator text with
        | [] => [[c]]
        | piece :: pieces => (c :: piece) :: pieces

def afterLast? (part : List Char) : List Char → Option (List Char)
  | [] => stripInitial? part []
  | c :: text =>
      match afterLast? part text with
      | some after => some after
      | none => stripInitial? part (c :: text)

def lastSegment (path : String) : String :=
  match afterLast? [':', ':'] path.toList with
  | some segment => String.ofList segment
  | none => path

def dropFinalLineFeed (text : List Char) : List Char :=
  match text.reverse with
  | '\n' :: before => before.reverse
  | _ => text

def nameOr (standIn name : String) : String :=
  if name = "" then standIn else name

end TraitIndex.Text
