import Mathlib.Data.List.TakeDrop
import TraitIndex.Proofs.Json.RoundTrip
import TraitIndex.Script.Read
import TraitIndex.Script.Write

/-!
# Written scripts by lines

A written assignment stands on one line, since JSON escapes line feeds wherever
they occur.  So a reader finds the assignments of a script where they were
written, and nothing else.
-/

namespace TraitIndex

theorem Text.contains_iff {part text : List Char} :
    contains part text = true ↔ part <:+: text := by
  induction text with
  | nil => simp [contains]
  | cons c text ih =>
      have hinitial : (∃ rest, stripInitial? part (c :: text) = some rest) ↔
          part <+: c :: text :=
        exists_congr fun rest => stripInitial?_eq_some_iff.trans eq_comm
      rw [contains, Bool.or_eq_true, Option.isSome_iff_exists, hinitial, ih,
        List.infix_cons_iff]

namespace Script

/-! ## Quoted texts -/

/-- What stands between quotation marks on one line: no mark that would end it,
no backslash without the character it escapes, and no line feed. -/
inductive Quoted : List Char → Prop
  | nil : Quoted []
  | plain {c : Char} {rest : List Char} :
      c ≠ '"' → c ≠ '\\' → c ≠ '\n' → Quoted rest → Quoted (c :: rest)
  | escaped {c : Char} {rest : List Char} : c ≠ '\n' → Quoted rest →
    Quoted ('\\' :: c :: rest)

namespace Quoted

theorem append {first second : List Char} (hfirst : Quoted first)
    (hsecond : Quoted second) :
    Quoted (first ++ second) := by
  induction hfirst with
  | nil => exact hsecond
  | plain hquote hbackslash hline _ ih =>
      exact .plain hquote hbackslash hline ih
  | escaped hline _ ih => exact .escaped hline ih

theorem flatMap {write : Char → List Char} (h : ∀ c, Quoted (write c))
    (text : List Char) :
    Quoted (text.flatMap write) := by
  induction text with
  | nil => exact .nil
  | cons c text ih => exact (h c).append ih

theorem lineFeed_not_mem {inner : List Char} (h : Quoted inner) :
    '\n' ∉ inner := by
  induction h with
  | nil => exact List.not_mem_nil
  | plain _ _ hline _ ih => simp [Ne.symm hline, ih]
  | escaped hline _ ih => simp [Ne.symm hline, ih]

theorem quotedRest?_eq {inner : List Char} (h : Quoted inner)
    (after : List Char) :
    quotedRest? (inner ++ '"' :: after) = some (inner ++ ['"'], after) := by
  induction h with
  | nil => rfl
  | plain _ hbackslash _ _ ih => simp [quotedRest?, hbackslash, ih]
  | escaped hline _ ih => simp [quotedRest?, hline, ih]

end Quoted

/-! ## Written strings -/

theorem ne_of_hexValue?_eq_some {c : Char} {value : Nat}
    (h : Text.hexValue? c = some value) :
    c ≠ '"' ∧ c ≠ '\\' ∧ c ≠ '\n' := by
  refine ⟨?_, ?_, ?_⟩
  all_goals
    rintro rfl
    cases h

theorem quoted_hexQuad {a b c d : Char} {code : Nat}
    (h : Json.hexQuad? a b c d = some code) :
    Quoted ['\\', 'u', a, b, c, d] := by
  simp only [Json.hexQuad?, Option.bind_eq_bind, Option.bind_eq_some_iff] at h
  obtain ⟨_, ha, _, hb, _, hc, _, hd, -⟩ := h
  have hplain {x : Char} {value : Nat} {rest : List Char}
      (hx : Text.hexValue? x = some value) (hrest : Quoted rest) : Quoted
      (x :: rest) := by
    obtain ⟨hquote, hbackslash, hline⟩ := ne_of_hexValue?_eq_some hx
    exact .plain hquote hbackslash hline hrest
  exact .escaped (by decide)
    (hplain ha (hplain hb (hplain hc (hplain hd .nil))))

theorem quoted_codeUnitEscape {code : Nat} (h : code < 0x10000) :
    Quoted (Json.codeUnitEscape code) := by
  obtain ⟨a, b, c, d, hdigits, hquad⟩ := Json.exists_hexQuad? h
  rw [Json.codeUnitEscape, hdigits]
  exact quoted_hexQuad hquad

theorem quoted_requiredEscape {c : Char} {escape : List Char}
    (h : Json.requiredEscape? c = some escape) : Quoted escape := by
  obtain ⟨letter, -, hline, -, rfl⟩ | ⟨hcontrol, rfl⟩ :=
    Json.requiredEscape?_eq_some h
  · exact .escaped hline .nil
  · exact quoted_codeUnitEscape (by omega)

theorem quoted_singleton {c : Char} (h : Json.requiredEscape? c = none) :
    Quoted [c] := by
  obtain ⟨hquote, hbackslash, hline, -⟩ := Json.requiredEscape?_eq_none h
  exact .plain hquote hbackslash hline .nil

theorem quoted_stringChar (c : Char) : Quoted (Json.stringChar c) := by
  cases h : Json.requiredEscape? c with
  | some escape =>
      rw [Json.stringChar, h]
      exact quoted_requiredEscape h
  | none =>
      rw [Json.stringChar, h]
      exact quoted_singleton h

theorem quoted_asciiStringChar (c : Char) :
    Quoted (Json.asciiStringChar c) := by
  cases h : Json.requiredEscape? c with
  | some escape =>
      simp only [Json.asciiStringChar, h]
      exact quoted_requiredEscape h
  | none =>
      have hvalid : c.toNat < 0xD800 ∨
          (0xDFFF < c.toNat ∧ c.toNat < 0x110000) := c.valid
      simp only [Json.asciiStringChar, h]
      split
      · exact quoted_singleton h
      split
      · next hcode => exact quoted_codeUnitEscape hcode
      · exact (quoted_codeUnitEscape (by omega)).append
          (quoted_codeUnitEscape (by omega))

theorem lineFeed_not_mem_encodeString (text : String) :
    '\n' ∉ Json.encodeString text := by
  have hinner := (Quoted.flatMap quoted_stringChar text.toList).lineFeed_not_mem
  simp [Json.encodeString, hinner]

/-! ## Written values -/

theorem lineFeed_not_mem_separated {parts : List (List Char)}
    (h : ∀ part ∈ parts, '\n' ∉ part) :
    '\n' ∉ Json.separated parts := by
  induction parts with
  | nil => exact List.not_mem_nil
  | cons part parts ih =>
      have hpart := h part List.mem_cons_self
      have hparts :=
        ih fun other hother => h other (List.mem_cons_of_mem _ hother)
      cases parts with
      | nil => rwa [Json.separated_singleton]
      | cons next more =>
          rw [Json.separated_cons_cons, List.mem_append, List.mem_cons,
            not_or, not_or]
          exact ⟨hpart, by decide, hparts⟩

theorem lineFeed_not_mem_enclosed {first last : Char} {inner : List Char}
    (hfirst : '\n' ≠ first) (hinner : '\n' ∉ inner) (hlast : '\n' ≠ last) :
    '\n' ∉ first :: inner ++ [last] := by
  simp only [List.cons_append, List.mem_cons, List.mem_append, List.not_mem_nil,
    or_false, not_or]
  exact ⟨hfirst, hinner, hlast⟩

theorem lineFeed_not_mem_encode_list {items : List Value}
    (h : ∀ item ∈ items, '\n' ∉ Json.encode item) :
    '\n' ∉ Json.encode (.list items) := by
  rw [Json.encode, Json.encodeItems_eq_map]
  exact lineFeed_not_mem_enclosed (by decide)
    (lineFeed_not_mem_separated (List.forall_mem_map.mpr h)) (by decide)

/-! ## Skipping lines -/

theorem assignmentAt?_eq_none {c : Char} (h : c ≠ 'i') (rest : List Char) :
    assignmentAt? (c :: rest) = none := by
  have hstrip : Text.stripInitial? opening (c :: rest) = none := by
    change (if 'i' = c then _ else _) = none
    rw [if_neg (Ne.symm h)]
  rw [assignmentAt?, hstrip]
  rfl

/-- Nothing starts within a line, wherever in the line reading goes on. -/
theorem assignmentsFrom_line {part : List Char} (h : '\n' ∉ part) {skip : Nat}
    (hskip : skip ≤ part.length) (rest : List Char) :
    assignmentsFrom false skip (part ++ '\n' :: rest) =
      assignmentsFrom true 0 rest := by
  induction part generalizing skip with
  | nil =>
      obtain rfl : skip = 0 := Nat.le_zero.mp hskip
      simp [assignmentsFrom]
  | cons c part ih =>
      obtain ⟨hc, hpart⟩ := not_or.mp (mt List.mem_cons.mpr h)
      cases skip with
      | zero => simp [assignmentsFrom, Ne.symm hc, ih hpart (Nat.zero_le _)]
      | succ skip =>
          simp [assignmentsFrom, Ne.symm hc,
            ih hpart (Nat.le_of_succ_le_succ hskip)]

theorem assignmentsFrom_lastLine {part : List Char} (h : '\n' ∉ part) :
    assignmentsFrom false 0 part = [] := by
  induction part with
  | nil => rfl
  | cons c part ih =>
      obtain ⟨hc, hpart⟩ := not_or.mp (mt List.mem_cons.mpr h)
      simp [assignmentsFrom, Ne.symm hc, ih hpart]

/-! ## Assignment lines -/

namespace Assignment

/-- The line an assignment is written on. -/
def line (assignment : Assignment) : List Char :=
  "implementors[".toList ++ assignment.crate ++ "] = ".toList ++
    assignment.descriptors ++ [';']

/-- Literals that stand on one line: a quoted crate name and a list in
brackets. -/
structure OnLine (assignment : Assignment) : Prop where
  crate : ∃ inner, assignment.crate = '"' :: inner ++ ['"'] ∧ Quoted inner
  descriptors : ∃ inner, assignment.descriptors = '[' :: inner ++ [']'] ∧
    '\n' ∉ inner

end Assignment

theorem splitLine_append {line : List Char} (h : '\n' ∉ line)
    (rest : List Char) :
    splitLine (line ++ '\n' :: rest) = (line, '\n' :: rest) := by
  have hline : ∀ c ∈ line, (c != '\n') = true := by
    intro c hc
    exact bne_iff_ne.mpr fun heq => h (heq ▸ hc)
  rw [splitLine, List.span_eq_takeWhile_dropWhile,
    List.takeWhile_append_of_pos hline, List.dropWhile_append_of_pos hline]
  simp

theorem listOfLine?_semicolon (inner : List Char) :
    listOfLine? ('[' :: inner ++ [']'] ++ [';']) =
      some ('[' :: inner ++ [']']) := by
  have htrim : trimEnd ('[' :: inner ++ [']'] ++ [';']) =
      '[' :: inner ++ [']'] ++ [';'] := by
    have hblank : Text.isBlank ';' = false := by decide
    simp [trimEnd, hblank]
  unfold listOfLine?
  rw [htrim]
  simp

namespace Assignment.OnLine

variable {assignment : Assignment} (h : assignment.OnLine) (rest : List Char)

include h

theorem lineFeed_not_mem : '\n' ∉ assignment.line := by
  have hopening : '\n' ∉ "implementors[".toList := by decide
  have hequals : '\n' ∉ "] = ".toList := by decide
  have hcrate : '\n' ∉ assignment.crate := by
    obtain ⟨inner, hcrate, hquoted⟩ := h.crate
    rw [hcrate]
    exact lineFeed_not_mem_enclosed (by decide) hquoted.lineFeed_not_mem
      (by decide)
  have hdescriptors : '\n' ∉ assignment.descriptors := by
    obtain ⟨inner, hdescriptors, hinner⟩ := h.descriptors
    rw [hdescriptors]
    exact lineFeed_not_mem_enclosed (by decide) hinner (by decide)
  unfold line
  simp only [List.mem_append, not_or]
  exact ⟨⟨⟨⟨hopening, hcrate⟩, hequals⟩, hdescriptors⟩, by decide⟩

theorem assignmentAt?_eq :
    assignmentAt? (assignment.line ++ '\n' :: rest) =
      some (assignment, '\n' :: rest) := by
  obtain ⟨name, hcrate, hquoted⟩ := h.crate
  obtain ⟨inner, hdescriptors, hinner⟩ := h.descriptors
  have hline : '\n' ∉ '[' :: inner ++ [']'] ++ [';'] := by simp [hinner]
  -- With the rest of the text opaque, every step of the reader reduces on what
  -- stands before it.
  generalize hbody : '[' :: inner ++ [']'] ++ [';'] ++ '\n' :: rest = body
  have htext : assignment.line ++ '\n' :: rest =
      opening ++ (name ++ '"' :: ("] = ".toList ++ body)) := by
    have hopening : opening = "implementors[".toList ++ ['"'] := rfl
    unfold line
    rw [hcrate, hdescriptors, hopening, ← hbody]
    simp only [List.append_assoc, List.cons_append, List.nil_append]
  have hbracket : Text.stripInitial? [']'] ("] = ".toList ++ body) =
      some (" = ".toList ++ body) :=
    rfl
  have hequals :
      Text.stripInitial? ['='] ((" = ".toList ++ body).dropWhile Text.isBlank) =
      some (' ' :: body) := rfl
  have hspace : (' ' :: body).dropWhile Text.isBlank = body := by
    rw [← hbody]
    rfl
  have hsplit : splitLine body =
      ('[' :: inner ++ [']'] ++ [';'], '\n' :: rest) := by
    rw [← hbody, splitLine_append hline]
  have hassignment :
      assignment = ⟨'"' :: (name ++ ['"']), '[' :: inner ++ [']']⟩ := by
    rw [← List.cons_append, ← hcrate, ← hdescriptors]
  rw [htext, assignmentAt?, Text.stripInitial?_append]
  simp only [Option.bind_eq_bind, Option.bind_some, hquoted.quotedRest?_eq,
    hbracket, hequals, hspace, hsplit, listOfLine?_semicolon, hassignment]
  rfl

/-- The line gives its assignment, and reading goes on with the next line. -/
theorem assignmentsFrom_eq :
    assignmentsFrom true 0 (assignment.line ++ '\n' :: rest) =
      assignment :: assignmentsFrom true 0 rest := by
  have hfound := h.assignmentAt?_eq rest
  have hline := h.lineFeed_not_mem
  obtain ⟨c, part, hpart⟩ : ∃ c part, assignment.line = c :: part := ⟨_, _, rfl⟩
  rw [hpart] at hfound hline ⊢
  obtain ⟨hc, hpart⟩ := not_or.mp (mt List.mem_cons.mpr hline)
  have hskip : (part ++ '\n' :: rest).length - ('\n' :: rest).length =
      part.length := by
    simp
  rw [List.cons_append] at hfound ⊢
  simp only [assignmentsFrom, if_true, hfound, hskip, Ne.symm hc, decide_false,
    assignmentsFrom_line hpart (Nat.le_refl _)]

end Assignment.OnLine

/-! ## Whole scripts -/

def scriptOf (assignments : List Assignment) : List Char :=
  List.intercalate ['\n'] (header :: assignments.map (·.line) ++ [footer])

def linesOf (assignments : List Assignment) : List Char :=
  List.intercalate ['\n'] (assignments.map (·.line) ++ [footer])

theorem scriptOf_eq (assignments : List Assignment) :
    scriptOf assignments = header ++ '\n' :: linesOf assignments := by
  rw [scriptOf, List.cons_append, List.intercalate_cons_of_ne_nil (by simp),
    List.append_assoc]
  rfl

theorem linesOf_cons (assignment : Assignment) (assignments : List Assignment) :
    linesOf (assignment :: assignments) =
      assignment.line ++ '\n' :: linesOf assignments := by
  rw [linesOf, List.map_cons, List.cons_append, List.intercalate_cons_of_ne_nil
    (by simp), List.append_assoc]
  rfl

theorem contains_marker_scriptOf (assignments : List Assignment) :
    Text.contains marker (scriptOf assignments) = true := by
  have hheader : header =
      "(function() \x7b".toList ++ (marker ++ " = \x7b\x7d;".toList) := rfl
  rw [scriptOf_eq, hheader, List.append_assoc, List.append_assoc,
    Text.contains_iff]
  exact ⟨_, _, List.append_assoc _ _ _⟩

theorem assignmentsFrom_header (rest : List Char) :
    assignmentsFrom true 0 (header ++ '\n' :: rest) =
      assignmentsFrom true 0 rest := by
  obtain ⟨part, hpart⟩ : ∃ part, header = '(' :: part := ⟨_, rfl⟩
  have hheader : '\n' ∉ header := by decide
  rw [hpart] at hheader ⊢
  obtain ⟨-, hline⟩ := not_or.mp (mt List.mem_cons.mpr hheader)
  have hnone :=
    assignmentAt?_eq_none (show '(' ≠ 'i' by decide) (part ++ '\n' :: rest)
  have hc : ('(' = '\n') = False := by decide
  simp only [List.cons_append, assignmentsFrom, if_true, hnone, hc,
    decide_false, assignmentsFrom_line hline (Nat.zero_le _)]

theorem lineFeed_not_mem_footer : '\n' ∉ footer := by
  unfold footer
  rw [String.toList_append, List.mem_append, not_or]
  exact ⟨by decide +kernel, by decide +kernel⟩

theorem assignmentsFrom_footer : assignmentsFrom true 0 footer = [] := by
  have hopening : ∃ part, footer = 'i' :: 'f' :: part := by
    unfold footer
    simp only [String.toList_append, List.append_assoc]
    exact ⟨_, rfl⟩
  obtain ⟨part, hpart⟩ := hopening
  have hfooter := lineFeed_not_mem_footer
  have hnone : assignmentAt? ('i' :: 'f' :: part) = none := rfl
  rw [hpart] at hfooter ⊢
  obtain ⟨-, hline⟩ := not_or.mp (mt List.mem_cons.mpr hfooter)
  have hc : ('i' = '\n') = False := by decide
  rw [assignmentsFrom, if_pos rfl, hnone]
  simp only [hc, decide_false, assignmentsFrom_lastLine hline]

/-- Reading finds the assignments of a script, and nothing else. -/
theorem assignments_scriptOf {given : List Assignment}
    (h : ∀ assignment ∈ given, assignment.OnLine) :
    assignments (scriptOf given) = given := by
  rw [assignments, scriptOf_eq, assignmentsFrom_header]
  induction given with
  | nil =>
      rw [linesOf, List.map_nil, List.nil_append, List.intercalate_singleton,
        assignmentsFrom_footer]
  | cons assignment rest ih =>
      obtain ⟨hassignment, hrest⟩ := List.forall_mem_cons.mp h
      rw [linesOf_cons, hassignment.assignmentsFrom_eq, ih hrest]

/-! ## Written scripts -/

/-- The assignment of descriptors to a crate as it is written. -/
def writtenAssignment (field : String × List Value) : Assignment :=
  ⟨Json.encodeAsciiString field.1, Json.encode (.list field.2)⟩

theorem onLine_writtenAssignment {field : String × List Value}
    (h : '\n' ∉ Json.encode (.list field.2)) :
    (writtenAssignment field).OnLine where
  crate := ⟨_, rfl, Quoted.flatMap quoted_asciiStringChar _⟩
  descriptors := by
    refine ⟨Json.separated (Json.encodeItems field.2),
      by rw [writtenAssignment, Json.encode], ?_⟩
    rw [Json.encode] at h
    exact fun hmem => h (List.mem_append_left _ (List.mem_cons_of_mem _ hmem))

/-- A script that gives each of the crates its descriptors. -/
def scriptText (crates : List (String × List Value)) : List Char :=
  List.intercalate ['\n']
    (header :: crates.map (fun field => assignmentLine field.1 field.2) ++
      [footer])

theorem scriptText_eq (crates : List (String × List Value)) :
    scriptText crates = scriptOf (crates.map writtenAssignment) := by
  rw [scriptOf, List.map_map]
  rfl

theorem contains_marker_scriptText (crates : List (String × List Value)) :
    Text.contains marker (scriptText crates) = true := by
  rw [scriptText_eq, contains_marker_scriptOf]

theorem assignments_scriptText {crates : List (String × List Value)}
    (h : ∀ field ∈ crates, '\n' ∉ Json.encode (.list field.2)) :
    assignments (scriptText crates) = crates.map writtenAssignment := by
  rw [scriptText_eq]
  exact assignments_scriptOf (List.forall_mem_map.mpr fun field hfield =>
    onLine_writtenAssignment (h field hfield))

end Script

end TraitIndex
