import TraitIndex.Proofs.Markup.Spacing

/-!
# Paths with links

The segments of a path may each stand in an element.  Every tag leaves a space.
The one in front of a segment is closed up, being at the start or behind a `::`,
and so is the one at the end.  But `::` is no closing token: the space between a
linked segment and the `::` behind it stays.
-/

namespace TraitIndex.Markup

/-! ## Paths -/

/-- Characters that are nothing but parts of words to the clean-up of spaces:
letters, digits and underscores are among them. -/
def isWordChar (c : Char) : Bool :=
  !Text.isBlank c && !isCloser c && !isOpener c && c != ':'

/-- What stands between the `<` and the `>` of a tag. -/
structure Tag where
  content : List Char
  content_ne_nil : content ≠ []
  open_content : '>' ∉ content

def Tag.markup (tag : Tag) : List Char :=
  '<' :: (tag.content ++ ['>'])

/-- A segment of a path, with the two tags of the element it stands in, if
any. -/
structure PathSegment where
  name : List Char
  name_ne_nil : name ≠ []
  word_name : ∀ c ∈ name, isWordChar c = true
  link : Option (Tag × Tag)

namespace PathSegment

variable (segment : PathSegment)

def tag (side : Tag × Tag → Tag) : List Char :=
  (segment.link.map fun tags => (side tags).markup).getD []

def opening : List Char :=
  segment.tag (·.1)

def closing : List Char :=
  segment.tag (·.2)

def markup : List Char :=
  segment.opening ++ segment.name ++ segment.closing

/-- What a tag of the segment leaves. -/
def gap : List Char :=
  if segment.link.isSome then [' '] else []

theorem gap_cases : segment.gap = [] ∨ segment.gap = [' '] := by
  unfold gap
  split <;> simp

theorem gap_eq_nil_iff : segment.gap = [] ↔ segment.link = none := by
  simp [gap]

theorem not_mem_name {c : Char} (h : isWordChar c = false) :
    c ∉ segment.name := by
  intro hmem
  simp [segment.word_name c hmem] at h

end PathSegment

def pathMarkup (segments : List PathSegment) : List Char :=
  List.intercalate [':', ':'] (segments.map PathSegment.markup)

def plainPath (segments : List PathSegment) : List Char :=
  List.intercalate [':', ':'] (segments.map PathSegment.name)

/-- The names of a path, with `between` two of them and `behind` the last
one. -/
def spelled (between : PathSegment → PathSegment → List Char)
    (behind : PathSegment → List Char) :
    PathSegment → List PathSegment → List Char
  | segment, [] => segment.name ++ behind segment
  | segment, next :: more =>
      segment.name ++ (between segment next ++ spelled between behind next more)

/-- A path with a space before each `::` that stands behind a link. -/
def gappedPath : PathSegment → List PathSegment → List Char :=
  spelled (fun segment _ => segment.gap ++ [':', ':']) fun _ => []

section

variable {between : PathSegment → PathSegment → List Char}
  {behind : PathSegment → List Char}

theorem startsWord_spelled (first : PathSegment) (more : List PathSegment) :
    StartsWord (spelled between behind first more) := by
  obtain ⟨c, rest, hname⟩ := List.exists_cons_of_ne_nil first.name_ne_nil
  have hc : isWordChar c = true := first.word_name c (by simp [hname])
  simp only [isWordChar, Bool.and_eq_true, Bool.not_eq_true'] at hc
  cases more <;> simp [spelled, hname, startsWord_cons, hc]

end

theorem pathMarkup_eq (first : PathSegment) (more : List PathSegment) :
    pathMarkup (first :: more) = first.opening ++
      spelled (fun segment next => segment.closing ++ ':' :: ':' ::
        next.opening)
        PathSegment.closing first more := by
  induction more generalizing first with
  | nil => simp [pathMarkup, spelled, PathSegment.markup]
  | cons next more ih =>
      simp only [pathMarkup, List.map_cons] at ih
      simp only [pathMarkup, List.map_cons, List.intercalate_cons_cons, ih]
      simp [spelled, PathSegment.markup]

theorem plainPath_eq (first : PathSegment) (more : List PathSegment) :
    plainPath (first :: more) =
      spelled (fun _ _ => [':', ':']) (fun _ => []) first more := by
  induction more generalizing first with
  | nil => simp [plainPath, spelled]
  | cons next more ih =>
      simp only [plainPath, List.map_cons] at ih
      simp only [plainPath, List.map_cons, List.intercalate_cons_cons, ih]
      simp [spelled]

theorem gappedPath_eq_iff (first : PathSegment) (more : List PathSegment) :
    gappedPath first more = plainPath (first :: more) ↔
      ∀ segment ∈ (first :: more).dropLast, segment.link = none := by
  rw [plainPath_eq, gappedPath]
  induction more generalizing first with
  | nil => simp [spelled]
  | cons next more ih =>
      rw [List.dropLast_cons_cons, List.forall_mem_cons, ← ih, ←
        first.gap_eq_nil_iff]
      obtain hgap | hgap := first.gap_cases <;> simp [spelled, hgap]

/-! ## Tags -/

theorem blankTagsFrom_opened {content : List Char} (h : '>' ∉ content)
    (opened rest : List Char) :
    blankTagsFrom (some opened) (content ++ rest) =
      blankTagsFrom (some (content.reverse ++ opened)) rest := by
  induction content generalizing opened with
  | nil => rfl
  | cons c content ih =>
      simp only [List.mem_cons, not_or] at h
      simp [blankTagsFrom, Ne.symm h.1, ih h.2]

theorem blankTagsFrom_tag (tag : Tag) (rest : List Char) :
    blankTagsFrom none (tag.markup ++ rest) =
      ' ' :: blankTagsFrom none rest := by
  simp [Tag.markup, blankTagsFrom, blankTagsFrom_opened tag.open_content,
    tag.content_ne_nil]

theorem blankTagsFrom_side (segment : PathSegment) (side : Tag × Tag → Tag)
    (rest : List Char) :
    blankTagsFrom none (segment.tag side ++ rest) =
      segment.gap ++ blankTagsFrom none rest := by
  unfold PathSegment.tag PathSegment.gap
  cases segment.link with
  | none => rfl
  | some tags => exact blankTagsFrom_tag (side tags) rest

/-- Two colons and what the tags on both sides leave. -/
def gapsAround (segment next : PathSegment) : List Char :=
  segment.gap ++ ':' :: ':' :: next.gap

def blankedPath (first : PathSegment) (more : List PathSegment) : List Char :=
  first.gap ++ spelled gapsAround PathSegment.gap first more

section

variable {p : Char → Prop}

theorem forall_mem_gap (hspace : p ' ') (segment : PathSegment) :
    ∀ c ∈ segment.gap, p c := by
  obtain hgap | hgap := segment.gap_cases <;> simp [hgap, hspace]

theorem forall_mem_spelled {behind : PathSegment → List Char} (hspace : p ' ')
    (hcolon : p ':') (hword : ∀ c, isWordChar c = true → p c)
    (hbehind : ∀ segment, ∀ c ∈ behind segment, p c) (first : PathSegment)
    (more : List PathSegment) :
    ∀ c ∈ spelled gapsAround behind first more, p c := by
  have hgap := forall_mem_gap hspace
  induction more generalizing first with
  | nil =>
      simp only [spelled, List.forall_mem_append]
      exact ⟨fun c hc => hword c (first.word_name c hc), hbehind first⟩
  | cons next more ih =>
      simp only [spelled, gapsAround, List.forall_mem_append,
        List.forall_mem_cons]
      exact ⟨fun c hc => hword c (first.word_name c hc),
        ⟨hgap first, hcolon, hcolon, hgap next⟩, ih next⟩

end

theorem blankTags_pathMarkup (first : PathSegment) (more : List PathSegment) :
    blankTags (pathMarkup (first :: more)) = blankedPath first more := by
  have hopening (segment : PathSegment) (rest : List Char) :
      blankTagsFrom none (segment.opening ++ rest) =
        segment.gap ++ blankTagsFrom none rest :=
    blankTagsFrom_side segment _ rest
  have hclosing (segment : PathSegment) (rest : List Char) :
      blankTagsFrom none (segment.closing ++ rest) =
        segment.gap ++ blankTagsFrom none rest :=
    blankTagsFrom_side segment _ rest
  rw [pathMarkup_eq, blankTags, hopening, blankedPath]
  congr 1
  induction more generalizing first with
  | nil =>
      have hname : '<' ∉ first.name := first.not_mem_name (by decide)
      have hend := hclosing first []
      simp only [List.append_nil, blankTagsFrom] at hend
      rw [spelled, blankTagsFrom_append hname, hend, spelled]
  | cons next more ih =>
      have hname : '<' ∉ first.name := first.not_mem_name (by decide)
      have hcolons (rest : List Char) :
          blankTagsFrom none (':' :: ':' :: rest) =
            ':' :: ':' :: blankTagsFrom none rest :=
        blankTagsFrom_append (by decide : '<' ∉ [':', ':']) rest
      simp only [spelled, gapsAround, blankTagsFrom_append hname,
        List.append_assoc, List.cons_append, hclosing, hcolons, hopening, ih]

/-! ## References -/

theorem resolveReferences_plain {text : List Char} (h : ∀ c ∈ text, c ≠ '&') :
    resolveReferences text = .ok text := by
  unfold resolveReferences
  induction text with
  | nil => rfl
  | cons c rest ih =>
      rw [List.forall_mem_cons] at h
      rw [resolveFrom_plain h.1, ih h.2]
      rfl

/-! ## Spaces -/

theorem spaced_word {word : List Char} (h : ∀ c ∈ word, isWordChar c = true)
    (rest : List Char) :
    spaced (word ++ rest) = word ++ spaced rest := by
  induction word with
  | nil => rfl
  | cons c word ih =>
      rw [List.forall_mem_cons] at h
      have hc : Text.isBlank c = false := by
        simp_all [isWordChar]
      simp only [List.cons_append, spaced_plain hc, ih h.2]

theorem spaced_gap (segment : PathSegment) {rest : List Char}
    (h : StartsWord rest) :
    spaced (segment.gap ++ rest) = segment.gap ++ spaced rest := by
  obtain hgap | hgap := segment.gap_cases
  · rw [hgap, List.nil_append, List.nil_append]
  · rw [hgap, List.singleton_append, spaced_blank (by decide) h,
      List.singleton_append]

theorem singleSpaced_gap (segment : PathSegment) {rest : List Char}
    (h : StartsWord rest) :
    Text.singleSpaced (segment.gap ++ rest) = spaced rest := by
  obtain hgap | hgap := segment.gap_cases
  · rw [hgap, List.nil_append, singleSpaced_of_startsWord h]
  · have hblank : ¬StartsWord (' ' :: rest) := by simp [startsWord_cons]; decide
    have hspaced := spaced_blank (c := ' ') (by decide) h
    obtain ⟨hnil, -⟩ | hcons := spaced_of_not_startsWord hblank
    · simp [hspaced] at hnil
    · rw [hspaced] at hcons
      rw [hgap, List.singleton_append]
      exact (List.cons.inj hcons).2.symm

/-- The spaces at both ends of a path go first. -/
theorem singleSpaced_blankedPath (first : PathSegment)
    (more : List PathSegment) :
    Text.singleSpaced (blankedPath first more) =
      spelled gapsAround (fun _ => []) first more := by
  rw [blankedPath, singleSpaced_gap first (startsWord_spelled first more)]
  induction more generalizing first with
  | nil =>
      have hgap : spaced first.gap = [] := by
        obtain hgap | hgap := first.gap_cases <;> rw [hgap] <;> decide
      rw [spelled, spaced_word first.word_name, hgap, spelled]
  | cons next more ih =>
      have hcolon : Text.isBlank ':' = false := by decide
      simp only [spelled, gapsAround, spaced_word first.word_name,
        List.append_assoc, List.cons_append,
        spaced_gap first (startsWord_cons.mpr hcolon), spaced_plain hcolon,
        spaced_gap next (startsWord_spelled next more), ih]

/-! ## Tokens -/

theorem closerAhead_of_no_closer {text : List Char}
    (h : ∀ c ∈ text, isCloser c = false) :
    closerAhead text = false := by
  induction text with
  | nil => rfl
  | cons c rest ih =>
      rw [List.forall_mem_cons] at h
      simp [closerAhead, ih h.2, h.1]

theorem closeBefore_of_no_closer {text : List Char}
    (h : ∀ c ∈ text, isCloser c = false) :
    closeBefore text = text := by
  induction text with
  | nil => rfl
  | cons c rest ih =>
      rw [List.forall_mem_cons] at h
      simp [closeBefore, closerAhead_of_no_closer h.2, ih h.2]

theorem closeAfterFrom_word {word : List Char}
    (h : ∀ c ∈ word, isWordChar c = true) (rest : List Char) :
    closeAfterFrom false false (word ++ rest) =
      word ++ closeAfterFrom false false rest := by
  induction word with
  | nil => rfl
  | cons c word ih =>
      rw [List.forall_mem_cons] at h
      have hc := h.1
      simp only [isWordChar, Bool.and_eq_true, Bool.not_eq_true', bne_iff_ne]
        at hc
      simp [closeAfterFrom, hc, ih h.2]

theorem closeAfterFrom_name (segment : PathSegment) (opened colon : Bool)
    (rest : List Char) :
    closeAfterFrom opened colon (segment.name ++ rest) =
      segment.name ++ closeAfterFrom false false rest := by
  have hword := segment.word_name
  obtain ⟨c, name, hname⟩ := List.exists_cons_of_ne_nil segment.name_ne_nil
  rw [hname, List.forall_mem_cons] at hword
  have hc := hword.1
  simp only [isWordChar, Bool.and_eq_true, Bool.not_eq_true', bne_iff_ne] at hc
  simp [hname, closeAfterFrom, hc, closeAfterFrom_word hword.2]

/-- Of the two gaps only the one behind the colons is closed up. -/
theorem closeAfterFrom_colons (segment next : PathSegment) (rest : List Char) :
    ∃ colon, closeAfterFrom false false
      (segment.gap ++ ':' :: ':' :: (next.gap ++ rest)) =
      segment.gap ++ ':' :: ':' :: closeAfterFrom true colon rest := by
  have hspace : Text.isBlank ' ' = true := by decide
  have hcolon : Text.isBlank ':' = false := by decide
  have hopener : isOpener ':' = false := by decide
  obtain hnext | hnext := next.gap_cases
  · refine ⟨true, ?_⟩
    obtain hgap | hgap := segment.gap_cases <;>
      simp [closeAfterFrom, hgap, hnext, hspace, hcolon, hopener]
  · refine ⟨false, ?_⟩
    obtain hgap | hgap := segment.gap_cases <;>
      simp [closeAfterFrom, hgap, hnext, hspace, hcolon, hopener]

theorem closeAfterFrom_spelled (opened colon : Bool) (first : PathSegment)
    (more : List PathSegment) :
    closeAfterFrom opened colon (spelled gapsAround (fun _ => []) first more) =
      gappedPath first more := by
  rw [gappedPath]
  -- A name is read from any state and leaves none, so the state before the path
  -- does not matter.
  induction more generalizing first opened colon with
  | nil => rw [spelled, closeAfterFrom_name, closeAfterFrom, spelled]
  | cons next more ih =>
      obtain ⟨colon, hcolons⟩ :=
        closeAfterFrom_colons first
          next (spelled gapsAround (fun _ => []) next more)
      simp only [spelled, gapsAround, closeAfterFrom_name, List.append_assoc,
        List.cons_append, List.nil_append, hcolons, ih]

theorem closeUp_blankedPath (first : PathSegment) (more : List PathSegment) :
    closeUp (blankedPath first more) = gappedPath first more := by
  have hword (c : Char) (hc : isWordChar c = true) : isCloser c = false := by
    simp_all [isWordChar]
  have hcloser : ∀ c ∈ spelled gapsAround (fun _ => []) first more,
      isCloser c = false :=
    forall_mem_spelled (by decide) (by decide) hword (by simp) first more
  rw [closeUp, singleSpaced_blankedPath, closeBefore_of_no_closer hcloser,
    closeAfter, closeAfterFrom_spelled]

theorem resolveReferences_blankedPath (first : PathSegment)
    (more : List PathSegment) :
    resolveReferences (blankedPath first more) =
      .ok (blankedPath first more) := by
  have hword (c : Char) (hc : isWordChar c = true) : c ≠ '&' := by
    rintro rfl
    simp [isWordChar, isOpener] at hc
  have hspace : ' ' ≠ '&' := by decide
  apply resolveReferences_plain
  rw [blankedPath, List.forall_mem_append]
  exact ⟨forall_mem_gap hspace first,
    forall_mem_spelled hspace (by decide) hword
      (forall_mem_gap hspace) first more⟩

/-- What is read for a path with links: a space stands before each `::` behind a
linked segment.  So exactly those paths come out plain none of whose segments
but the last is linked. -/
theorem plainText_pathMarkup (first : PathSegment) (more : List PathSegment) :
    plainText (String.ofList (pathMarkup (first :: more))) =
        .ok (String.ofList (gappedPath first more)) ∧
      (plainText (String.ofList (pathMarkup (first :: more))) =
          .ok (String.ofList (plainPath (first :: more))) ↔
        ∀ segment ∈ (first :: more).dropLast, segment.link = none) := by
  have hplain : plainText (String.ofList (pathMarkup (first :: more))) =
      .ok (String.ofList (gappedPath first more)) := by
    rw [plainText, String.toList_ofList, plainChars, blankTags_pathMarkup,
      resolveReferences_blankedPath, ← closeUp_blankedPath]
    rfl
  refine ⟨hplain, ?_⟩
  rw [hplain, Except.ok.injEq, String.ofList_inj, gappedPath_eq_iff]

def Tag.anchor : Tag where
  content := "a class=\"struct\" href=\"#\"".toList
  content_ne_nil := by decide
  open_content := by decide

def Tag.anchorEnd : Tag where
  content := "/a".toList
  content_ne_nil := by decide
  open_content := by decide

/-- The path `core::fmt` with a link on its first segment. -/
def PathSegment.linkedCore : PathSegment where
  name := "core".toList
  name_ne_nil := by decide
  word_name := List.all_eq_true.mp (by decide)
  link := some (.anchor, .anchorEnd)

def PathSegment.plainFmt : PathSegment where
  name := "fmt".toList
  name_ne_nil := by decide
  word_name := List.all_eq_true.mp (by decide)
  link := none

theorem plainText_pathMarkup_core :
    pathMarkup [.linkedCore, .plainFmt] =
        "<a class=\"struct\" href=\"#\">core</a>::fmt".toList ∧
      plainText (String.ofList (pathMarkup [.linkedCore, .plainFmt])) =
        .ok "core ::fmt" ∧
      plainText (String.ofList (pathMarkup [.linkedCore, .plainFmt])) ≠
        .ok (String.ofList (plainPath [.linkedCore, .plainFmt])) := by
  obtain ⟨htext, hplain⟩ := plainText_pathMarkup .linkedCore [.plainFmt]
  refine ⟨by decide, htext, fun h => ?_⟩
  exact nomatch hplain.mp h .linkedCore (by simp)

/-- The same path with a link in front of `::` and without. -/
theorem plainText_link_before_colons :
    plainText "<a class=\"struct\" href=\"#\">core</a>::fmt" =
        .ok "core ::fmt" ∧
      plainText "core::fmt" = .ok "core::fmt" := by
  constructor <;> cbv

end TraitIndex.Markup
