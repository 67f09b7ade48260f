import TraitIndex.Proofs.Outcome
import TraitIndex.Proofs.Yaml.Reading
import TraitIndex.Yaml.Scanner

/-!
# Scanning a text that breaks off

Every token takes at least one character, so a scanner comes to the end of its
text.  Where the text breaks off before its end, that is met as a fault, which
becomes the last token.
-/

namespace TraitIndex.Yaml

/-! ## Texts that break off -/

/-- The text breaks off further on, and up to there it can be read. -/
structure Cursor.Breaks (cursor : Cursor) : Prop where
  breaksOff_ne_none : cursor.breaksOff ≠ none
  isAllowed_of_mem : ∀ c ∈ cursor.rest, isAllowed c = true

namespace Cursor.Breaks

variable {cursor : Cursor}

theorem of_reaches {after : Cursor} (h : cursor.Breaks)
    (hafter : cursor.Reaches after) :
    after.Breaks where
  breaksOff_ne_none := hafter.1 ▸ h.breaksOff_ne_none
  isAllowed_of_mem c hc := h.isAllowed_of_mem c (hafter.2.subset hc)

theorem rest_ne_nil (h : cursor.Breaks) (hdemand : cursor.demand = .ok ()) :
    cursor.rest ≠ [] := by
  obtain ⟨fault, hfault⟩ := Option.ne_none_iff_exists'.1 h.breaksOff_ne_none
  intro hrest
  simp [demand, hfault, hrest] at hdemand

/-- Nothing that can be read looks like the end of the text. -/
theorem isEnd_peek (h : cursor.Breaks) (hrest : cursor.rest ≠ []) :
    isEnd cursor.peek = false := by
  obtain ⟨c, rest, hcons⟩ := List.exists_cons_of_ne_nil hrest
  have hallowed : isAllowed c = true :=
    h.isAllowed_of_mem c (hcons ▸ List.mem_cons_self)
  have hpeek : cursor.peek = c := by simp [peek, hcons]
  rw [hpeek]
  refine decide_eq_false fun hend => ?_
  rw [hend] at hallowed
  exact absurd hallowed (by decide)

end Cursor.Breaks

namespace Cursor

variable {fault : Option Text.Utf8Fault}

theorem readable_of_all {pieces : List (List Char)}
    (h : ∀ c ∈ pieces.flatten, isAllowed c = true) :
    readable fault pieces = (pieces.flatten, fault.map .bytes) := by
  induction pieces with
  | nil => rfl
  | cons piece pieces ih =>
      rw [List.flatten_cons, List.forall_mem_append] at h
      rw [readable, if_pos (List.all_eq_true.2 h.1), ih h.2, List.flatten_cons]

theorem isAllowed_of_mem_readable {pieces : List (List Char)} {c : Char}
    (h : c ∈ (readable fault pieces).1) : isAllowed c = true := by
  induction pieces with
  | nil => cases h
  | cons piece pieces ih =>
      rw [readable] at h
      split at h
      · next hall =>
          rcases List.mem_append.1 h with hpiece | hrest
          · exact List.all_eq_true.1 hall c hpiece
          · exact ih hrest
      · cases h

theorem readable_breaksOff {pieces : List (List Char)}
    (h : fault ≠ none ∨ ∃ c ∈ pieces.flatten, isAllowed c = false) :
    (readable fault pieces).2 ≠ none := by
  induction pieces with
  | nil =>
      have hfault : fault ≠ none :=
        h.resolve_right fun ⟨_, hmem, _⟩ => nomatch hmem
      exact fun hnone => hfault (Option.map_eq_none_iff.1 hnone)
  | cons piece pieces ih =>
      rw [readable]
      split
      · next hall =>
          refine ih (h.imp_right fun ⟨c, hmem, hc⟩ => ⟨c, ?_, hc⟩)
          refine (List.mem_append.1 hmem).resolve_left fun hpiece => ?_
          rw [List.all_eq_true.1 hall c hpiece] at hc
          cases hc
      · exact Option.some_ne_none _

/-- The cursor at the start of a text of which so much can be read. -/
def ofReadable (read : List Char × Option DecodeFault) : Cursor :=
  ⟨read.1, 0, 0, 0, read.1.length, read.2⟩

/-- How a text is read: all its pieces one by one, the first two together, or,
when there is only one before a fault, none. -/
theorem start_eq_ofReadable (text : Text.Pieces) :
    ∃ pieces, start text = ofReadable (readable text.fault pieces) ∧
      (text.fault = none → pieces.flatten = text.pieces.flatten) := by
  obtain ⟨pieces, fault⟩ := text
  match pieces, fault with
  | [], fault => exact ⟨[], rfl, fun _ => rfl⟩
  | [piece], some fault => exact ⟨[], rfl, nofun⟩
  | [piece], none => exact ⟨[piece], rfl, fun _ => rfl⟩
  | first :: second :: rest, fault =>
      refine ⟨(first ++ second) :: rest, rfl, fun _ => ?_⟩
      simp only [List.flatten_cons, List.append_assoc]

theorem start_of_readable {text : Text.Pieces} (hfault : text.fault = none)
    (h : ∀ c ∈ text.pieces.flatten, isAllowed c = true) :
    start text = ofReadable (text.pieces.flatten, none) := by
  obtain ⟨pieces, hstart, hpieces⟩ := start_eq_ofReadable text
  rw [← hpieces hfault] at h ⊢
  rw [hstart, readable_of_all h, hfault, Option.map_none]

theorem breaks_start {text : Text.Pieces}
    (h : text.fault ≠ none ∨ ∃ c ∈ text.pieces.flatten, isAllowed c = false) :
    (start text).Breaks := by
  obtain ⟨pieces, hstart, hpieces⟩ := start_eq_ofReadable text
  rw [hstart]
  refine ⟨readable_breaksOff ?_, fun c => isAllowed_of_mem_readable⟩
  rcases eq_or_ne text.fault none with hnone | hfault
  · exact (hpieces hnone).symm ▸ h
  · exact .inl hfault

theorem length_rest_start (text : Text.Pieces) :
    (start text).rest.length = (start text).length := by
  obtain ⟨pieces, hstart, -⟩ := start_eq_ofReadable text
  rw [hstart]
  rfl

end Cursor

/-! ## Plain scalars -/

namespace Scanner

theorem plainLength_ne_zero {scanner : Scanner}
    (h : scanner.plainStarts = true) :
    plainLength scanner.inFlow scanner.cursor.rest ≠ 0 := by
  unfold plainStarts Cursor.peek Cursor.peekAt at h
  generalize scanner.inFlow = inFlow at h ⊢
  cases hrest : scanner.cursor.rest with
  | nil =>
      rw [hrest] at h
      revert h
      cases inFlow <;> decide
  | cons c rest =>
      have hnext : ((c :: rest)[1]?).getD endMark = rest.headD endMark := by
        cases rest <;> rfl
      rw [hrest, hnext] at h
      dsimp only [List.headD_cons] at h
      rw [plainLength]
      generalize rest.headD endMark = next at h ⊢
      refine ne_of_eq_of_ne (if_neg fun hends => ?_) (Nat.succ_ne_zero _)
      rcases Bool.or_eq_true_iff.1 h with hopen | hsign
      · simp at hopen hends
        grind
      · simp at hsign hends
        obtain ⟨hwide, rfl | ⟨rfl, rfl | rfl⟩⟩ := hsign
        · simp [isWideGap, isGap, isBreakOrEnd, isBreak, isEnd, endMark]
            at hends
        · simp [isWideGap, isGap, isBreakOrEnd, isBreak, isEnd, endMark]
            at hends
        · rw [hwide] at hends
          simp [isWideGap, isGap, isBreakOrEnd, isBreak, isEnd, endMark]
            at hends

/-! ## What stays at the cursor -/

@[simp] theorem cursor_emit (scanner : Scanner) (token : Token) :
    (scanner.emit token).cursor = scanner.cursor := rfl

@[simp] theorem cursor_emitAt (scanner : Scanner) (place : Nat)
    (token : Token) :
    (scanner.emitAt place token).cursor = scanner.cursor := rfl

@[simp] theorem cursor_emitOver (scanner : Scanner) (token : Token)
    (length : Nat) :
    (scanner.emitOver token length).cursor = scanner.cursor.forward length :=
  rfl

@[simp] theorem cursor_closeBlocks (column : Int) (indents : List Int)
    (scanner : Scanner) :
    (closeBlocks column indents scanner).cursor = scanner.cursor := by
  induction indents generalizing scanner with
  | nil => rfl
  | cons outer indents ih =>
      rw [closeBlocks]
      split
      · rw [ih]
        rfl
      · rfl

@[simp] theorem cursor_unwind (scanner : Scanner) (column : Int) :
    (scanner.unwind column).cursor = scanner.cursor := by
  unfold unwind
  split
  · rfl
  · exact cursor_closeBlocks _ _ _

@[simp] theorem cursor_openBlock (scanner : Scanner) (column : Int)
    (place : Nat) (token : Token) :
    (scanner.openBlock column place token).cursor = scanner.cursor := by
  unfold openBlock
  split <;> rfl

@[simp] theorem cursor_openBlockHere (scanner : Scanner) (token : Token) :
    (scanner.openBlockHere token).cursor = scanner.cursor :=
  cursor_openBlock _ _ _ _

section

variable {scanner next : Scanner}

theorem cursor_of_dropStaleKeys (h : scanner.dropStaleKeys = .ok next) :
    next.cursor = scanner.cursor := by
  unfold dropStaleKeys at h
  split at h
  · cases h
  · obtain rfl := Except.ok.inj h
    rfl

theorem cursor_of_dropKey (h : scanner.dropKey = .ok next) :
    next.cursor = scanner.cursor := by
  unfold dropKey at h
  split at h
  · cases h
  · obtain rfl := Except.ok.inj h
    rfl

theorem depth_of_dropKey (h : scanner.dropKey = .ok next) :
    next.depth = scanner.depth := by
  unfold dropKey at h
  split at h
  · cases h
  · obtain rfl := Except.ok.inj h
    rfl

theorem cursor_of_saveKey (h : scanner.saveKey = .ok next) :
    next.cursor = scanner.cursor ∧ next.inFlow = scanner.inFlow := by
  unfold saveKey at h
  split at h
  · obtain rfl := Except.ok.inj h
    exact ⟨rfl, rfl⟩
  · cases hdrop : scanner.dropKey with
    | error fault =>
        simp only [hdrop, bind, Except.bind] at h
        cases h
    | ok cleared =>
        have hcursor := cursor_of_dropKey hdrop
        have hdepth := depth_of_dropKey hdrop
        simp only [hdrop, bind, Except.bind] at h
        obtain rfl := Except.ok.inj h
        exact ⟨hcursor, congrArg (· != 0) hdepth⟩

theorem cursor_of_outermost (h : scanner.outermost = .ok next) :
    next.cursor = scanner.cursor := by
  unfold outermost at h
  cases hdrop : (scanner.unwind (-1)).dropKey with
  | error fault =>
      simp only [hdrop, bind, Except.bind] at h
      cases h
  | ok cleared =>
      simp only [hdrop, bind, Except.bind] at h
      obtain rfl := Except.ok.inj h
      exact (cursor_of_dropKey hdrop).trans (cursor_unwind _ _)

end

/-! ## A token -/

/-- A step of a scanner takes at least one character from the cursor on, if it
succeeds. -/
def MovesOn (cursor : Cursor) (result : Except DecodeFault Scanner) : Prop :=
  ∀ next, result = .ok next → cursor.step.Reaches next.cursor

namespace MovesOn

variable {cursor : Cursor}

theorem error (fault : DecodeFault) : MovesOn cursor (.error fault) := by
  intro next h
  cases h

theorem ok {next : Scanner} (h : cursor.step.Reaches next.cursor) :
    MovesOn cursor (.ok next) := by
  intro found hfound
  obtain rfl := Except.ok.inj hfound
  exact h

theorem ite {condition : Prop} [Decidable condition]
    {result other : Except DecodeFault Scanner}
    (h : condition → MovesOn cursor result) (hother : MovesOn cursor other) :
    MovesOn cursor (if condition then result else other) := by
  by_cases hcondition : condition
  · exact (if_pos hcondition).symm ▸ h hcondition
  · exact (if_neg hcondition).symm ▸ hother

theorem bind {first : Except DecodeFault Scanner}
    {next : Scanner → Except DecodeFault Scanner}
    (hnext : ∀ scanner, first = .ok scanner → MovesOn cursor (next scanner)) :
    MovesOn cursor (first >>= next) := by
  cases hfirst : first with
  | error fault => exact error fault
  | ok scanner => exact hnext scanner hfirst

theorem read {α : Type} {reading : Except DecodeFault (α × Cursor)}
    {next : α × Cursor → Except DecodeFault Scanner}
    (h : ReadsOn cursor.step reading)
    (hnext : ∀ value after, cursor.step.Reaches after →
      MovesOn cursor (next (value, after))) :
    MovesOn cursor (reading >>= next) := by
  cases hread : reading with
  | error fault => exact error fault
  | ok read => exact hnext read.1 read.2 (h _ _ hread)

end MovesOn

section

variable (scanner : Scanner)

theorem movesOn_flowStart (token : Token) :
    MovesOn scanner.cursor (scanner.flowStart token) := by
  refine .bind fun saved hsaved => .ok ?_
  rw [← (cursor_of_saveKey hsaved).1]
  exact saved.cursor.step_reaches_forward Nat.one_ne_zero

theorem movesOn_flowEnd (token : Token) :
    MovesOn scanner.cursor (scanner.flowEnd token) := by
  refine .bind fun cleared hcleared => .ok ?_
  rw [← cursor_of_dropKey hcleared]
  exact cleared.cursor.step_reaches_forward Nat.one_ne_zero

theorem movesOn_flowEntry : MovesOn scanner.cursor scanner.flowEntry := by
  refine .bind fun cleared hcleared => .ok ?_
  rw [← cursor_of_dropKey hcleared]
  exact cleared.cursor.step_reaches_forward Nat.one_ne_zero

theorem movesOn_blockEntry : MovesOn scanner.cursor scanner.blockEntry := by
  unfold blockEntry
  split
  · exact .error _
  · refine .bind fun opened hopened => .ok ?_
    have hcursor : opened.cursor = scanner.cursor := by
      rw [cursor_of_dropKey hopened]
      split <;> simp
    rw [← hcursor]
    exact opened.cursor.step_reaches_forward Nat.one_ne_zero

theorem movesOn_explicitKey : MovesOn scanner.cursor scanner.explicitKey := by
  unfold explicitKey
  split
  · exact .error _
  · refine .bind fun opened hopened => .ok ?_
    have hcursor : opened.cursor = scanner.cursor := by
      rw [cursor_of_dropKey hopened]
      split <;> simp
    rw [← hcursor]
    exact opened.cursor.step_reaches_forward Nat.one_ne_zero

theorem movesOn_value : MovesOn scanner.cursor scanner.value := by
  unfold value
  split
  · refine .ok ?_
    unfold valueAfterKey
    extract_lets cleared keyed opened
    have hcursor : opened.cursor = scanner.cursor := by
      dsimp only [opened]
      split <;> simp [keyed, cleared]
    rw [cursor_emitOver, hcursor]
    exact scanner.cursor.step_reaches_forward Nat.one_ne_zero
  · unfold valueAlone
    split
    · exact .error _
    · refine .bind fun opened hopened => .ok ?_
      have hcursor : opened.cursor = scanner.cursor := by
        rw [cursor_of_dropKey hopened]
        split <;> simp
      rw [← hcursor]
      exact opened.cursor.step_reaches_forward Nat.one_ne_zero

variable {scanner} in
theorem movesOn_keyToken {reader : Cursor → Except DecodeFault (Token × Cursor)}
    (h : ReadsOn scanner.cursor.step (reader scanner.cursor)) :
    MovesOn scanner.cursor (scanner.keyToken reader) := by
  refine .bind fun saved hsaved => ?_
  rw [← (cursor_of_saveKey hsaved).1] at h ⊢
  exact .read h fun _ _ hafter => .ok hafter

theorem movesOn_quoted (double : Bool) :
    MovesOn scanner.cursor (scanner.quoted double) :=
  movesOn_keyToken
    ((readsOn_quotedScalar double _).bind fun _ _ hafter => .ok hafter _)

variable {scanner} in
theorem movesOn_plain (h : scanner.plainStarts = true) :
    MovesOn scanner.cursor scanner.plain := by
  refine .bind fun saved hsaved => ?_
  obtain ⟨hcursor, hflow⟩ := cursor_of_saveKey hsaved
  have hlength : plainLength saved.inFlow saved.cursor.rest ≠ 0 := by
    rw [hflow, hcursor]
    exact plainLength_ne_zero h
  rw [← hcursor]
  exact .ok (reaches_plainScalar hlength saved.indent)

theorem movesOn_block (folded : Bool) :
    MovesOn scanner.cursor (scanner.block folded) := by
  refine .bind fun cleared hcleared => ?_
  rw [← cursor_of_dropKey hcleared]
  exact .read (readsOn_blockScalar folded _ _) fun _ _ hafter => .ok hafter

theorem movesOn_outermost (token : Token) (length : Nat) (h : length ≠ 0) :
    MovesOn scanner.cursor do
      let scanner ← scanner.outermost
      return scanner.emitOver token length := by
  refine .bind fun outer houter => .ok ?_
  rw [← cursor_of_outermost houter]
  exact outer.cursor.step_reaches_forward h

theorem movesOn_directive :
    MovesOn scanner.cursor do
      let scanner ← scanner.outermost
      let (token, cursor) ← directiveToken scanner.cursor
      return { scanner.emit token with cursor := cursor } := by
  refine .bind fun outer houter => ?_
  rw [← cursor_of_outermost houter]
  exact .read (readsOn_directiveToken outer.cursor) fun _ _ hafter => .ok hafter

theorem movesOn_token : MovesOn scanner.cursor scanner.token := by
  unfold token
  refine .ite (fun _ => scanner.movesOn_directive) ?_
  refine .ite (fun _ => scanner.movesOn_outermost _ 3 (by decide)) ?_
  refine .ite (fun _ => scanner.movesOn_outermost _ 3 (by decide)) ?_
  refine .ite (fun _ => scanner.movesOn_flowStart _) ?_
  refine .ite (fun _ => scanner.movesOn_flowStart _) ?_
  refine .ite (fun _ => scanner.movesOn_flowEnd _) ?_
  refine .ite (fun _ => scanner.movesOn_flowEnd _) ?_
  refine .ite (fun _ => scanner.movesOn_flowEntry) ?_
  refine .ite (fun _ => scanner.movesOn_blockEntry) ?_
  refine .ite (fun _ => scanner.movesOn_explicitKey) ?_
  refine .ite (fun _ => scanner.movesOn_value) ?_
  have hname := readsOn_anchorName scanner.cursor
  refine .ite (fun _ => movesOn_keyToken
    (hname.bind fun _ _ hafter => .ok hafter _)) ?_
  refine .ite (fun _ => movesOn_keyToken
    (hname.bind fun _ _ hafter => .ok hafter _)) ?_
  refine .ite (fun _ => movesOn_keyToken (readsOn_tagToken _)) ?_
  refine .ite (fun _ => scanner.movesOn_block _) ?_
  refine .ite (fun _ => scanner.movesOn_block _) ?_
  refine .ite (fun _ => scanner.movesOn_quoted _) ?_
  refine .ite (fun _ => scanner.movesOn_quoted _) ?_
  exact .ite movesOn_plain (.error _)

end

/-! ## All tokens -/

theorem reaches_skipToToken (fuel : Nat) (scanner : Scanner) :
    scanner.cursor.Reaches (skipToToken fuel scanner).cursor := by
  induction fuel generalizing scanner with
  | zero => exact .refl _
  | succ fuel ih =>
      have hskip :=
        scanner.cursor.reaches_skipSpaces.trans (Cursor.reaches_skipComment _)
      rw [skipToToken]
      split
      · exact hskip
      · next hbreak =>
          exact hskip.trans ((Cursor.reaches_lineBreak hbreak).trans (ih _))

theorem reaches_skipByteOrderMark (scanner : Scanner) :
    scanner.cursor.Reaches scanner.skipByteOrderMark.cursor := by
  unfold skipByteOrderMark
  split
  · exact scanner.cursor.reaches_step
  · exact .refl _

/-- In a text that breaks off a scanner never comes to the end, but it moves
on. -/
theorem advance_of_breaks {scanner next : Scanner} {isOver : Bool}
    (h : scanner.cursor.Breaks)
    (hadvance : scanner.advance = .ok (next, isOver)) :
    isOver = false ∧ next.cursor.Breaks ∧
      next.cursor.rest.length < scanner.cursor.rest.length := by
  obtain ⟨fresh, hfresh, hadvance⟩ := exists_of_bind_eq_ok hadvance
  have hspot := (reaches_skipByteOrderMark fresh).trans
    (reaches_skipToToken fresh.skipByteOrderMark.cursor.fuel _)
  rw [cursor_of_dropStaleKeys hfresh] at hspot
  obtain ⟨_, hdemand, hadvance⟩ := exists_of_bind_eq_ok hadvance
  obtain ⟨current, hcurrent, hadvance⟩ := exists_of_bind_eq_ok hadvance
  rw [← cursor_of_dropStaleKeys hcurrent] at hdemand hspot
  have hbreaks := h.of_reaches hspot
  have hrest := hbreaks.rest_ne_nil hdemand
  dsimp only at hadvance
  rw [cursor_unwind, hbreaks.isEnd_peek hrest] at hadvance
  obtain ⟨reached, htoken, hadvance⟩ := exists_of_bind_eq_ok hadvance
  obtain ⟨_, -, hadvance⟩ := exists_of_bind_eq_ok hadvance
  obtain ⟨rfl, rfl⟩ := Prod.mk.inj (Except.ok.inj hadvance)
  have hreached := movesOn_token _ _ htoken
  rw [cursor_unwind] at hreached
  refine ⟨rfl, hbreaks.of_reaches
    (current.cursor.reaches_step.trans hreached), ?_⟩
  calc reached.cursor.rest.length
      ≤ current.cursor.step.rest.length := hreached.2.length_le
    _ < current.cursor.rest.length := by
        rw [Cursor.rest_step, List.length_tail]
        exact Nat.sub_lt (List.length_pos_iff.2 hrest) Nat.one_pos
    _ ≤ scanner.cursor.rest.length := hspot.2.length_le

theorem exists_broken_of_breaks {fuel : Nat} {scanner : Scanner}
    (h : scanner.cursor.Breaks) (hfuel : scanner.cursor.rest.length < fuel) :
    ∃ fault, .broken fault ∈ run fuel scanner := by
  induction fuel generalizing scanner with
  | zero => exact absurd hfuel (Nat.not_lt_zero _)
  | succ fuel ih =>
      rw [run]
      -- Every token takes a character of what is left, so the fuel lasts until
      -- the fault is met.
      split
      · next fault _ =>
          exact ⟨fault, List.mem_append_right _ List.mem_cons_self⟩
      · next hadvance =>
          obtain ⟨rfl, hbreaks, hshorter⟩ := advance_of_breaks h hadvance
          exact ih hbreaks (by omega)

end Scanner

theorem exists_broken_mem_tokens {text : Text.Pieces}
    (h : text.fault ≠ none ∨ ∃ c ∈ text.pieces.flatten, isAllowed c = false) :
    ∃ fault, .broken fault ∈ tokens text :=
  Scanner.exists_broken_of_breaks (Cursor.breaks_start h)
    (Nat.lt_succ_of_le (Nat.le_of_eq (Cursor.length_rest_start text)))

end TraitIndex.Yaml
