import Mathlib.Data.List.Basic
import TraitIndex.Yaml.Token

/-!
# Reading onwards

Whatever is read at a cursor, scalars and words of all kinds, the cursor after
it stands further on in the same text.  So what is known about the text that is
left stays known.
-/

namespace TraitIndex.Yaml

/-! ## Cursors -/

namespace Cursor

/-- A cursor further on in the same text, or the same one. -/
def Reaches (cursor after : Cursor) : Prop :=
  after.breaksOff = cursor.breaksOff ∧ after.rest <:+ cursor.rest

@[refl] theorem Reaches.refl (cursor : Cursor) : cursor.Reaches cursor :=
  ⟨rfl, List.suffix_refl _⟩

theorem Reaches.trans {cursor middle after : Cursor} (h : cursor.Reaches middle)
    (hafter : middle.Reaches after) : cursor.Reaches after :=
  ⟨hafter.1.trans h.1, hafter.2.trans h.2⟩

variable (cursor : Cursor)

theorem rest_step : cursor.step.rest = cursor.rest.tail := by
  unfold step
  split
  · next h => simp [h]
  · next h =>
      rw [h]
      split
      · rfl
      · split <;> rfl

theorem breaksOff_step : cursor.step.breaksOff = cursor.breaksOff := by
  unfold step
  split
  · rfl
  · split
    · rfl
    · split <;> rfl

theorem reaches_step : cursor.Reaches cursor.step :=
  ⟨cursor.breaksOff_step, cursor.rest_step ▸ List.tail_suffix _⟩

theorem reaches_forward (count : Nat) :
    cursor.Reaches (cursor.forward count) := by
  induction count generalizing cursor with
  | zero => exact .refl cursor
  | succ count ih => exact cursor.reaches_step.trans (ih cursor.step)

/-- Whatever lies some characters further on lies past the next one. -/
theorem step_reaches_forward {count : Nat} (h : count ≠ 0) :
    cursor.step.Reaches (cursor.forward count) := by
  obtain ⟨fewer, rfl⟩ := Nat.exists_eq_succ_of_ne_zero h
  exact cursor.step.reaches_forward fewer

theorem reaches_takeWhile (condition : Char → Bool) :
    cursor.Reaches (cursor.takeWhile condition).2 :=
  cursor.reaches_forward _

theorem reaches_skipWhile (condition : Char → Bool) :
    cursor.Reaches (cursor.skipWhile condition) :=
  cursor.reaches_takeWhile condition

theorem reaches_skipSpaces : cursor.Reaches cursor.skipSpaces :=
  cursor.reaches_skipWhile _

theorem reaches_skipComment : cursor.Reaches cursor.skipComment := by
  unfold skipComment
  split
  · exact cursor.reaches_skipWhile _
  · exact .refl cursor

variable {cursor}

theorem reaches_lineBreak {c : Char} {after : Cursor}
    (h : cursor.lineBreak? = some (c, after)) :
    cursor.Reaches after := by
  unfold lineBreak? at h
  split at h
  · obtain ⟨-, rfl⟩ := Prod.mk.inj (Option.some.inj h)
    exact cursor.reaches_forward 2
  · split at h
    · obtain ⟨-, rfl⟩ := Prod.mk.inj (Option.some.inj h)
      exact cursor.reaches_step
    · split at h
      · obtain ⟨-, rfl⟩ := Prod.mk.inj (Option.some.inj h)
        exact cursor.reaches_step
      · cases h
  · cases h

/-- A refusal has no result. -/
theorem refuse_ne_ok {α : Type} {value : α} : cursor.refuse ≠ .ok value := by
  unfold refuse
  cases cursor.demand <;> simp [bind, Except.bind]

end Cursor

/-- A reader leaves its cursor further on, if it reads anything. -/
def ReadsOn {α : Type} (cursor : Cursor)
    (result : Except DecodeFault (α × Cursor)) : Prop :=
  ∀ value after, result = .ok (value, after) → cursor.Reaches after

namespace ReadsOn

variable {α β : Type} {cursor : Cursor}

theorem ok {after : Cursor} (h : cursor.Reaches after) (value : α) :
    ReadsOn cursor (.ok (value, after)) := by
  intro found reached hfound
  obtain ⟨-, rfl⟩ := Prod.mk.inj (Except.ok.inj hfound)
  exact h

theorem error (fault : DecodeFault) :
    ReadsOn (α := α) cursor (.error fault) := by
  intro found reached hfound
  cases hfound

theorem refuse (other : Cursor) : ReadsOn (α := α) cursor other.refuse := by
  intro found reached hfound
  exact absurd hfound Cursor.refuse_ne_ok

theorem bind {first : Except DecodeFault (α × Cursor)}
    {next : α × Cursor → Except DecodeFault (β × Cursor)}
    (h : ReadsOn cursor first) (hnext : ∀ value after, cursor.Reaches after →
      ReadsOn cursor (next (value, after))) :
    ReadsOn cursor (first >>= next) := by
  cases first with
  | error fault => exact error fault
  | ok read => exact hnext read.1 read.2 (h _ _ rfl)

theorem check {first : Except DecodeFault α}
    {next : α → Except DecodeFault (β × Cursor)}
    (hnext : ∀ value, ReadsOn cursor (next value)) :
    ReadsOn cursor (first >>= next) := by
  cases first with
  | error fault => exact error fault
  | ok value => exact hnext value

theorem trans {middle : Cursor} {result : Except DecodeFault (α × Cursor)}
    (hmiddle : cursor.Reaches middle) (h : ReadsOn middle result) :
    ReadsOn cursor result :=
  fun value after hresult => hmiddle.trans (h value after hresult)

end ReadsOn

theorem reaches_endOfLine {cursor after : Cursor}
    (h : endOfLine cursor = .ok after) :
    cursor.Reaches after := by
  have hskip :=
    cursor.reaches_skipSpaces.trans cursor.skipSpaces.reaches_skipComment
  unfold endOfLine at h
  dsimp only at h
  split at h
  · split at h
    · next hbreak =>
        obtain rfl := Except.ok.inj h
        exact hskip.trans (Cursor.reaches_lineBreak hbreak)
    · obtain rfl := Except.ok.inj h
      exact hskip
  · exact absurd h Cursor.refuse_ne_ok

theorem ReadsOn.endOfLine {α : Type} {cursor middle : Cursor}
    {next : Cursor → Except DecodeFault (α × Cursor)}
    (h : cursor.Reaches middle)
    (hnext : ∀ after, cursor.Reaches after → ReadsOn cursor (next after)) :
    ReadsOn cursor (Yaml.endOfLine middle >>= next) := by
  cases hend : Yaml.endOfLine middle with
  | error fault => exact .error fault
  | ok after => exact hnext after (h.trans (reaches_endOfLine hend))

/-! ## Plain scalars -/

theorem reaches_plainBreaks (fuel : Nat) (cursor : Cursor) :
    cursor.Reaches (plainBreaks fuel cursor).2 := by
  induction fuel generalizing cursor with
  | zero => exact .refl cursor
  | succ fuel ih =>
      rw [plainBreaks]
      split
      · exact cursor.reaches_step.trans (ih _)
      · split
        · exact .refl cursor
        · next c after hbreak =>
            have hafter := Cursor.reaches_lineBreak hbreak
            split
            · exact hafter
            · have hmore := hafter.trans (ih after)
              split <;> next heq => rwa [heq] at hmore

theorem reaches_plainGap (cursor : Cursor) :
    cursor.Reaches (plainGap cursor).2.2 := by
  have hspaces := cursor.reaches_takeWhile (· = ' ')
  unfold plainGap
  dsimp only
  split
  · exact hspaces
  · next c after hbreak =>
      have hafter := hspaces.trans (Cursor.reaches_lineBreak hbreak)
      split
      · exact hafter
      · have hmore := hafter.trans (reaches_plainBreaks after.fuel after)
        split <;> next heq => rwa [heq] at hmore

theorem reaches_plainPieces (inFlow : Bool) (indent : Int) (fuel : Nat)
    (before : List Char) (cursor : Cursor) :
    cursor.Reaches (plainPieces inFlow indent fuel before cursor).2 := by
  induction fuel generalizing before cursor with
  | zero => exact .refl cursor
  | succ fuel ih =>
      rw [plainPieces]
      dsimp only
      split
      · exact .refl cursor
      · have hgap :=
          (cursor.reaches_forward (plainLength inFlow cursor.rest)).trans
          (reaches_plainGap _)
        split
        · exact hgap
        · exact hgap.trans (ih _ _)

/-- A plain scalar that starts at the cursor takes a character. -/
theorem reaches_plainScalar {inFlow : Bool} {cursor : Cursor}
    (h : plainLength inFlow cursor.rest ≠ 0) (indent : Int) :
    cursor.step.Reaches (plainScalar inFlow indent cursor).2 := by
  have hgap := (cursor.step_reaches_forward h).trans (reaches_plainGap _)
  rw [plainScalar, Cursor.fuel, plainPieces]
  dsimp only
  rw [if_neg h]
  split
  · exact hgap
  · exact hgap.trans (reaches_plainPieces _ _ _ _ _)

/-! ## Quoted scalars -/

theorem readsOn_quotedBreaks (fuel : Nat) (cursor : Cursor) :
    ReadsOn cursor (quotedBreaks fuel cursor) := by
  induction fuel generalizing cursor with
  | zero => exact .ok (.refl cursor) _
  | succ fuel ih =>
      have hblanks := cursor.reaches_skipWhile fun c => c = ' ' || c = '\t'
      rw [quotedBreaks]
      split
      · exact .refuse _
      · dsimp only
        split
        · exact .ok hblanks _
        · next c after hbreak =>
            have hafter := hblanks.trans (Cursor.reaches_lineBreak hbreak)
            exact ((ih after).trans hafter).bind fun _ _ hlast => .ok hlast _

theorem readsOn_quotedGap (cursor : Cursor) :
    ReadsOn cursor (quotedGap cursor) := by
  have hblanks := cursor.reaches_takeWhile fun c => c = ' ' || c = '\t'
  unfold quotedGap
  dsimp only
  split
  · next c after hbreak =>
      have hafter := hblanks.trans (Cursor.reaches_lineBreak hbreak)
      exact ((readsOn_quotedBreaks _ after).trans hafter).bind fun _ _ hlast =>
        .ok hlast _
  · split
    · exact .refuse _
    · exact .ok hblanks _

theorem readsOn_escapeText (cursor : Cursor) :
    ReadsOn cursor (escapeText cursor) := by
  unfold escapeText
  dsimp only
  split
  · exact .ok cursor.reaches_step _
  · split
    · exact .refuse _
    · exact .check fun _ => .ok (cursor.reaches_forward _) _
  · split
    · next hbreak =>
        exact (readsOn_quotedBreaks _ _).trans (Cursor.reaches_lineBreak hbreak)
    · exact .refuse _

theorem readsOn_quotedPieces (double : Bool) (fuel : Nat) (before : List Char)
    (cursor : Cursor) :
    ReadsOn cursor (quotedPieces double fuel before cursor) := by
  induction fuel generalizing before cursor with
  | zero => exact .error _
  | succ fuel ih =>
      rw [quotedPieces]
      dsimp only
      generalize (if double = true then '"' else '\x27') = quote
      split
      · exact (readsOn_quotedGap cursor).bind fun _ after hafter =>
          (ih _ after).trans hafter
      · split
        · exact (ih _ _).trans (cursor.reaches_forward 2)
        · split
          · exact .ok cursor.reaches_step _
          · split
            · exact ((readsOn_escapeText _).trans cursor.reaches_step).bind
                fun _ after hafter => (ih _ after).trans hafter
            · exact (ih _ _).trans cursor.reaches_step

theorem readsOn_quotedScalar (double : Bool) (cursor : Cursor) :
    ReadsOn cursor.step (quotedScalar double cursor) :=
  readsOn_quotedPieces double _ _ _

/-! ## Block scalars -/

theorem readsOn_writtenIndent (cursor : Cursor) :
    ReadsOn cursor (writtenIndent cursor) := by
  unfold writtenIndent
  dsimp only
  split
  · split
    · exact .error _
    · exact .ok cursor.reaches_step _
  · exact .ok (.refl cursor) _

theorem readsOn_blockHead (cursor : Cursor) :
    ReadsOn cursor (blockHead cursor) := by
  unfold blockHead
  extract_lets finish
  have hfinish (head : Chomping × Option Nat) (after : Cursor)
      (hafter : cursor.Reaches after) :
      ReadsOn cursor (finish (head, after)) := by
    dsimp only [finish]
    split
    · exact .ok hafter _
    · exact .refuse _
  split
  · refine ((readsOn_writtenIndent _).trans cursor.reaches_step).bind
      fun indent after hafter => ?_
    exact .bind (.ok hafter _) hfinish
  · refine (readsOn_writtenIndent cursor).bind fun indent after hafter => ?_
    dsimp only
    split
    · exact .bind (.ok (hafter.trans after.reaches_step) _) hfinish
    · exact .bind (.ok hafter _) hfinish

theorem reaches_blockIndentation (fuel deepest : Nat) (cursor : Cursor) :
    cursor.Reaches (blockIndentation fuel deepest cursor).2 := by
  induction fuel generalizing deepest cursor with
  | zero => exact .refl cursor
  | succ fuel ih =>
      rw [blockIndentation]
      split
      · exact cursor.reaches_step.trans (ih _ _)
      · split
        · exact .refl cursor
        · next hbreak => exact (Cursor.reaches_lineBreak hbreak).trans (ih _ _)

theorem reaches_skipIndent (indent : Int) (fuel : Nat) (cursor : Cursor) :
    cursor.Reaches (skipIndent indent fuel cursor) := by
  induction fuel generalizing cursor with
  | zero => exact .refl cursor
  | succ fuel ih =>
      rw [skipIndent]
      split
      · exact cursor.reaches_step.trans (ih _)
      · exact .refl cursor

theorem reaches_blockBreaks (indent : Int) (fuel : Nat) (cursor : Cursor) :
    cursor.Reaches (blockBreaks indent fuel cursor).2 := by
  induction fuel generalizing cursor with
  | zero => exact .refl cursor
  | succ fuel ih =>
      have hskip := reaches_skipIndent indent cursor.fuel cursor
      rw [blockBreaks]
      dsimp only
      split
      · exact hskip
      · next hbreak =>
          exact hskip.trans ((Cursor.reaches_lineBreak hbreak).trans (ih _))

theorem reaches_blockLines (folded : Bool) (indent : Int) (fuel : Nat)
    (breaks : List Char) (cursor : Cursor) :
    cursor.Reaches (blockLines folded indent fuel breaks cursor).2 := by
  induction fuel generalizing breaks cursor with
  | zero => exact .refl cursor
  | succ fuel ih =>
      rw [blockLines]
      split
      · exact .refl cursor
      · extract_lets leadingText
        have hline := cursor.reaches_takeWhile fun c => !isBreak c
        generalize cursor.takeWhile (fun c => !isBreak c) = read at hline ⊢
        obtain ⟨line, afterLine⟩ := read
        dsimp only
        split
        · next c after hbreak =>
            have hend := hline.trans (Cursor.reaches_lineBreak hbreak)
            have hbreaks :=
              hend.trans (reaches_blockBreaks indent after.fuel after)
            split
            · exact hbreaks.trans (ih _ _)
            · exact hbreaks
        · have hbreaks :=
            hline.trans (reaches_blockBreaks indent afterLine.fuel afterLine)
          split
          · exact hbreaks.trans (ih _ _)
          · exact hbreaks

theorem readsOn_blockScalar (folded : Bool) (indent : Int) (cursor : Cursor) :
    ReadsOn cursor.step (blockScalar folded indent cursor) := by
  unfold blockScalar
  refine (readsOn_blockHead _).bind fun head afterHead hhead => ?_
  refine .endOfLine hhead fun start hstart => ?_
  extract_lets least
  split
  next breaks column lead hlead =>
    have hlead : cursor.step.Reaches lead := by
      split at hlead
      · have heq : (blockIndentation start.fuel 0 start).2 = lead :=
          congrArg Prod.snd hlead
        exact heq ▸ hstart.trans (reaches_blockIndentation _ _ start)
      · have heq : (blockBreaks _ start.fuel start).2 = lead :=
          congrArg Prod.snd hlead
        exact heq ▸ hstart.trans (reaches_blockBreaks _ _ start)
    have hlines :=
      hlead.trans (reaches_blockLines folded column lead.fuel breaks lead)
    cases head.1 <;> exact .ok hlines _

/-! ## Words -/

theorem readsOn_anchorName (cursor : Cursor) :
    ReadsOn cursor.step (anchorName cursor) := by
  unfold anchorName
  dsimp only
  split
  · exact .refuse _
  · exact .ok (cursor.step.reaches_takeWhile _) _

theorem readsOn_tagHandle (cursor : Cursor) :
    ReadsOn cursor.step (tagHandle cursor) := by
  unfold tagHandle
  split
  · exact .refuse _
  · split
    · exact .ok (.refl _) _
    · have hword := cursor.step.reaches_takeWhile isWordChar
      dsimp only
      split
      · exact .ok (hword.trans (Cursor.reaches_step _)) _
      · exact .refuse _

theorem readsOn_uriBytes (fuel : Nat) (cursor : Cursor) :
    ReadsOn cursor (uriBytes fuel cursor) := by
  induction fuel generalizing cursor with
  | zero => exact .ok (.refl cursor) _
  | succ fuel ih =>
      rw [uriBytes]
      split
      · split
        · exact .refuse _
        · exact ((ih _).trans (cursor.reaches_forward 3)).bind fun _ _ hafter =>
            .ok hafter _
      · exact .ok (.refl cursor) _

theorem readsOn_uriText (fuel : Nat) (cursor : Cursor) :
    ReadsOn cursor (uriText fuel cursor) := by
  induction fuel generalizing cursor with
  | zero => exact .ok (.refl cursor) _
  | succ fuel ih =>
      rw [uriText]
      split
      · exact ((ih _).trans cursor.reaches_step).bind fun _ _ hafter =>
          .ok hafter _
      · split
        · refine (readsOn_uriBytes _ cursor).bind
            fun bytes escaped hescaped => ?_
          dsimp only
          split
          · exact .refuse _
          · exact ((ih escaped).trans hescaped).bind fun _ _ hafter =>
              .ok hafter _
        · exact .ok (.refl cursor) _

theorem readsOn_uri (cursor : Cursor) : ReadsOn cursor (uri cursor) := by
  unfold uri
  refine (readsOn_uriText _ cursor).bind fun text after hafter => ?_
  dsimp only
  split
  · exact .refuse _
  · exact .ok hafter _

theorem readsOn_tagToken (cursor : Cursor) :
    ReadsOn cursor.step (tagToken cursor) := by
  unfold tagToken
  extract_lets c finish word
  have hfinish (token : Token) (after : Cursor)
      (hafter : cursor.step.Reaches after) :
      ReadsOn cursor.step (finish (token, after)) := by
    dsimp only [finish]
    split
    · exact .ok hafter _
    · exact .refuse _
  split
  · refine ((readsOn_uri _).trans (cursor.step.reaches_forward 1)).bind
      fun name after hafter => ?_
    dsimp only
    split
    · exact .bind (.ok (hafter.trans after.reaches_step) _) hfinish
    · exact .bind (.refuse after) hfinish
  · split
    · exact .bind (.ok (.refl _) _) hfinish
    · split
      · refine (readsOn_tagHandle cursor).bind fun handle after hafter => ?_
        refine ((readsOn_uri after).trans hafter).bind fun _ last hlast => ?_
        exact .bind (.ok hlast _) hfinish
      · exact (readsOn_uri _).bind fun _ last hlast =>
          .bind (.ok hlast _) hfinish

/-! ## Directives -/

theorem readsOn_versionNumber (cursor : Cursor) :
    ReadsOn cursor (versionNumber cursor) := by
  have hdigits := cursor.reaches_takeWhile Text.isAsciiDigit
  unfold versionNumber
  refine .check fun _ => ?_
  split
  · exact .error _
  · split
    · exact .error _
    · exact .ok hdigits _

theorem readsOn_versionDirective (cursor : Cursor) :
    ReadsOn cursor (versionDirective cursor) := by
  unfold versionDirective
  refine ((readsOn_versionNumber _).trans cursor.reaches_skipSpaces).bind
    fun major after hafter => ?_
  dsimp only
  split
  · exact .refuse _
  · refine ((readsOn_versionNumber _).trans
      (hafter.trans after.reaches_step)).bind
      fun minor last hlast => ?_
    dsimp only
    split
    · exact .ok hlast _
    · exact .refuse _

theorem readsOn_handleDirective (cursor : Cursor) :
    ReadsOn cursor (handleDirective cursor) := by
  unfold handleDirective
  refine ((readsOn_tagHandle _).trans
    (cursor.reaches_skipSpaces.trans (Cursor.reaches_step _))).bind
      fun handle after hafter => ?_
  dsimp only
  split
  · exact .refuse _
  · refine ((readsOn_uri _).trans (hafter.trans after.reaches_skipSpaces)).bind
      fun start last hlast => ?_
    dsimp only
    split
    · exact .ok hlast _
    · exact .refuse _

theorem readsOn_directiveToken (cursor : Cursor) :
    ReadsOn cursor.step (directiveToken cursor) := by
  have hname := cursor.step.reaches_takeWhile isWordChar
  unfold directiveToken
  dsimp only
  split
  · exact .refuse _
  · have hfinish (directive : Directive) (after : Cursor)
        (hafter : cursor.step.Reaches after) :
        ReadsOn cursor.step (endOfLine after >>= fun last =>
          pure (Token.directive directive, last)) :=
      .endOfLine hafter fun _ hlast => .ok hlast _
    split
    · exact ((readsOn_versionDirective _).trans hname).bind hfinish
    · split
      · exact ((readsOn_handleDirective _).trans hname).bind hfinish
      · exact .bind (.ok (hname.trans (Cursor.reaches_skipWhile _ _)) _) hfinish

end TraitIndex.Yaml
