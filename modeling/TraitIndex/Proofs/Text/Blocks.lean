import Mathlib.Data.List.Basic
import TraitIndex.Proofs.Text.Decoding
import TraitIndex.Text.Pieces

/-!
# A text read block by block

Wherever the blocks end, in the middle of a character or of a line end, the
pieces that are handed out make up the text that the bytes make as a whole.
Bytes that make no text are met as a fault.
-/

namespace TraitIndex.Text

namespace Feed

/-- The text that a feed has left to hand out, if its bytes make one. -/
def left (feed : Feed) : Option (List Char) :=
  (decodeUtf8 (feed.incomplete ++ feed.bytes)).toOption.map fun text =>
    feed.ready ++ unifyLineEnds
      (if feed.returnWaits then '\r' :: text else text)

/-- At least as much as the characters that are left to hand out. -/
def size (feed : Feed) : Nat :=
  feed.ready.length + feed.returnWaits.toNat + feed.incomplete.length +
    feed.bytes.length

theorem blockSize_pos (feed : Feed) (wanted : Nat) :
    0 < feed.blockSize wanted :=
  Nat.lt_of_lt_of_le (by decide) (Nat.le_max_left leastBlock _)

/-! ## One block -/

theorem decodeBlock_ok {isLast : Bool} {bytes incomplete : List UInt8}
    {text : List Char} (h : decodeBlock isLast bytes = .ok (text, incomplete)) :
    (∃ whole, bytes = whole ++ incomplete ∧ decodeUtf8 whole = .ok text) ∧
      (isLast = true → incomplete = []) := by
  unfold decodeBlock at h
  cases hdecoded : decodeUtf8 bytes with
  | ok whole =>
      rw [hdecoded] at h
      obtain ⟨rfl, rfl⟩ := Prod.mk.inj (Except.ok.inj h)
      exact ⟨⟨bytes, (List.append_nil _).symm, hdecoded⟩, fun _ => rfl⟩
  | error fault =>
      rw [hdecoded] at h
      dsimp only at h
      split at h
      · next hgoes =>
          obtain ⟨whole, hwhole, hread⟩ := exists_of_map_eq_ok h
          obtain ⟨rfl, rfl⟩ := Prod.mk.inj hread
          refine ⟨⟨_, (List.take_append_drop _ _).symm, hwhole⟩, ?_⟩
          rintro rfl
          simp at hgoes
      · cases h

/-- Bytes that a block is refused for make no text, whatever comes after
them. -/
theorem decodeBlock_error {isLast : Bool} {bytes : List UInt8}
    {fault : Utf8Fault} (h : decodeBlock isLast bytes = .error fault)
    {rest : List UInt8} (hrest : isLast = true → rest = []) :
    (decodeUtf8 (bytes ++ rest)).toOption = none := by
  unfold decodeBlock at h
  cases hdecoded : decodeUtf8 bytes with
  | ok whole =>
      rw [hdecoded] at h
      cases h
  | error cause =>
      rw [hdecoded] at h
      dsimp only at h
      split at h
      · obtain ⟨text, htext⟩ := exists_decodeUtf8_take hdecoded
        rw [htext] at h
        cases h
      · next hgoes =>
          cases isLast with
          | true =>
              rw [hrest rfl, List.append_nil, hdecoded]
              rfl
          | false =>
              have hend : cause.complaint ≠ .endOfData := by
                intro hend
                apply hgoes
                simp only [goesOn, hend]
                split <;> simp
              rw [decodeUtf8, utf8Chars_append_of_error hdecoded hend]
              rfl

/-! ### Carriage returns -/

/-- The characters of a block behind the carriage return that waited for
them. -/
def blockText (waits isLast : Bool) (decoded : List Char) : List Char :=
  if waits && (isLast || !decoded.isEmpty) then '\r' :: decoded else decoded

/-- Whether the last character of a block waits for what comes after it. -/
def endsInReturn (isLast : Bool) (text : List Char) : Bool :=
  !isLast && text.getLast? = some '\r'

/-- The characters of a block that are complete, with their line ends
unified. -/
def blockReady (waits isLast : Bool) (decoded : List Char) : List Char :=
  let text := blockText waits isLast decoded
  unifyLineEnds (if endsInReturn isLast text then text.dropLast else text)

def blockWaits (waits isLast : Bool) (decoded : List Char) : Bool :=
  endsInReturn isLast (blockText waits isLast decoded) ||
    (waits && !(isLast || !decoded.isEmpty))

/-- The feed after a block that makes the given characters and leaves the given
bytes. -/
def afterBlock (feed : Feed) (wanted : Nat) (decoded : List Char)
    (incomplete : List UInt8) :
    Feed :=
  let block := feed.bytes.take (feed.blockSize wanted)
  let complete := blockReady feed.returnWaits block.isEmpty decoded
  { bytes := feed.bytes.drop (feed.blockSize wanted)
    incomplete := incomplete
    returnWaits := blockWaits feed.returnWaits block.isEmpty decoded
    ready := feed.ready ++ complete
    blockBytes := block.length
    blockChars := complete.length }

theorem refill_eq (feed : Feed) (wanted : Nat) :
    feed.refill wanted =
      (decodeBlock (feed.bytes.take (feed.blockSize wanted)).isEmpty
        (feed.incomplete ++ feed.bytes.take (feed.blockSize wanted))).map
          fun read => feed.afterBlock wanted read.1 read.2 := by
  change decodeBlock _ _ >>=
    (fun read => .ok (feed.afterBlock wanted read.1 read.2)) = _
  cases decodeBlock (feed.bytes.take (feed.blockSize wanted)).isEmpty
    (feed.incomplete ++ feed.bytes.take (feed.blockSize wanted)) <;> rfl

/-- A block leaves a carriage return waiting where it was, or puts it before its
characters. -/
theorem blockText_cases (waits isLast : Bool) (decoded : List Char) :
    (waits = true ∧ isLast = false ∧ decoded = []) ∨
      (blockText waits isLast decoded = if waits then '\r' :: decoded
          else decoded) ∧
        blockWaits waits isLast decoded =
          endsInReturn isLast (blockText waits isLast decoded) := by
  by_cases hnone : (waits && !(isLast || !decoded.isEmpty)) = true
  · exact .inl (by simpa using hnone)
  · refine .inr ⟨?_,
      by rw [blockWaits, Bool.eq_false_iff.mpr hnone, Bool.or_false]⟩
    cases waits with
    | false => rfl
    | true =>
        have hmore : (isLast || !decoded.isEmpty) = true := by
          cases h : isLast || !decoded.isEmpty with
          | true => rfl
          | false => exact absurd (by rw [h]; rfl) hnone
        rw [blockText, hmore]
        rfl

/-- A line end that a block ends in is unified with what comes after it. -/
theorem unifyLineEnds_block {waits isLast : Bool} {decoded rest : List Char}
    (hrest : isLast = true → rest = []) :
    unifyLineEnds (if waits then '\r' :: (decoded ++ rest)
      else decoded ++ rest) = blockReady waits isLast decoded ++
        unifyLineEnds (if blockWaits waits isLast decoded then '\r' :: rest
          else rest) := by
  obtain ⟨rfl, rfl, rfl⟩ | ⟨htext, hwaits⟩ :=
    blockText_cases waits isLast decoded
  · rfl
  · have hall : (if waits then '\r' :: (decoded ++ rest) else decoded ++ rest) =
        blockText waits isLast decoded ++ rest := by
      rw [htext]
      split <;> rfl
    rw [hall, hwaits, blockReady]
    split
    · next hends =>
        have hlast : (blockText waits isLast decoded).getLast? = some '\r' := by
          rw [endsInReturn, Bool.and_eq_true, decide_eq_true_eq] at hends
          exact hends.2
        have hsplit := List.dropLast_append_getLast? '\r' hlast
        rw [← unifyLineEnds_append (.inr (by simp)), List.append_cons, hsplit]
    · next hends =>
        refine unifyLineEnds_append ?_
        cases isLast with
        | true => exact .inr (by simp [hrest rfl])
        | false => exact .inl (by simpa [endsInReturn] using hends)

theorem length_blockReady_add (waits isLast : Bool) (decoded : List Char) :
    (blockReady waits isLast decoded).length +
      (blockWaits waits isLast decoded).toNat ≤
      decoded.length + waits.toNat := by
  obtain ⟨rfl, rfl, rfl⟩ | ⟨htext, hwaits⟩ :=
    blockText_cases waits isLast decoded
  · exact Nat.le_refl 1
  · have hlength : (blockText waits isLast decoded).length =
        decoded.length + waits.toNat := by
      rw [htext]
      cases waits <;> rfl
    rw [hwaits, ← hlength, blockReady]
    refine Nat.le_trans (Nat.add_le_add_right (length_unifyLineEnds _) _) ?_
    split
    · next hends =>
        have hne : blockText waits isLast decoded ≠ [] := by
          intro hnil
          simp [hnil, endsInReturn] at hends
        have hpos := List.length_pos_iff.mpr hne
        rw [hends, List.length_dropLast, Bool.toNat_true]
        omega
    · next hends =>
        rw [Bool.eq_false_iff.mpr hends]
        exact Nat.le_refl _

/-! ### A refill -/

section

variable {feed next : Feed} {wanted : Nat} {fault : Utf8Fault}

theorem take_blockSize_isEmpty (feed : Feed) (wanted : Nat) :
    (feed.bytes.take (feed.blockSize wanted)).isEmpty = true ↔
      feed.bytes = [] := by
  have hpos := feed.blockSize_pos wanted
  rw [List.isEmpty_iff, List.take_eq_nil_iff, or_iff_right (Nat.ne_of_gt hpos)]

theorem refill_error (h : feed.refill wanted = .error fault) :
    feed.left = none := by
  rw [refill_eq] at h
  have hrest : (feed.bytes.take (feed.blockSize wanted)).isEmpty = true →
      feed.bytes.drop (feed.blockSize wanted) = [] := by
    intro hempty
    rw [(take_blockSize_isEmpty feed wanted).mp hempty, List.drop_nil]
  have hnone := decodeBlock_error (eq_error_of_map h) hrest
  rw [List.append_assoc, List.take_append_drop] at hnone
  rw [left, hnone]
  rfl

/-- What a refill keeps: the text that is left, which is all ready when there
were no more bytes. -/
structure Refills (feed next : Feed) (wanted : Nat) : Prop where
  left_eq : next.left = feed.left
  size_le : next.size ≤ feed.size
  bytes_eq : next.bytes = feed.bytes.drop (feed.blockSize wanted)
  left_of_end : feed.bytes = [] → next.left = some next.ready

theorem refill_ok (h : feed.refill wanted = .ok next) :
    Refills feed next wanted := by
  rw [refill_eq] at h
  obtain ⟨⟨decoded, incomplete⟩, hdecoded, rfl⟩ := exists_of_map_eq_ok h
  obtain ⟨⟨whole, hsplit, hwhole⟩, hlast⟩ := decodeBlock_ok hdecoded
  have hend (hbytes : feed.bytes = []) :
      incomplete = [] ∧ feed.bytes.drop (feed.blockSize wanted) = [] := by
    refine ⟨hlast ((take_blockSize_isEmpty feed wanted).mpr hbytes), ?_⟩
    rw [hbytes, List.drop_nil]
  have hbytes : feed.incomplete ++ feed.bytes =
      whole ++ (incomplete ++ feed.bytes.drop (feed.blockSize wanted)) := by
    rw [← List.append_assoc, ← hsplit, List.append_assoc, List.take_append_drop]
  constructor
  · rw [left, left, hbytes, toOption_decodeUtf8_append hwhole, Option.map_map]
    cases hrest : (decodeUtf8
      (incomplete ++ feed.bytes.drop (feed.blockSize wanted))).toOption with
    | none => simp only [afterBlock, hrest, Option.map_none]
    | some rest =>
        have hnil : (feed.bytes.take (feed.blockSize wanted)).isEmpty = true →
            rest = [] := by
          intro hempty
          obtain ⟨rfl, hdrop⟩ :=
            hend ((take_blockSize_isEmpty feed wanted).mp hempty)
          rw [hdrop] at hrest
          exact (Option.some.inj hrest).symm
        simp only [afterBlock, hrest, Option.map_some, Function.comp_apply,
          List.append_assoc]
        exact congrArg (fun text => some (feed.ready ++ text))
          (unifyLineEnds_block hnil).symm
  · have hread := length_blockReady_add feed.returnWaits
      (feed.bytes.take (feed.blockSize wanted)).isEmpty decoded
    have hchars := length_of_utf8Chars hwhole
    have hlength := congrArg List.length hbytes
    simp only [List.length_append] at hlength
    simp only [size, afterBlock, List.length_append]
    omega
  · rfl
  · intro hnone
    obtain ⟨rfl, hdrop⟩ := hend hnone
    have hempty := (take_blockSize_isEmpty feed wanted).mpr hnone
    have hwaits : blockWaits feed.returnWaits true decoded = false := by
      simp [blockWaits, endsInReturn]
    simp only [left, afterBlock, hdrop, hempty, hwaits]
    exact congrArg some (List.append_nil _)

end

/-! ## The pieces -/

section

variable {feed next : Feed} {count fuel : Nat} {fault : Utf8Fault}

theorem fill_error (h : feed.fill count fuel = .error fault) :
    feed.left = none := by
  induction fuel generalizing feed with
  | zero => cases h
  | succ fuel ih =>
      rw [fill] at h
      split at h
      · cases h
      · cases hmore : feed.refill (count - feed.ready.length) with
        | error cause => exact refill_error hmore
        | ok more =>
            simp only [hmore, bind, Except.bind] at h
            split at h
            · cases h
            · rw [← (refill_ok hmore).left_eq]
              exact ih h

/-- A feed is filled to the count, or with all that is left. -/
theorem fill_ok (hfuel : feed.bytes.length < fuel)
    (h : feed.fill count fuel = .ok next) :
    next.left = feed.left ∧ next.size ≤ feed.size ∧
      (count ≤ next.ready.length ∨ next.left = some next.ready) := by
  induction fuel generalizing feed with
  | zero => exact absurd hfuel (Nat.not_lt_zero _)
  | succ fuel ih =>
      rw [fill] at h
      split at h
      · next hcount =>
          obtain rfl := Except.ok.inj h
          exact ⟨rfl, Nat.le_refl _, .inl hcount⟩
      · cases hmore : feed.refill (count - feed.ready.length) with
        | error cause =>
            simp only [hmore, bind, Except.bind] at h
            cases h
        | ok more =>
            simp only [hmore, bind, Except.bind] at h
            obtain ⟨hleft, hsize, hbytes, hend⟩ := refill_ok hmore
            split at h
            · next hempty =>
                obtain rfl := Except.ok.inj h
                exact ⟨hleft, hsize, .inr (hend (List.isEmpty_iff.mp hempty))⟩
            · next hempty =>
                have hpos := feed.blockSize_pos (count - feed.ready.length)
                have hne : 0 < feed.bytes.length :=
                  List.length_pos_iff.mpr fun hnil => hempty (by rw [hnil]; rfl)
                have hless : more.bytes.length < fuel := by
                  rw [hbytes, List.length_drop]
                  omega
                obtain ⟨hfilled, hfilledSize, hready⟩ := ih hless h
                exact ⟨hfilled.trans hleft,
                  Nat.le_trans hfilledSize hsize, hready⟩

theorem left_drop_ready (feed : Feed) (count : Nat) :
    feed.left = ({ feed with ready := feed.ready.drop count } : Feed).left.map
      (feed.ready.take count ++ ·) := by
  simp only [left, Option.map_map]
  congr 1
  funext text
  rw [Function.comp_apply, ← List.append_assoc, List.take_append_drop]

/-- The pieces make up the text that is left.  If there is none, a fault is
met. -/
theorem pieces_of_size_lt (hfuel : feed.size < fuel) :
    (∀ text, feed.left = some text →
      (feed.pieces fuel).fault = none ∧
        (feed.pieces fuel).pieces.flatten = text) ∧
    (feed.left = none → ∃ fault, (feed.pieces fuel).fault = some fault) := by
  induction fuel generalizing feed with
  | zero => exact absurd hfuel (Nat.not_lt_zero _)
  | succ fuel ih =>
      rw [pieces]
      cases hfill : feed.fill pieceLength (feed.bytes.length + 1) with
      | error fault =>
          have hnone := fill_error hfill
          refine ⟨fun text htext => ?_, fun _ => ⟨fault, rfl⟩⟩
          cases hnone.symm.trans htext
      | ok filled =>
          obtain ⟨hleft, hsize, hready⟩ := fill_ok (Nat.lt_succ_self _) hfill
          rw [← hleft]
          dsimp only
          split
          · next hempty =>
              have hnil := List.isEmpty_iff.mp hempty
              have hend : filled.left = some [] := by
                obtain hcount | hall := hready
                · rw [hnil] at hcount
                  exact absurd hcount (by decide)
                · rw [hall, hnil]
              rw [hend]
              refine ⟨fun text htext => ⟨rfl, Option.some.inj htext⟩,
                fun hnone => ?_⟩
              cases hnone
          · next hempty =>
              have hpos : 0 < filled.ready.length :=
                List.length_pos_iff.mpr fun hnil => hempty (by rw [hnil]; rfl)
              have hless : Feed.size
                  { filled with ready := filled.ready.drop pieceLength } <
                    fuel := by
                have hpiece : 0 < pieceLength := by decide
                simp only [size, List.length_drop] at hfuel hsize ⊢
                omega
              obtain ⟨htext, hfault⟩ := ih hless
              rw [left_drop_ready filled pieceLength]
              refine ⟨fun text hsome => ?_, fun hnone => ?_⟩
              · obtain ⟨rest, hrest, rfl⟩ := Option.map_eq_some_iff.mp hsome
                obtain ⟨hnofault, hflatten⟩ := htext rest hrest
                refine ⟨hnofault, ?_⟩
                rw [Pieces.cons, List.flatten_cons, hflatten]
              · exact hfault (Option.map_eq_none_iff.mp hnone)

end

end Feed

/-! ## The whole text -/

theorem left_start (bytes : List UInt8) :
    (Feed.start bytes).left = (decodeUtf8 bytes).toOption.map unifyLineEnds :=
  rfl

theorem piecesOfBytes_of_ok {bytes : List UInt8} {text : List Char}
    (h : decodeUtf8 bytes = .ok text) :
    (piecesOfBytes bytes).fault = none ∧
      (piecesOfBytes bytes).pieces.flatten = unifyLineEnds text := by
  have hsize : (Feed.start bytes).size < bytes.length + 1 := by
    simp [Feed.size, Feed.start]
  refine (Feed.pieces_of_size_lt hsize).1 _ ?_
  rw [left_start, h]
  rfl

theorem piecesOfBytes_of_error {bytes : List UInt8} {fault : Utf8Fault}
    (h : decodeUtf8 bytes = .error fault) : ∃ met,
      (piecesOfBytes bytes).fault = some met := by
  have hsize : (Feed.start bytes).size < bytes.length + 1 := by
    simp [Feed.size, Feed.start]
  refine (Feed.pieces_of_size_lt hsize).2 ?_
  rw [left_start, h]
  rfl

end TraitIndex.Text
