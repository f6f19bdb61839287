import A5cCell.Spa.SseRoundTrip

/-!
# A stream whose lines are each sent as an event

Each line of a stream that holds something, with an empty line after it, is an event of its own. What
is read of such a stream is what was read of the first one where none of its events has two lines:
`events_of_lines_iff`.
-/

namespace A5cCell.Spa

open TextDecoder (lineEnd)

/-- The lines of a block that hold more than white space. -/
def heldLines (block : Text) : List Text := (block.splitOnP lineEnd).filter fun line => ¬ IsBlank line

theorem isBlank_lineEnd {c : Char} (h : lineEnd c = true) : IsBlank [c] := by
  intro d hd
  rw [List.mem_singleton] at hd
  rw [lineEnd, Bool.or_eq_true, beq_iff_eq, beq_iff_eq] at h
  subst hd
  rcases h with rfl | rfl
  · decide
  · decide

/-- A text that ends a line is that line, its end and the rest; else it is one line. -/
theorem line_cases (text : Text) : text.splitOnP lineEnd = [text] ∨
    ∃ line c rest, text = line ++ c :: rest ∧ lineEnd c = true ∧
      text.splitOnP lineEnd = line :: rest.splitOnP lineEnd ∧ rest.length < text.length := by
  induction text with
  | nil => exact Or.inl rfl
  | cons d text ih =>
    rw [List.splitOnP_cons_eq_if_modifyHead]
    cases hd : lineEnd d with
    | true => exact Or.inr ⟨[], d, text, rfl, hd, by simp, by simp⟩
    | false =>
      rcases ih with hwhole | ⟨line, c, rest, rfl, hc, hsplit, hlength⟩
      · left
        rw [hwhole]
        simp
      · right
        refine ⟨d :: line, c, rest, rfl, hc, ?_, Nat.lt_succ_of_lt hlength⟩
        rw [hsplit]
        simp

/-- What holds of one line, and of a line before what it holds of, holds of every text. -/
theorem lines_induction {motive : Text → Prop}
    (one : ∀ line, line.splitOnP lineEnd = [line] → motive line)
    (more : ∀ line c rest, lineEnd c = true →
      (line ++ c :: rest).splitOnP lineEnd = line :: rest.splitOnP lineEnd → motive rest →
      motive (line ++ c :: rest))
    (text : Text) : motive text := by
  induction hn : text.length using Nat.strong_induction_on generalizing text with
  | _ n ih =>
    rcases line_cases text with hone | ⟨line, c, rest, rfl, hc, hsplit, hlength⟩
    · exact one text hone
    · exact more line c rest hc hsplit (ih rest.length (hn ▸ hlength) rest rfl)

/-- Text is white space where all its lines are. -/
theorem isBlank_of_lines {text : Text} (h : ∀ line ∈ text.splitOnP lineEnd, IsBlank line) :
    IsBlank text := by
  induction text using lines_induction with
  | one line hsplit => exact h line (by rw [hsplit]; exact List.mem_cons_self)
  | more line c rest hc hsplit ih =>
    rw [hsplit, List.forall_mem_cons] at h
    exact h.1.append ((isBlank_lineEnd hc).append (ih h.2))

theorem isBlank_of_heldLines {block : Text} (h : heldLines block = []) : IsBlank block := by
  apply isBlank_of_lines
  intro line hline
  by_contra hheld
  exact List.ne_nil_of_mem (List.mem_filter.2 ⟨hline, by simpa using hheld⟩) h

/-- A block with one line that holds something is read as that line. -/
theorem parse_lines {block : Text} (h : (heldLines block).length ≤ 1) :
    (block.splitOnP lineEnd).filterMap parseSseEvent = (parseSseEvent block).toList := by
  induction block using lines_induction with
  | one line hsplit =>
    rw [hsplit, List.filterMap_cons]
    cases parseSseEvent line <;> rfl
  | more line c rest hc hsplit ih =>
    unfold heldLines at h
    rw [hsplit] at h ⊢
    have hend : line ++ c :: rest = line ++ [c] ++ rest := by simp
    by_cases hline : IsBlank line
    · rw [List.filter_cons_of_neg (by simpa)] at h
      rw [List.filterMap_cons_none (parseSseEvent_blank hline), ih h, hend,
        parseSseEvent_blank_append (hline.append (isBlank_lineEnd hc))]
    · rw [List.filter_cons_of_pos (by simpa), List.length_cons] at h
      have hnone : heldLines rest = [] :=
        List.length_eq_zero_iff.1 (Nat.le_zero.1 (Nat.le_of_succ_le_succ h))
      have hrest := isBlank_of_heldLines hnone
      rw [List.filterMap_cons, filterMap_parse, show (rest.splitOnP lineEnd).filter _ = [] from hnone,
        hend, List.append_assoc, parseSseEvent_append_blank _ ((isBlank_lineEnd hc).append hrest)]
      cases parseSseEvent line <;> rfl

/-- An event has a line that holds something. -/
theorem length_parse_le (block : Text) :
    (parseSseEvent block).toList.length ≤ (heldLines block).length := by
  cases hparse : parseSseEvent block with
  | none => exact Nat.zero_le _
  | some e =>
    have hne : heldLines block ≠ [] := by
      intro hnone
      rw [parseSseEvent_blank (isBlank_of_heldLines hnone)] at hparse
      exact absurd hparse (by simp)
    exact List.length_pos_iff.2 hne

/-- The lines of a stream are those of its blocks. -/
theorem lines_of_blocks (text : Text) : (text.splitOnP lineEnd).filterMap parseSseEvent =
    (pieces text).flatMap fun block => (block.splitOnP lineEnd).filterMap parseSseEvent := by
  have hjoin : ∀ bs : List Text, bs ≠ [] →
      ((['\n', '\n'].intercalate bs).splitOnP lineEnd).filterMap parseSseEvent =
        bs.flatMap fun block => (block.splitOnP lineEnd).filterMap parseSseEvent := by
    intro bs
    induction bs with
    | nil => exact fun hne => absurd rfl hne
    | cons b bs ih =>
      intro _
      cases bs with
      | nil => simp
      | cons b' bs =>
        have hempty : ([[]] : List Text).filterMap parseSseEvent = [] := rfl
        rw [List.intercalate_cons_cons, List.append_assoc]
        show ((b ++ '\n' :: ([] ++ '\n' :: ['\n', '\n'].intercalate (b' :: bs))).splitOnP
          lineEnd).filterMap parseSseEvent = _
        rw [List.splitOnP_append_cons b _ (by decide), List.splitOnP_append_cons [] _ (by decide),
          List.splitOnP_nil, List.filterMap_append, List.filterMap_append, hempty, List.nil_append,
          ih (by simp)]
        rfl
  have hne : pieces text ≠ [] := by simp [pieces]
  rw [← hjoin _ hne, intercalate_pieces]

/-- What is read of an event: its name and its data. -/
def SseEvent.said (e : SseEvent) : Text × Text := (e.event, e.data)

/-- The lines of a stream are read as its events where no event has two lines that hold something. -/
theorem events_of_lines_iff (text : Text) :
    ((text.splitOnP lineEnd).filterMap parseSseEvent).map SseEvent.said =
        (eventsOf text).map SseEvent.said ↔
      ∀ block ∈ pieces text, (heldLines block).length ≤ 1 := by
  rw [lines_of_blocks, eventsOf]
  generalize pieces text = bs
  have hheld : ∀ block : Text, ((block.splitOnP lineEnd).filterMap parseSseEvent).length =
      (heldLines block).length := fun block => length_filterMap_parse _
  constructor
  · intro h
    have hlength := congrArg List.length h
    rw [List.length_map, List.length_map] at hlength
    clear h
    -- Of equal lengths: a block is one event at most, and has a line for each of its own.
    have hle : ∀ bs : List Text, (bs.filterMap parseSseEvent).length ≤
        (bs.flatMap fun block => (block.splitOnP lineEnd).filterMap parseSseEvent).length := by
      intro bs
      induction bs with
      | nil => simp
      | cons b bs ih =>
        have hb := length_parse_le b
        rw [List.flatMap_cons, List.length_append, hheld, List.filterMap_cons]
        cases hparse : parseSseEvent b with
        | none => simp only; omega
        | some e =>
          rw [hparse] at hb
          simp only [Option.toList_some, List.length_singleton] at hb
          simp only [List.length_cons]
          omega
    induction bs with
    | nil => simp
    | cons b bs ih =>
      have hb := length_parse_le b
      have hrest := hle bs
      rw [List.flatMap_cons, List.length_append, hheld, List.filterMap_cons] at hlength
      rw [List.forall_mem_cons]
      cases hparse : parseSseEvent b with
      | none =>
        rw [hparse] at hlength
        simp only at hlength
        exact ⟨by omega, ih (by omega)⟩
      | some e =>
        rw [hparse] at hlength hb
        simp only [Option.toList_some, List.length_singleton] at hb
        simp only [List.length_cons] at hlength
        exact ⟨by omega, ih (by omega)⟩
  · intro h
    congr 1
    induction bs with
    | nil => rfl
    | cons b bs ih =>
      rw [List.forall_mem_cons] at h
      rw [List.flatMap_cons, parse_lines h.1, ih h.2, List.filterMap_cons]
      cases parseSseEvent b <;> rfl

/-! ## Lines as blocks -/

theorem blocks_line {line : Text} (h : '\n' ∉ line) (rest : Text) :
    blocks (line ++ '\n' :: '\n' :: rest) = (line :: (blocks rest).1, (blocks rest).2) := by
  have hcut : blocks ('\n' :: '\n' :: rest) = ([] :: (blocks rest).1, (blocks rest).2) := rfl
  rw [blocks_prepend h hcut, List.append_nil]

/-- Lines with an empty line after each are a block each. -/
theorem eventsOf_lines {lines : List Text} (h : ∀ line ∈ lines, '\n' ∉ line) :
    eventsOf (lines.flatMap fun line => line ++ ['\n', '\n']) = lines.filterMap parseSseEvent := by
  have hpieces : pieces (lines.flatMap fun line => line ++ ['\n', '\n']) = lines ++ [[]] := by
    induction lines with
    | nil => rfl
    | cons line lines ih =>
      rw [List.forall_mem_cons] at h
      have hcut := blocks_line h.1 (lines.flatMap fun line => line ++ ['\n', '\n'])
      have htext : (line :: lines).flatMap (fun line => line ++ ['\n', '\n']) =
          line ++ '\n' :: '\n' :: lines.flatMap (fun line => line ++ ['\n', '\n']) := by simp
      rw [pieces, htext, hcut, List.cons_append, ← pieces, ih h.2, List.cons_append]
  rw [eventsOf, hpieces, List.filterMap_append, show ([[]] : List Text).filterMap parseSseEvent = []
    from rfl, List.append_nil]

theorem pieces_onto {c : Char} (h : c ≠ '\n') (text : Text) :
    ∃ block more, pieces text = block :: more ∧ pieces (c :: text) = (c :: block) :: more := by
  unfold pieces
  rw [blocks_cons h]
  cases hcut : blocks text with
  | mk bs rest =>
    cases bs with
    | nil => exact ⟨rest, [], rfl, rfl⟩
    | cons block bs => exact ⟨block, bs ++ [rest], rfl, rfl⟩

/-- A byte order mark does not count. -/
theorem eventsOf_withoutMark (text : Text) :
    eventsOf (TextDecoder.withoutMark false text) = eventsOf text := by
  cases text with
  | nil => rfl
  | cons c text =>
    show eventsOf (if _ then text else c :: text) = _
    split
    next hmark =>
      have hc : c = TextDecoder.byteOrderMark := by simpa using hmark
      have hblank : IsBlank [c] := by
        rw [hc]
        decide
      obtain ⟨block, more, htext, hmarked⟩ := pieces_onto (c := c) (by rw [hc]; decide) text
      rw [eventsOf, eventsOf, htext, hmarked, List.filterMap_cons, List.filterMap_cons,
        show c :: block = [c] ++ block from rfl, parseSseEvent_blank_append hblank]
    · rfl

end A5cCell.Spa
