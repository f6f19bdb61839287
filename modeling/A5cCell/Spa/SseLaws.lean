import A5cCell.Spa.Sse

/-!
# What the parser of server-sent events yields

The events of a stream are those of its blocks (`read_eq`), whatever the chunks it came in. A line
end of CR LF is never seen as the end of a block, so that all of such a stream is one event:
`eventsOf_crlfText_iff` says where that does not matter.
-/

namespace A5cCell.Spa

/-! ## The blocks of a text -/

/-- A character before what was cut. -/
def onto (c : Char) : List Text × Text → List Text × Text
  | ([], rest) => ([], c :: rest)
  | (block :: blocks, rest) => ((c :: block) :: blocks, rest)

/-- What ends in an empty line, and what is left. -/
def blocks : Text → List Text × Text
  | '\n' :: '\n' :: rest => ([] :: (blocks rest).1, (blocks rest).2)
  | c :: rest => onto c (blocks rest)
  | [] => ([], [])

/-- The blocks, with what is left as the last one. -/
def pieces (text : Text) : List Text := (blocks text).1 ++ [(blocks text).2]

theorem blocks_eq (text : Text) :
    blocks text = match boundary? text with
      | none => ([], text)
      | some boundary => (text.take boundary :: (blocks (text.drop (boundary + 2))).1,
          (blocks (text.drop (boundary + 2))).2) := by
  induction text using blocks.induct with
  | case1 rest ih => rfl
  | case2 c rest hnot ih =>
    rw [blocks.eq_2 c rest hnot, boundary?.eq_2 c rest hnot, ih]
    cases boundary? rest with
    | none => rfl
    | some boundary => rfl
  | case3 => rfl

theorem blocks_cons {c : Char} (h : c ≠ '\n') (rest : Text) :
    blocks (c :: rest) = onto c (blocks rest) :=
  blocks.eq_2 c rest fun _ hc _ => h hc

theorem blocks_newline {rest : Text} (h : rest.head? ≠ some '\n') :
    blocks ('\n' :: rest) = onto '\n' (blocks rest) :=
  blocks.eq_2 '\n' rest fun _ _ hrest => h (by rw [hrest]; rfl)

/-- Where nothing is cut, all the text is left. -/
theorem rest_of_blocks {text : Text} (h : (blocks text).1 = []) : (blocks text).2 = text := by
  rw [blocks_eq] at h ⊢
  cases hb : boundary? text with
  | none => rfl
  | some boundary => rw [hb] at h; exact absurd h (by simp)

theorem onto_fst_nil {c : Char} {cut : List Text × Text} (h : (onto c cut).1 = []) : cut.1 = [] := by
  obtain ⟨bs, rest⟩ := cut
  cases bs with
  | nil => rfl
  | cons block bs => simp [onto] at h

theorem onto_append (c : Char) {cut : List Text × Text} (h : cut.1 ≠ []) (more : List Text × Text) :
    onto c (cut.1 ++ more.1, more.2) = ((onto c cut).1 ++ more.1, more.2) := by
  obtain ⟨bs, rest⟩ := cut
  cases bs with
  | nil => exact absurd rfl h
  | cons block bs => rfl

/-- What comes later does not change what has been cut. -/
theorem blocks_append (a b : Text) :
    blocks (a ++ b) =
      ((blocks a).1 ++ (blocks ((blocks a).2 ++ b)).1, (blocks ((blocks a).2 ++ b)).2) := by
  induction a using blocks.induct with
  | case1 rest ih =>
    show blocks ('\n' :: '\n' :: (rest ++ b)) = _
    simp only [blocks, ih, List.cons_append]
  | case2 c rest hnot ih =>
    by_cases hcut : (blocks rest).1 = []
    · have hall : blocks (c :: rest) = ([], c :: rest) := by
        rw [blocks.eq_2 c rest hnot, show blocks rest = ([], rest) from
          Prod.ext hcut (rest_of_blocks hcut)]
        rfl
      rw [hall]
      rfl
    · have hnonempty : rest ≠ [] := by
        rintro rfl
        exact hcut rfl
      obtain ⟨d, rest', rfl⟩ := List.exists_cons_of_ne_nil hnonempty
      have hnot' : ∀ text, c = '\n' → d :: rest' ++ b = '\n' :: text → False := by
        intro text hc heq
        exact hnot rest' hc (by rw [(List.cons.inj heq).1])
      rw [List.cons_append, blocks.eq_2 c _ hnot', ih, blocks.eq_2 c _ hnot, onto_append c hcut]
      have hrest : (onto c (blocks (d :: rest'))).2 = (blocks (d :: rest')).2 := by
        cases hb : blocks (d :: rest') with
        | mk bs left =>
          cases bs with
          | nil => rw [hb] at hcut; exact absurd rfl hcut
          | cons block bs => rfl
      rw [hrest]
  | case3 => rfl

/-- What is left has nothing to cut. -/
theorem blocks_rest (text : Text) : (blocks (blocks text).2).1 = [] := by
  have happend := congrArg Prod.fst (blocks_append text [])
  simp only [List.append_nil] at happend
  exact List.self_eq_append_right.1 happend

/-- Text without a newline ends no block. -/
theorem blocks_append_of_notMem {a b : Text} (ha : (blocks a).1 = []) (hb : '\n' ∉ b) :
    (blocks (a ++ b)).1 = [] := by
  induction a using blocks.induct with
  | case1 rest ih => simp [blocks] at ha
  | case2 c rest hnot ih =>
    rw [blocks.eq_2 c rest hnot] at ha
    have hnot' : ∀ text, c = '\n' → rest ++ b = '\n' :: text → False := by
      intro text hc heq
      cases rest with
      | nil => exact hb (by rw [show b = '\n' :: text from heq]; exact List.mem_cons_self)
      | cons d rest => exact hnot rest hc (by rw [(List.cons.inj heq).1])
    rw [List.cons_append, blocks.eq_2 c _ hnot']
    have hrest := ih (onto_fst_nil ha)
    cases hcut : blocks (rest ++ b) with
    | mk bs left =>
      rw [hcut] at hrest
      rw [show bs = [] from hrest]
      rfl
  | case3 =>
    rw [List.nil_append]
    clear ha
    induction b with
    | nil => rfl
    | cons c rest ih =>
      rw [List.mem_cons, not_or] at hb
      rw [blocks_cons (Ne.symm hb.1)]
      cases hcut : blocks rest with
      | mk bs left =>
        have hrest := ih hb.2
        rw [hcut] at hrest
        rw [show bs = [] from hrest]
        rfl

theorem pieces_append (a b : Text) : pieces (a ++ b) = (blocks a).1 ++ pieces ((blocks a).2 ++ b) := by
  unfold pieces
  rw [blocks_append, List.append_assoc]

/-! ## The events of a stream are those of its blocks -/

theorem dropWhile_eq_nil {text : Text} : trimStart text = [] ↔ ∀ c ∈ text, isSpace c :=
  List.dropWhile_eq_nil_iff

theorem trim_eq_nil {text : Text} : trim text = [] ↔ ∀ c ∈ text, isSpace c := by
  unfold trim
  rw [List.rdropWhile_eq_nil_iff]
  constructor
  · intro h
    rw [← dropWhile_eq_nil]
    cases hstart : trimStart text with
    | nil => rfl
    | cons c rest =>
      have hc : isSpace c = true := h c (by rw [hstart]; exact List.mem_cons_self)
      have hhead := List.head?_dropWhile_not isSpace text
      rw [show text.dropWhile isSpace = c :: rest from hstart] at hhead
      simp [hc] at hhead
  · intro h c hc
    exact h c ((List.dropWhile_suffix isSpace).subset hc)

/-- Nothing but white space. -/
def IsBlank (text : Text) : Prop := ∀ c ∈ text, isSpace c

instance (text : Text) : Decidable (IsBlank text) :=
  decidable_of_iff (text.all isSpace = true) List.all_eq_true

theorem IsBlank.append {a b : Text} (ha : IsBlank a) (hb : IsBlank b) : IsBlank (a ++ b) := by
  intro c hc
  exact (List.mem_append.1 hc).elim (ha c) (hb c)

theorem IsBlank.withoutCr {text : Text} (h : IsBlank text) : IsBlank (withoutCr text) :=
  fun c hc => h c (List.mem_of_mem_filter hc)

/-- What is taken out is white space. -/
theorem isBlank_withoutCr {text : Text} : IsBlank (withoutCr text) ↔ IsBlank text := by
  refine ⟨fun h c hc => ?_, IsBlank.withoutCr⟩
  by_cases hcr : c = '\r'
  · subst hcr
    decide
  · exact h c (List.mem_filter.2 ⟨hc, by simpa using hcr⟩)

theorem withoutCr_append (a b : Text) : withoutCr (a ++ b) = withoutCr a ++ withoutCr b :=
  List.filter_append a b

theorem trim_blank_append {a : Text} (ha : IsBlank a) (b : Text) : trim (a ++ b) = trim b := by
  rw [trim, trimStart, List.dropWhile_append_of_pos ha]
  rfl

theorem rdropWhile_append_blank (a : Text) {b : Text} (hb : IsBlank b) :
    (a ++ b).rdropWhile isSpace = a.rdropWhile isSpace := by
  unfold List.rdropWhile
  rw [List.reverse_append, List.dropWhile_append_of_pos]
  intro c hc
  exact hb c (List.mem_reverse.1 hc)

theorem trim_append_blank (a : Text) {b : Text} (hb : IsBlank b) : trim (a ++ b) = trim a := by
  by_cases ha : trimStart a = []
  · have hblank : IsBlank a := dropWhile_eq_nil.1 ha
    rw [trim_eq_nil.2 (hblank.append hb), trim_eq_nil.2 hblank]
  · have hstart : trimStart (a ++ b) = trimStart a ++ b := by
      show (a ++ b).dropWhile isSpace = a.dropWhile isSpace ++ b
      rw [List.dropWhile_append, if_neg]
      intro hempty
      exact ha (List.isEmpty_iff.1 hempty)
    rw [trim, hstart, rdropWhile_append_blank _ hb]
    rfl

/-- What is left of a block is all that counts of it. -/
theorem parseSseEvent_congr {a b : Text} (h : trim (withoutCr a) = trim (withoutCr b)) :
    parseSseEvent a = parseSseEvent b := by
  simp only [parseSseEvent, h]

theorem parseSseEvent_blank_append {a : Text} (ha : IsBlank a) (b : Text) :
    parseSseEvent (a ++ b) = parseSseEvent b := by
  apply parseSseEvent_congr
  rw [withoutCr_append, trim_blank_append ha.withoutCr]

theorem parseSseEvent_append_blank (a : Text) {b : Text} (hb : IsBlank b) :
    parseSseEvent (a ++ b) = parseSseEvent a := by
  apply parseSseEvent_congr
  rw [withoutCr_append, trim_append_blank _ hb.withoutCr]

theorem parseSseEvent_eq_none {text : Text} : parseSseEvent text = none ↔ IsBlank text := by
  rw [← isBlank_withoutCr, IsBlank, ← trim_eq_nil]
  unfold parseSseEvent
  constructor
  · intro h
    by_contra hchunk
    rw [if_neg hchunk] at h
    exact absurd h (by simp)
  · intro h
    rw [if_pos h]

/-- White space is no event. -/
theorem parseSseEvent_blank {text : Text} (h : IsBlank text) : parseSseEvent text = none :=
  parseSseEvent_eq_none.2 h

/-- The events of a text. -/
def eventsOf (text : Text) : List SseEvent := (pieces text).filterMap parseSseEvent

theorem drainLoop_eq {n : Nat} {text : Text} (h : text.length ≤ n) :
    drainLoop n text = ((blocks text).1.filterMap parseSseEvent, ⟨(blocks text).2⟩) := by
  induction n generalizing text with
  | zero =>
    rw [List.length_eq_zero_iff.1 (Nat.le_zero.1 h)]
    rfl
  | succ n ih =>
    rw [blocks_eq, drainLoop]
    cases hb : boundary? text with
    | none => rfl
    | some boundary =>
      have hlength : (text.drop (boundary + 2)).length ≤ n := by
        rw [List.length_drop]
        omega
      simp only [ih hlength, List.filterMap_cons]
      cases parseSseEvent (text.take boundary) <;> rfl

theorem flush_eq (p : SseParser) (chunk : Text) :
    p.flush chunk = (parseSseEvent (p.buffer ++ chunk)).toList := by
  show (if _ then _ else _) = _
  split
  next h => rw [parseSseEvent_blank (trim_eq_nil.1 h)]; rfl
  · rfl

theorem notMem_last (d : TextDecoder.Decoder) : '\n' ∉ d.last := by
  unfold TextDecoder.Decoder.last
  cases d.begun with
  | none => simp [TextDecoder.finish, TextDecoder.withoutMark]
  | some begun =>
    show '\n' ∉ TextDecoder.withoutMark d.bomSeen [TextDecoder.replacement]
    cases d.bomSeen <;> decide

theorem readLoop_eq {d : TextDecoder.Decoder} {p : SseParser} (hp : (blocks p.buffer).1 = [])
    (chunks : List (List UInt8)) :
    readLoop d p chunks =
      eventsOf (p.buffer ++ ((d.decode chunks.flatten).2 ++ (d.decode chunks.flatten).1.last)) := by
  induction chunks generalizing d p with
  | nil =>
    have hcut := blocks_append_of_notMem hp (notMem_last d)
    rw [List.flatten_nil, TextDecoder.Decoder.decode_nil, List.nil_append, readLoop, flush_eq,
      eventsOf, pieces, hcut, rest_of_blocks hcut, List.nil_append, List.filterMap_cons]
    cases parseSseEvent (p.buffer ++ d.last) <;> rfl
  | cons value rest ih =>
    rw [List.flatten_cons, TextDecoder.Decoder.decode_append]
    show ((SseParser.drain ⟨p.buffer ++ (d.decode value).2⟩).1 ++
      readLoop (d.decode value).1 (SseParser.drain ⟨p.buffer ++ (d.decode value).2⟩).2 rest) = _
    rw [SseParser.drain, drainLoop_eq (Nat.le_refl _), ih (blocks_rest _), eventsOf, eventsOf,
      ← List.filterMap_append, ← pieces_append]
    simp only [List.append_assoc]

/-- **Chunks do not count**: the events are those of the text that was sent. -/
theorem read_eq (chunks : List (List UInt8)) :
    read chunks = eventsOf (TextDecoder.decode chunks.flatten) :=
  readLoop_eq rfl chunks

/-! ## Line ends -/

/-- No part of a split text has what it was split at. -/
theorem not_of_mem_splitOnP {α : Type} {p : α → Bool} {text part : List α}
    (h : part ∈ text.splitOnP p) : ∀ c ∈ part, p c = false := by
  induction text generalizing part with
  | nil =>
    rw [List.splitOnP_nil, List.mem_singleton] at h
    simp [h]
  | cons d text ih =>
    rw [List.splitOnP_cons_eq_if_modifyHead] at h
    obtain ⟨first, parts, hparts⟩ := List.exists_cons_of_ne_nil (List.splitOnP_ne_nil p text)
    rw [hparts] at ih h
    split at h
    · rcases List.mem_cons.1 h with rfl | htail
      · simp
      · exact ih htail
    next hd =>
      rcases List.mem_cons.1 h with rfl | htail
      · intro c hc
        rcases List.mem_cons.1 hc with rfl | hrest
        · simpa using hd
        · exact ih List.mem_cons_self c hrest
      · exact ih (List.mem_cons_of_mem _ htail)

theorem newline_notMem_of_mem_splitOn {text line : Text} (h : line ∈ text.splitOn '\n') :
    '\n' ∉ line := by
  rw [List.splitOn_eq_splitOnP] at h
  intro hmem
  exact absurd (not_of_mem_splitOnP h '\n' hmem) (by decide)

theorem head?_crlfText (text : Text) : (TextDecoder.crlfText text).head? ≠ some '\n' := by
  cases text with
  | nil => simp [TextDecoder.crlfText]
  | cons c cs =>
    show ((if c = '\n' then ['\r', '\n'] else [c]) ++ TextDecoder.crlfText cs).head? ≠ _
    split
    · simp
    next hc => simpa using hc

/-- Where lines end in CR LF no block ends. -/
theorem blocks_crlfText (text : Text) : (blocks (TextDecoder.crlfText text)).1 = [] := by
  have honto : ∀ c (rest : Text), (blocks rest).1 = [] → (onto c (blocks rest)).1 = [] := by
    intro c rest h
    rw [show blocks rest = ([], (blocks rest).2) from Prod.ext h rfl]
    rfl
  induction text with
  | nil => rfl
  | cons c cs ih =>
    show (blocks ((if c = '\n' then ['\r', '\n'] else [c]) ++ TextDecoder.crlfText cs)).1 = []
    split
    · show (blocks ('\r' :: '\n' :: TextDecoder.crlfText cs)).1 = []
      rw [blocks_cons (by decide)]
      apply honto
      rw [blocks_newline (head?_crlfText cs)]
      exact honto _ _ ih
    next hc =>
      show (blocks (c :: TextDecoder.crlfText cs)).1 = []
      rw [blocks_cons hc]
      exact honto _ _ ih

theorem withoutCr_crlfText (text : Text) :
    withoutCr (TextDecoder.crlfText text) = withoutCr text := by
  induction text with
  | nil => rfl
  | cons c cs ih =>
    show withoutCr ((if c = '\n' then ['\r', '\n'] else [c]) ++ TextDecoder.crlfText cs) =
      withoutCr ([c] ++ cs)
    rw [withoutCr_append, withoutCr_append, ih]
    congr 1
    split
    next hc => rw [hc]; rfl
    · rfl

/-- All of a stream whose lines end in CR LF is one block. -/
theorem eventsOf_crlfText (text : Text) :
    eventsOf (TextDecoder.crlfText text) = (parseSseEvent text).toList := by
  have hcut := blocks_crlfText text
  rw [eventsOf, pieces, hcut, rest_of_blocks hcut, List.nil_append, List.filterMap_cons,
    parseSseEvent_congr (congrArg trim (withoutCr_crlfText text))]
  cases parseSseEvent text <;> rfl

theorem onto_intercalate (c : Char) (cut : List Text × Text) :
    ['\n', '\n'].intercalate ((onto c cut).1 ++ [(onto c cut).2]) =
      c :: ['\n', '\n'].intercalate (cut.1 ++ [cut.2]) := by
  obtain ⟨bs, rest⟩ := cut
  cases bs with
  | nil => simp [onto]
  | cons block bs =>
    obtain ⟨d, ds, hds⟩ := List.exists_cons_of_ne_nil (show bs ++ [rest] ≠ [] by simp)
    simp only [onto, List.cons_append, hds, List.intercalate_cons_cons]

theorem intercalate_pieces (text : Text) : ['\n', '\n'].intercalate (pieces text) = text := by
  unfold pieces
  induction text using blocks.induct with
  | case1 rest ih =>
    obtain ⟨d, ds, hds⟩ :=
      List.exists_cons_of_ne_nil (show (blocks rest).1 ++ [(blocks rest).2] ≠ [] by simp)
    rw [hds] at ih
    simp only [blocks, List.cons_append, hds, List.intercalate_cons_cons, List.nil_append, ih]
  | case2 c rest hnot ih => rw [blocks.eq_2 c rest hnot, onto_intercalate, ih]
  | case3 => rfl

/-- The blocks that hold more than white space. -/
def heldBlocks (text : Text) : List Text := (pieces text).filter fun block => ¬ IsBlank block

theorem filterMap_parse (bs : List Text) :
    bs.filterMap parseSseEvent = (bs.filter fun block => ¬ IsBlank block).filterMap parseSseEvent := by
  induction bs with
  | nil => rfl
  | cons b bs ih =>
    by_cases hb : IsBlank b
    · rw [List.filterMap_cons_none (parseSseEvent_blank hb), List.filter_cons_of_neg (by simpa), ih]
    · rw [List.filter_cons_of_pos (by simpa), List.filterMap_cons, List.filterMap_cons, ih]

/-- Every block that is not blank is an event. -/
theorem length_filterMap_parse (bs : List Text) : (bs.filterMap parseSseEvent).length =
    (bs.filter fun block => ¬ IsBlank block).length := by
  induction bs with
  | nil => rfl
  | cons b bs ih =>
    by_cases hb : IsBlank b
    · rw [List.filterMap_cons_none (parseSseEvent_blank hb), List.filter_cons_of_neg (by simpa), ih]
    · obtain ⟨e, he⟩ := Option.ne_none_iff_exists'.1 (mt parseSseEvent_eq_none.1 hb)
      rw [List.filterMap_cons_some he, List.filter_cons_of_pos (by simpa), List.length_cons,
        List.length_cons, ih]

theorem length_eventsOf (text : Text) : (eventsOf text).length = (heldBlocks text).length :=
  length_filterMap_parse (pieces text)

theorem isBlank_intercalate {bs : List Text} (h : ∀ b ∈ bs, IsBlank b) :
    IsBlank (['\n', '\n'].intercalate bs) := by
  induction bs with
  | nil => simp [IsBlank]
  | cons b bs ih =>
    have hrest := ih fun b' hb' => h b' (List.mem_cons_of_mem _ hb')
    cases bs with
    | nil => simpa using h b List.mem_cons_self
    | cons b' bs =>
      rw [List.intercalate_cons_cons]
      have hnewlines : IsBlank ['\n', '\n'] := by decide
      exact ((h b List.mem_cons_self).append hnewlines).append hrest

/-- Blank blocks around another one do not count. -/
theorem parse_intercalate {bs : List Text}
    (h : (bs.filter fun block => ¬ IsBlank block).length ≤ 1) :
    bs.filterMap parseSseEvent = (parseSseEvent (['\n', '\n'].intercalate bs)).toList := by
  have hnewlines : IsBlank ['\n', '\n'] := by decide
  induction bs with
  | nil => rfl
  | cons b bs ih =>
    cases bs with
    | nil =>
      rw [List.intercalate_singleton, List.filterMap_cons]
      cases parseSseEvent b <;> rfl
    | cons b' bs =>
      rw [List.intercalate_cons_cons]
      by_cases hb : IsBlank b
      · rw [List.filter_cons_of_neg (by simpa)] at h
        rw [List.filterMap_cons_none (parseSseEvent_blank hb), ih h,
          parseSseEvent_blank_append (hb.append hnewlines)]
      · rw [List.filter_cons_of_pos (by simpa), List.length_cons] at h
        have hnone := List.length_eq_zero_iff.1 (Nat.le_zero.1 (Nat.le_of_succ_le_succ h))
        have hrest : ∀ b'' ∈ b' :: bs, IsBlank b'' := by
          intro b'' hb''
          by_contra hheld
          exact List.ne_nil_of_mem (List.mem_filter.2 ⟨hb'', by simpa using hheld⟩) hnone
        rw [List.append_assoc, parseSseEvent_append_blank b (hnewlines.append
          (isBlank_intercalate hrest)), List.filterMap_cons, filterMap_parse (b' :: bs), hnone]
        cases parseSseEvent b <;> rfl

/-- CR LF is read as LF where there is one event at most. -/
theorem eventsOf_crlfText_iff (text : Text) :
    eventsOf (TextDecoder.crlfText text) = eventsOf text ↔ (heldBlocks text).length ≤ 1 := by
  rw [eventsOf_crlfText]
  constructor
  · intro h
    rw [← length_eventsOf, ← h]
    cases parseSseEvent text <;> simp
  · intro h
    rw [eventsOf, parse_intercalate h, intercalate_pieces]

end A5cCell.Spa
