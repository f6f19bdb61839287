import A5cCell.Spa.SseLaws

/-!
# What is read of events that were sent

An event is sent with one line for each of its fields and one for each line of its data, with one
space after the colon. `parse_block` says what is read of it: values without their leading white
space, the last line of the data also without what follows it. `parser_laws` puts this beside the
laws of `SseLaws`.
-/

namespace A5cCell.Spa

/-- What an event says. -/
structure Message where
  event : Text
  data : Text
  id : Option Text
  retry : Option Int
deriving DecidableEq

def SseEvent.message (e : SseEvent) : Message :=
  { event := e.event, data := e.data, id := e.id, retry := e.retry }

/-- A field and its value, with one space after the colon. -/
def fieldLine (field : String) (value : Text) : Text := field.toList ++ ':' :: ' ' :: value

/-- The lines of a message before those of its data. -/
def Message.headLines (m : Message) : List Text :=
  fieldLine "event" m.event :: (m.id.toList.map (fieldLine "id") ++
    m.retry.toList.map fun n => fieldLine "retry" (toString n).toList)

def Message.dataLines (m : Message) : List Text := (m.data.splitOn '\n').map (fieldLine "data")

/-- The block of a message. -/
def Message.block (m : Message) : Text := ['\n'].intercalate (m.headLines ++ m.dataLines)

/-- A stream of messages, each with an empty line after it. -/
def format (messages : List Message) : Text := messages.flatMap fun m => m.block ++ ['\n', '\n']

/-- A value that is read as it was written: it has no line end and does not begin with white space. -/
structure Plain (value : Text) : Prop where
  newline : '\n' ∉ value
  cr : '\r' ∉ value
  head : ∀ c, value.head? = some c → isSpace c = false

/-- What is read as it was sent: the names and every line of the data are plain, the data does not end
    in white space, and the retry time is a number that JavaScript has. -/
structure Message.IsPlain (m : Message) : Prop where
  event : Plain m.event
  id : ∀ id, m.id = some id → Plain id
  retry : ∀ n, m.retry = some n → toNumber n.natAbs = some n.natAbs
  data : ∀ line ∈ m.data.splitOn '\n', Plain line
  last : ∀ line c, (m.data.splitOn '\n').getLast? = some line → line.getLast? = some c →
    isSpace c = false

/-! ## White space at the ends -/

theorem trimStart_eq_self {text : Text} :
    trimStart text = text ↔ ∀ c, text.head? = some c → isSpace c = false := by
  unfold trimStart
  rw [List.dropWhile_eq_self_iff]
  cases text with
  | nil => simp
  | cons c cs => simp

theorem rdropWhile_eq_self {text : Text} :
    text.rdropWhile isSpace = text ↔ ∀ c, text.getLast? = some c → isSpace c = false := by
  rw [List.rdropWhile_eq_self_iff]
  constructor
  · intro h c hc
    have hne : text ≠ [] := by
      rintro rfl
      simp at hc
    rw [List.getLast?_eq_some_getLast hne, Option.some.injEq] at hc
    rw [← hc]
    simpa using h hne
  · intro h hne
    simpa using h _ (List.getLast?_eq_some_getLast hne)

theorem withoutCr_eq_self {text : Text} : withoutCr text = text ↔ '\r' ∉ text := by
  unfold withoutCr
  rw [List.filter_eq_self]
  constructor
  · intro h hcr
    exact absurd (h _ hcr) (by decide)
  · intro h c hc
    have hne : c ≠ '\r' := fun heq => h (heq ▸ hc)
    simpa using hne

/-- A value is read as it was written where it is plain. -/
theorem plain_iff {value : Text} (hnewline : '\n' ∉ value) :
    trimStart (withoutCr value) = value ↔ Plain value := by
  constructor
  · intro h
    have hcr : '\r' ∉ value := by
      intro hmem
      rw [← h] at hmem
      have hcr := List.mem_of_mem_filter ((List.dropWhile_suffix isSpace).subset hmem)
      have hkept := (List.mem_filter.1 ((List.dropWhile_suffix isSpace).subset hmem)).2
      exact absurd hkept (by decide)
    rw [withoutCr_eq_self.2 hcr] at h
    exact ⟨hnewline, hcr, trimStart_eq_self.1 h⟩
  · intro h
    rw [withoutCr_eq_self.2 h.cr, trimStart_eq_self.2 h.head]

/-- Both ends are kept where nothing is taken from either. -/
theorem trim_ends_eq_self {text : Text} : trimStart (text.rdropWhile isSpace) = text ↔
    trimStart text = text ∧ text.rdropWhile isSpace = text := by
  constructor
  · intro h
    have hlength := congrArg List.length h
    have hstart := (List.dropWhile_suffix isSpace (l := text.rdropWhile isSpace)).length_le
    have hend := List.rdropWhile_prefix isSpace (l := text)
    have hwhole : text.rdropWhile isSpace = text := by
      apply hend.eq_of_length_le
      rw [← hlength]
      exact hstart
    rw [hwhole] at h
    exact ⟨h, hwhole⟩
  · rintro ⟨hstart, hend⟩
    rw [hend, hstart]

/-! ## The lines of a block -/

section

variable (fields : Fields) (rest : Text)

theorem read_event : fields.read ("event".toList ++ ':' :: rest) =
    { fields with event := trimStart rest } := by
  simp [Fields.read]

theorem read_data : fields.read ("data".toList ++ ':' :: rest) =
    { fields with data := fields.data ++ [trimStart rest] } := by
  simp [Fields.read]

theorem read_id : fields.read ("id".toList ++ ':' :: rest) =
    { fields with id := some (trimStart rest) } := by
  simp [Fields.read]

theorem read_retry : fields.read ("retry".toList ++ ':' :: rest) =
    { fields with retry := parseInt (trimStart rest) } := by
  simp [Fields.read]

end

theorem read_dataLines (fields : Fields) (rests : List Text) :
    (rests.map fun rest => "data".toList ++ ':' :: rest).foldl Fields.read fields =
      { fields with data := fields.data ++ rests.map trimStart } := by
  induction rests generalizing fields with
  | nil => simp
  | cons rest rests ih =>
    rw [List.map_cons, List.foldl_cons, read_data, ih]
    simp

/-! ## A block without what is trimmed -/

/-- The last line without the white space it ends in. -/
def trimLast : List Text → List Text
  | [] => []
  | [line] => [line.rdropWhile isSpace]
  | line :: lines => line :: trimLast lines

theorem trimLast_cons (line : Text) {lines : List Text} (h : lines ≠ []) :
    trimLast (line :: lines) = line :: trimLast lines := by
  obtain ⟨line', lines', rfl⟩ := List.exists_cons_of_ne_nil h
  rfl

theorem trimLast_ne_nil {lines : List Text} (h : lines ≠ []) : trimLast lines ≠ [] := by
  cases lines with
  | nil => exact absurd rfl h
  | cons line lines =>
    cases lines with
    | nil => simp [trimLast]
    | cons line' lines => simp [trimLast]

theorem trimLast_append (heads : List Text) {lines : List Text} (h : lines ≠ []) :
    trimLast (heads ++ lines) = heads ++ trimLast lines := by
  induction heads with
  | nil => rfl
  | cons head heads ih => rw [List.cons_append, trimLast_cons head (by simp [h]), ih]; rfl

theorem notMem_trimLast {c : Char} {lines : List Text} (h : ∀ line ∈ lines, c ∉ line) :
    ∀ line ∈ trimLast lines, c ∉ line := by
  induction lines with
  | nil => exact h
  | cons line lines ih =>
    by_cases hne : lines = []
    · subst hne
      intro line' hline' hc
      rw [trimLast, List.mem_singleton] at hline'
      subst hline'
      exact h line List.mem_cons_self ((List.rdropWhile_prefix isSpace line).subset hc)
    · rw [trimLast_cons line hne, List.forall_mem_cons]
      rw [List.forall_mem_cons] at h
      exact ⟨h.1, ih h.2⟩

theorem rdropWhile_append_of_not_isBlank (a : Text) {b : Text} (hb : ¬ IsBlank b) :
    (a ++ b).rdropWhile isSpace = a ++ b.rdropWhile isSpace := by
  unfold List.rdropWhile
  rw [List.reverse_append, List.dropWhile_append, if_neg, List.reverse_append, List.reverse_reverse]
  intro hempty
  have hnil := List.dropWhile_eq_nil_iff.1 (List.isEmpty_iff.1 hempty)
  exact hb fun c hc => hnil c (List.mem_reverse.2 hc)

theorem not_isBlank_intercalate {line : Text} {lines : List Text} (hmem : line ∈ lines)
    (h : ¬ IsBlank line) : ¬ IsBlank (['\n'].intercalate lines) := by
  intro hblank
  apply h
  intro c hc
  apply hblank c
  induction lines with
  | nil => exact absurd hmem (List.not_mem_nil)
  | cons line' lines ih =>
    cases lines with
    | nil =>
      rw [List.mem_singleton.1 hmem] at hc
      simpa using hc
    | cons line'' lines =>
      rw [List.intercalate_cons_cons] at hblank ⊢
      rcases List.mem_cons.1 hmem with rfl | htail
      · exact List.mem_append_left _ (List.mem_append_left _ hc)
      · exact List.mem_append_right _
          (ih htail fun d hd => hblank d (List.mem_append_right _ hd))

theorem rdropWhile_intercalate {lines : List Text}
    (h : ∀ line, lines.getLast? = some line → ¬ IsBlank line) :
    (['\n'].intercalate lines).rdropWhile isSpace = ['\n'].intercalate (trimLast lines) := by
  induction lines with
  | nil => rfl
  | cons line lines ih =>
    cases lines with
    | nil => simp [trimLast]
    | cons line' lines =>
      have hlast : ∀ last, (line' :: lines).getLast? = some last → ¬ IsBlank last := by
        intro last hlast
        exact h last (by rw [List.getLast?_cons_cons, hlast])
      have hmem : (line' :: lines).getLast? = some ((line' :: lines).getLast (by simp)) :=
        List.getLast?_eq_some_getLast _
      obtain ⟨line'', lines', hcons⟩ :=
        List.exists_cons_of_ne_nil (trimLast_ne_nil (show line' :: lines ≠ [] by simp))
      rw [List.intercalate_cons_cons, rdropWhile_append_of_not_isBlank _
        (not_isBlank_intercalate (List.getLast_mem _) (hlast _ hmem)), ih hlast,
        trimLast_cons line (by simp), hcons, List.intercalate_cons_cons]

theorem withoutCr_intercalate (lines : List Text) :
    withoutCr (['\n'].intercalate lines) = ['\n'].intercalate (lines.map withoutCr) := by
  induction lines with
  | nil => rfl
  | cons line lines ih =>
    cases lines with
    | nil => simp
    | cons line' lines =>
      have hnewline : withoutCr ['\n'] = ['\n'] := by decide
      rw [List.intercalate_cons_cons, withoutCr_append, withoutCr_append, ih, hnewline]
      simp only [List.map_cons, List.intercalate_cons_cons]

theorem withoutCr_fieldLine {field : String} (h : '\r' ∉ field.toList) (value : Text) :
    withoutCr (fieldLine field value) = fieldLine field (withoutCr value) := by
  have hcolon : withoutCr (':' :: ' ' :: value) = ':' :: ' ' :: withoutCr value := by
    simp [withoutCr]
  rw [fieldLine, withoutCr_append, withoutCr_eq_self.2 h, hcolon, fieldLine]

/-- What stands after the colon of the data lines. -/
def Message.dataRests (m : Message) : List Text :=
  (m.data.splitOn '\n').map fun line => ' ' :: withoutCr line

def dataLine (rest : Text) : Text := "data".toList ++ ':' :: rest

theorem dataRests_ne_nil (m : Message) : m.dataRests ≠ [] := by
  simp [Message.dataRests, List.splitOn_ne_nil]

theorem rdropWhile_dataLine (rest : Text) :
    (dataLine rest).rdropWhile isSpace = dataLine (rest.rdropWhile isSpace) := by
  have hline : dataLine rest = dataLine [] ++ rest := by simp [dataLine]
  by_cases h : IsBlank rest
  · rw [hline, rdropWhile_append_blank _ h, List.rdropWhile_eq_nil_iff.2 h]
    simp [dataLine, List.rdropWhile, isSpace]
  · rw [hline, rdropWhile_append_of_not_isBlank _ h]
    simp [dataLine]

theorem trimLast_dataLines (rests : List Text) :
    trimLast (rests.map dataLine) = (trimLast rests).map dataLine := by
  induction rests with
  | nil => rfl
  | cons rest rests ih =>
    cases rests with
    | nil => simp [trimLast, rdropWhile_dataLine]
    | cons rest' rests =>
      show trimLast (dataLine rest :: (rest' :: rests).map dataLine) =
        dataLine rest :: (trimLast (rest' :: rests)).map dataLine
      rw [trimLast_cons _ (by simp), ih]

theorem intercalate_cons (line : Text) (lines : List Text) :
    ∃ rest, ['\n'].intercalate (line :: lines) = line ++ rest := by
  cases lines with
  | nil => exact ⟨[], by simp⟩
  | cons line' lines =>
    rw [List.intercalate_cons_cons, List.append_assoc]
    exact ⟨_, rfl⟩

theorem block_begins (m : Message) : ∃ rest, m.block = 'e' :: rest := by
  obtain ⟨rest, hrest⟩ := intercalate_cons (fieldLine "event" m.event)
    (m.id.toList.map (fieldLine "id") ++
      m.retry.toList.map (fun n => fieldLine "retry" (toString n).toList) ++ m.dataLines)
  refine ⟨"vent".toList ++ ':' :: ' ' :: m.event ++ rest, ?_⟩
  rw [Message.block, Message.headLines, List.cons_append, hrest]
  simp [fieldLine]

theorem colon_mem_lines (m : Message) : ∀ line ∈ m.headLines.map withoutCr ++
    m.dataRests.map dataLine, ':' ∈ line := by
  have hkept : ∀ line : Text, ':' ∈ line → ':' ∈ withoutCr line := by
    intro line hline
    exact List.mem_filter.2 ⟨hline, by decide⟩
  intro line hline
  rcases List.mem_append.1 hline with hhead | hdata
  · obtain ⟨line', hline', rfl⟩ := List.mem_map.1 hhead
    apply hkept
    simp only [Message.headLines, List.mem_cons, List.mem_append, List.mem_map] at hline'
    rcases hline' with rfl | ⟨id, -, rfl⟩ | ⟨n, -, rfl⟩ <;> simp [fieldLine]
  · obtain ⟨rest, -, rfl⟩ := List.mem_map.1 hdata
    simp [dataLine]

/-- What counts of a block: its lines, the last one without the white space it ends in. -/
theorem trim_block (m : Message) : trim (withoutCr m.block) =
    ['\n'].intercalate (m.headLines.map withoutCr ++ (trimLast m.dataRests).map dataLine) := by
  have hlines : m.dataLines.map withoutCr = m.dataRests.map dataLine := by
    simp only [Message.dataLines, Message.dataRests, List.map_map]
    apply List.map_congr_left
    intro line _
    exact withoutCr_fieldLine (by simp) line
  have hwhole : withoutCr m.block =
      ['\n'].intercalate (m.headLines.map withoutCr ++ m.dataRests.map dataLine) := by
    rw [Message.block, withoutCr_intercalate, List.map_append, hlines]
  have hstart : trimStart (withoutCr m.block) = withoutCr m.block := by
    obtain ⟨rest, hrest⟩ := block_begins m
    have hhead : withoutCr m.block = 'e' :: withoutCr rest := by
      rw [hrest]
      simp [withoutCr]
    rw [hhead]
    apply trimStart_eq_self.2
    intro c hc
    rw [List.head?_cons, Option.some.injEq] at hc
    rw [← hc]
    decide
  rw [trim, hstart, hwhole, rdropWhile_intercalate, trimLast_append _ (by simp [dataRests_ne_nil]),
    trimLast_dataLines]
  intro line hlast hblank
  exact absurd (hblank ':' (colon_mem_lines m line (List.mem_of_getLast? hlast))) (by decide)

/-! ## What is read of a block -/

/-- What is read of a message: its values without what is trimmed. -/
def Message.received (m : Message) : Message where
  event := trimStart (withoutCr m.event)
  data := ['\n'].intercalate ((trimLast m.dataRests).map trimStart)
  id := m.id.map fun id => trimStart (withoutCr id)
  retry := m.retry.bind fun n => parseInt (toString n).toList

/-- The names of a message are on one line each. -/
def Message.OnLines (m : Message) : Prop := '\n' ∉ m.event ∧ ∀ id, m.id = some id → '\n' ∉ id

theorem newline_notMem_fieldLine {field : String} {value : Text} (hfield : '\n' ∉ field.toList)
    (hvalue : '\n' ∉ value) : '\n' ∉ fieldLine field value := by
  simp only [fieldLine, List.mem_append, List.mem_cons, not_or]
  exact ⟨hfield, by decide, by decide, hvalue⟩

theorem newline_notMem_headLines {m : Message} (h : m.OnLines) :
    ∀ line ∈ m.headLines, '\n' ∉ line := by
  intro line hline
  simp only [Message.headLines, List.mem_cons, List.mem_append, List.mem_map,
    Option.mem_toList] at hline
  rcases hline with rfl | ⟨id, hid, rfl⟩ | ⟨n, -, rfl⟩
  · exact newline_notMem_fieldLine (by simp) h.1
  · exact newline_notMem_fieldLine (by simp) (h.2 id hid)
  · exact newline_notMem_fieldLine (by simp) (Py.not_mem_toString (by decide) (by decide) n)

theorem newline_notMem_dataLines (m : Message) : ∀ line ∈ m.dataLines, '\n' ∉ line := by
  intro line hline
  obtain ⟨value, hvalue, rfl⟩ := List.mem_map.1 hline
  exact newline_notMem_fieldLine (by simp) (newline_notMem_of_mem_splitOn hvalue)

theorem newline_notMem_readLines {m : Message} (h : m.OnLines) : ∀ line ∈
    m.headLines.map withoutCr ++ (trimLast m.dataRests).map dataLine, '\n' ∉ line := by
  have hrests : ∀ rest ∈ m.dataRests, '\n' ∉ rest := by
    intro rest hrest
    obtain ⟨value, hvalue, rfl⟩ := List.mem_map.1 hrest
    simp only [List.mem_cons, not_or]
    exact ⟨by decide, fun hmem => newline_notMem_of_mem_splitOn hvalue (List.mem_of_mem_filter hmem)⟩
  intro line hline
  rcases List.mem_append.1 hline with hhead | hdata
  · obtain ⟨line', hline', rfl⟩ := List.mem_map.1 hhead
    exact fun hmem => newline_notMem_headLines h line' hline' (List.mem_of_mem_filter hmem)
  · obtain ⟨rest, hrest, rfl⟩ := List.mem_map.1 hdata
    simp only [dataLine, List.mem_append, List.mem_cons, not_or]
    exact ⟨by decide, by decide, notMem_trimLast hrests rest hrest⟩

/-- The text of a number begins with a digit or a sign. -/
theorem head_toString {n : Int} {c : Char} (h : (toString n).toList.head? = some c) :
    c.isDigit ∨ c = '-' := by
  by_contra hother
  rw [not_or, Bool.not_eq_true] at hother
  exact Py.not_mem_toString hother.1 hother.2 n (List.mem_of_head? h)

theorem trimStart_toString (n : Int) : trimStart (toString n).toList = (toString n).toList := by
  apply trimStart_eq_self.2
  intro c hc
  rcases head_toString hc with hdigit | rfl
  · have hrange : 48 ≤ c.toNat ∧ c.toNat ≤ 57 := by
      simpa [Char.isDigit, UInt32.le_iff_toNat_le] using hdigit
    simp only [isSpace, Bool.or_eq_false_iff, Bool.and_eq_false_iff, decide_eq_false_iff_not,
      beq_eq_false_iff_ne]
    omega
  · decide

/-- What the lines before the data leave in the variables. -/
theorem read_headLines (m : Message) : (m.headLines.map withoutCr).foldl Fields.read {} =
    { event := m.received.event, data := [], id := m.received.id, retry := m.received.retry } := by
  obtain ⟨event, data, id, retry⟩ := m
  have hid : ∀ fields : Fields, ((id.toList.map (fieldLine "id")).map withoutCr).foldl
      Fields.read fields = { fields with
        id := (id.map fun id => trimStart (withoutCr id)).or fields.id } := by
    intro fields
    cases id with
    | none => rfl
    | some id =>
      show fields.read (withoutCr (fieldLine "id" id)) = _
      rw [withoutCr_fieldLine (by simp), fieldLine, read_id]
      rfl
  have hretry : ∀ fields : Fields, fields.retry = none → ((retry.toList.map fun n =>
      fieldLine "retry" (toString n).toList).map withoutCr).foldl Fields.read fields =
        { fields with retry := retry.bind fun n => parseInt (toString n).toList } := by
    intro fields hfields
    cases retry with
    | none =>
      show fields = { fields with retry := none }
      rw [← hfields]
    | some n =>
      show fields.read (withoutCr (fieldLine "retry" (toString n).toList)) = _
      rw [withoutCr_fieldLine (by simp), fieldLine, read_retry, withoutCr_eq_self.2
        (Py.not_mem_toString (by decide) (by decide) n)]
      show { fields with retry := parseInt (trimStart (toString n).toList) } = _
      rw [trimStart_toString]
      rfl
  rw [Message.headLines, List.map_cons, List.map_append, List.foldl_cons, List.foldl_append,
    withoutCr_fieldLine (by simp), fieldLine, read_event, hid, hretry _ rfl]
  cases id <;> rfl

theorem parse_block {m : Message} (h : m.OnLines) :
    (parseSseEvent m.block).map SseEvent.message = some m.received := by
  have hchunk := trim_block m
  obtain ⟨rest, hrest⟩ := block_begins m
  have hne : trim (withoutCr m.block) ≠ [] := by
    rw [hrest]
    intro hempty
    exact absurd (trim_eq_nil.1 hempty 'e' (by simp [withoutCr])) (by decide)
  rw [parseSseEvent, if_neg hne, Option.map_some]
  rw [hchunk, List.splitOn_intercalate '\n' (newline_notMem_readLines h)
    (by simp [Message.headLines]), List.foldl_append, read_headLines]
  have hdata := read_dataLines
    { event := m.received.event, data := [], id := m.received.id, retry := m.received.retry }
    (trimLast m.dataRests)
  rw [show (trimLast m.dataRests).map dataLine = (trimLast m.dataRests).map fun rest =>
    "data".toList ++ ':' :: rest from rfl, hdata]
  rfl

/-! ## What is read as it was sent -/

theorem parseInt_toString (n : Int) : parseInt (toString n).toList =
    (toNumber n.natAbs).map fun k : Nat => if n < 0 then -(k : Int) else k := by
  have hdigits : ∀ k, (Nat.toDigits 10 k).takeWhile Char.isDigit = Nat.toDigits 10 k := by
    intro k
    apply List.takeWhile_eq_self_iff.2
    intro c hc
    exact Nat.isDigit_of_mem_toDigits (by decide) (by decide) hc
  have hne : ∀ k, Nat.toDigits 10 k ≠ [] := fun k => Nat.toDigits_ne_nil
  rw [parseInt, trimStart_toString]
  cases n with
  | ofNat k =>
    have htext : (toString (Int.ofNat k)).toList = Nat.toDigits 10 k := Nat.toList_repr
    have hsign : ∀ c, (Nat.toDigits 10 k).head? = some c → c ≠ '-' ∧ c ≠ '+' := by
      intro c hc
      have hdigit := Nat.isDigit_of_mem_toDigits (by decide) (by decide) (List.mem_of_head? hc)
      exact ⟨by rintro rfl; exact absurd hdigit (by decide),
        by rintro rfl; exact absurd hdigit (by decide)⟩
    have hminus : (Nat.toDigits 10 k).head? ≠ some '-' := fun h => (hsign _ h).1 rfl
    have hplus : (Nat.toDigits 10 k).head? ≠ some '+' := fun h => (hsign _ h).2 rfl
    have hnonneg : ¬ Int.ofNat k < 0 := Int.not_lt.2 (Int.natCast_nonneg k)
    simp only [htext, hminus, hplus, or_self, if_false, hdigits, hne, Py.natOfDigits_toDigits, hnonneg,
      show (Int.ofNat k).natAbs = k from rfl]
    cases toNumber k <;> rfl
  | negSucc k =>
    have htext : (toString (Int.negSucc k)).toList = '-' :: Nat.toDigits 10 (k + 1) := by
      rw [Int.toString_eq_repr, Int.repr, String.toList_append, Nat.toList_repr]
      rfl
    simp only [htext, List.head?_cons, true_or, if_true, List.drop_one, List.tail_cons, hdigits, hne,
      if_false, Py.natOfDigits_toDigits, Int.negSucc_lt_zero, Int.natAbs_negSucc, Nat.succ_eq_add_one]
    cases toNumber (k + 1) <;> rfl

/-- A number is read as it was written where JavaScript has it. -/
theorem parseInt_toString_iff {n : Int} :
    parseInt (toString n).toList = some n ↔ toNumber n.natAbs = some n.natAbs := by
  rw [parseInt_toString]
  cases toNumber n.natAbs with
  | none => simp
  | some k =>
    rw [Option.map_some, Option.some.injEq, Option.some.injEq]
    split <;> omega

theorem trimStart_rdropWhile_space (value : Text) :
    trimStart ((' ' :: value).rdropWhile isSpace) = trimStart (value.rdropWhile isSpace) := by
  have hcons : ' ' :: value = [' '] ++ value := rfl
  by_cases h : IsBlank value
  · rw [hcons, rdropWhile_append_blank _ h, List.rdropWhile_eq_nil_iff.2 h]
    decide
  · rw [hcons, rdropWhile_append_of_not_isBlank _ h]
    rfl

theorem lastPlain_iff {line : Text} (hnewline : '\n' ∉ line) :
    trimStart ((withoutCr line).rdropWhile isSpace) = line ↔
      Plain line ∧ ∀ c, line.getLast? = some c → isSpace c = false := by
  constructor
  · intro h
    have hcr : '\r' ∉ line := by
      intro hmem
      rw [← h] at hmem
      have hkept := (List.rdropWhile_prefix isSpace _).subset
        ((List.dropWhile_suffix isSpace).subset hmem)
      exact absurd (List.mem_filter.1 hkept).2 (by decide)
    rw [withoutCr_eq_self.2 hcr, trim_ends_eq_self] at h
    exact ⟨⟨hnewline, hcr, trimStart_eq_self.1 h.1⟩, rdropWhile_eq_self.1 h.2⟩
  · rintro ⟨hplain, hlast⟩
    rw [withoutCr_eq_self.2 hplain.cr, rdropWhile_eq_self.2 hlast, trimStart_eq_self.2 hplain.head]

/-- Lines are read as they were written where each is plain and the last one does not end in white
    space. -/
theorem trimmed_eq_self {lines : List Text} (hnewline : ∀ line ∈ lines, '\n' ∉ line) :
    (trimLast (lines.map fun line => ' ' :: withoutCr line)).map trimStart = lines ↔
      (∀ line ∈ lines, Plain line) ∧ ∀ line c, lines.getLast? = some line →
        line.getLast? = some c → isSpace c = false := by
  induction lines with
  | nil => simp [trimLast]
  | cons line lines ih =>
    rw [List.forall_mem_cons] at hnewline
    cases lines with
    | nil =>
      have hread : (trimLast [' ' :: withoutCr line]).map trimStart =
          [trimStart ((withoutCr line).rdropWhile isSpace)] := by
        rw [trimLast, List.map_singleton, trimStart_rdropWhile_space]
      have hlast : (∀ line' c, [line].getLast? = some line' → line'.getLast? = some c →
          isSpace c = false) ↔ ∀ c, line.getLast? = some c → isSpace c = false := by
        constructor
        · intro h c
          exact h line c rfl
        · intro h line' c hline'
          rw [← Option.some.inj hline']
          exact h c
      rw [List.map_singleton, hread, List.cons.injEq, lastPlain_iff hnewline.1, hlast]
      simp
    | cons line' lines =>
      have hline : trimStart (' ' :: withoutCr line) = line ↔ Plain line := plain_iff hnewline.1
      rw [List.map_cons, trimLast_cons _ (by simp), List.map_cons, List.cons.injEq, hline,
        ih hnewline.2, List.getLast?_cons_cons, List.forall_mem_cons (a := line), and_assoc]

theorem trimmed_ne_nil (m : Message) : (trimLast m.dataRests).map trimStart ≠ [] := by
  rw [ne_eq, List.map_eq_nil_iff]
  exact trimLast_ne_nil (dataRests_ne_nil m)

theorem newline_notMem_trimmed (m : Message) :
    ∀ line ∈ (trimLast m.dataRests).map trimStart, '\n' ∉ line := by
  intro line hline hmem
  obtain ⟨rest, hrest, rfl⟩ := List.mem_map.1 hline
  refine notMem_trimLast (fun rest' hrest' => ?_) rest hrest
    ((List.dropWhile_suffix isSpace).subset hmem)
  obtain ⟨value, hvalue, rfl⟩ := List.mem_map.1 hrest'
  simp only [List.mem_cons, not_or]
  exact ⟨by decide, fun hnewline => newline_notMem_of_mem_splitOn hvalue
    (List.mem_of_mem_filter hnewline)⟩

/-- The data is read as it was sent where its lines are. -/
theorem received_data_iff (m : Message) : m.received.data = m.data ↔
    (trimLast m.dataRests).map trimStart = m.data.splitOn '\n' := by
  constructor
  · intro h
    rw [← h]
    exact (List.splitOn_intercalate '\n' (newline_notMem_trimmed m) (trimmed_ne_nil m)).symm
  · intro h
    show ['\n'].intercalate ((trimLast m.dataRests).map trimStart) = m.data
    rw [h, List.intercalate_splitOn]

theorem received_eq_self_iff {m : Message} (h : m.OnLines) : m.received = m ↔ m.IsPlain := by
  have hlines := trimmed_eq_self fun line (hline : line ∈ m.data.splitOn '\n') =>
    newline_notMem_of_mem_splitOn hline
  constructor
  · intro heq
    have hdata := hlines.1 ((received_data_iff m).1 (congrArg Message.data heq))
    refine ⟨(plain_iff h.1).1 (congrArg Message.event heq), fun id hid => ?_, fun n hn => ?_,
      hdata.1, hdata.2⟩
    · have hread := congrArg Message.id heq
      rw [hid] at hread
      simp only [Message.received, hid, Option.map_some, Option.some.injEq] at hread
      exact (plain_iff (h.2 id hid)).1 hread
    · have hread := congrArg Message.retry heq
      rw [hn] at hread
      simp only [Message.received, hn, Option.bind_some] at hread
      exact parseInt_toString_iff.1 hread
  · intro hplain
    have hevent := (plain_iff h.1).2 hplain.event
    have hdata := (received_data_iff m).2 (hlines.2 ⟨hplain.data, hplain.last⟩)
    have hid : (m.id.map fun id => trimStart (withoutCr id)) = m.id := by
      cases hid : m.id with
      | none => rfl
      | some id => exact congrArg some ((plain_iff (h.2 id hid)).2 (hplain.id id hid))
    have hretry : (m.retry.bind fun n => parseInt (toString n).toList) = m.retry := by
      cases hn : m.retry with
      | none => rfl
      | some n => exact parseInt_toString_iff.2 (hplain.retry n hn)
    obtain ⟨event, data, id, retry⟩ := m
    simp only [Message.received, Message.mk.injEq] at hevent hdata hid hretry ⊢
    exact ⟨hevent, hdata, hid, hretry⟩

/-! ## A stream of messages -/

/-- The names that are read are on one line each. -/
theorem onLines_of_parse {raw : Text} {e : SseEvent} (h : parseSseEvent raw = some e) :
    e.message.OnLines := by
  have hread : ∀ (fields : Fields) (line : Text), '\n' ∉ line →
      '\n' ∉ fields.event ∧ (∀ id, fields.id = some id → '\n' ∉ id) →
      '\n' ∉ (fields.read line).event ∧ ∀ id, (fields.read line).id = some id → '\n' ∉ id := by
    intro fields line hline hfields
    have hvalue : '\n' ∉ trimStart ((line.dropWhile (· != ':')).drop 1) := by
      intro hmem
      exact hline ((List.dropWhile_suffix _).subset
        (List.mem_of_mem_drop ((List.dropWhile_suffix isSpace).subset hmem)))
    unfold Fields.read
    simp only
    split
    · exact hfields
    · split
      · exact ⟨hvalue, hfields.2⟩
      · split
        · exact hfields
        · split
          · refine ⟨hfields.1, fun id hid => ?_⟩
            rw [← Option.some.inj hid]
            exact hvalue
          · split <;> exact hfields
  have hfold : ∀ (lines : List Text) (fields : Fields), (∀ line ∈ lines, '\n' ∉ line) →
      '\n' ∉ fields.event ∧ (∀ id, fields.id = some id → '\n' ∉ id) →
      '\n' ∉ (lines.foldl Fields.read fields).event ∧
        ∀ id, (lines.foldl Fields.read fields).id = some id → '\n' ∉ id := by
    intro lines
    induction lines with
    | nil => exact fun fields _ hfields => hfields
    | cons line lines ih =>
      intro fields hlines hfields
      rw [List.forall_mem_cons] at hlines
      exact ih _ hlines.2 (hread fields line hlines.1 hfields)
  unfold parseSseEvent at h
  simp only at h
  split at h
  · exact absurd h (by simp)
  · rw [← Option.some.inj h]
    exact hfold _ {} (fun line hline => newline_notMem_of_mem_splitOn hline)
      ⟨by decide, fun id hid => absurd hid (by simp)⟩

/-- Text without a newline goes before the first block. -/
theorem blocks_prepend {a b block rest : Text} {more : List Text} (ha : '\n' ∉ a)
    (hb : blocks b = (block :: more, rest)) : blocks (a ++ b) = ((a ++ block) :: more, rest) := by
  induction a with
  | nil => exact hb
  | cons c cs ih =>
    rw [List.mem_cons, not_or] at ha
    rw [List.cons_append, blocks_cons (Ne.symm ha.1), ih ha.2]
    rfl

/-- Lines that are not empty are one block. -/
theorem blocks_intercalate {lines : List Text} (hne : lines ≠ [])
    (hlines : ∀ line ∈ lines, line ≠ [] ∧ '\n' ∉ line) (rest : Text) :
    blocks (['\n'].intercalate lines ++ '\n' :: '\n' :: rest) =
      (['\n'].intercalate lines :: (blocks rest).1, (blocks rest).2) := by
  induction lines with
  | nil => exact absurd rfl hne
  | cons line lines ih =>
    rw [List.forall_mem_cons] at hlines
    cases lines with
    | nil =>
      have hcut : blocks ('\n' :: '\n' :: rest) = ([] :: (blocks rest).1, (blocks rest).2) := rfl
      rw [List.intercalate_singleton, blocks_prepend hlines.1.2 hcut, List.append_nil]
    | cons line' lines =>
      have hrest := ih (by simp) hlines.2
      obtain ⟨more, hmore⟩ := intercalate_cons line' lines
      obtain ⟨c, cs, rfl⟩ := List.exists_cons_of_ne_nil (hlines.2 line' List.mem_cons_self).1
      have hhead : (['\n'].intercalate ((c :: cs) :: lines) ++ '\n' :: '\n' :: rest).head? ≠
          some '\n' := by
        rw [hmore]
        intro hc
        rw [List.cons_append, List.cons_append, List.head?_cons, Option.some.injEq] at hc
        exact (hlines.2 _ List.mem_cons_self).2 (by rw [hc]; exact List.mem_cons_self)
      have hcut := blocks_newline hhead
      rw [hrest] at hcut
      have hprepend := blocks_prepend hlines.1.2 hcut
      rw [List.intercalate_cons_cons]
      simpa using hprepend

theorem lines_ne_nil (m : Message) : ∀ line ∈ m.headLines ++ m.dataLines, line ≠ [] := by
  intro line hline
  have hfield : ∀ (field : String) value, fieldLine field value ≠ [] := fun field value => by
    simp [fieldLine]
  simp only [Message.headLines, Message.dataLines, List.mem_cons, List.mem_append,
    List.mem_map] at hline
  rcases hline with (rfl | ⟨id, -, rfl⟩ | ⟨n, -, rfl⟩) | ⟨value, -, rfl⟩
  all_goals exact hfield _ _

/-- Each message is a block of the stream. -/
theorem pieces_format {messages : List Message} (h : ∀ m ∈ messages, m.OnLines) :
    pieces (format messages) = messages.map Message.block ++ [[]] := by
  induction messages with
  | nil => rfl
  | cons m messages ih =>
    rw [List.forall_mem_cons] at h
    have hlines : ∀ line ∈ m.headLines ++ m.dataLines, line ≠ [] ∧ '\n' ∉ line := by
      intro line hline
      refine ⟨lines_ne_nil m line hline, ?_⟩
      exact (List.mem_append.1 hline).elim (newline_notMem_headLines h.1 line)
        (newline_notMem_dataLines m line)
    have hcut := blocks_intercalate (by simp [Message.headLines]) hlines (format messages)
    have hformat : format (m :: messages) = m.block ++ '\n' :: '\n' :: format messages := by
      simp [format]
    rw [pieces, hformat]
    show (blocks (m.block ++ _)).1 ++ [(blocks (m.block ++ _)).2] = _
    rw [Message.block, hcut, List.cons_append, ← pieces, ih h.2]
    rfl

/-- The messages that are read of a stream. -/
theorem messages_format {messages : List Message} (h : ∀ m ∈ messages, m.OnLines) :
    (eventsOf (format messages)).map SseEvent.message = messages.map Message.received := by
  rw [eventsOf, pieces_format h, List.filterMap_append, List.map_append,
    show ([[]] : List Text).filterMap parseSseEvent = [] from rfl, List.map_nil, List.append_nil]
  induction messages with
  | nil => rfl
  | cons m messages ih =>
    rw [List.forall_mem_cons] at h
    obtain ⟨e, he, hmessage⟩ := Option.map_eq_some_iff.1 (parse_block h.1)
    rw [List.map_cons, List.filterMap_cons_some he, List.map_cons, hmessage, ih h.2, List.map_cons]

/-- A stream of messages is read as what was sent where every message is plain. -/
theorem messages_format_iff (messages : List Message) :
    (eventsOf (format messages)).map SseEvent.message = messages ↔ ∀ m ∈ messages, m.IsPlain := by
  have hmap : (∀ m ∈ messages, m.OnLines) → (messages.map Message.received = messages ↔
      ∀ m ∈ messages, m.IsPlain) := by
    intro h
    have hself := List.map_inj_left (l := messages) (f := Message.received) (g := id)
    rw [List.map_id] at hself
    rw [hself]
    exact forall₂_congr fun m hm => received_eq_self_iff (h m hm)
  constructor
  · intro h
    have hlines : ∀ m ∈ messages, m.OnLines := by
      intro m hm
      rw [← h] at hm
      obtain ⟨e, he, rfl⟩ := List.mem_map.1 hm
      obtain ⟨raw, -, hparse⟩ := List.mem_filterMap.1 he
      exact onLines_of_parse hparse
    rw [messages_format hlines] at h
    exact (hmap hlines).1 h
  · intro h
    have hlines : ∀ m ∈ messages, m.OnLines := fun m hm =>
      ⟨(h m hm).event.newline, fun id hid => ((h m hm).id id hid).newline⟩
    rw [messages_format hlines]
    exact (hmap hlines).2 h

theorem decode_format (messages : List Message) :
    TextDecoder.decode (Utf8.encode (String.ofList (format messages))) = format messages := by
  apply TextDecoder.decode_encode
  cases messages with
  | nil => simp [format]
  | cons m messages =>
    obtain ⟨rest, hrest⟩ := block_begins m
    simp [format, hrest, TextDecoder.byteOrderMark]

/-- **The laws of the parser**: the chunks do not count; CR LF is read as LF where there is one event
    at most; and what was sent is read back where every message is plain. -/
theorem parser_laws (chunks : List (List UInt8)) (messages : List Message) :
    read chunks = read [chunks.flatten] ∧
    (read [TextDecoder.crlf chunks.flatten] = read chunks ↔
      (heldBlocks (TextDecoder.decode chunks.flatten)).length ≤ 1) ∧
    ((read [Utf8.encode (String.ofList (format messages))]).map SseEvent.message = messages ↔
      ∀ m ∈ messages, m.IsPlain) := by
  have hwhole : ∀ bytes : List UInt8, read [bytes] = eventsOf (TextDecoder.decode bytes) := by
    intro bytes
    rw [read_eq, List.flatten_singleton]
  refine ⟨?_, ?_, ?_⟩
  · rw [hwhole, read_eq]
  · rw [hwhole, read_eq, TextDecoder.decode_crlf, eventsOf_crlfText_iff]
  · rw [hwhole, decode_format, messages_format_iff]

/-- Two events, their lines ended by CR LF, are read as one; and the space a chunk of text begins with
    is lost. -/
theorem parser_merges_and_trims :
    read [TextDecoder.crlf (Utf8.encode "data: a\n\ndata: b\n\n")] ≠
        read [Utf8.encode "data: a\n\ndata: b\n\n"] ∧
      (read [Utf8.encode (String.ofList (format
        [⟨"message".toList, " world".toList, none, none⟩]))]).map SseEvent.message ≠
          [⟨"message".toList, " world".toList, none, none⟩] := by
  constructor
  · decide +kernel
  · decide +kernel

end A5cCell.Spa
