import Mathlib.Algebra.Group.Nat.Defs
import A5cCell.Lib.Utf8

/-!
# A decoder of UTF-8 that is fed chunk by chunk

The `TextDecoder` of a browser, which replaces what is not UTF-8 and leaves out a byte order mark.
What has begun in one chunk is completed by the next ones, so that only the bytes count, and not
where they were cut: `feed_append`.
-/

namespace TextDecoder

/-- A character whose first byte has been read: its bits so far, the bytes that are left of it, and
    the bounds of the next one. No bytes that go on from here amount to an ASCII character. -/
structure Begun where
  point : Nat
  left : Nat
  lower : Nat
  upper : Nat
  continues : 0x80 ≤ lower
  wide : 0x80 ≤ (point * 64 + (lower - 0x80)) * 64 ^ (left - 1)
deriving DecidableEq

def replacement : Char := '\uFFFD'

def byteOrderMark : Char := '\uFEFF'

/-- A byte that is the first of a character. -/
def lead (byte : Nat) : Option Begun × List Char :=
  if byte < 0x80 then (none, [Char.ofNat byte])
  else if h : 0xC2 ≤ byte ∧ byte ≤ 0xDF then
    (some ⟨byte - 0xC0, 1, 0x80, 0xBF, by decide, by omega⟩, [])
  else if h : 0xE0 ≤ byte ∧ byte ≤ 0xEF then
    (some ⟨byte - 0xE0, 2, if byte = 0xE0 then 0xA0 else 0x80, if byte = 0xED then 0x9F else 0xBF,
      by split <;> decide, by split <;> omega⟩, [])
  else if h : 0xF0 ≤ byte ∧ byte ≤ 0xF4 then
    (some ⟨byte - 0xF0, 3, if byte = 0xF0 then 0x90 else 0x80, if byte = 0xF4 then 0x8F else 0xBF,
      by split <;> decide, by split <;> omega⟩, [])
  else (none, [replacement])

/-- The bits of a character with those of its next byte. -/
def Begun.next (begun : Begun) (byte : Nat) : Nat := begun.point * 64 + (byte - 0x80)

theorem Begun.le_next {begun : Begun} {byte : Nat} (h : begun.lower ≤ byte) :
    0x80 ≤ begun.next byte * 64 ^ (begun.left - 1) := by
  apply Nat.le_trans begun.wide
  apply Nat.mul_le_mul_right
  show begun.point * 64 + (begun.lower - 0x80) ≤ begun.point * 64 + (byte - 0x80)
  omega

theorem Begun.wide_next {begun : Begun} {byte : Nat} (h : begun.lower ≤ byte)
    (hleft : 1 < begun.left) :
    0x80 ≤ (begun.next byte * 64 + (0x80 - 0x80)) * 64 ^ (begun.left - 1 - 1) := by
  have hpow : 64 ^ (begun.left - 1) = 64 * 64 ^ (begun.left - 1 - 1) := by
    rw [← Nat.pow_succ', Nat.succ_eq_add_one, Nat.sub_add_cancel (by omega)]
  have hle := begun.le_next h
  rw [hpow, ← Nat.mul_assoc] at hle
  simpa using hle

/-- One byte. One that does not continue what has begun is read again as a first one. -/
def step : Option Begun → Nat → Option Begun × List Char
  | none, byte => lead byte
  | some begun, byte =>
      if h : begun.lower ≤ byte ∧ byte ≤ begun.upper then
        if hleft : 1 < begun.left then
          (some ⟨begun.next byte, begun.left - 1, 0x80, 0xBF, by decide, begun.wide_next h.1 hleft⟩, [])
        else (none, [Char.ofNat (begun.next byte)])
      else ((lead byte).1, replacement :: (lead byte).2)

/-- The bytes of a chunk, one after the other. -/
def feed : Option Begun → List UInt8 → Option Begun × List Char
  | begun, [] => (begun, [])
  | begun, byte :: bytes =>
      let read := step begun byte.toNat
      let rest := feed read.1 bytes
      (rest.1, read.2 ++ rest.2)

/-- The end of the bytes. -/
def finish : Option Begun → List Char
  | none => []
  | some _ => [replacement]

/-- What is left of the characters decoded, with or without any seen before them. -/
def withoutMark (seen : Bool) : List Char → List Char
  | [] => []
  | c :: cs => if !seen && c == byteOrderMark then cs else c :: cs

/-- The decoder between two calls. -/
structure Decoder where
  begun : Option Begun
  bomSeen : Bool

def new : Decoder := { begun := none, bomSeen := false }

/-- `decoder.decode(chunk, { stream: true })`. -/
def Decoder.decode (d : Decoder) (chunk : List UInt8) : Decoder × List Char :=
  let read := feed d.begun chunk
  ({ begun := read.1, bomSeen := d.bomSeen || !read.2.isEmpty }, withoutMark d.bomSeen read.2)

/-- `decoder.decode()`, which ends the stream. -/
def Decoder.last (d : Decoder) : List Char := withoutMark d.bomSeen (finish d.begun)

/-- All the text of a stream. -/
def decode (bytes : List UInt8) : List Char := (new.decode bytes).2 ++ (new.decode bytes).1.last

/-! ## Only the bytes count -/

theorem feed_append (begun : Option Begun) (a b : List UInt8) :
    feed begun (a ++ b) =
      ((feed (feed begun a).1 b).1, (feed begun a).2 ++ (feed (feed begun a).1 b).2) := by
  induction a generalizing begun with
  | nil => rfl
  | cons byte bytes ih =>
    rw [List.cons_append]
    simp only [feed, ih, List.append_assoc]

theorem withoutMark_append (seen : Bool) (a b : List Char) :
    withoutMark seen (a ++ b) = withoutMark seen a ++ withoutMark (seen || !a.isEmpty) b := by
  cases a with
  | nil => simp [withoutMark]
  | cons c cs =>
    have hseen : withoutMark true b = b := by cases b <;> rfl
    rw [List.cons_append, List.isEmpty_cons, Bool.not_false, Bool.or_true, hseen]
    simp only [withoutMark]
    split <;> rfl

/-- Two chunks are decoded as one. -/
theorem Decoder.decode_append (d : Decoder) (a b : List UInt8) :
    d.decode (a ++ b) = (((d.decode a).1.decode b).1, (d.decode a).2 ++ ((d.decode a).1.decode b).2) := by
  simp only [Decoder.decode, feed_append, withoutMark_append, Prod.mk.injEq, and_true,
    Decoder.mk.injEq, true_and]
  cases (feed d.begun a).2 <;> simp

theorem Decoder.decode_nil (d : Decoder) : d.decode [] = (d, []) := by
  simp [Decoder.decode, feed, withoutMark]

/-! ## An ASCII byte ends what has begun -/

theorem lead_ascii {byte : Nat} (h : byte < 0x80) : lead byte = (none, [Char.ofNat byte]) :=
  if_pos h

theorem step_ascii (begun : Option Begun) {byte : Nat} (h : byte < 0x80) :
    step begun byte = (none, finish begun ++ [Char.ofNat byte]) := by
  cases begun with
  | none => exact lead_ascii h
  | some begun =>
    have hlow : ¬ (begun.lower ≤ byte ∧ byte ≤ begun.upper) :=
      fun hbounds => absurd (Nat.le_trans begun.continues hbounds.1) (Nat.not_le.2 h)
    simp only [step, dif_neg hlow, lead_ascii h]
    rfl

section

variable {code : Nat} (hpos : 0 < code) (hcode : code < 0x80)

include hpos hcode

theorem eq_of_ofNat {n : Nat} (h : Char.ofNat n = Char.ofNat code) : n = code := by
  have hself : ∀ k, k.isValidChar → (Char.ofNat k).toNat = k := by
    intro k hk
    unfold Char.ofNat
    rw [dif_pos hk]
    rfl
  have htoNat := congrArg Char.toNat h
  rw [hself code (Or.inl (by omega))] at htoNat
  by_cases hn : n.isValidChar
  · rw [hself n hn] at htoNat
    exact htoNat
  · unfold Char.ofNat at htoNat
    rw [dif_neg hn] at htoNat
    have hzero : 0 = code := htoNat
    omega

theorem eq_of_lead {byte : Nat} (h : Char.ofNat code ∈ (lead byte).2) : byte = code := by
  have hreplacement : Char.ofNat code ≠ replacement := by
    intro heq
    have hlarge := eq_of_ofNat hpos hcode (n := 0xFFFD) heq.symm
    omega
  unfold lead at h
  split at h
  · exact eq_of_ofNat hpos hcode (List.mem_singleton.1 h).symm
  · split at h
    · simp at h
    · split at h
      · simp at h
      · split at h
        · simp at h
        · exact absurd (List.mem_singleton.1 h) hreplacement

/-- Only its own byte is decoded to an ASCII character. -/
theorem eq_of_step {begun : Option Begun} {byte : Nat} (h : Char.ofNat code ∈ (step begun byte).2) :
    byte = code := by
  cases begun with
  | none => exact eq_of_lead hpos hcode h
  | some begun =>
    simp only [step] at h
    split at h
    next hbounds =>
      split at h
      · simp at h
      next hleft =>
        have hsame := eq_of_ofNat hpos hcode (List.mem_singleton.1 h).symm
        have hwide := begun.le_next hbounds.1
        rw [hsame, show begun.left - 1 = 0 by omega] at hwide
        omega
    · rcases List.mem_cons.1 h with hmark | hlead
      · have hlarge := eq_of_ofNat hpos hcode (n := 0xFFFD) hmark.symm
        omega
      · exact eq_of_lead hpos hcode hlead

theorem notMem_finish (begun : Option Begun) : Char.ofNat code ∉ finish begun := by
  cases begun with
  | none => simp [finish]
  | some begun =>
    rw [finish, List.mem_singleton]
    intro hmark
    have hlarge := eq_of_ofNat hpos hcode (n := 0xFFFD) hmark.symm
    omega

end

/-- Only its own byte is decoded to a newline. -/
theorem newline_of_step {begun : Option Begun} {byte : Nat} (h : '\n' ∈ (step begun byte).2) :
    byte = 10 :=
  eq_of_step (by decide) (by decide) h

/-- Bytes whose lines end in CR LF for those whose lines end in LF. -/
def crlf (bytes : List UInt8) : List UInt8 :=
  bytes.flatMap fun byte => if byte = 10 then [13, 10] else [byte]

/-- The same of text. -/
def crlfText (text : List Char) : List Char :=
  text.flatMap fun c => if c = '\n' then ['\r', '\n'] else [c]

theorem crlfText_append (a b : List Char) : crlfText (a ++ b) = crlfText a ++ crlfText b :=
  List.flatMap_append

theorem crlfText_of_notMem {text : List Char} (h : '\n' ∉ text) : crlfText text = text := by
  induction text with
  | nil => rfl
  | cons c cs ih =>
    rw [List.mem_cons, not_or] at h
    show (if c = '\n' then ['\r', '\n'] else [c]) ++ crlfText cs = c :: cs
    rw [if_neg (Ne.symm h.1), ih h.2]
    rfl

theorem newline_notMem_finish (begun : Option Begun) : '\n' ∉ finish begun :=
  notMem_finish (by decide) (by decide) begun

theorem feed_crlf (begun : Option Begun) (bytes : List UInt8) :
    feed begun (crlf bytes) = ((feed begun bytes).1, crlfText (feed begun bytes).2) := by
  induction bytes generalizing begun with
  | nil => rfl
  | cons byte bytes ih =>
    by_cases hbyte : byte = 10
    · subst hbyte
      show feed begun (13 :: 10 :: crlf bytes) = _
      simp only [feed, ih]
      rw [show (13 : UInt8).toNat = 13 from rfl, show (10 : UInt8).toNat = 10 from rfl,
        step_ascii begun (show 13 < 0x80 by decide), step_ascii begun (show 10 < 0x80 by decide)]
      simp only [step_ascii none (show 10 < 0x80 by decide), crlfText_append,
        crlfText_of_notMem (newline_notMem_finish begun), List.append_assoc]
      rfl
    · have hnewline : '\n' ∉ (step begun byte.toNat).2 := by
        intro hmem
        exact hbyte (UInt8.toNat_inj.1 (newline_of_step hmem))
      have hcrlf : crlf (byte :: bytes) = byte :: crlf bytes := by
        show (if byte = 10 then [13, 10] else [byte]) ++ crlf bytes = _
        rw [if_neg hbyte]
        rfl
      rw [hcrlf]
      simp only [feed, ih, crlfText_append, crlfText_of_notMem hnewline]

theorem withoutMark_crlfText (seen : Bool) (text : List Char) :
    withoutMark seen (crlfText text) = crlfText (withoutMark seen text) := by
  cases text with
  | nil => rfl
  | cons c cs =>
    by_cases hc : c = '\n'
    · subst hc
      cases seen <;> rfl
    · have hcrlf : ∀ text : List Char, crlfText (c :: text) = c :: crlfText text := by
        intro text
        show (if c = '\n' then ['\r', '\n'] else [c]) ++ crlfText text = _
        rw [if_neg hc]
        rfl
      rw [hcrlf]
      show (if _ then _ else _) = crlfText (if _ then _ else _)
      split
      · rfl
      · rw [hcrlf]

/-- The text of a stream with other line ends is its text with other line ends. -/
theorem decode_crlf (bytes : List UInt8) : decode (crlf bytes) = crlfText (decode bytes) := by
  have hempty : ∀ text : List Char, (crlfText text).isEmpty = text.isEmpty := by
    intro text
    cases text with
    | nil => rfl
    | cons c cs =>
      show ((if c = '\n' then ['\r', '\n'] else [c]) ++ crlfText cs).isEmpty = _
      split <;> rfl
  unfold decode Decoder.last Decoder.decode
  simp only [feed_crlf, withoutMark_crlfText, crlfText_append, hempty]
  congr 1
  rw [← withoutMark_crlfText, crlfText_of_notMem (newline_notMem_finish _)]

/-! ## Lines of bytes and lines of text -/

/-- All the text of a stream, with a byte order mark it begins with. -/
def markedText (bytes : List UInt8) : List Char := (feed none bytes).2 ++ finish (feed none bytes).1

theorem decode_eq (bytes : List UInt8) : decode bytes = withoutMark false (markedText bytes) := by
  rw [markedText, withoutMark_append]
  rfl

theorem markedText_ascii (a : List UInt8) {byte : UInt8} (h : byte.toNat < 0x80) (b : List UInt8) :
    markedText (a ++ byte :: b) = markedText a ++ Char.ofNat byte.toNat :: markedText b := by
  unfold markedText
  rw [feed_append]
  simp only [feed, step_ascii _ h]
  simp

theorem notMem_markedText {byte : UInt8} (hpos : 0 < byte.toNat) (hcode : byte.toNat < 0x80)
    {bytes : List UInt8} (h : byte ∉ bytes) : Char.ofNat byte.toNat ∉ markedText bytes := by
  have hfeed : ∀ begun, Char.ofNat byte.toNat ∉ (feed begun bytes).2 := by
    induction bytes with
    | nil => simp [feed]
    | cons first bytes ih =>
      intro begun hmem
      rw [List.mem_cons, not_or] at h
      rcases List.mem_append.1 hmem with hstep | hrest
      · exact h.1 (UInt8.toNat_inj.1 (eq_of_step hpos hcode hstep)).symm
      · exact ih h.2 _ hrest
  intro hmem
  exact (List.mem_append.1 hmem).elim (hfeed none) (notMem_finish hpos hcode _)

/-- A byte that ends a line. -/
def endsLine (byte : UInt8) : Bool := byte == 10 || byte == 13

/-- A character that ends a line. -/
def lineEnd (c : Char) : Bool := c == '\n' || c == '\r'

theorem endsLine_iff {byte : UInt8} : endsLine byte = true ↔ byte = 10 ∨ byte = 13 := by
  simp [endsLine]

theorem lineEnd_ofNat {byte : UInt8} (h : endsLine byte = true) :
    byte.toNat < 0x80 ∧ lineEnd (Char.ofNat byte.toNat) = true := by
  rcases endsLine_iff.1 h with rfl | rfl
  · exact ⟨by decide, by decide⟩
  · exact ⟨by decide, by decide⟩

/-- A line of bytes is text on one line. -/
theorem lineEnd_markedText {run : List UInt8} (h : ∀ byte ∈ run, endsLine byte = false) :
    ∀ c ∈ markedText run, lineEnd c = false := by
  have hnot : ∀ byte : UInt8, endsLine byte = true → byte ∉ run := by
    intro byte hbyte hmem
    rw [h byte hmem] at hbyte
    exact absurd hbyte (by decide)
  intro c hc
  by_contra hend
  rw [Bool.not_eq_false, lineEnd, Bool.or_eq_true, beq_iff_eq, beq_iff_eq] at hend
  rcases hend with rfl | rfl
  · exact notMem_markedText (show 0 < (10 : UInt8).toNat by decide) (by decide) (hnot 10 (by decide)) hc
  · exact notMem_markedText (show 0 < (13 : UInt8).toNat by decide) (by decide) (hnot 13 (by decide)) hc

/-- The lines of the text are the texts of the lines. -/
theorem markedText_lines (bytes : List UInt8) :
    (markedText bytes).splitOnP lineEnd = (bytes.splitOnP endsLine).map markedText := by
  -- `run` is what is read of a line that has begun
  have hrun : ∀ (bytes run : List UInt8), (∀ byte ∈ run, endsLine byte = false) →
      (markedText (run ++ bytes)).splitOnP lineEnd =
        ((run ++ bytes).splitOnP endsLine).map markedText := by
    intro bytes
    induction bytes with
    | nil =>
      intro run hrun
      rw [List.append_nil, List.splitOnP_eq_singleton hrun,
        List.splitOnP_eq_singleton (lineEnd_markedText hrun), List.map_singleton]
    | cons byte bytes ih =>
      intro run hrun
      cases hbyte : endsLine byte with
      | false =>
        have hlonger := ih (run ++ [byte]) fun byte' hbyte' => by
          rcases List.mem_append.1 hbyte' with hold | hnew
          · exact hrun byte' hold
          · rw [List.mem_singleton.1 hnew, hbyte]
        simpa using hlonger
      | true =>
        obtain ⟨hcode, hend⟩ := lineEnd_ofNat hbyte
        have hrest := ih [] (by simp)
        rw [List.nil_append] at hrest
        rw [markedText_ascii run hcode, List.splitOnP_append_cons_of_forall_mem
          (lineEnd_markedText hrun) _ hend, List.splitOnP_append_cons_of_forall_mem hrun _ hbyte, hrest,
          List.map_cons]
  exact hrun bytes [] (by simp)

/-! ## Text that was encoded -/

theorem step_last {begun : Begun} {byte : Nat} (hleft : begun.left = 1)
    (h : begun.lower ≤ byte ∧ byte ≤ begun.upper) :
    step (some begun) byte = (none, [Char.ofNat (begun.next byte)]) := by
  rw [step, dif_pos h]
  exact dif_neg (by omega)

theorem step_more {begun : Begun} {byte : Nat} (hleft : 1 < begun.left)
    (h : begun.lower ≤ byte ∧ byte ≤ begun.upper) :
    step (some begun) byte = (some ⟨begun.next byte, begun.left - 1, 0x80, 0xBF, by decide,
      begun.wide_next h.1 hleft⟩, []) := by
  rw [step, dif_pos h]
  exact dif_pos hleft

/-- The bytes of a character are decoded to it. -/
theorem feed_encodeChar (c : Char) : feed none (String.utf8EncodeChar c) = (none, [c]) := by
  have hvalid : c.toNat < 0xD800 ∨ (0xDFFF < c.toNat ∧ c.toNat < 0x110000) := c.valid
  have hbyte : ∀ n, n < 256 → (UInt8.ofNat n).toNat = n := fun n hn => UInt8.toNat_ofNat_of_lt' hn
  have hlead : ∀ byte, step none byte = lead byte := fun _ => rfl
  obtain ⟨v, hv⟩ : ∃ v, c.val.toNat = v := ⟨_, rfl⟩
  have hback : ∀ n, n = v → ((none, [Char.ofNat n]) : Option Begun × List Char) = (none, [c]) := by
    intro n hn
    rw [hn, ← hv, show c.val.toNat = c.toNat from rfl, Char.ofNat_toNat]
  rw [show c.toNat = v from hv] at hvalid
  unfold String.utf8EncodeChar
  simp only [hv]
  -- one case for each number of bytes
  split
  · rw [feed, feed, hbyte v (by omega), hlead, lead_ascii (show v < 0x80 by omega)]
    exact hback v rfl
  · split
    · rw [feed, feed, feed, hbyte (v / 64 % 32 + 192) (by omega), hbyte (v % 64 + 128) (by omega),
        hlead, lead, if_neg (by omega), dif_pos (by omega)]
      simp only [List.nil_append]
      rw [step_last rfl (by simp only; omega)]
      refine hback _ ?_
      show (v / 64 % 32 + 192 - 0xC0) * 64 + (v % 64 + 128 - 0x80) = v
      omega
    · split
      · rw [feed, feed, feed, feed, hbyte (v / 4096 % 16 + 224) (by omega),
          hbyte (v / 64 % 64 + 128) (by omega), hbyte (v % 64 + 128) (by omega),
          hlead, lead, if_neg (by omega), dif_neg (by omega), dif_pos (by omega)]
        simp only [List.nil_append]
        rw [step_more (by simp only; decide) (by simp only; split <;> split <;> omega)]
        simp only [List.nil_append]
        rw [step_last rfl (by simp only; omega)]
        refine hback _ ?_
        show ((v / 4096 % 16 + 224 - 0xE0) * 64 + (v / 64 % 64 + 128 - 0x80)) * 64 +
          (v % 64 + 128 - 0x80) = v
        omega
      · rw [feed, feed, feed, feed, feed, hbyte (v / 262144 % 8 + 240) (by omega),
          hbyte (v / 4096 % 64 + 128) (by omega), hbyte (v / 64 % 64 + 128) (by omega),
          hbyte (v % 64 + 128) (by omega), hlead, lead, if_neg (by omega), dif_neg (by omega),
          dif_neg (by omega), dif_pos (by omega)]
        simp only [List.nil_append]
        rw [step_more (by simp only; decide) (by simp only; split <;> split <;> omega)]
        simp only [List.nil_append]
        rw [step_more (by simp only; decide) (by simp only; omega)]
        simp only [List.nil_append]
        rw [step_last rfl (by simp only; omega)]
        refine hback _ ?_
        show (((v / 262144 % 8 + 240 - 0xF0) * 64 + (v / 4096 % 64 + 128 - 0x80)) * 64 +
          (v / 64 % 64 + 128 - 0x80)) * 64 + (v % 64 + 128 - 0x80) = v
        omega

theorem feed_encode (text : List Char) :
    feed none (Utf8.encode (String.ofList text)) = (none, text) := by
  rw [Utf8.encode_ofList]
  induction text with
  | nil => rfl
  | cons c cs ih => rw [List.flatMap_cons, feed_append, feed_encodeChar, ih]; rfl

/-- **Encoded text is decoded to itself**, but for a byte order mark. -/
theorem decode_encode {text : List Char} (h : text.head? ≠ some byteOrderMark) :
    decode (Utf8.encode (String.ofList text)) = text := by
  unfold decode Decoder.last Decoder.decode
  rw [show new.begun = none from rfl, feed_encode]
  have hmark : withoutMark new.bomSeen text = text := by
    cases text with
    | nil => rfl
    | cons c cs =>
      have hc : c ≠ byteOrderMark := fun heq => h (by rw [heq]; rfl)
      show (if (!false && c == byteOrderMark) = true then cs else c :: cs) = c :: cs
      rw [if_neg (by simpa using hc)]
  show withoutMark new.bomSeen text ++ withoutMark _ (finish none) = text
  rw [hmark]
  exact List.append_nil text

end TextDecoder
