import A5cCell.Bridge.Resp

/-!
# The codec of the counter client

A reply is read off its bytes whatever pieces they come in: to its value, or to the first error in it,
and no further than its end. A stream that ends within a reply is an error of its own. The commands
are replies too, and a transaction is read as its replies one after the other.
-/

namespace A5cCell.Bridge.Resp

open Py (Val)
open Socket (Stream Consumes recv)
open Utf8 (byte)

/-! ## What the reads take -/

/-- The loop reads what is missing, where there is enough. -/
theorem readExactFrom_enough {length : Nat} (turns : Nat) (chunks bytes : List UInt8)
    (hturns : length ≤ turns + chunks.length) (hchunks : chunks.length ≤ length)
    (henough : length - chunks.length ≤ bytes.length) (sizes : Nat → Nat) :
    ∃ sizes', readExactFrom length turns chunks ⟨bytes, sizes⟩ =
      .ok (chunks ++ bytes.take (length - chunks.length),
        ⟨bytes.drop (length - chunks.length), sizes'⟩) := by
  induction turns generalizing chunks bytes sizes with
  | zero =>
    have hnone : length - chunks.length = 0 := by omega
    refine ⟨sizes, ?_⟩
    rw [hnone, List.take_zero, List.drop_zero, List.append_nil]
    rfl
  | succ turns ih =>
    by_cases hmore : chunks.length < length
    · -- a read gives some of the bytes, and the rest is read by the turns left
      let n := min (length - chunks.length) (max 1 (sizes 0))
      have hpos : 1 ≤ n := le_min (by omega) (le_max_left _ _)
      have hle : n ≤ length - chunks.length := min_le_left _ _
      have hchunk : (bytes.take n).length = n := List.length_take_of_le (hle.trans henough)
      obtain ⟨sizes', hrest⟩ := ih (chunks ++ bytes.take n) (bytes.drop n)
        (by rw [List.length_append, hchunk]; omega) (by rw [List.length_append, hchunk]; omega)
        (by rw [List.length_append, hchunk, List.length_drop]; omega) (fun k => sizes (k + 1))
      refine ⟨sizes', ?_⟩
      have hne : bytes.take n ≠ [] := by
        intro hnil
        rw [hnil] at hchunk
        exact absurd hchunk.symm (Nat.ne_of_gt hpos)
      have hread : readExactFrom length (turns + 1) chunks ⟨bytes, sizes⟩ =
          readExactFrom length turns (chunks ++ bytes.take n)
            ⟨bytes.drop n, fun k => sizes (k + 1)⟩ := by
        rw [readExactFrom, if_pos hmore]
        show (if bytes.take n = [] then throw closed
          else readExactFrom length turns (chunks ++ bytes.take n) : Read (List UInt8))
            ⟨bytes.drop n, fun k => sizes (k + 1)⟩ = _
        rw [if_neg hne]
      have hleft : length - (chunks ++ bytes.take n).length = length - chunks.length - n := by
        rw [List.length_append, hchunk]
        omega
      have hall : length - chunks.length = n + (length - chunks.length - n) := by omega
      rw [hread, hrest, hleft, List.append_assoc, List.drop_drop]
      nth_rewrite 4 [hall]
      nth_rewrite 3 [hall]
      rw [List.take_add, ← hall]
    · have hnone : length - chunks.length = 0 := by omega
      refine ⟨sizes, ?_⟩
      rw [readExactFrom, if_neg hmore, hnone, List.take_zero, List.drop_zero, List.append_nil]
      rfl

/-- It raises where the stream ends before. -/
theorem readExactFrom_short {length : Nat} {turns : Nat} {chunks bytes : List UInt8}
    (hturns : length ≤ turns + chunks.length)
    (hshort : bytes.length < length - chunks.length) (sizes : Nat → Nat) :
    readExactFrom length turns chunks ⟨bytes, sizes⟩ = .error closed := by
  induction turns generalizing chunks bytes sizes with
  | zero => omega
  | succ turns ih =>
    have hmore : chunks.length < length := by omega
    let n := min (length - chunks.length) (max 1 (sizes 0))
    have hpos : 1 ≤ n := le_min (by omega) (le_max_left _ _)
    rw [readExactFrom, if_pos hmore]
    show (if bytes.take n = [] then throw closed
      else readExactFrom length turns (chunks ++ bytes.take n) : Read (List UInt8))
        ⟨bytes.drop n, fun k => sizes (k + 1)⟩ = _
    by_cases hnil : bytes.take n = []
    · rw [if_pos hnil]
      rfl
    · rw [if_neg hnil]
      have hlength : (bytes.take n).length + (bytes.drop n).length = bytes.length := by
        rw [← List.length_append, List.take_append_drop]
      have hsome := List.length_pos_iff.mpr hnil
      apply ih
      · rw [List.length_append]
        omega
      · rw [List.length_append]
        omega

theorem consumes_readExact (bytes : List UInt8) :
    Consumes closed (readExact bytes.length) bytes (.ok bytes) where
  whole := by
    intro sizes rest
    have henough : bytes.length - ([] : List UInt8).length ≤ (bytes ++ rest).length := by simp
    obtain ⟨sizes', hread⟩ := readExactFrom_enough bytes.length [] _ (by simp) (by simp)
      henough sizes
    refine ⟨sizes', ?_⟩
    rw [readExact, hread]
    simp [Except.map]
  cut := by
    intro front hfront hne sizes
    have hshort : front.length < bytes.length := by
      rcases Nat.lt_or_ge front.length bytes.length with hlt | hge
      · exact hlt
      · exact absurd (hfront.eq_of_length_le hge) hne
    exact ⟨closed, readExactFrom_short (by simp) (by simpa using hshort) sizes, .inl rfl⟩

theorem consumes_byte (b : UInt8) : Consumes closed (readExact 1) [b] (.ok [b]) :=
  consumes_readExact [b]

/-- A line up to its CR LF has none within. -/
theorem not_crlf_suffix {text front : List UInt8} (htext : ¬ crlf <:+: text)
    (hfront : front <+: text ++ crlf) (hne : front ≠ text ++ crlf) : ¬ crlf <:+ front := by
  intro hsuffix
  rcases Consumes.front_cases hfront hne with ⟨hpre, -⟩ | ⟨more, rfl, hmore, hne'⟩
  · exact htext (hsuffix.isInfix.trans hpre.isInfix)
  · have hcases : more = [] ∨ more = [byte '\r'] := by
      rcases more with _ | ⟨b, _ | ⟨c, more⟩⟩
      · exact .inl rfl
      · have hb : b = byte '\r' := by simpa [crlf] using hmore
        exact .inr (by rw [hb])
      · have hall : b :: c :: more = crlf := hmore.eq_of_length_le (by simp [crlf])
        exact absurd hall hne'
    rcases hcases with rfl | rfl
    · rw [List.append_nil] at hsuffix
      exact htext hsuffix.isInfix
    · obtain ⟨start, hstart⟩ := hsuffix
      have hlast := congrArg List.getLast? hstart
      simp only [crlf, List.getLast?_append, List.getLast?_cons_cons, List.getLast?_singleton,
        Option.some_or, Option.some.injEq] at hlast
      exact absurd hlast (by decide)

/-- The loop reads the rest of a line. -/
theorem readLineFrom_whole {text : List UInt8} (htext : ¬ crlf <:+: text) (todo chunks : List UInt8)
    (hsplit : chunks ++ todo = text ++ crlf) {turns : Nat} (hturns : todo.length < turns)
    (sizes : Nat → Nat) (rest : List UInt8) :
    ∃ sizes', readLineFrom turns chunks ⟨todo ++ rest, sizes⟩ = .ok (text, ⟨rest, sizes'⟩) := by
  induction todo generalizing chunks turns sizes with
  | nil =>
    obtain ⟨turns, rfl⟩ : ∃ n, turns = n + 1 := ⟨turns - 1, (Nat.sub_add_cancel hturns).symm⟩
    rw [List.append_nil] at hsplit
    have hends : crlf.isSuffixOf chunks = true := by
      rw [hsplit, List.isSuffixOf_iff_suffix]
      exact List.suffix_append _ _
    refine ⟨sizes, ?_⟩
    rw [readLineFrom, if_pos hends, hsplit]
    simp [crlf]
    rfl
  | cons b todo ih =>
    rw [List.length_cons] at hturns
    obtain ⟨turns, rfl⟩ : ∃ n, turns = n + 1 := ⟨turns - 1, by omega⟩
    have hends : ¬ crlf.isSuffixOf chunks = true := by
      rw [List.isSuffixOf_iff_suffix]
      apply not_crlf_suffix htext ⟨b :: todo, hsplit⟩
      intro heq
      rw [← heq] at hsplit
      exact absurd (List.append_right_eq_self.mp hsplit) (List.cons_ne_nil b todo)
    obtain ⟨sizes', hread⟩ := (consumes_byte b).whole sizes (todo ++ rest)
    obtain ⟨sizes'', hline⟩ := ih (chunks ++ [b]) (by simpa using hsplit)
      (Nat.lt_of_succ_lt_succ hturns) sizes'
    refine ⟨sizes'', ?_⟩
    rw [readLineFrom, if_neg hends]
    show (readExact 1 ⟨[b] ++ (todo ++ rest), sizes⟩ >>= fun p =>
      readLineFrom turns (chunks ++ p.1) p.2) = _
    rw [hread]
    exact hline

/-- It raises where the stream ends before the line does. -/
theorem readLineFrom_cut {text : List UInt8} (htext : ¬ crlf <:+: text) (todo chunks : List UInt8)
    (hfront : chunks ++ todo <+: text ++ crlf) (hne : chunks ++ todo ≠ text ++ crlf) (turns : Nat)
    (hturns : todo.length < turns) (sizes : Nat → Nat) :
    readLineFrom turns chunks ⟨todo, sizes⟩ = .error closed := by
  induction todo generalizing chunks turns sizes with
  | nil =>
    obtain ⟨turns, rfl⟩ : ∃ n, turns = n + 1 := ⟨turns - 1, (Nat.sub_add_cancel hturns).symm⟩
    rw [List.append_nil] at hfront hne
    have hends : ¬ crlf.isSuffixOf chunks = true := by
      rw [List.isSuffixOf_iff_suffix]
      exact not_crlf_suffix htext hfront hne
    rw [readLineFrom, if_neg hends]
    show (readExact 1 ⟨[], sizes⟩ >>= fun p => readLineFrom turns (chunks ++ p.1) p.2) = _
    have hshort : readExact 1 ⟨[], sizes⟩ = .error closed :=
      readExactFrom_short (by simp) (by simp) sizes
    rw [hshort]
    rfl
  | cons b todo ih =>
    rw [List.length_cons] at hturns
    obtain ⟨turns, rfl⟩ : ∃ n, turns = n + 1 := ⟨turns - 1, by omega⟩
    have hends : ¬ crlf.isSuffixOf chunks = true := by
      rw [List.isSuffixOf_iff_suffix]
      apply not_crlf_suffix htext ((List.prefix_append _ _).trans hfront)
      intro heq
      have hlength := hfront.length_le
      rw [← heq, List.length_append, List.length_cons] at hlength
      omega
    obtain ⟨sizes', hread⟩ := (consumes_byte b).whole sizes todo
    rw [readLineFrom, if_neg hends]
    show (readExact 1 ⟨[b] ++ todo, sizes⟩ >>= fun p => readLineFrom turns (chunks ++ p.1) p.2) = _
    rw [hread]
    exact ih (chunks ++ [b]) (by simpa using hfront) (by simpa using hne) turns (Nat.lt_of_succ_lt_succ hturns) sizes'

theorem consumes_readLine {text : List UInt8} (htext : ¬ crlf <:+: text) :
    Consumes closed readLine (text ++ crlf) (.ok text) where
  whole := by
    intro sizes rest
    have hturns : (text ++ crlf).length < (text ++ crlf ++ rest).length + 1 :=
      Nat.lt_succ_of_le (List.prefix_append _ rest).length_le
    exact readLineFrom_whole htext _ [] (List.nil_append _) hturns sizes rest
  cut := by
    intro front hfront hne sizes
    exact ⟨closed, readLineFrom_cut htext front [] hfront hne _ (Nat.lt_succ_self _) sizes, .inl rfl⟩

/-! ## What a line holds -/

/-- A code of ASCII is read back. -/
theorem ofNat_byte {c : Char} (h : c.toNat < 128) :
    byte c < 128 ∧ Char.ofNat (byte c).toNat = c := by
  have hcode : (byte c).toNat = c.toNat := by
    rw [byte, UInt8.toNat_ofNat', Nat.mod_eq_of_lt (by omega)]
  refine ⟨?_, ?_⟩
  · rw [UInt8.lt_iff_toNat_lt, hcode]
    exact h
  · rw [hcode, Char.ofNat_toNat]

theorem ascii_toString {n : Int} {c : Char} (hc : c ∈ (toString n).toList) :
    c.toNat < 128 ∧ c ≠ '\r' := by
  refine ⟨?_, ?_⟩
  · by_contra hlarge
    apply Py.not_mem_toString (c := c) ?_ ?_ n hc
    · by_contra hdigit
      have hrange : 48 ≤ c.toNat ∧ c.toNat ≤ 57 := by
        simpa [Char.isDigit, UInt32.le_iff_toNat_le] using hdigit
      omega
    · intro hsign
      rw [hsign] at hlarge
      exact hlarge (by decide)
  · intro hreturn
    rw [hreturn] at hc
    exact Py.not_mem_toString (by decide) (by decide) n hc

/-- The text of a number is ASCII. -/
theorem encode_toString (n : Int) : Utf8.encode (toString n) = (toString n).toList.map byte :=
  Utf8.encode_ascii fun _ hc => (ascii_toString hc).1

/-- The text of a number is read as the number. -/
theorem intOf_toString (n : Int) : intOf (Utf8.encode (toString n)) = .ok n := by
  have hascii : ((toString n).toList.map byte).all (· < 128) = true := by
    rw [List.all_eq_true]
    intro b hb
    obtain ⟨c, hc, rfl⟩ := List.mem_map.mp hb
    simpa using (ofNat_byte (ascii_toString hc).1).1
  have htext : String.ofList (((toString n).toList.map byte).map fun b => Char.ofNat b.toNat) =
      toString n := by
    rw [List.map_map]
    have hid : (toString n).toList.map ((fun b : UInt8 => Char.ofNat b.toNat) ∘ byte) =
        (toString n).toList := by
      conv_rhs => rw [← List.map_id (toString n).toList]
      apply List.map_congr_left
      intro c hc
      exact (ofNat_byte (ascii_toString hc).1).2
    rw [hid, String.ofList_toList]
  rw [intOf, encode_toString, if_pos hascii, htext, Py.toInt?_toString]

/-- The text of a number has no CR LF. -/
theorem not_crlf_toString (n : Int) : ¬ crlf <:+: Utf8.encode (toString n) := by
  intro h
  have hmem : byte '\r' ∈ Utf8.encode (toString n) := h.subset List.mem_cons_self
  rw [encode_toString] at hmem
  obtain ⟨c, hc, heq⟩ := List.mem_map.mp hmem
  have hcode := congrArg (fun b : UInt8 => Char.ofNat b.toNat) heq
  simp only [(ofNat_byte (ascii_toString hc).1).2] at hcode
  exact (ascii_toString hc).2 (hcode.trans (by decide))

theorem decodeUtf8_encode (text : String) : decodeUtf8 (Utf8.encode text) = .ok text := by
  rw [decodeUtf8, Utf8.decode_encode]

/-! ## Replies -/

/-- A number, on a line. -/
theorem consumes_readInt (n : Int) :
    Consumes closed readInt (Utf8.encode (toString n) ++ crlf) (.ok n) := by
  have hline := (consumes_readLine (not_crlf_toString n)).map intOf
  have hvalue : ((.ok (Utf8.encode (toString n)) : Except RespError (List UInt8)) >>= intOf) = .ok n :=
    intOf_toString n
  rw [hvalue] at hline
  exact hline

/-- A text, on a line. -/
theorem consumes_readText {text : String} (htext : ¬ crlf <:+: Utf8.encode text) :
    Consumes closed readText (Utf8.encode text ++ crlf) (.ok text) := by
  have hline := (consumes_readLine htext).map decodeUtf8
  have hvalue : ((.ok (Utf8.encode text) : Except RespError (List UInt8)) >>= decodeUtf8) = .ok text :=
    decodeUtf8_encode text
  rw [hvalue] at hline
  exact hline

/-- A text, by its length. -/
theorem consumes_payload (text : String) :
    Consumes closed (do
        let payload ← readExact (Utf8.encode text).length
        let _ ← readExact 2
        let text ← Socket.ofExcept (decodeUtf8 payload)
        pure (Val.str text)) (Utf8.encode text ++ crlf) (.ok (.str text)) := by
  apply (consumes_readExact (Utf8.encode text)).seq
  have hend : Consumes closed (readExact 2) crlf (.ok crlf) := consumes_readExact crlf
  rw [← List.append_nil crlf]
  apply hend.seq
  rw [decodeUtf8_encode]
  exact (Consumes.ofExcept (.ok text)).seq (Consumes.pure _)

/-- A reply, from its marker and what is read after it. -/
theorem consumes_marked {depth : Nat} {marker : Char} {bytes : List UInt8}
    {outcome : Except RespError Val}
    (h : Consumes closed (readMarked (readResp depth) [byte marker]) bytes outcome) :
    Consumes closed (readResp (depth + 1)) (byte marker :: bytes) outcome :=
  (consumes_byte (byte marker)).seq h

namespace Reply

/-- A length below zero is no reply. -/
theorem consumes_null {limit : Nat} {marker : Char} (hmarker : marker = '$' ∨ marker = '*') :
    Consumes closed (readMarked (readResp limit) [byte marker]) (Utf8.encode "-1" ++ crlf)
      (.ok .none) := by
  have hnull (next : Int → Read Val) (hnext : next (-1) = pure .none) :
      Consumes closed (readInt >>= next) (Utf8.encode "-1" ++ crlf) (.ok .none) := by
    have hnone : Consumes closed (next (-1)) [] (.ok .none) := by
      rw [hnext]
      exact Consumes.pure Val.none
    have hread := (consumes_readInt (-1)).seq hnone
    rw [List.append_nil] at hread
    exact hread
  rcases hmarker with rfl | rfl
  · exact hnull _ rfl
  · exact hnull _ rfl

/-- A text, after the marker. -/
theorem consumes_bulk (limit : Nat) (text : String) :
    Consumes closed (readMarked (readResp limit) [byte '$'])
      (Utf8.encode (toString (Utf8.encode text).length) ++ crlf ++ (Utf8.encode text ++ crlf))
      (.ok (.str text)) := by
  have hlength := consumes_readInt (Utf8.encode text).length
  have hsome : ¬ ((Utf8.encode text).length : Int) < 0 := Int.not_lt.mpr (Int.natCast_nonneg _)
  apply hlength.seq
  rw [if_neg hsome, Int.toNat_natCast]
  exact consumes_payload text

/-- An array, after the marker. -/
theorem consumes_array {limit : Nat} {count : Nat} {bytes : List UInt8}
    {outcome : Except RespError (List Val)}
    (hitems : Consumes closed (Socket.times (readResp limit) count) bytes outcome) :
    Consumes closed (readMarked (readResp limit) [byte '*'])
      (Utf8.encode (toString count) ++ crlf ++ bytes) (outcome.map .list) := by
  have hlength := consumes_readInt count
  have hsome : ¬ (count : Int) < 0 := Int.not_lt.mpr (Int.natCast_nonneg _)
  apply hlength.seq
  rw [if_neg hsome, Int.toNat_natCast]
  exact hitems.map fun items => .ok (Val.list items)

mutual

/-- **A reply is read to its value**, and to its end. -/
theorem consumes : ∀ (r : Reply) (_ : r.WellFormed) (limit : Nat) (_ : r.depth < limit),
    Consumes closed (readResp limit) r.encode r.value
  | simple _, hformed, limit + 1, _ =>
    consumes_marked ((consumes_readText hformed).map fun text => .ok (Val.str text))
  | integer n, _, limit + 1, _ =>
    consumes_marked ((consumes_readInt n).map fun n => .ok (Val.int n))
  | error _, hformed, limit + 1, _ =>
    consumes_marked ((consumes_readText hformed).map fun message =>
      (.error (.runtimeError message) : Except RespError Val))
  | bulk text, _, limit + 1, _ => by
    rw [encode, line, List.cons_append]
    exact consumes_marked (consumes_bulk limit text)
  | nullBulk, _, limit + 1, _ => consumes_marked (consumes_null (.inl rfl))
  | nullArray, _, limit + 1, _ => consumes_marked (consumes_null (.inr rfl))
  | array items, hformed, limit + 1, hlimit => by
    rw [encode, value, line, List.cons_append]
    exact consumes_marked (consumes_array (consumesAll items hformed limit (Nat.lt_of_succ_lt_succ hlimit)))

theorem consumesAll : ∀ (items : List Reply) (_ : AllWellFormed items) (limit : Nat)
    (_ : depths items < limit),
    Consumes closed (Socket.times (readResp limit) items.length) (encodeAll items) (values items)
  | [], _, _, _ => Consumes.pure []
  | item :: items, hformed, limit, hlimit => by
    have hdepths : item.depth < limit ∧ depths items < limit := Nat.max_lt.mp hlimit
    apply (consumes item hformed.1 limit hdepths.1).bind
    intro v _
    exact (consumesAll items hformed.2 limit hdepths.2).map fun vs => .ok (v :: vs)

end

/-! ## Values and errors -/

mutual

/-- A reply without errors stands for a value. -/
theorem value_of_not_hasError : ∀ (r : Reply), ¬ r.HasError → ∃ v, r.value = .ok v
  | simple text, _ => ⟨.str text, rfl⟩
  | integer n, _ => ⟨.int n, rfl⟩
  | error _, h => absurd trivial h
  | bulk text, _ => ⟨.str text, rfl⟩
  | nullBulk, _ => ⟨.none, rfl⟩
  | nullArray, _ => ⟨.none, rfl⟩
  | array items, h => by
    obtain ⟨vs, hvs⟩ := values_of_not_anyHasError items h
    refine ⟨.list vs, ?_⟩
    rw [value, hvs]
    rfl

theorem values_of_not_anyHasError : ∀ (items : List Reply), ¬ AnyHasError items →
    ∃ vs, values items = .ok vs
  | [], _ => ⟨[], rfl⟩
  | item :: items, h => by
    obtain ⟨v, hv⟩ := value_of_not_hasError item fun hitem => h (.inl hitem)
    obtain ⟨vs, hvs⟩ := values_of_not_anyHasError items fun hrest => h (.inr hrest)
    refine ⟨v :: vs, ?_⟩
    rw [values, hv, hvs]
    rfl

end

mutual

/-- A reply with an error is raised as one of its errors. -/
theorem value_of_hasError : ∀ (r : Reply), r.HasError →
    ∃ message, r.value = .error (.runtimeError message)
  | error message, _ => ⟨message, rfl⟩
  | array items, h => by
    obtain ⟨message, hraise⟩ := values_of_anyHasError items h
    refine ⟨message, ?_⟩
    rw [value, hraise]
    rfl

theorem values_of_anyHasError : ∀ (items : List Reply), AnyHasError items →
    ∃ message, values items = .error (.runtimeError message)
  | item :: items, h => by
    by_cases hitem : item.HasError
    · obtain ⟨message, hraise⟩ := value_of_hasError item hitem
      refine ⟨message, ?_⟩
      rw [values, hraise]
      rfl
    · obtain ⟨v, hv⟩ := value_of_not_hasError item hitem
      obtain ⟨message, hraise⟩ := values_of_anyHasError items (h.resolve_left hitem)
      refine ⟨message, ?_⟩
      rw [values, hv, hraise]
      rfl

end

end Reply

/-! ## Commands -/

/-- A command is an array of bulk strings. -/
theorem encodeRespCommand_eq (parts : List String) :
    encodeRespCommand parts = (Reply.array (parts.map .bulk)).encode := by
  have hpart (part : String) : encodePart part = (Reply.bulk part).encode := by
    have hmark : Utf8.encode "$" = [byte '$'] := rfl
    have hend : Utf8.encode "\r\n" = crlf := rfl
    rw [encodePart, Utf8.encode_append, Utf8.encode_append, hmark, hend]
    rfl
  have hparts : parts.flatMap encodePart = Reply.encodeAll (parts.map .bulk) := by
    induction parts with
    | nil => rfl
    | cons part parts ih =>
      rw [List.flatMap_cons, ih, hpart]
      rfl
  have hmark : Utf8.encode "*" = [byte '*'] := rfl
  have hend : Utf8.encode "\r\n" = crlf := rfl
  rw [encodeRespCommand, hparts, Utf8.encode_append, Utf8.encode_append, hmark, hend, Reply.encode,
    line, List.length_map]
  rfl

theorem bulks_wellFormed (parts : List String) : Reply.AllWellFormed (parts.map .bulk) := by
  induction parts with
  | nil => trivial
  | cons part parts ih => exact ⟨trivial, ih⟩

theorem depths_bulks (parts : List String) : Reply.depths (parts.map .bulk) = 0 := by
  induction parts with
  | nil => rfl
  | cons part parts ih =>
    rw [List.map_cons, Reply.depths, ih]
    rfl

theorem values_bulks (parts : List String) :
    Reply.values (parts.map .bulk) = .ok (parts.map .str) := by
  induction parts with
  | nil => rfl
  | cons part parts ih =>
    rw [List.map_cons, Reply.values, ih]
    rfl

/-- A command is read back as its parts. -/
theorem consumes_command (parts : List String) {limit : Nat} (hlimit : 1 < limit) :
    Consumes closed (readResp limit) (encodeRespCommand parts) (.ok (.list (parts.map .str))) := by
  have hread := Reply.consumes (.array (parts.map .bulk)) (bulks_wellFormed parts) limit
    (by rw [Reply.depth, depths_bulks]; exact hlimit)
  rw [Reply.value, values_bulks, ← encodeRespCommand_eq] at hread
  exact hread

/-- What a transaction sends is its commands, between `MULTI` and `EXEC`. -/
theorem consumes_transactionPayload (commands : List (List String)) {limit : Nat} (hlimit : 1 < limit) :
    Consumes closed (Socket.times (readResp limit) (["MULTI"] :: commands ++ [["EXEC"]]).length)
      (transactionPayload commands)
      (.ok ((["MULTI"] :: commands ++ [["EXEC"]]).map fun parts => .list (parts.map .str))) := by
  have hpayload : transactionPayload commands =
      (["MULTI"] :: commands ++ [["EXEC"]]).flatMap encodeRespCommand := by
    simp [transactionPayload]
  have hvalues : (["MULTI"] :: commands ++ [["EXEC"]]).mapM
      (fun parts => (.ok (.list (parts.map .str)) : Except RespError Val)) =
        .ok ((["MULTI"] :: commands ++ [["EXEC"]]).map fun parts => .list (parts.map .str)) :=
    List.mapM_pure
  rw [hpayload, ← hvalues]
  exact Consumes.times fun parts _ => consumes_command parts hlimit

/-! ## The codec -/

theorem consumes_transaction {multi : Reply} {queued results : List Reply} {vs : List Val}
    {limit : Nat} (hmulti : multi.WellFormed ∧ ¬ multi.HasError ∧ multi.depth < limit)
    (hqueued : Reply.AllWellFormed queued ∧ ¬ Reply.AnyHasError queued ∧ Reply.depths queued < limit)
    (hresults : Reply.AllWellFormed results ∧ Reply.depths results + 1 < limit)
    (hvalues : Reply.values results = .ok vs) :
    Consumes closed (readTransactionResponse limit queued.length)
      (multi.encode ++ (Reply.encodeAll queued ++ (Reply.array results).encode)) (.ok vs) := by
  obtain ⟨ok, hok⟩ := multi.value_of_not_hasError hmulti.2.1
  obtain ⟨acks, hacks⟩ := Reply.values_of_not_anyHasError queued hqueued.2.1
  have hfirst := multi.consumes hmulti.1 limit hmulti.2.2
  have hmiddle := Reply.consumesAll queued hqueued.1 limit hqueued.2.2
  have hlast := (Reply.array results).consumes hresults.1 limit hresults.2
  rw [hok] at hfirst
  rw [hacks] at hmiddle
  have hexec : (Reply.array results).value = .ok (.list vs) := by
    rw [Reply.value, hvalues]
    rfl
  rw [hexec] at hlast
  apply hfirst.seq
  apply hmiddle.seq
  rw [← List.append_nil (Reply.array results).encode]
  exact hlast.seq (Consumes.pure vs)

/-- **The codec.** With room for how deep a reply is nested: a reply without errors is read to its
    value and consumes its bytes; one with an error raises; a stream that ends within a reply raises;
    a command is read back as its parts; and after the replies to the queued commands, the results of
    `EXEC` are returned. Whatever the pieces. -/
theorem resp_codec :
    (∀ r : Reply, r.WellFormed → ¬ r.HasError → ∃ v, r.value = .ok v ∧
      ∀ limit, r.depth < limit → ∀ sizes rest, ∃ sizes',
        readResp limit ⟨r.encode ++ rest, sizes⟩ = .ok (v, ⟨rest, sizes'⟩)) ∧
    (∀ r : Reply, r.WellFormed → r.HasError → ∀ limit, r.depth < limit → ∀ sizes rest, ∃ message,
      readResp limit ⟨r.encode ++ rest, sizes⟩ = .error (.runtimeError message)) ∧
    (∀ r : Reply, r.WellFormed → ∀ limit, r.depth < limit → ∀ front, front <+: r.encode →
      front ≠ r.encode → ∀ sizes, ∃ message,
        readResp limit ⟨front, sizes⟩ = .error (.runtimeError message)) ∧
    (∀ parts limit, 1 < limit → ∀ sizes rest, ∃ sizes',
      readResp limit ⟨encodeRespCommand parts ++ rest, sizes⟩ =
        .ok (.list (parts.map .str), ⟨rest, sizes'⟩)) ∧
    (∀ (multi : Reply) (queued results : List Reply) vs limit,
      multi.WellFormed ∧ ¬ multi.HasError ∧ multi.depth < limit →
      Reply.AllWellFormed queued ∧ ¬ Reply.AnyHasError queued ∧ Reply.depths queued < limit →
      Reply.AllWellFormed results ∧ Reply.depths results + 1 < limit →
      Reply.values results = .ok vs → ∀ sizes rest, ∃ sizes',
        readTransactionResponse limit queued.length
          ⟨multi.encode ++ (Reply.encodeAll queued ++ (Reply.array results).encode) ++ rest, sizes⟩ =
          .ok (vs, ⟨rest, sizes'⟩)) := by
  refine ⟨?_, ?_, ?_, ?_, ?_⟩
  · intro r hformed herror
    obtain ⟨v, hv⟩ := r.value_of_not_hasError herror
    refine ⟨v, hv, ?_⟩
    intro limit hlimit sizes rest
    have hread := (r.consumes hformed limit hlimit).whole sizes rest
    rw [hv] at hread
    exact hread
  · intro r hformed herror limit hlimit sizes rest
    obtain ⟨message, hraise⟩ := r.value_of_hasError herror
    obtain ⟨sizes', hread⟩ := (r.consumes hformed limit hlimit).whole sizes rest
    rw [hraise] at hread
    exact ⟨message, hread⟩
  · intro r hformed limit hlimit front hfront hne sizes
    obtain ⟨exc, hraise, hexc⟩ := (r.consumes hformed limit hlimit).cut front hfront hne sizes
    rcases hexc with rfl | hvalue
    · exact ⟨_, hraise⟩
    · by_cases herror : r.HasError
      · obtain ⟨message, hmessage⟩ := r.value_of_hasError herror
        rw [hmessage] at hvalue
        cases hvalue
        exact ⟨message, hraise⟩
      · obtain ⟨v, hv⟩ := r.value_of_not_hasError herror
        rw [hv] at hvalue
        cases hvalue
  · intro parts limit hlimit sizes rest
    exact (consumes_command parts hlimit).whole sizes rest
  · intro multi queued results vs limit hmulti hqueued hresults hvalues sizes rest
    exact (consumes_transaction hmulti hqueued hresults hvalues).whole sizes rest

/-- The replies to a transaction of one command, byte by byte. -/
theorem resp_codec_transaction : ∃ sizes',
    readTransactionResponse 2 1 ⟨(Reply.simple "OK").encode ++ (Reply.encodeAll [.simple "QUEUED"] ++
      (Reply.array [.integer 7]).encode) ++ [], fun _ => 1⟩ = .ok ([.int 7], ⟨[], sizes'⟩) := by
  have hline (text : String) (h : byte '\r' ∉ Utf8.encode text) : ¬ crlf <:+: Utf8.encode text :=
    fun hwithin => h (hwithin.subset List.mem_cons_self)
  have hok : ¬ crlf <:+: Utf8.encode "OK" := hline _ (by decide)
  have hqueued : ¬ crlf <:+: Utf8.encode "QUEUED" := hline _ (by decide)
  exact resp_codec.2.2.2.2 (.simple "OK") [.simple "QUEUED"] [.integer 7] [.int 7] 2
    ⟨hok, id, by decide⟩ ⟨⟨hqueued, trivial⟩, fun h => h.elim id id, by decide⟩
    ⟨⟨⟨by decide, by decide⟩, trivial⟩, by decide⟩ rfl _ []

end A5cCell.Bridge.Resp
