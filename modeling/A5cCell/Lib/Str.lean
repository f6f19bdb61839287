import Mathlib.Data.List.Basic
import Mathlib.Data.List.Infix
import Mathlib.Data.List.DropRight

/-!
# Text, as Python's `str` methods see it

The string operations a dynamically typed program leans on, over Lean's `String`. Everything is
a function of `toList`, so that the kernel can run it on literals.

`lower` maps the letters `A`–`Z`, and KELVIN SIGN, which is the one other character whose lowercase
is an ASCII letter. Lowered text is, everywhere it is used, compared with ASCII text or checked to
be ASCII, so what other letters lower to is never seen.
-/

namespace Py

/-- `str.isspace` on one character: the characters `str.strip` and `str.split` remove. -/
def isSpace (c : Char) : Bool :=
  let n := c.toNat
  (9 ≤ n && n ≤ 13) || (28 ≤ n && n ≤ 32) || n == 0x85 || n == 0xA0 || n == 0x1680 ||
    (0x2000 ≤ n && n ≤ 0x200A) || n == 0x2028 || n == 0x2029 || n == 0x202F || n == 0x205F ||
    n == 0x3000

/-- `str.lower` on one character. -/
def lowerChar (c : Char) : Char :=
  if 'A' ≤ c ∧ c ≤ 'Z' then Char.ofNat (c.toNat + 32)
  else if c.toNat = 0x212A then 'k'
  else c

/-- `str.lower`. -/
def lower (s : String) : String := String.ofList (s.toList.map lowerChar)

/-- `str.upper` on one character. -/
def upperChar (c : Char) : Char :=
  if 'a' ≤ c ∧ c ≤ 'z' then Char.ofNat (c.toNat - 32) else c

/-- `str.upper`. -/
def upper (s : String) : String := String.ofList (s.toList.map upperChar)

/-- `str.split()`: the words between white space. -/
def splitSpace (s : String) : List String :=
  ((s.toList.splitOnP isSpace).filter (· ≠ [])).map String.ofList

/-- `str.strip`. -/
def strip (s : String) : String :=
  String.ofList (((s.toList.dropWhile isSpace).reverse.dropWhile isSpace).reverse)

/-- `str.rstrip` of one character. -/
def rstripChar (c : Char) (s : String) : String :=
  String.ofList ((s.toList.reverse.dropWhile (· == c)).reverse)

/-- `str.startswith`. -/
def startsWith (s pre : String) : Bool := pre.toList.isPrefixOf s.toList

/-- `str.endswith`. -/
def endsWith (s suf : String) : Bool := suf.toList.isSuffixOf s.toList

/-- `sub in s`. -/
def hasSub (s sub : String) : Bool := s.toList.tails.any (sub.toList.isPrefixOf ·)

/-- `s.removeprefix(pre)`. -/
def removePrefix (s pre : String) : String :=
  if startsWith s pre then String.ofList (s.toList.drop pre.toList.length) else s

/-- The text after the first `sep`, as `s.split(sep, 1)[1]` gives it when there is one. -/
def afterFirst (sep : Char) (s : String) : String :=
  String.ofList ((s.toList.dropWhile (· != sep)).drop 1)

/-- `s.split(sep)` for a one-character separator. -/
def splitOn (sep : Char) (s : String) : List String :=
  (s.toList.splitOn sep).map String.ofList

/-- `s.strip(c)` of one character. -/
def stripChar (c : Char) (s : String) : String :=
  rstripChar c (String.ofList (s.toList.dropWhile (· == c)))

def splitMaxAux (sep : Char) : Nat → List Char → List (List Char)
  | 0, cs => [cs]
  | n + 1, cs =>
      if cs.contains sep then
        cs.takeWhile (· != sep) :: splitMaxAux sep n ((cs.dropWhile (· != sep)).drop 1)
      else [cs]

/-- `s.split(sep, n)` for a one-character separator. -/
def splitMax (sep : Char) (n : Nat) (s : String) : List String :=
  (splitMaxAux sep n s.toList).map String.ofList

/-- `str.replace`, left to right over the text. The fuel is the length of the text, which every
    step shortens. An empty pattern is never replaced here: no caller passes one. -/
def replaceAux (old new : List Char) : Nat → List Char → List Char
  | 0, cs => cs
  | _ + 1, [] => []
  | n + 1, c :: cs =>
      if old ≠ [] ∧ old.isPrefixOf (c :: cs) then
        new ++ replaceAux old new n ((c :: cs).drop old.length)
      else c :: replaceAux old new n cs

def replace (s old new : String) : String :=
  String.ofList (replaceAux old.toList new.toList s.toList.length s.toList)

def replaceFirstAux (old new : List Char) : List Char → List Char
  | [] => []
  | c :: cs =>
      if old.isPrefixOf (c :: cs) then new ++ (c :: cs).drop old.length
      else c :: replaceFirstAux old new cs

/-- `s.replace(old, new, 1)`, for a pattern that is not empty. -/
def replaceFirst (s old new : String) : String :=
  String.ofList (replaceFirstAux old.toList new.toList s.toList)

/-- The digits of an `int` literal: at least one, single underscores only between digits. -/
def digitsOf : List Char → Option (List Char)
  | [] => none
  | [c] => if c.isDigit then some [c] else none
  | c :: '_' :: cs => if c.isDigit then (digitsOf cs).map (c :: ·) else none
  | c :: cs => if c.isDigit then (digitsOf cs).map (c :: ·) else none

def natOfDigits (ds : List Char) : Nat :=
  ds.foldl (fun n c => n * 10 + (c.toNat - '0'.toNat)) 0

/-- The separators that `strip` removes, and `int` does not read over. -/
def isSeparator (c : Char) : Bool := 28 ≤ c.toNat && c.toNat ≤ 31

/-- `int(s)`; `none` where it raises `ValueError`. Left out are the digits of other scripts, and the limit
    of 4300 on how many digits there may be. -/
def toInt? (s : String) : Option Int :=
  if s.toList.any isSeparator then none
  else match (strip s).toList with
    | '-' :: cs => (digitsOf cs).map fun ds => -(natOfDigits ds : Int)
    | '+' :: cs => (digitsOf cs).map fun ds => (natOfDigits ds : Int)
    | cs => (digitsOf cs).map fun ds => (natOfDigits ds : Int)

/-! ## What the operations say about one another -/

theorem startsWith_iff {s pre : String} :
    startsWith s pre = true ↔ ∃ rest, s = pre ++ rest := by
  rw [startsWith, List.isPrefixOf_iff_prefix]
  constructor
  · rintro ⟨rest, hrest⟩
    refine ⟨String.ofList rest, String.toList_inj.mp ?_⟩
    simp [hrest]
  · rintro ⟨rest, rfl⟩
    simp

theorem startsWith_append (pre rest : String) : startsWith (pre ++ rest) pre = true :=
  startsWith_iff.mpr ⟨rest, rfl⟩

theorem startsWith_append_left (front s pre : String) :
    startsWith (front ++ s) (front ++ pre) = startsWith s pre := by
  rw [Bool.eq_iff_iff, startsWith, startsWith, List.isPrefixOf_iff_prefix,
    List.isPrefixOf_iff_prefix, String.toList_append, String.toList_append,
    List.prefix_append_right_inj]

theorem removePrefix_append (pre rest : String) : removePrefix (pre ++ rest) pre = rest := by
  rw [removePrefix, if_pos (startsWith_append pre rest)]
  simp

/-- `sub in s` is being a contiguous part of it. -/
theorem hasSub_iff {s sub : String} : hasSub s sub = true ↔ sub.toList <:+: s.toList := by
  rw [hasSub, List.any_eq_true, List.infix_iff_prefix_suffix]
  constructor
  · rintro ⟨t, ht, hpre⟩
    exact ⟨t, List.isPrefixOf_iff_prefix.mp hpre, (List.mem_tails _ _).mp ht⟩
  · rintro ⟨t, hpre, hsuf⟩
    exact ⟨t, (List.mem_tails _ _).mpr hsuf, List.isPrefixOf_iff_prefix.mpr hpre⟩

theorem hasSub_of_startsWith {s pre sub : String} (h : startsWith s (pre ++ sub) = true) :
    hasSub s sub = true := by
  obtain ⟨rest, rfl⟩ := startsWith_iff.mp h
  refine hasSub_iff.mpr ⟨pre.toList, rest.toList, ?_⟩
  simp

theorem toList_strip (s : String) :
    (strip s).toList = (s.toList.dropWhile isSpace).rdropWhile isSpace := by
  simp [strip, List.rdropWhile]

/-- A stripped text has nothing more to strip. -/
theorem strip_strip (s : String) : strip (strip s) = strip s := by
  apply String.toList_inj.mp
  rw [toList_strip, toList_strip]
  have hfront : ((s.toList.dropWhile isSpace).rdropWhile isSpace).dropWhile isSpace =
      (s.toList.dropWhile isSpace).rdropWhile isSpace := by
    rw [List.dropWhile_eq_self_iff]
    intro hpos hspace
    -- what is left of the text starts as the text did without the spaces before it
    have hleft : (s.toList.dropWhile isSpace).rdropWhile isSpace <+: s.toList.dropWhile isSpace :=
      List.rdropWhile_prefix isSpace _
    apply List.dropWhile_get_zero_not isSpace s.toList (hpos.trans_le hleft.length_le)
    rw [List.get_eq_getElem, ← hleft.getElem hpos]
    exact hspace
  rw [hfront, List.rdropWhile_idempotent]

/-- A text that is more than space is not stripped of everything. -/
theorem strip_ne_empty {s : String} {c : Char} (hc : c ∈ s.toList) (hspace : isSpace c = false) :
    strip s ≠ "" := by
  intro hempty
  have hnil : (s.toList.dropWhile isSpace).rdropWhile isSpace = [] := by
    rw [← toList_strip, hempty]
    rfl
  rw [← List.takeWhile_append_dropWhile (p := isSpace) (l := s.toList), List.mem_append] at hc
  rcases hc with hc | hc
  · rw [List.mem_takeWhile_imp hc] at hspace
    cases hspace
  · rw [List.rdropWhile_eq_nil_iff.mp hnil c hc] at hspace
    cases hspace

/-- A text without space has nothing to strip. -/
theorem strip_eq_self {s : String} (h : ∀ c ∈ s.toList, isSpace c = false) : strip s = s := by
  have hdrop (cs : List Char) (hcs : ∀ c ∈ cs, isSpace c = false) : cs.dropWhile isSpace = cs := by
    cases cs with
    | nil => rfl
    | cons c cs => rw [List.dropWhile_cons_of_neg (by simp [hcs c List.mem_cons_self])]
  apply String.toList_inj.mp
  rw [strip, String.toList_ofList, hdrop _ h,
    hdrop _ fun c hc => h c (List.mem_reverse.mp hc), List.reverse_reverse]

/-- Nothing of a text is replaced before the first character of what is looked for. -/
theorem replace_append {s rest old new : String} {first : Char} {more : List Char}
    (hold : old.toList = first :: more) (hs : first ∉ s.toList) :
    replace (s ++ rest) old new = s ++ replace rest old new := by
  have haux (cs : List Char) (hcs : first ∉ cs) (n : Nat) :
      replaceAux old.toList new.toList (cs.length + n) (cs ++ rest.toList) =
        cs ++ replaceAux old.toList new.toList n rest.toList := by
    induction cs with
    | nil => simp
    | cons c cs ih =>
      rw [List.mem_cons, not_or] at hcs
      obtain ⟨hc, hcs⟩ := hcs
      have hlength : (c :: cs).length + n = cs.length + n + 1 := by simp; omega
      rw [hlength, List.cons_append, replaceAux, if_neg, ih hcs, List.cons_append]
      simp [hold, List.isPrefixOf, hc]
  apply String.toList_inj.mp
  rw [replace, replace, String.toList_ofList, String.toList_append, List.length_append,
    haux _ hs, String.toList_append, String.toList_ofList]

/-- The first part of a split is what stands before the first separator. -/
theorem splitMax_append {sep : Char} {s : String} (hs : sep ∉ s.toList) (n : Nat) (rest : String) :
    splitMax sep (n + 1) (s ++ String.singleton sep ++ rest) = s :: splitMax sep n rest := by
  have htake (cs more : List Char) (hcs : sep ∉ cs) :
      (cs ++ sep :: more).takeWhile (· != sep) = cs ∧
        (cs ++ sep :: more).dropWhile (· != sep) = sep :: more := by
    have hne : ∀ c ∈ cs, (c != sep) = true := by
      intro c hc
      simpa using ne_of_mem_of_not_mem hc hcs
    rw [List.takeWhile_append_of_pos hne, List.dropWhile_append_of_pos hne]
    simp
  have hlist : (s ++ String.singleton sep ++ rest).toList = s.toList ++ sep :: rest.toList := by simp
  rw [splitMax, hlist, splitMaxAux, if_pos (by simp), (htake _ _ hs).1, (htake _ _ hs).2]
  simp [splitMax]

/-- A text of characters that are their own lowercase is lowered already. -/
theorem lower_eq_self {s : String} (h : ∀ c ∈ s.toList, lowerChar c = c) : lower s = s := by
  apply String.toList_inj.mp
  rw [lower, String.toList_ofList]
  exact (List.map_congr_left h).trans (List.map_id' s.toList)

theorem rstripChar_prefix (c : Char) (s : String) : (rstripChar c s).toList <+: s.toList := by
  rw [rstripChar, String.toList_ofList]
  exact List.rdropWhile_prefix (· == c) s.toList

/-- Nothing is stripped off the end of a text beyond a character that is not looked for. -/
theorem rstripChar_append {c : Char} {s : String} (hs : s ≠ "") (hc : c ∉ s.toList)
    (front rest : String) : rstripChar c (front ++ s ++ rest) = front ++ s ++ rstripChar c rest := by
  obtain ⟨last, hlast⟩ := List.getLast?_isSome.mpr (by simpa using hs : s.toList ≠ []) |>
    Option.isSome_iff_exists.mp
  obtain ⟨init, hinit⟩ := List.getLast?_eq_some_iff.mp hlast
  have hne : (last == c) = false := by
    simpa using ne_of_mem_of_not_mem (hinit ▸ by simp : last ∈ s.toList) hc
  apply String.toList_inj.mp
  have hdrop (cs : List Char) : (cs ++ last :: (front ++ s).toList.reverse.tail).dropWhile (· == c) =
      cs.dropWhile (· == c) ++ last :: (front ++ s).toList.reverse.tail := by
    induction cs with
    | nil => simp [hne]
    | cons d ds ih =>
      rw [List.cons_append, List.dropWhile_cons, List.dropWhile_cons]
      split
      · exact ih
      · rfl
  have hrev : (front ++ s).toList.reverse = last :: (front ++ s).toList.reverse.tail := by
    simp [hinit]
  rw [rstripChar, String.toList_ofList, String.toList_append, List.reverse_append, hrev, hdrop,
    ← hrev, List.reverse_append, List.reverse_reverse, rstripChar]
  simp

/-! ## Replacing part by part -/

section

variable {old new : List Char}

/-- More fuel than the text is long changes nothing. -/
theorem replaceAux_fuel (n m : Nat) (cs : List Char) (hn : cs.length ≤ n) (hm : cs.length ≤ m) :
    replaceAux old new n cs = replaceAux old new m cs := by
  induction n generalizing m cs with
  | zero =>
    rw [List.eq_nil_of_length_eq_zero (Nat.le_zero.mp hn)]
    cases m <;> rfl
  | succ n ih =>
    cases cs with
    | nil => cases m <;> rfl
    | cons c cs =>
      obtain ⟨m, rfl⟩ : ∃ k, m = k + 1 := ⟨m - 1, by simp at hm; omega⟩
      rw [List.length_cons] at hn hm
      rw [replaceAux, replaceAux, ih m cs (by omega) (by omega)]
      split
      next hold =>
        have hlength : ((c :: cs).drop old.length).length ≤ cs.length := by
          have hpos := List.length_pos_of_ne_nil hold.1
          rw [List.length_drop, List.length_cons]
          omega
        rw [ih m _ (by omega) (by omega)]
      · rfl

/-- What is looked for does not reach over a character it does not have. -/
theorem isPrefixOf_append_cons {sep : Char} (hsep : sep ∉ old) (cs ds : List Char) :
    old.isPrefixOf (cs ++ sep :: ds) = old.isPrefixOf cs := by
  rw [Bool.eq_iff_iff, List.isPrefixOf_iff_prefix, List.isPrefixOf_iff_prefix]
  constructor
  · intro h
    rcases List.prefix_or_prefix_of_prefix h (List.prefix_append cs (sep :: ds)) with h' | h'
    · exact h'
    · obtain ⟨rest, rfl⟩ := h'
      rw [List.prefix_append_right_inj] at h
      cases rest with
      | nil => rw [List.append_nil]
      | cons r rest =>
        obtain ⟨rfl, -⟩ := List.cons_prefix_cons.mp h
        exact absurd (by simp) hsep
  · intro h
    exact h.trans (List.prefix_append _ _)

theorem replaceAux_append_cons {sep : Char} (hsep : sep ∉ old) (cs ds : List Char) (n : Nat)
    (hn : (cs ++ sep :: ds).length ≤ n) : replaceAux old new n (cs ++ sep :: ds) =
      replaceAux old new cs.length cs ++ sep :: replaceAux old new ds.length ds := by
  induction n generalizing cs with
  | zero => simp at hn
  | succ n ih =>
    cases cs with
    | nil =>
      have hnot : ¬ (old ≠ [] ∧ old.isPrefixOf (sep :: ds)) := by
        rintro ⟨hne, hpre⟩
        cases old with
        | nil => exact hne rfl
        | cons o os => simp_all [List.isPrefixOf]
      simp only [List.nil_append, List.length_cons] at hn
      rw [List.nil_append, replaceAux, if_neg hnot,
        replaceAux_fuel n ds.length ds (by omega) (Nat.le_refl _)]
      rfl
    | cons c cs =>
      simp only [List.cons_append, List.length_cons] at hn
      rw [List.cons_append, replaceAux, List.length_cons, replaceAux]
      have hiff : old.isPrefixOf (c :: (cs ++ sep :: ds)) = old.isPrefixOf (c :: cs) :=
        isPrefixOf_append_cons hsep (c :: cs) ds
      rw [hiff]
      split
      next hold =>
        have hpos := List.length_pos_of_ne_nil hold.1
        have hlength := (List.isPrefixOf_iff_prefix.mp hold.2).length_le
        have hdrop : (c :: (cs ++ sep :: ds)).drop old.length =
            (c :: cs).drop old.length ++ sep :: ds := by
          rw [← List.cons_append, List.drop_append_of_le_length hlength]
        have hrest : ((c :: cs).drop old.length).length ≤ cs.length := by
          rw [List.length_drop, List.length_cons]
          omega
        rw [hdrop, ih _ (by simp at hn hrest ⊢; omega), List.append_assoc,
          replaceAux_fuel _ cs.length _ (Nat.le_refl _) hrest]
      · rw [ih cs (by omega), List.cons_append]

end

/-- A text is replaced on both sides of a character that what is looked for does not have. -/
theorem replace_append_sep (sep : Char) {old : String} (hsep : sep ∉ old.toList)
    (s rest new : String) : replace (s ++ String.singleton sep ++ rest) old new =
      replace s old new ++ String.singleton sep ++ replace rest old new := by
  apply String.toList_inj.mp
  have hlist : (s ++ String.singleton sep ++ rest).toList = s.toList ++ sep :: rest.toList := by simp
  rw [replace, String.toList_ofList, hlist, replaceAux_append_cons hsep _ _ _ (Nat.le_refl _)]
  simp [replace]

/-- A text without what is looked for stays. -/
theorem replace_eq_self {s old new : String} (h : ¬ old.toList <:+: s.toList) :
    replace s old new = s := by
  have haux (n : Nat) (cs : List Char) (hcs : ¬ old.toList <:+: cs) :
      replaceAux old.toList new.toList n cs = cs := by
    induction n generalizing cs with
    | zero => rfl
    | succ n ih =>
      cases cs with
      | nil => rfl
      | cons c cs =>
        rw [List.infix_cons_iff, not_or] at hcs
        rw [replaceAux, if_neg, ih cs hcs.2]
        rintro ⟨-, hpre⟩
        exact hcs.1 (List.isPrefixOf_iff_prefix.mp hpre)
  rw [replace, haux _ _ h, String.ofList_toList]

/-- Replacing a text by itself changes nothing. -/
theorem replace_self (s old : String) : replace s old old = s := by
  have haux (n : Nat) (cs : List Char) : replaceAux old.toList old.toList n cs = cs := by
    induction n generalizing cs with
    | zero => rfl
    | succ n ih =>
      cases cs with
      | nil => rfl
      | cons c cs =>
        rw [replaceAux]
        split
        next hold =>
          obtain ⟨rest, hrest⟩ := List.isPrefixOf_iff_prefix.mp hold.2
          rw [ih, ← hrest, List.drop_left]
        · rw [ih]
  rw [replace, haux, String.ofList_toList]

/-- The whole of a text is replaced. -/
theorem replace_whole {old : String} (hold : old ≠ "") (new : String) : replace old old new = new := by
  have hne : old.toList ≠ [] := by simpa using hold
  obtain ⟨c, cs, hcons⟩ := List.exists_cons_of_ne_nil hne
  apply String.toList_inj.mp
  rw [replace, String.toList_ofList, hcons, List.length_cons, replaceAux,
    if_pos ⟨by simp, by simp [List.isPrefixOf_iff_prefix]⟩, List.drop_length]
  cases cs.length <;> simp [replaceAux]

/-- A text ends in a last part when what stands behind a separator of it does. -/
theorem endsWith_append_sep (sep : Char) (seg : String) (hseg : sep ∉ seg.toList) (s rest : String) :
    endsWith (s ++ String.singleton sep ++ rest) (String.singleton sep ++ seg) =
      endsWith (String.singleton sep ++ rest) (String.singleton sep ++ seg) := by
  have hlist : (s ++ String.singleton sep ++ rest).toList = s.toList ++ sep :: rest.toList := by simp
  rw [Bool.eq_iff_iff, endsWith, endsWith, List.isSuffixOf_iff_suffix, List.isSuffixOf_iff_suffix,
    hlist]
  simp only [String.toList_append, String.toList_singleton, List.singleton_append]
  constructor
  · intro h
    rcases List.suffix_or_suffix_of_suffix h (List.suffix_append s.toList (sep :: rest.toList)) with h' | h'
    · exact h'
    · rcases List.suffix_cons_iff.mp h' with heq | hin
      · rw [heq]
      · exact absurd (hin.subset List.mem_cons_self) hseg
  · intro h
    exact h.trans (List.suffix_append _ _)

/-- Behind its last separator a text ends in the whole of what stands there. -/
theorem endsWith_last (sep : Char) (seg : String) {rest : String} (hrest : sep ∉ rest.toList)
    (h : endsWith (String.singleton sep ++ rest) (String.singleton sep ++ seg) = true) :
    rest = seg := by
  rw [endsWith, List.isSuffixOf_iff_suffix, String.toList_append, String.toList_append,
    String.toList_singleton, List.singleton_append, List.singleton_append, List.suffix_cons_iff] at h
  rcases h with heq | hsuffix
  · exact (String.toList_inj.mp (List.cons.inj heq).2).symm
  · exact absurd (hsuffix.subset List.mem_cons_self) hrest

/-! ## Decimal text, and the last separator of a text -/

/-- The text of a number has only digits and a sign. -/
theorem not_mem_toString {c : Char} (hdigit : c.isDigit = false) (hsign : c ≠ '-') (n : Int) :
    c ∉ (toString n).toList := by
  have hnat (k : Nat) : c ∉ k.repr.toList := by
    intro hmem
    rw [Nat.toList_repr] at hmem
    have hc := Nat.isDigit_of_mem_toDigits (by omega) (by omega) hmem
    exact absurd (hdigit.symm.trans hc) (by simp)
  cases n with
  | ofNat k => exact hnat k
  | negSucc k =>
    intro hmem
    have hlist : (toString (Int.negSucc k)).toList = '-' :: (k + 1).repr.toList := by
      rw [Int.toString_eq_repr, Int.repr, String.toList_append]
      rfl
    rw [hlist, List.mem_cons] at hmem
    rcases hmem with hc | hc
    · exact hsign hc
    · exact hnat _ hc

theorem repr_injective {m n : Nat} (h : m.repr = n.repr) : m = n := by
  have hdigits : Nat.toDigits 10 m = Nat.toDigits 10 n := by
    rw [← Nat.toList_repr, ← Nat.toList_repr, h]
  rw [← Nat.ofDigitChars_ten_toDigits (n := m), hdigits, Nat.ofDigitChars_ten_toDigits]

/-- Two numbers with one text are equal. -/
theorem toString_injective {m n : Int} (h : toString m = toString n) : m = n := by
  have hsign (k : Nat) : '-' ∉ k.repr.toList := by
    intro hmem
    rw [Nat.toList_repr] at hmem
    exact absurd (Nat.isDigit_of_mem_toDigits (by omega) (by omega) hmem) (by decide)
  cases m with
  | ofNat a =>
    cases n with
    | ofNat b => exact congrArg Int.ofNat (repr_injective h)
    | negSucc b =>
      refine absurd ?_ (hsign a)
      rw [show a.repr = "-" ++ (b + 1).repr from h]
      simp
  | negSucc a =>
    cases n with
    | ofNat b =>
      refine absurd ?_ (hsign b)
      rw [← show "-" ++ (a + 1).repr = b.repr from h]
      simp
    | negSucc b =>
      have hsucc : a + 1 = b + 1 :=
        repr_injective (String.append_right_inj "-" |>.mp h)
      rw [Nat.succ.inj hsucc]

theorem toString_ne_empty (n : Int) : toString n ≠ "" := by
  intro hempty
  have hnat (k : Nat) : k.repr.toList ≠ [] := by
    rw [Nat.toList_repr]
    exact Nat.toDigits_ne_nil
  cases n with
  | ofNat k => exact hnat k (congrArg String.toList hempty)
  | negSucc k =>
    have hlist := congrArg String.toList hempty
    rw [Int.toString_eq_repr, Int.repr, String.toList_append] at hlist
    exact absurd hlist (by simp)

theorem digitsOf_of_forall {cs : List Char} (hne : cs ≠ []) (h : ∀ c ∈ cs, c.isDigit = true) :
    digitsOf cs = some cs := by
  induction cs with
  | nil => exact absurd rfl hne
  | cons c cs ih =>
    rw [List.forall_mem_cons] at h
    rcases cs with _ | ⟨d, cs⟩
    · rw [digitsOf, if_pos h.1]
    · have hrest := ih (List.cons_ne_nil d cs) h.2
      have hunderscore : d ≠ '_' := by
        intro heq
        have hdigit := h.2 d List.mem_cons_self
        rw [heq] at hdigit
        exact absurd hdigit (by decide)
      rw [digitsOf.eq_4 c (d :: cs) (by simp) (by simpa using hunderscore), if_pos h.1, hrest]
      rfl

theorem natOfDigits_toDigits (n : Nat) : natOfDigits (Nat.toDigits 10 n) = n := by
  have hfold : natOfDigits (Nat.toDigits 10 n) = Nat.ofDigitChars 10 (Nat.toDigits 10 n) 0 := by
    rw [natOfDigits, Nat.ofDigitChars_eq_foldl]
    simp only [Nat.mul_comm]
  rw [hfold, Nat.ofDigitChars_ten_toDigits]

/-- The digits of a number are read as the number. -/
theorem toInt?_toString (n : Int) : toInt? (toString n) = some n := by
  have hdigits (k : Nat) : ∀ c ∈ Nat.toDigits 10 k, c.isDigit = true := by
    intro c hc
    exact Nat.isDigit_of_mem_toDigits (by decide) (by decide) hc
  have hspace (c : Char) (h : c.isDigit = true ∨ c = '-') :
      isSpace c = false ∧ isSeparator c = false := by
    rcases h with hdigit | rfl
    · have hrange : 48 ≤ c.toNat ∧ c.toNat ≤ 57 := by
        simpa [Char.isDigit, UInt32.le_iff_toNat_le] using hdigit
      simp only [isSpace, isSeparator, Bool.or_eq_false_iff, Bool.and_eq_false_iff,
        decide_eq_false_iff_not, beq_eq_false_iff_ne]
      omega
    · exact ⟨rfl, rfl⟩
  have hstrip (text : String) (h : ∀ c ∈ text.toList, c.isDigit = true ∨ c = '-') :
      strip text = text ∧ ¬ text.toList.any isSeparator = true := by
    refine ⟨strip_eq_self fun c hc => (hspace c (h c hc)).1, fun hany => ?_⟩
    obtain ⟨c, hc, hseparator⟩ := List.any_eq_true.mp hany
    rw [(hspace c (h c hc)).2] at hseparator
    cases hseparator
  cases n with
  | ofNat k =>
    have hlist : (toString (Int.ofNat k)).toList = Nat.toDigits 10 k := Nat.toList_repr
    have hread := digitsOf_of_forall Nat.toDigits_ne_nil (hdigits k)
    have htext := hstrip (toString (Int.ofNat k)) (by
      intro c hc
      rw [hlist] at hc
      exact .inl (hdigits k c hc))
    rw [toInt?, if_neg htext.2, htext.1, hlist]
    split
    · rename_i cs heq
      have hsign := hdigits k '-' (by rw [heq]; exact List.mem_cons_self)
      exact absurd hsign (by decide)
    · rename_i cs heq
      have hsign := hdigits k '+' (by rw [heq]; exact List.mem_cons_self)
      exact absurd hsign (by decide)
    · rw [hread, Option.map_some, natOfDigits_toDigits]
      rfl
  | negSucc k =>
    have hlist : (toString (Int.negSucc k)).toList = '-' :: Nat.toDigits 10 (k + 1) := by
      rw [Int.toString_eq_repr, Int.repr, String.toList_append, Nat.toList_repr]
      rfl
    have hread := digitsOf_of_forall Nat.toDigits_ne_nil (hdigits (k + 1))
    have htext := hstrip (toString (Int.negSucc k)) (by
      intro c hc
      rw [hlist] at hc
      rcases List.mem_cons.mp hc with rfl | hc
      · exact .inr rfl
      · exact .inl (hdigits (k + 1) c hc))
    rw [toInt?, if_neg htext.2, htext.1, hlist]
    simp only [hread, Option.map_some, natOfDigits_toDigits]
    rfl

/-- A list is split at the last of its separators in one way only. -/
theorem append_cons_inj {α : Type} {sep : α} {xs ys ds es : List α} (hds : sep ∉ ds)
    (hes : sep ∉ es) (h : xs ++ sep :: ds = ys ++ sep :: es) : xs = ys ∧ ds = es := by
  rcases List.append_eq_append_iff.mp h with ⟨as, hys, hrest⟩ | ⟨as, hxs, hrest⟩
  · cases as with
    | nil =>
      rw [List.nil_append] at hrest
      exact ⟨by rw [hys, List.append_nil], (List.cons.inj hrest).2⟩
    | cons a as =>
      have htail := (List.cons.inj hrest).2
      exact absurd (htail ▸ List.mem_append_right as List.mem_cons_self) hds
  · cases as with
    | nil =>
      rw [List.nil_append] at hrest
      exact ⟨by rw [hxs, List.append_nil], (List.cons.inj hrest).2.symm⟩
    | cons a as =>
      have htail := (List.cons.inj hrest).2
      exact absurd (htail ▸ List.mem_append_right as List.mem_cons_self) hes

/-- A list is split at the first of its separators in one way only. -/
theorem append_cons_inj_left {α : Type} {sep : α} {xs ys ds es : List α} (hxs : sep ∉ xs)
    (hys : sep ∉ ys) (h : xs ++ sep :: ds = ys ++ sep :: es) : xs = ys ∧ ds = es := by
  have hreverse : ds.reverse ++ sep :: xs.reverse = es.reverse ++ sep :: ys.reverse := by
    have := congrArg List.reverse h
    simpa using this
  obtain ⟨hrest, hfront⟩ :=
    append_cons_inj (by rwa [List.mem_reverse]) (by rwa [List.mem_reverse]) hreverse
  exact ⟨List.reverse_inj.mp hfront, List.reverse_inj.mp hrest⟩

/-! ### The fields of a separated text -/

section

variable {sep : Char} {field name rest new : List Char}

/-- Nothing is replaced before the first separator. -/
theorem replaceFirstAux_front (old : List Char) (hfield : sep ∉ field) :
    replaceFirstAux (sep :: old) new (field ++ sep :: rest) =
      field ++ replaceFirstAux (sep :: old) new (sep :: rest) := by
  induction field with
  | nil => rfl
  | cons c cs ih =>
    simp only [List.mem_cons, not_or] at hfield
    rw [List.cons_append, replaceFirstAux, ih hfield.2, if_neg, List.cons_append]
    rw [List.isPrefixOf_iff_prefix]
    intro h
    exact hfield.1 (List.cons_prefix_cons.mp h).1

/-- A field with another text is passed over. -/
theorem replaceFirstAux_field (hfield : sep ∉ field) (hname : sep ∉ name) (hne : field ≠ name) :
    replaceFirstAux (sep :: (name ++ [sep])) new (sep :: (field ++ sep :: rest)) =
      sep :: (field ++ replaceFirstAux (sep :: (name ++ [sep])) new (sep :: rest)) := by
  rw [replaceFirstAux, if_neg, replaceFirstAux_front _ hfield]
  rw [List.isPrefixOf_iff_prefix]
  intro h
  obtain ⟨more, hmore⟩ := (List.cons_prefix_cons.mp h).2
  rw [List.append_assoc] at hmore
  exact hne (append_cons_inj_left hname hfield hmore).1.symm

/-- The field with the text is replaced, with the separators around it. -/
theorem replaceFirstAux_name : replaceFirstAux (sep :: (name ++ [sep])) new
    (sep :: (name ++ sep :: rest)) = new ++ rest := by
  have hfront : (sep :: (name ++ [sep])).isPrefixOf (sep :: (name ++ sep :: rest)) = true := by
    rw [List.isPrefixOf_iff_prefix]
    exact ⟨rest, by simp⟩
  have hsplit : sep :: (name ++ sep :: rest) = (sep :: (name ++ [sep])) ++ rest := by simp
  rw [replaceFirstAux, if_pos hfront, hsplit, List.drop_left]

end

/-! ## Words -/

/-- Words joined with a space are what white space splits the text into. -/
theorem splitSpace_intercalate {words : List String}
    (h : ∀ word ∈ words, word ≠ "" ∧ ∀ c ∈ word.toList, isSpace c = false) :
    splitSpace (" ".intercalate words) = words := by
  induction words with
  | nil => rfl
  | cons word words ih =>
    rw [List.forall_mem_cons] at h
    obtain ⟨⟨hne, hword⟩, hwords⟩ := h
    have hnil : word.toList ≠ [] := by rwa [ne_eq, String.toList_eq_nil_iff]
    have hkept : ([word.toList].filter (· ≠ [])).map String.ofList = [word] := by
      rw [List.filter_cons_of_pos (by simpa using hnil), List.filter_nil, List.map_singleton,
        String.ofList_toList]
    cases words with
    | nil =>
      rw [String.intercalate_singleton, splitSpace, List.splitOnP_eq_singleton hword, hkept]
    | cons next words =>
      have hjoined : (" ".intercalate (word :: next :: words)).toList =
          word.toList ++ ' ' :: (" ".intercalate (next :: words)).toList := by
        rw [String.intercalate_cons_cons, String.toList_append, String.toList_append,
          List.append_assoc]
        rfl
      have hsplit := List.splitOnP_append_cons_of_forall_mem hword ' ' (by decide)
        (" ".intercalate (next :: words)).toList
      rw [splitSpace, hjoined, hsplit, List.filter_cons_of_pos (by simpa using hnil),
        List.map_cons, String.ofList_toList]
      exact congrArg (word :: ·) (ih hwords)

/-- And what a space splits it into, where there are words. -/
theorem splitOn_space_intercalate {words : List String} (hne : words ≠ [])
    (h : ∀ word ∈ words, ' ' ∉ word.toList) : splitOn ' ' (" ".intercalate words) = words := by
  have hsplit : ([' '].intercalate (words.map String.toList)).splitOn ' ' =
      words.map String.toList := by
    refine List.splitOn_intercalate ' ' ?_ ?_
    · intro chars hchars
      obtain ⟨word, hword, rfl⟩ := List.mem_map.mp hchars
      exact h word hword
    · rwa [ne_eq, List.map_eq_nil_iff]
  rw [splitOn, String.toList_intercalate, show " ".toList = [' '] from rfl, hsplit, List.map_map]
  refine (List.map_congr_left fun word _ => ?_).trans (List.map_id words)
  exact String.ofList_toList

example : lower "Mcp-Session-Id" = "mcp-session-id" := by decide

end Py
