import Mathlib.Tactic.IntervalCases

/-!
# Dictionaries of texts, as JSON

`json.dumps` of a dictionary whose keys and values are texts, and a reader of such JSON. What is not
printable ASCII is written as an escape, above U+FFFF as two.
-/

namespace JsonText

/-! ## Writing -/

def hexDigits : List Char := "0123456789abcdef".toList

def hexDigit (n : Nat) : Char := hexDigits.getD n '0'

/-- A code unit, as an escape. -/
def unitEscape (n : Nat) : List Char :=
  ['\\', 'u', hexDigit (n / 4096 % 16), hexDigit (n / 256 % 16), hexDigit (n / 16 % 16),
    hexDigit (n % 16)]

/-- The letter of an escape that is written with one. -/
def letterOf? (c : Char) : Option Char :=
  if c = '"' then some '"'
  else if c = '\\' then some '\\'
  else if c = '\n' then some 'n'
  else if c = '\r' then some 'r'
  else if c = '\t' then some 't'
  else if c = '\x08' then some 'b'
  else if c = '\x0c' then some 'f'
  else none

/-- A character of a text. -/
def escaped (c : Char) : List Char :=
  match letterOf? c with
  | some letter => ['\\', letter]
  | none =>
      if ' ' ≤ c ∧ c ≤ '~' then [c]
      else if c.toNat < 0x10000 then unitEscape c.toNat
      else unitEscape (0xd800 + (c.toNat - 0x10000) / 0x400) ++
        unitEscape (0xdc00 + (c.toNat - 0x10000) % 0x400)

def writeText (s : String) : List Char := '"' :: (s.toList.flatMap escaped ++ ['"'])

def writeMember (member : String × String) : List Char :=
  writeText member.1 ++ ':' :: ' ' :: writeText member.2

def writeMembers : List (String × String) → List Char
  | [] => []
  | [member] => writeMember member
  | member :: rest => writeMember member ++ ',' :: ' ' :: writeMembers rest

/-- `json.dumps`. -/
def writeDict (members : List (String × String)) : List Char := '{' :: (writeMembers members ++ ['}'])

/-! ## Reading -/

def hexValue? (c : Char) : Option Nat :=
  if '0' ≤ c ∧ c ≤ '9' then some (c.toNat - 48)
  else if 'a' ≤ c ∧ c ≤ 'f' then some (c.toNat - 87)
  else if 'A' ≤ c ∧ c ≤ 'F' then some (c.toNat - 55)
  else none

/-- Four digits. -/
def readUnit : List Char → Option (Nat × List Char)
  | a :: b :: c :: d :: rest => do
      let a ← hexValue? a
      let b ← hexValue? b
      let c ← hexValue? c
      let d ← hexValue? d
      pure (((a * 16 + b) * 16 + c) * 16 + d, rest)
  | _ => none

/-- The second half of a character above U+FFFF. -/
def readLow (high : Nat) : List Char → Option (Char × List Char)
  | c :: d :: rest =>
      if c = '\\' ∧ d = 'u' then do
        let (low, rest) ← readUnit rest
        if 0xdc00 ≤ low ∧ low < 0xe000 then
          pure (Char.ofNat (0x10000 + (high - 0xd800) * 0x400 + (low - 0xdc00)), rest)
        else none
      else none
  | _ => none

/-- The character an escape of one letter stands for. -/
def ofLetter? (letter : Char) : Option Char :=
  if letter = '"' then some '"'
  else if letter = '\\' then some '\\'
  else if letter = '/' then some '/'
  else if letter = 'n' then some '\n'
  else if letter = 'r' then some '\r'
  else if letter = 't' then some '\t'
  else if letter = 'b' then some '\x08'
  else if letter = 'f' then some '\x0c'
  else none

/-- What comes after a backslash. Half a character is no character. -/
def readEscape : List Char → Option (Char × List Char)
  | [] => none
  | letter :: rest =>
      if letter = 'u' then do
        let (unit, rest) ← readUnit rest
        if 0xd800 ≤ unit ∧ unit < 0xdc00 then readLow unit rest
        else if 0xdc00 ≤ unit ∧ unit < 0xe000 then none
        else pure (Char.ofNat unit, rest)
      else (ofLetter? letter).map (·, rest)

/-- A character of a text. -/
def readChar : List Char → Option (Char × List Char)
  | [] => none
  | c :: rest =>
      if c = '\\' then readEscape rest
      else if c < ' ' then none
      else some (c, rest)

/-- A text up to its quote. -/
def readBody : Nat → List Char → Option (List Char × List Char)
  | 0, _ => none
  | fuel + 1, text =>
      if text.head? = some '"' then some ([], text.tail)
      else do
        let (c, rest) ← readChar text
        let (cs, rest) ← readBody fuel rest
        pure (c :: cs, rest)

def isSpace (c : Char) : Bool := c == ' ' || c == '\t' || c == '\n' || c == '\r'

/-- What comes after a mark, and space before it. -/
def expect (mark : Char) (text : List Char) : Option (List Char) :=
  match text.dropWhile isSpace with
  | [] => none
  | c :: rest => if c = mark then some rest else none

def readText (text : List Char) : Option (String × List Char) := do
  let rest ← expect '"' text
  let (cs, rest) ← readBody (rest.length + 1) rest
  pure (String.ofList cs, rest)

/-- The members up to the closing brace. -/
def readMembers : Nat → List Char → Option (List (String × String) × List Char)
  | 0, _ => none
  | fuel + 1, text => do
      let (key, rest) ← readText text
      let rest ← expect ':' rest
      let (value, rest) ← readText rest
      match expect ',' rest with
      | some rest => do
          let (members, rest) ← readMembers fuel rest
          pure ((key, value) :: members, rest)
      | none => do
          let rest ← expect '}' rest
          pure ([(key, value)], rest)

/-- `json.loads`, of a dictionary of texts. -/
def readDict (text : List Char) : Option (List (String × String)) := do
  let rest ← expect '{' text
  let (members, rest) ← match expect '}' rest with
    | some rest => some ([], rest)
    | none => readMembers (rest.length + 1) rest
  if rest.all isSpace then pure members else none

/-! ## Reading what was written -/

theorem hexValue?_hexDigit {n : Nat} (h : n < 16) : hexValue? (hexDigit n) = some n := by
  interval_cases n <;> decide

theorem readUnit_digits {n : Nat} (h : n < 0x10000) (rest : List Char) :
    readUnit (hexDigit (n / 4096 % 16) :: hexDigit (n / 256 % 16) :: hexDigit (n / 16 % 16) ::
      hexDigit (n % 16) :: rest) = some (n, rest) := by
  have hvalue (k : Nat) : hexValue? (hexDigit (k % 16)) = some (k % 16) :=
    hexValue?_hexDigit (Nat.mod_lt _ (by decide))
  simp only [readUnit, hvalue, Option.bind_eq_bind, Option.bind_some, Option.pure_def,
    Option.some.injEq, Prod.mk.injEq, and_true]
  omega

theorem readChar_unit {n : Nat} (h : n < 0xd800 ∨ (0xe000 ≤ n ∧ n < 0x10000)) (rest : List Char) :
    readChar (unitEscape n ++ rest) = some (Char.ofNat n, rest) := by
  have hdigits := readUnit_digits (n := n) (by omega) rest
  simp only [unitEscape, List.cons_append, List.nil_append, readChar, readEscape, if_true, hdigits,
    Option.bind_eq_bind, Option.bind_some, Option.pure_def]
  rw [if_neg (by omega), if_neg (by omega)]

theorem readChar_pair {n : Nat} (h : n < 0x100000) (rest : List Char) :
    readChar (unitEscape (0xd800 + n / 0x400) ++ (unitEscape (0xdc00 + n % 0x400) ++ rest)) =
      some (Char.ofNat (0x10000 + n), rest) := by
  have hhigh := readUnit_digits (n := 0xd800 + n / 0x400) (by omega)
    (unitEscape (0xdc00 + n % 0x400) ++ rest)
  have hlow := readUnit_digits (n := 0xdc00 + n % 0x400) (by omega) rest
  have hpair : readLow (0xd800 + n / 0x400) (unitEscape (0xdc00 + n % 0x400) ++ rest) =
      some (Char.ofNat (0x10000 + n), rest) := by
    simp only [unitEscape, List.cons_append, List.nil_append, readLow, and_self, if_true, hlow,
      Option.bind_eq_bind, Option.bind_some, Option.pure_def]
    have hsum : 0x10000 + (0xd800 + n / 0x400 - 0xd800) * 0x400 + (0xdc00 + n % 0x400 - 0xdc00) =
        0x10000 + n := by omega
    rw [if_pos (by omega), hsum]
  generalize hsecond : unitEscape (0xdc00 + n % 0x400) ++ rest = second at hhigh hpair ⊢
  simp only [unitEscape, List.cons_append, List.nil_append, readChar, readEscape, if_true, hhigh,
    Option.bind_eq_bind, Option.bind_some]
  rw [if_pos (by omega), hpair]

/-- A letter stands for the character it is written for. -/
theorem readChar_letter {c letter : Char} (h : letterOf? c = some letter) (rest : List Char) :
    readChar ('\\' :: letter :: rest) = some (c, rest) := by
  unfold letterOf? at h
  split_ifs at h with h1 h2 h3 h4 h5 h6 h7
  all_goals
    cases h
    subst c
    rfl

/-- A character is read off its escape. -/
theorem readChar_escaped (c : Char) (rest : List Char) :
    readChar (escaped c ++ rest) = some (c, rest) := by
  unfold escaped
  cases hletter : letterOf? c with
  | some letter => exact readChar_letter hletter rest
  | none =>
    have hslash : c ≠ '\\' := by
      intro h
      subst c
      exact absurd hletter (by decide)
    have hchar : Char.ofNat c.toNat = c := Char.ofNat_toNat c
    have hvalid : c.toNat < 0xd800 ∨ (0xe000 ≤ c.toNat ∧ c.toNat < 0x110000) := by
      rcases c.valid with h | h
      · exact .inl h
      · exact .inr ⟨Nat.succ_le_of_lt h.1, h.2⟩
    split_ifs with hplain hunit
    · simp only [List.cons_append, List.nil_append, readChar]
      rw [if_neg hslash, if_neg (Char.not_lt.mpr hplain.1)]
    · have hread := readChar_unit (n := c.toNat) (by omega) rest
      rw [hchar] at hread
      exact hread
    · have hread := readChar_pair (n := c.toNat - 0x10000) (by omega) rest
      have hsum : 0x10000 + (c.toNat - 0x10000) = c.toNat := by omega
      rw [hsum, hchar] at hread
      rw [List.append_assoc]
      exact hread

/-- An escape is no quote. -/
theorem head_escaped (c : Char) (rest : List Char) :
    ∃ d more, escaped c ++ rest = d :: more ∧ d ≠ '"' := by
  unfold escaped
  cases hletter : letterOf? c with
  | some letter => exact ⟨'\\', _, rfl, by decide⟩
  | none =>
    split_ifs with hplain hunit
    · refine ⟨c, rest, rfl, ?_⟩
      intro h
      subst c
      exact absurd hletter (by decide)
    · exact ⟨'\\', _, rfl, by decide⟩
    · exact ⟨'\\', _, rfl, by decide⟩

theorem readBody_escaped (cs rest : List Char) {fuel : Nat} (hfuel : cs.length < fuel) :
    readBody fuel (cs.flatMap escaped ++ '"' :: rest) = some (cs, rest) := by
  induction cs generalizing fuel with
  | nil =>
    obtain ⟨fuel, rfl⟩ : ∃ n, fuel = n + 1 := ⟨fuel - 1, (Nat.sub_add_cancel hfuel).symm⟩
    rfl
  | cons c cs ih =>
    rw [List.length_cons] at hfuel
    obtain ⟨fuel, rfl⟩ : ∃ n, fuel = n + 1 := ⟨fuel - 1, by omega⟩
    rw [List.flatMap_cons, List.append_assoc]
    obtain ⟨d, more, htext, hquote⟩ := head_escaped c (cs.flatMap escaped ++ '"' :: rest)
    have hchar := readChar_escaped c (cs.flatMap escaped ++ '"' :: rest)
    have hhead : (d :: more).head? ≠ some '"' := by simpa using hquote
    rw [htext] at hchar ⊢
    rw [readBody, if_neg hhead]
    simp only [hchar, ih (Nat.lt_of_succ_lt_succ hfuel), Option.bind_eq_bind, Option.bind_some,
      Option.pure_def]

/-- A text is at least as long written. -/
theorem length_le_escaped (cs : List Char) : cs.length ≤ (cs.flatMap escaped).length := by
  induction cs with
  | nil => exact Nat.le_refl _
  | cons c cs ih =>
    obtain ⟨d, more, htext, -⟩ := head_escaped c []
    rw [List.append_nil] at htext
    rw [List.flatMap_cons, List.length_append, List.length_cons, htext, List.length_cons]
    omega

theorem readText_written (s : String) (rest : List Char) :
    readText (writeText s ++ rest) = some (s, rest) := by
  have hfuel : s.toList.length < (s.toList.flatMap escaped ++ '"' :: rest).length + 1 := by
    have := length_le_escaped s.toList
    rw [List.length_append]
    omega
  have hquote : expect '"' (writeText s ++ rest) = some (s.toList.flatMap escaped ++ '"' :: rest) := by
    simp [writeText, expect, isSpace]
  simp only [readText, hquote, Option.bind_eq_bind, Option.bind_some, Option.pure_def,
    readBody_escaped s.toList rest hfuel, String.ofList_toList]

theorem expect_space (mark : Char) (text : List Char) : expect mark (' ' :: text) = expect mark text :=
  rfl

theorem readText_space (text : List Char) : readText (' ' :: text) = readText text := by
  unfold readText
  rw [expect_space]

/-- A member is read off what was written of it. -/
theorem readMember_written (member : String × String) (rest : List Char) :
    readText (writeMember member ++ rest) = some (member.1, ':' :: ' ' :: (writeText member.2 ++ rest)) := by
  rw [writeMember, List.append_assoc]
  exact readText_written _ _

theorem readMembers_written {members : List (String × String)} (hne : members ≠ []) {fuel : Nat}
    (hfuel : members.length ≤ fuel) (rest : List Char) :
    readMembers fuel (writeMembers members ++ '}' :: rest) = some (members, rest) := by
  have hvalue (member : String × String) (rest : List Char) :
      readText (' ' :: (writeText member.2 ++ rest)) = some (member.2, rest) := by
    rw [readText_space, readText_written]
  induction members using writeMembers.induct generalizing fuel with
  | case1 => exact absurd rfl hne
  | case2 member =>
    obtain ⟨fuel, rfl⟩ : ∃ n, fuel = n + 1 := ⟨fuel - 1, (Nat.sub_add_cancel hfuel).symm⟩
    have hcolon : expect ':' (':' :: ' ' :: (writeText member.2 ++ '}' :: rest)) =
      some (' ' :: (writeText member.2 ++ '}' :: rest)) := rfl
    have hcomma : expect ',' ('}' :: rest) = none := rfl
    have hbrace : expect '}' ('}' :: rest) = some rest := rfl
    simp only [writeMembers, readMembers, readMember_written, hcolon, hvalue, hcomma, hbrace,
      Option.bind_eq_bind, Option.bind_some, Option.pure_def]
  | case3 member others hothers ih =>
    rw [List.length_cons] at hfuel
    obtain ⟨fuel, rfl⟩ : ∃ n, fuel = n + 1 := ⟨fuel - 1, by omega⟩
    have hmore := ih hothers (Nat.le_of_succ_le_succ hfuel)
    have hspace : readMembers fuel (' ' :: (writeMembers others ++ '}' :: rest)) =
        some (others, rest) := by
      obtain ⟨fuel, rfl⟩ : ∃ n, fuel = n + 1 := by
        cases fuel with
        | zero => cases hmore
        | succ n => exact ⟨n, rfl⟩
      rw [readMembers] at hmore ⊢
      rw [readText_space]
      exact hmore
    generalize htail : (' ' :: (writeMembers others ++ '}' :: rest)) = tail at hspace
    have hcolon : expect ':' (':' :: ' ' :: (writeText member.2 ++ ',' :: tail)) =
      some (' ' :: (writeText member.2 ++ ',' :: tail)) := rfl
    have hcomma : expect ',' (',' :: tail) = some tail := rfl
    simp only [writeMembers, readMembers, List.append_assoc, List.cons_append, htail,
      readMember_written, hcolon, hvalue, hcomma, hspace, Option.bind_eq_bind, Option.bind_some,
      Option.pure_def]

/-- Each member takes a character at least. -/
theorem length_le_writeMembers (members : List (String × String)) :
    members.length ≤ (writeMembers members).length := by
  induction members using writeMembers.induct with
  | case1 => exact Nat.le_refl _
  | case2 member => simp [writeMembers, writeMember, writeText]
  | case3 member others hothers ih =>
    simp only [writeMembers, List.length_append, List.length_cons]
    omega

/-- **The round trip.** -/
theorem readDict_writeDict (members : List (String × String)) :
    readDict (writeDict members) = some members := by
  have hbrace : expect '{' (writeDict members) = some (writeMembers members ++ ['}']) := rfl
  rcases members with _ | ⟨member, others⟩
  · rfl
  · have hfirst : expect '}' (writeMembers (member :: others) ++ ['}']) = none := by
      cases others with
      | nil => rfl
      | cons other others => rfl
    have hfuel : (member :: others).length ≤ (writeMembers (member :: others) ++ ['}']).length + 1 := by
      have := length_le_writeMembers (member :: others)
      rw [List.length_append]
      omega
    have hread := readMembers_written (List.cons_ne_nil member others) hfuel []
    simp only [readDict, hbrace, hfirst, hread, Option.bind_eq_bind, Option.bind_some, List.all_nil,
      if_true, Option.pure_def]

end JsonText
