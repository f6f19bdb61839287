import Mathlib.Tactic.IntervalCases

/-!
# Base64

`base64.urlsafe_b64encode` and `base64.urlsafe_b64decode`. The reader is the one of `binascii`: it
skips what is no character of the alphabet, and stops where padding completes a group.
-/

namespace Base64

def alphabet : List Char :=
  "ABCDEFGHIJKLMNOPQRSTUVWXYZabcdefghijklmnopqrstuvwxyz0123456789-_".toList

/-- The character of a value of six bits. -/
def sextetChar (n : Nat) : Char := alphabet.getD n '='

/-- The value of a character of the alphabet, or of the standard one. -/
def sextet? (c : Char) : Option Nat :=
  if 'A' ≤ c ∧ c ≤ 'Z' then some (c.toNat - 65)
  else if 'a' ≤ c ∧ c ≤ 'z' then some (c.toNat - 71)
  else if '0' ≤ c ∧ c ≤ '9' then some (c.toNat + 4)
  else if c = '+' ∨ c = '-' then some 62
  else if c = '/' ∨ c = '_' then some 63
  else none

/-- Three bytes are four characters; what is left of the last group is padded. -/
def encode : List UInt8 → List Char
  | [] => []
  | [a] => [sextetChar (a.toNat / 4), sextetChar (a.toNat % 4 * 16), '=', '=']
  | [a, b] => [sextetChar (a.toNat / 4), sextetChar (a.toNat % 4 * 16 + b.toNat / 16),
      sextetChar (b.toNat % 16 * 4), '=']
  | a :: b :: c :: rest =>
      sextetChar (a.toNat / 4) :: sextetChar (a.toNat % 4 * 16 + b.toNat / 16) ::
        sextetChar (b.toNat % 16 * 4 + c.toNat / 64) :: sextetChar (c.toNat % 64) :: encode rest

/-- The reader, with the place in the group, the padding seen and the bits left over. -/
def decodeFrom : Nat → Nat → Nat → List Char → Option (List UInt8)
  | place, _, _, [] => if place = 0 then some [] else none
  | place, pads, left, c :: rest =>
      if c = '=' then
        if 2 ≤ place ∧ 4 ≤ place + (pads + 1) then some []
        else decodeFrom place (if 2 ≤ place then pads + 1 else pads) left rest
      else match sextet? c with
        | none => decodeFrom place pads left rest
        | some v => match place with
          | 0 => decodeFrom 1 0 v rest
          | 1 => (decodeFrom 2 0 (v % 16) rest).map (UInt8.ofNat (left * 4 + v / 16) :: ·)
          | 2 => (decodeFrom 3 0 (v % 4) rest).map (UInt8.ofNat (left * 16 + v / 4) :: ·)
          | _ => (decodeFrom 0 0 0 rest).map (UInt8.ofNat (left * 64 + v) :: ·)

def decode (text : List Char) : Option (List UInt8) := decodeFrom 0 0 0 text

/-! ## Reading what was written -/

theorem sextet?_sextetChar {n : Nat} (h : n < 64) :
    sextetChar n ≠ '=' ∧ sextet? (sextetChar n) = some n := by
  interval_cases n <;> exact ⟨by decide, by decide⟩

section

variable {pads left v : Nat} {rest : List Char}

theorem decodeFrom_first (h : v < 64) :
    decodeFrom 0 pads left (sextetChar v :: rest) = decodeFrom 1 0 v rest := by
  obtain ⟨hpad, hvalue⟩ := sextet?_sextetChar h
  rw [decodeFrom, if_neg hpad]
  simp only [hvalue]

theorem decodeFrom_second (h : v < 64) :
    decodeFrom 1 pads left (sextetChar v :: rest) =
      (decodeFrom 2 0 (v % 16) rest).map (UInt8.ofNat (left * 4 + v / 16) :: ·) := by
  obtain ⟨hpad, hvalue⟩ := sextet?_sextetChar h
  rw [decodeFrom, if_neg hpad]
  simp only [hvalue]

theorem decodeFrom_third (h : v < 64) :
    decodeFrom 2 pads left (sextetChar v :: rest) =
      (decodeFrom 3 0 (v % 4) rest).map (UInt8.ofNat (left * 16 + v / 4) :: ·) := by
  obtain ⟨hpad, hvalue⟩ := sextet?_sextetChar h
  rw [decodeFrom, if_neg hpad]
  simp only [hvalue]

theorem decodeFrom_fourth (h : v < 64) :
    decodeFrom 3 pads left (sextetChar v :: rest) =
      (decodeFrom 0 0 0 rest).map (UInt8.ofNat (left * 64 + v) :: ·) := by
  obtain ⟨hpad, hvalue⟩ := sextet?_sextetChar h
  rw [decodeFrom, if_neg hpad]
  simp only [hvalue]

end

/-- A byte is the bits that two characters have of it. -/
theorem ofNat_toNat_eq {a : UInt8} {n : Nat} (h : n = a.toNat) : UInt8.ofNat n = a := by
  rw [h, UInt8.ofNat_toNat]

/-- **The round trip.** -/
theorem decode_encode (bytes : List UInt8) : decode (encode bytes) = some bytes := by
  unfold decode
  induction bytes using encode.induct with
  | case1 => rfl
  | case2 a =>
    have ha : a.toNat < 256 := a.toNat_lt
    rw [encode, decodeFrom_first (by omega), decodeFrom_second (by omega)]
    simp only [decodeFrom, if_true, Nat.reduceLeDiff, and_false, if_false, true_and, le_refl,
      Nat.reduceAdd, Option.map_some]
    rw [ofNat_toNat_eq (a := a) (by omega)]
  | case3 a b =>
    have ha : a.toNat < 256 := a.toNat_lt
    have hb : b.toNat < 256 := b.toNat_lt
    rw [encode, decodeFrom_first (by omega), decodeFrom_second (by omega),
      decodeFrom_third (by omega)]
    simp only [decodeFrom, if_true, Nat.reduceLeDiff, and_self, Nat.reduceAdd, le_refl,
      Option.map_some]
    rw [ofNat_toNat_eq (a := a) (by omega), ofNat_toNat_eq (a := b) (by omega)]
  | case4 a b c rest ih =>
    have ha : a.toNat < 256 := a.toNat_lt
    have hb : b.toNat < 256 := b.toNat_lt
    have hc : c.toNat < 256 := c.toNat_lt
    rw [encode, decodeFrom_first (by omega), decodeFrom_second (by omega),
      decodeFrom_third (by omega), decodeFrom_fourth (by omega), ih]
    simp only [Option.map_some]
    rw [ofNat_toNat_eq (a := a) (by omega), ofNat_toNat_eq (a := b) (by omega),
      ofNat_toNat_eq (a := c) (by omega)]

/-- What is written is of the alphabet, or padding. -/
theorem mem_encode {bytes : List UInt8} {c : Char} (h : c ∈ encode bytes) :
    c ∈ alphabet ∨ c = '=' := by
  have hchar (n : Nat) : sextetChar n ∈ alphabet ∨ sextetChar n = '=' := by
    unfold sextetChar
    rw [List.getD_eq_getElem?_getD]
    cases hget : alphabet[n]? with
    | none => exact .inr rfl
    | some d => exact .inl (List.mem_of_getElem? hget)
  induction bytes using encode.induct with
  | case1 => cases h
  | case2 a =>
    simp only [encode, List.mem_cons, List.not_mem_nil, or_false] at h
    rcases h with rfl | rfl | rfl | rfl
    · exact hchar _
    · exact hchar _
    · exact .inr rfl
    · exact .inr rfl
  | case3 a b =>
    simp only [encode, List.mem_cons, List.not_mem_nil, or_false] at h
    rcases h with rfl | rfl | rfl | rfl
    · exact hchar _
    · exact hchar _
    · exact hchar _
    · exact .inr rfl
  | case4 a b d rest ih =>
    simp only [encode, List.mem_cons] at h
    rcases h with rfl | rfl | rfl | rfl | h
    · exact hchar _
    · exact hchar _
    · exact hchar _
    · exact hchar _
    · exact ih h

end Base64
