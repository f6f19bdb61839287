import Mathlib.Data.Rat.Floor
import Mathlib.Logic.Function.Basic

/-!
# A counter store with expiry

A key–value server that counts: each key holds a 64-bit signed integer and, once `EXPIRE` was
asked for, a deadline. A key whose deadline has passed is gone, and counting on it starts anew
at zero, with no deadline. A command is atomic, and one that would leave the 64-bit range is
refused with the store as it was.

Keys are any type with decidable equality; time is a rational number of seconds on the server's
clock.
-/

namespace Counter

/-- What a key holds. -/
structure Cell where
  value : Int
  deadline : Option ℚ
  deriving DecidableEq

/-- The contents of the server, keys past their deadline included. -/
abbrev Store (κ : Type) := κ → Option Cell

/-- Why a command answered with an error. -/
inductive Refusal where
  | notAnInteger
  | overflow
  deriving DecidableEq

/-- Whether a number is a 64-bit signed integer. -/
def inRange (n : Int) : Bool := -2 ^ 63 ≤ n ∧ n < 2 ^ 63

/-- Whether a key is still there at `now`. -/
def Cell.aliveAt (now : ℚ) (c : Cell) : Bool := c.deadline.all (now < ·)

namespace Store

variable {κ : Type}

def empty : Store κ := fun _ => none

/-- What `key` holds at `now`, unless its time has elapsed. -/
def live (s : Store κ) (now : ℚ) (key : κ) : Option Cell := (s key).filter (·.aliveAt now)

/-- `GET key`. -/
def get? (s : Store κ) (now : ℚ) (key : κ) : Option Int := (s.live now key).map (·.value)

theorem live_eq_some {s : Store κ} {now : ℚ} {key : κ} {c : Cell} :
    s.live now key = some c ↔ s key = some c ∧ c.aliveAt now = true := by
  rw [live, Option.filter_eq_some_iff]

theorem get?_eq_none {s : Store κ} {now : ℚ} {key : κ} :
    s.get? now key = none ↔ s.live now key = none := Option.map_eq_none_iff

/-- A key whose deadline is no earlier than `bound` is still there before `bound`. -/
theorem live_of_lasting {s : Store κ} {now bound : ℚ} {key : κ}
    (h : ∀ c, s key = some c → ∃ d, c.deadline = some d ∧ bound ≤ d) (hnow : now < bound) :
    s.live now key = s key := by
  rw [live]
  cases hc : s key with
  | none => rfl
  | some c =>
    obtain ⟨d, hd, hle⟩ := h c hc
    have halive : c.aliveAt now = true := by
      simp only [Cell.aliveAt, hd, Option.all_some, decide_eq_true_eq]
      exact lt_of_lt_of_le hnow hle
    simp [Option.filter, halive]

variable [DecidableEq κ]

def put (s : Store κ) (key : κ) (c : Cell) : Store κ := Function.update s key (some c)

/-- `INCRBY key amount`. -/
def incrBy (s : Store κ) (now : ℚ) (key : κ) (amount : Int) : Except Refusal (Int × Store κ) :=
  if inRange amount then
    let old := (s.live now key).getD ⟨0, none⟩
    let value := old.value + amount
    if inRange value then .ok (value, s.put key ⟨value, old.deadline⟩) else .error .overflow
  else .error .notAnInteger

/-- `EXPIRE key seconds`, for a positive number of seconds. -/
def expire (s : Store κ) (now : ℚ) (key : κ) (seconds : Nat) : Store κ :=
  match s.live now key with
  | some c => s.put key { c with deadline := some (now + seconds) }
  | none => s

/-! ## What a command does, to its key and to the others -/

@[simp] theorem put_self (s : Store κ) (key : κ) (c : Cell) : s.put key c key = some c :=
  Function.update_self ..

@[simp] theorem put_ne {s : Store κ} {key key' : κ} {c : Cell} (h : key' ≠ key) :
    s.put key c key' = s key' := Function.update_of_ne h ..

@[simp] theorem put_put (s : Store κ) (key : κ) (c d : Cell) : (s.put key c).put key d = s.put key d :=
  Function.update_idem ..

theorem put_apply (s : Store κ) (key key' : κ) (c : Cell) :
    s.put key c key' = if key' = key then some c else s key' := by
  split
  · rename_i h; rw [h, put_self]
  · rename_i h; exact put_ne h

/-- **What a counted increment did.** A key that was there keeps its deadline; one that was not
    starts at the amount, with none. Every other key is as it was. -/
theorem incrBy_ok {s s' : Store κ} {now : ℚ} {key : κ} {amount value : Int}
    (h : s.incrBy now key amount = .ok (value, s')) :
    ∃ old : Cell, (s.live now key = some old ∨ (s.live now key = none ∧ old = ⟨0, none⟩)) ∧
      value = old.value + amount ∧ s' = s.put key ⟨value, old.deadline⟩ := by
  rw [incrBy] at h
  split at h
  · simp only at h
    split at h
    · simp only [Except.ok.injEq, Prod.mk.injEq] at h
      obtain ⟨rfl, rfl⟩ := h
      cases hlive : s.live now key with
      | none => exact ⟨⟨0, none⟩, Or.inr ⟨rfl, rfl⟩, rfl, rfl⟩
      | some old => exact ⟨old, Or.inl rfl, rfl, rfl⟩
    · exact absurd h (by simp)
  · exact absurd h (by simp)

/-- An increment within the range of the server is counted. -/
theorem incrBy_of_inRange {s : Store κ} {now : ℚ} {key : κ} (amount : Int) {old : Cell}
    (hold : (s.live now key).getD ⟨0, none⟩ = old) (hamount : inRange amount = true)
    (hvalue : inRange (old.value + amount) = true) :
    s.incrBy now key amount =
      .ok (old.value + amount, s.put key ⟨old.value + amount, old.deadline⟩) := by
  subst hold
  rw [incrBy, if_pos hamount]
  simp only [hvalue, if_true]

theorem expire_of_live {s : Store κ} {now : ℚ} {key : κ} {c : Cell} {seconds : Nat}
    (h : s.live now key = some c) :
    s.expire now key seconds = s.put key { c with deadline := some (now + seconds) } := by
  rw [expire, h]

/-- `EXPIRE` moves nothing but the deadline of its key. -/
theorem expire_apply (s : Store κ) (now : ℚ) (key key' : κ) (seconds : Nat) :
    s.expire now key seconds key' =
      if key' = key then (s key).map fun c =>
        if c.aliveAt now then { c with deadline := some (now + seconds) } else c
      else s key' := by
  rw [expire]
  by_cases hkey : key' = key
  · subst hkey
    rw [if_pos rfl, live]
    cases hs : s key' with
    | none => simp [hs]
    | some c => by_cases hc : c.aliveAt now <;> simp [hc, hs, Option.filter]
  · rw [if_neg hkey]
    cases s.live now key with
    | none => rfl
    | some c => exact put_ne hkey

end Store

end Counter
