import Mathlib.Data.List.Lex
import Mathlib.Data.Prod.Lex
import Mathlib.Data.String.Basic
import Mathlib.Data.Sum.Order
import Mathlib.Order.WithBot

/-!
# Semantic versions

Versions as Semantic Versioning reads them, and the precedence between them: the numbers first, a
pre-release below its release, the identifiers of a pre-release from left to right, a number below a
word, and of two pre-releases of which one goes on after the other the longer above. Build metadata is
ignored.
-/

namespace SemVer

/-- An identifier of a pre-release: a number, or a word. -/
abbrev Identifier : Type := ℕ ⊕ₗ String

structure Version where
  major : Nat
  minor : Nat
  patch : Nat
  preRelease : List Identifier
  build : List String
  deriving DecidableEq

/-- What precedence compares. A release stands above all of its pre-releases. -/
abbrev Precedence : Type := ℕ ×ₗ ℕ ×ₗ ℕ ×ₗ WithTop (List Identifier)

def Version.precedence (v : Version) : Precedence :=
  toLex (v.major, toLex (v.minor, toLex (v.patch,
    if v.preRelease = [] then ⊤ else (v.preRelease : WithTop (List Identifier)))))

/-! ## Reading a version -/

/-- The number of a text of digits. -/
def numberOf (digits : List Char) : Nat :=
  digits.foldl (fun n c => n * 10 + (c.toNat - '0'.toNat)) 0

/-- A number: digits, without a zero in front of others. -/
def number? (text : List Char) : Option Nat :=
  if text ≠ [] ∧ text.all Char.isDigit ∧ (text.head? = some '0' → text.length = 1) then
    some (numberOf text)
  else none

/-- `[0-9A-Za-z-]`. -/
def isIdentifierChar (c : Char) : Bool := c.isAlphanum || c == '-'

def identifier? (text : List Char) : Option Identifier :=
  if text ≠ [] ∧ text.all isIdentifierChar then
    if text.all Char.isDigit then (number? text).map fun n => toLex (.inl n)
    else some (toLex (.inr (String.ofList text)))
  else none

/-- The identifiers of build metadata, which may be numbers with zeros in front. -/
def buildIdentifier? (text : List Char) : Option String :=
  if text ≠ [] ∧ text.all isIdentifierChar then some (String.ofList text) else none

/-- What is before the first `sep`, and what is after it, if it is there. -/
def cut (sep : Char) (text : List Char) : List Char × Option (List Char) :=
  (text.takeWhile (· != sep),
    if text.contains sep then some ((text.dropWhile (· != sep)).drop 1) else none)

/-- The identifiers of an optional part. -/
def identifiers? {α : Type} (read : List Char → Option α) (text : Option (List Char)) :
    Option (List α) :=
  match text with
  | none => some []
  | some text => (text.splitOn '.').mapM read

/-- A semantic version as written. -/
def parse? (text : String) : Option Version := do
  let (front, build) := cut '+' text.toList
  let (core, preRelease) := cut '-' front
  let build ← identifiers? buildIdentifier? build
  let preRelease ← identifiers? identifier? preRelease
  match ← (core.splitOn '.').mapM number? with
  | [major, minor, patch] => pure ⟨major, minor, patch, preRelease, build⟩
  | _ => none

/-- A version without a pre-release. -/
def Version.IsRelease (v : Version) : Prop := v.preRelease = []

/-- Releases compare by their numbers. -/
theorem precedence_lt_iff {v w : Version} (hv : v.IsRelease) (hw : w.IsRelease) :
    v.precedence < w.precedence ↔ [v.major, v.minor, v.patch] < [w.major, w.minor, w.patch] := by
  unfold Version.IsRelease at hv hw
  unfold Version.precedence
  rw [if_pos hv, if_pos hw]
  simp [Prod.Lex.toLex_lt_toLex, List.cons_lt_cons_iff]

/-! ## Releases -/

/-- A part that is there has an identifier. -/
theorem eq_none_of_identifiers {α : Type} {read : List Char → Option α} {text : Option (List Char)}
    (h : identifiers? read text = some []) : text = none := by
  cases text with
  | none => rfl
  | some text =>
    cases hsplit : text.splitOn '.' with
    | nil => exact absurd hsplit (List.splitOn_ne_nil _ _)
    | cons first rest =>
      simp only [identifiers?, hsplit, List.mapM_cons, Option.bind_eq_bind, Option.bind_eq_some_iff,
        Option.pure_def, Option.some.injEq, reduceCtorEq, and_false, exists_false] at h

/-- What is read of a list is read of each of its elements. -/
theorem forall₂_of_mapM {α β : Type} {read : α → Option β} {as : List α} {bs : List β}
    (h : as.mapM read = some bs) : List.Forall₂ (fun a b => read a = some b) as bs := by
  induction as generalizing bs with
  | nil =>
    cases h
    exact .nil
  | cons a as ih =>
    simp only [List.mapM_cons, Option.bind_eq_bind, Option.bind_eq_some_iff, Option.pure_def,
      Option.some.injEq] at h
    obtain ⟨b, hb, bs', hbs, rfl⟩ := h
    exact .cons hb (ih hbs)

/-- Without the separator, a text is all in front of it. -/
theorem cut_of_none {sep : Char} {text : List Char} (h : (cut sep text).2 = none) :
    (cut sep text).1 = text := by
  unfold cut at h ⊢
  have hsep : sep ∉ text := by
    intro hmem
    simp [hmem] at h
  have hall : ∀ c ∈ text, (c != sep) = true := by
    intro c hc
    rw [bne_iff_ne]
    intro heq
    exact hsep (heq ▸ hc)
  have hwhole := @List.takeWhile_append_of_pos _ _ text [] hall
  simpa using hwhole

/-- What a release without build metadata is written as. -/
theorem parts_of_release {text : String} {v : Version} (h : parse? text = some v)
    (hrelease : v.IsRelease) (hbuild : v.build = []) :
    ∃ major minor patch : List Char, text.toList.splitOn '.' = [major, minor, patch] ∧
      number? major = some v.major ∧ number? minor = some v.minor ∧ number? patch = some v.patch := by
  unfold parse? at h
  simp only [Option.bind_eq_bind, Option.bind_eq_some_iff] at h
  obtain ⟨build, hbuild', preRelease, hpre, numbers, hnumbers, h⟩ := h
  split at h
  · rename_i major minor patch
    cases h
    cases hrelease
    cases hbuild
    have hfront := cut_of_none (eq_none_of_identifiers hbuild')
    rw [hfront] at hpre hnumbers
    rw [cut_of_none (eq_none_of_identifiers hpre)] at hnumbers
    cases hsplit : text.toList.splitOn '.' with
    | nil => exact absurd hsplit (List.splitOn_ne_nil _ _)
    | cons first rest =>
      rw [hsplit] at hnumbers
      obtain ⟨⟩ | ⟨hmajor, ⟨⟩ | ⟨hminor, ⟨⟩ | ⟨hpatch, ⟨⟩⟩⟩⟩ := forall₂_of_mapM hnumbers
      exact ⟨_, _, _, rfl, hmajor, hminor, hpatch⟩
  · cases h

end SemVer
