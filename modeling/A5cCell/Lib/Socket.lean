import Mathlib.Data.List.Basic
import Mathlib.Data.List.Infix

/-!
# Readers of a split stream

A stream comes in pieces: a read asks for some bytes and is given at least one and at most as many,
until the stream ends. `Consumes` says of a reader what it makes of some bytes whatever the pieces:
on a stream that starts with them it comes to one outcome, and leaves what follows; on a stream that
ends within them it raises. The rules build such facts along a program.
-/

namespace Socket

/-- What is to come of a stream, and how much each read is given at most. -/
structure Stream where
  bytes : List UInt8
  sizes : Nat → Nat

/-- A program that reads a stream, with exceptions `χ`. -/
abbrev Read (χ α : Type) := StateT Stream (Except χ) α

variable {χ α β : Type}

/-- `sock.recv(length)`. -/
def recv (length : Nat) : Read χ (List UInt8) := fun stream =>
  let n := min length (max 1 (stream.sizes 0))
  .ok (stream.bytes.take n, ⟨stream.bytes.drop n, fun k => stream.sizes (k + 1)⟩)

/-- A computation that reads nothing. -/
def ofExcept (e : Except χ α) : Read χ α := fun stream => e.map fun a => (a, stream)

/-- A reader, a number of times. -/
def times (read : Read χ α) : Nat → Read χ (List α)
  | 0 => pure []
  | n + 1 => do
      let a ← read
      let rest ← times read n
      pure (a :: rest)

/-- What a reader makes of some bytes, and of a stream that ends within them (`closed`). -/
structure Consumes (closed : χ) (read : Read χ α) (bytes : List UInt8) (outcome : Except χ α) :
    Prop where
  whole : ∀ sizes rest, ∃ sizes', read ⟨bytes ++ rest, sizes⟩ =
    outcome.map fun a => (a, ⟨rest, sizes'⟩)
  cut : ∀ front, front <+: bytes → front ≠ bytes → ∀ sizes,
    ∃ exc, read ⟨front, sizes⟩ = .error exc ∧ (exc = closed ∨ outcome = .error exc)

namespace Consumes

variable {closed : χ} {read : Read χ α} {bytes : List UInt8}

theorem pure (a : α) : Consumes closed (pure a : Read χ α) [] (.ok a) where
  whole := by
    intro sizes rest
    exact ⟨sizes, rfl⟩
  cut := by
    intro front hfront hne
    exact absurd (List.prefix_nil.mp hfront) hne

theorem ofExcept (e : Except χ α) : Consumes closed (ofExcept e) [] e where
  whole := by
    intro sizes rest
    exact ⟨sizes, rfl⟩
  cut := by
    intro front hfront hne
    exact absurd (List.prefix_nil.mp hfront) hne

/-- A front of two parts ends in the first, or has all of it. -/
theorem front_cases {front first second : List UInt8} (h : front <+: first ++ second)
    (hne : front ≠ first ++ second) :
    (front <+: first ∧ front ≠ first) ∨
      ∃ more, front = first ++ more ∧ more <+: second ∧ more ≠ second := by
  obtain ⟨tail, htail⟩ := h
  rcases List.append_eq_append_iff.mp htail with ⟨left, hfirst, -⟩ | ⟨more, rfl, hmore⟩
  · by_cases heq : front = first
    · refine .inr ⟨[], by rw [heq, List.append_nil], List.nil_prefix, ?_⟩
      intro hnil
      exact hne (by rw [heq, ← hnil, List.append_nil])
    · exact .inl ⟨⟨left, hfirst.symm⟩, heq⟩
  · refine .inr ⟨more, rfl, ⟨tail, hmore.symm⟩, ?_⟩
    intro heq
    exact hne (by rw [heq])

/-- **Sequencing.** What comes first takes the first bytes; where it raises, so does the whole. -/
theorem bind {next : α → Read χ β} {first second : List UInt8} {outcome : Except χ α}
    {after : α → Except χ β} (hread : Consumes closed read first outcome)
    (hnext : ∀ a, outcome = .ok a → Consumes closed (next a) second (after a)) :
    Consumes closed (read >>= next) (first ++ second) (outcome >>= after) where
  whole := by
    intro sizes rest
    obtain ⟨sizes', hfirst⟩ := hread.whole sizes (second ++ rest)
    rw [List.append_assoc]
    cases houtcome : outcome with
    | error exc =>
      rw [houtcome] at hfirst
      refine ⟨sizes', ?_⟩
      show (read _ >>= fun p => next p.1 p.2) = _
      rw [hfirst]
      rfl
    | ok a =>
      obtain ⟨sizes'', hsecond⟩ := (hnext a houtcome).whole sizes' rest
      rw [houtcome] at hfirst
      refine ⟨sizes'', ?_⟩
      show (read _ >>= fun p => next p.1 p.2) = _
      rw [hfirst]
      exact hsecond
  cut := by
    intro front hfront hne sizes
    -- The bytes end in the first part, or in the second.
    rcases front_cases hfront hne with ⟨hfirst, hne'⟩ | ⟨more, rfl, hmore, hne'⟩
    · obtain ⟨exc, hraise, hexc⟩ := hread.cut front hfirst hne' sizes
      refine ⟨exc, ?_, ?_⟩
      · show (read _ >>= fun p => next p.1 p.2) = _
        rw [hraise]
        rfl
      · rcases hexc with hclosed | houtcome
        · exact .inl hclosed
        · exact .inr (by rw [houtcome]; rfl)
    · obtain ⟨sizes', hwhole⟩ := hread.whole sizes more
      cases houtcome : outcome with
      | error exc =>
        rw [houtcome] at hwhole
        refine ⟨exc, ?_, .inr rfl⟩
        show (read _ >>= fun p => next p.1 p.2) = _
        rw [hwhole]
        rfl
      | ok a =>
        obtain ⟨exc, hraise, hexc⟩ := (hnext a houtcome).cut more hmore hne' sizes'
        rw [houtcome] at hwhole
        refine ⟨exc, ?_, hexc⟩
        show (read _ >>= fun p => next p.1 p.2) = _
        rw [hwhole]
        exact hraise

/-- Sequencing, where the first part comes to a value. -/
theorem seq {next : α → Read χ β} {first second : List UInt8} {a : α} {outcome : Except χ β}
    (hread : Consumes closed read first (.ok a)) (hnext : Consumes closed (next a) second outcome) :
    Consumes closed (read >>= next) (first ++ second) outcome := by
  have hbind : Consumes closed (read >>= next) (first ++ second)
      ((.ok a : Except χ α) >>= fun _ => outcome) := by
    apply hread.bind
    intro b hb
    cases hb
    exact hnext
  exact hbind

/-- What is made of a value without reading. -/
theorem map {outcome : Except χ α} (hread : Consumes closed read bytes outcome) (f : α → Except χ β) :
    Consumes closed (read >>= fun a => Socket.ofExcept (f a)) bytes (outcome >>= f) := by
  have hbind : Consumes closed (read >>= fun a => Socket.ofExcept (f a)) (bytes ++ [])
      (outcome >>= f) := hread.bind fun a _ => ofExcept (f a)
  rwa [List.append_nil] at hbind

/-- A reader, once for each of some things that are one after the other. -/
theorem times {ι : Type} {encode : ι → List UInt8} {value : ι → Except χ α} {items : List ι}
    (hread : ∀ item ∈ items, Consumes closed read (encode item) (value item)) :
    Consumes closed (times read items.length) (items.flatMap encode) (items.mapM value) := by
  induction items with
  | nil => exact pure []
  | cons item items ih =>
    rw [List.forall_mem_cons] at hread
    have hrest := ih hread.2
    rw [List.flatMap_cons, List.mapM_cons]
    apply hread.1.bind
    intro a _
    have hmap := hrest.map fun rest => (.ok (a :: rest) : Except χ (List α))
    exact hmap

end Consumes

end Socket
