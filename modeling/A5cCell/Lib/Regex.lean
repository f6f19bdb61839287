import Mathlib.Data.List.Basic
import Mathlib.Data.List.TakeWhile

/-!
# Regular expressions, as a backtracking matcher reads them

A pattern is matched from left to right, and where it leaves a choice the matcher tries the choices in
order: the longest run of a class first, the left alternative first. `run` lists every way to match at
the start of a text, in the order they are tried, so the match is the first of the list.

`fullmatch` and `sub` are those of Python's `re`. What a class holds is a parameter of the pattern, as
what a letter or a digit is depends on the library.
-/

inductive Regex where
  /-- Characters of a class, at least `min` and at most `max` of them. -/
  | span (cls : Char → Bool) (min : Nat) (max : Option Nat)
  | text (literal : List Char)
  /-- Between a character of the class and one that is not of it, or an end. -/
  | boundary (cls : Char → Bool)
  | alt (r t : Regex)
  | seq (r t : Regex)
  | group (name : String) (r : Regex)

namespace Regex

/-- A way to match: what is taken, what is left, and the groups. -/
structure Match where
  taken : List Char
  rest : List Char
  groups : List (String × String)

/-- Every way to match at the start of a text, in order. `before` is the text before it, backwards. -/
def run : Regex → List Char → List Char → List Match
  | span cls min max, _, s =>
      let most := max.elim (s.takeWhile cls).length ((s.takeWhile cls).length.min ·)
      (List.range (most + 1 - min)).map fun i => ⟨s.take (most - i), s.drop (most - i), []⟩
  | text literal, _, s =>
      if literal.isPrefixOf s then [⟨literal, s.drop literal.length, []⟩] else []
  | boundary cls, before, s =>
      if before.head?.any cls != s.head?.any cls then [⟨[], s, []⟩] else []
  | alt r t, before, s => run r before s ++ run t before s
  | seq r t, before, s => (run r before s).flatMap fun m =>
      (run t (m.taken.reverse ++ before) m.rest).map fun m' =>
        ⟨m.taken ++ m'.taken, m'.rest, m.groups ++ m'.groups⟩
  | group name r, before, s => (run r before s).map fun m =>
      { m with groups := m.groups ++ [(name, String.ofList m.taken)] }

/-- `pattern.fullmatch(s)`: the groups. -/
def fullmatch (r : Regex) (s : String) : Option (List (String × String)) :=
  ((run r [] s.toList).find? (·.rest.isEmpty)).map (·.groups)

/-- The replacement of the matches of a text that come after `before`, for a pattern that does not
    match the empty text. -/
def subAux (r : Regex) (repl : List Char) : Nat → List Char → List Char → List Char
  | 0, _, s => s
  | _ + 1, _, [] => []
  | fuel + 1, before, c :: cs => match run r before (c :: cs) with
      | [] => c :: subAux r repl fuel (c :: before) cs
      | m :: _ => repl ++ subAux r repl fuel (m.taken.reverse ++ before) m.rest

/-- `pattern.sub(repl, s)`. -/
def sub (r : Regex) (repl s : String) : String :=
  String.ofList (subAux r repl.toList s.toList.length [] s.toList)

/-! ## What a pattern takes -/

/-- That a pattern takes a text between `before`, backwards, and `rest`, and which groups it leaves. -/
def Takes : Regex → List Char → List Char → List Char → List (String × String) → Prop
  | span cls min max, _, taken, _, groups =>
      groups = [] ∧ (∀ c ∈ taken, cls c = true) ∧ min ≤ taken.length ∧ ∀ n ∈ max, taken.length ≤ n
  | text literal, _, taken, _, groups => groups = [] ∧ taken = literal
  | boundary cls, before, taken, rest, groups =>
      groups = [] ∧ taken = [] ∧ before.head?.any cls ≠ rest.head?.any cls
  | alt r t, before, taken, rest, groups =>
      Takes r before taken rest groups ∨ Takes t before taken rest groups
  | seq r t, before, taken, rest, groups => ∃ first second firstGroups secondGroups,
      taken = first ++ second ∧ groups = firstGroups ++ secondGroups ∧
        Takes r before first (second ++ rest) firstGroups ∧
        Takes t (first.reverse ++ before) second rest secondGroups
  | group name r, before, taken, rest, groups => ∃ inner,
      groups = inner ++ [(name, String.ofList taken)] ∧ Takes r before taken rest inner

section

variable {before s : List Char} {m : Match}

/-- A run of a class: some of the characters of the class that come next. -/
theorem mem_run_span {cls : Char → Bool} {min : Nat} {max : Option Nat} :
    m ∈ run (span cls min max) before s ↔
      s = m.taken ++ m.rest ∧ Takes (span cls min max) before m.taken m.rest m.groups := by
  obtain ⟨most, hmost⟩ : ∃ most, most =
    max.elim (s.takeWhile cls).length ((s.takeWhile cls).length.min ·) := ⟨_, rfl⟩
  have hle : most ≤ (s.takeWhile cls).length := by
    rw [hmost]
    cases max with
    | none => exact le_rfl
    | some n => exact Nat.min_le_left _ _
  have hmax : ∀ n ∈ max, most ≤ n := by
    intro n hn
    rw [hmost, Option.mem_def.mp hn]
    exact Nat.min_le_right _ _
  have hlen : (s.takeWhile cls).length ≤ s.length := (List.takeWhile_prefix cls).length_le
  simp only [run, ← hmost, List.mem_map, List.mem_range]
  constructor
  · intro h
    obtain ⟨i, hi, rfl⟩ := h
    have htake : (s.take (most - i)).length = most - i := by
      rw [List.length_take]
      omega
    refine ⟨(List.take_append_drop _ _).symm, rfl, fun c hc => ?_, by rw [htake]; omega, fun n hn => ?_⟩
    · have hfront : s.take (most - i) <+: s.takeWhile cls := by
        rw [List.prefix_iff_eq_take.mp (List.takeWhile_prefix cls (l := s))]
        exact List.take_prefix_take_left (by omega)
      exact List.mem_takeWhile_imp (hfront.subset hc)
    · have := hmax n hn
      rw [htake]
      omega
  · intro h
    obtain ⟨hs, hgroups, hall, hmin, hbound⟩ := h
    have hthere : m.taken.length ≤ most := by
      have hrun : m.taken.length ≤ (s.takeWhile cls).length := by
        rw [hs, List.takeWhile_append_of_pos hall]
        simp
      rw [hmost]
      cases max with
      | none => exact hrun
      | some n => exact Nat.le_min.mpr ⟨hrun, hbound n rfl⟩
    refine ⟨most - m.taken.length, by omega, ?_⟩
    have hsub : most - (most - m.taken.length) = m.taken.length := by omega
    obtain ⟨taken, rest, groups⟩ := m
    simp only at hgroups hs hsub
    rw [hsub, hs, hgroups]
    simp

/-- The ways to match are the ways to take a part of the text. -/
theorem mem_run {r : Regex} :
    m ∈ run r before s ↔ s = m.taken ++ m.rest ∧ Takes r before m.taken m.rest m.groups := by
  induction r generalizing before s m with
  | span cls min max => exact mem_run_span
  | text literal =>
    obtain ⟨taken, rest, groups⟩ := m
    simp only [run, Takes]
    constructor
    · intro h
      split at h
      · rename_i hfront
        obtain ⟨rest', hrest⟩ := List.isPrefixOf_iff_prefix.mp hfront
        cases List.mem_singleton.mp h
        simp [← hrest]
      · cases h
    · intro h
      obtain ⟨rfl, rfl, rfl⟩ := h
      rw [if_pos (List.isPrefixOf_iff_prefix.mpr (List.prefix_append _ _))]
      simp
  | boundary cls =>
    obtain ⟨taken, rest, groups⟩ := m
    simp only [run, Takes, bne_iff_ne]
    constructor
    · intro h
      split at h
      · rename_i hedge
        cases List.mem_singleton.mp h
        exact ⟨rfl, rfl, rfl, hedge⟩
      · cases h
    · intro h
      obtain ⟨rfl, rfl, rfl, hedge⟩ := h
      rw [List.nil_append, if_pos hedge]
      exact List.mem_singleton_self _
  | alt r t ihr iht =>
    rw [run, List.mem_append, ihr, iht, ← and_or_left]
    rfl
  | seq r t ihr iht =>
    -- The second part is run on what the first one leaves.
    simp only [run, List.mem_flatMap, List.mem_map, Takes]
    constructor
    · intro h
      obtain ⟨first, hfirst, second, hsecond, rfl⟩ := h
      obtain ⟨hs, htakes⟩ := ihr.mp hfirst
      obtain ⟨hrest, htakes'⟩ := iht.mp hsecond
      rw [hrest] at hs htakes
      exact ⟨by simp [hs], _, _, _, _, rfl, rfl, htakes, htakes'⟩
    · intro h
      obtain ⟨hs, first, second, firstGroups, secondGroups, htaken, hgroups, hfirst, hsecond⟩ := h
      refine ⟨⟨first, second ++ m.rest, firstGroups⟩, ihr.mpr ⟨by simp [hs, htaken], hfirst⟩,
        ⟨second, m.rest, secondGroups⟩, iht.mpr ⟨rfl, hsecond⟩, ?_⟩
      obtain ⟨taken, rest, groups⟩ := m
      simp only at htaken hgroups
      rw [htaken, hgroups]
  | group name r ih =>
    simp only [run, List.mem_map, Takes]
    constructor
    · intro h
      obtain ⟨inner, hinner, rfl⟩ := h
      obtain ⟨hs, htakes⟩ := ih.mp hinner
      exact ⟨hs, inner.groups, rfl, htakes⟩
    · intro h
      obtain ⟨hs, inner, hgroups, htakes⟩ := h
      refine ⟨⟨m.taken, m.rest, inner⟩, ih.mpr ⟨hs, htakes⟩, ?_⟩
      obtain ⟨taken, rest, groups⟩ := m
      simp only at hgroups
      rw [hgroups]

end

/-! ## Matching a whole text -/

/-- The groups of a whole text are those of a way to take it. -/
theorem takes_of_fullmatch {r : Regex} {s : String} {groups : List (String × String)}
    (h : r.fullmatch s = some groups) : Takes r [] s.toList [] groups := by
  obtain ⟨m, hfind, hgroups⟩ := Option.map_eq_some_iff.mp h
  have hrest : m.rest.isEmpty = true :=
    List.find?_some (p := fun m : Match => m.rest.isEmpty) hfind
  obtain ⟨hs, htakes⟩ := mem_run.mp (List.mem_of_find?_eq_some hfind)
  rw [List.isEmpty_iff.mp hrest] at hs htakes
  rwa [hs, List.append_nil, ← hgroups]

/-- A text that can be taken whole is matched. -/
theorem exists_fullmatch {r : Regex} {s : String} {groups : List (String × String)}
    (h : Takes r [] s.toList [] groups) : ∃ groups', r.fullmatch s = some groups' := by
  have hm : (⟨s.toList, [], groups⟩ : Match) ∈ run r [] s.toList :=
    mem_run.mpr ⟨(List.append_nil _).symm, h⟩
  have hsome : ((run r [] s.toList).find? (·.rest.isEmpty)).isSome := by
    rw [List.find?_isSome]
    exact ⟨_, hm, rfl⟩
  obtain ⟨found, hfound⟩ := Option.isSome_iff_exists.mp hsome
  exact ⟨found.groups, by rw [fullmatch, hfound]; rfl⟩

/-! ## What characters a match is made of -/

/-- Every character a pattern takes is of the class. -/
def Within (p : Char → Prop) : Regex → Prop
  | span cls _ _ => ∀ c, cls c = true → p c
  | text literal => ∀ c ∈ literal, p c
  | boundary _ => True
  | alt r t => Within p r ∧ Within p t
  | seq r t => Within p r ∧ Within p t
  | group _ r => Within p r

theorem Takes.within {p : Char → Prop} {r : Regex} (hr : r.Within p) {before taken rest : List Char}
    {groups : List (String × String)} (h : Takes r before taken rest groups) :
    (∀ c ∈ taken, p c) ∧ ∀ named ∈ groups, ∀ c ∈ named.2.toList, p c := by
  induction r generalizing before taken rest groups with
  | span cls min max =>
    obtain ⟨rfl, hall, -, -⟩ := h
    exact ⟨fun c hc => hr c (hall c hc), by simp⟩
  | text literal =>
    obtain ⟨rfl, rfl⟩ := h
    exact ⟨hr, by simp⟩
  | boundary cls =>
    obtain ⟨rfl, rfl, -⟩ := h
    exact ⟨by simp, by simp⟩
  | alt r t ihr iht =>
    rcases h with h | h
    · exact ihr hr.1 h
    · exact iht hr.2 h
  | seq r t ihr iht =>
    obtain ⟨first, second, firstGroups, secondGroups, rfl, rfl, hfirst, hsecond⟩ := h
    obtain ⟨htaken, hgroups⟩ := ihr hr.1 hfirst
    obtain ⟨htaken', hgroups'⟩ := iht hr.2 hsecond
    exact ⟨List.forall_mem_append.mpr ⟨htaken, htaken'⟩,
      List.forall_mem_append.mpr ⟨hgroups, hgroups'⟩⟩
  | group name r ih =>
    obtain ⟨inner, rfl, h⟩ := h
    obtain ⟨htaken, hgroups⟩ := ih hr h
    refine ⟨htaken, List.forall_mem_append.mpr ⟨hgroups, ?_⟩⟩
    intro named hnamed
    rw [List.mem_singleton.mp hnamed, String.toList_ofList]
    exact htaken

/-- A text that is matched, and its groups, are of the characters of the pattern. -/
theorem within_of_fullmatch {p : Char → Prop} {r : Regex} (hr : r.Within p) {s : String}
    {groups : List (String × String)} (h : r.fullmatch s = some groups) :
    (∀ c ∈ s.toList, p c) ∧ ∀ named ∈ groups, ∀ c ∈ named.2.toList, p c :=
  (takes_of_fullmatch h).within hr

end Regex
