import Mathlib.Order.Bounds.Basic
import Mathlib.Data.List.Sort
import Mathlib.Data.List.Dedup
import Mathlib.Data.List.Perm.Subperm
import A5cCell.Lib.Except
import A5cCell.Lib.Runs
import A5cCell.TenantApi.Calls
import A5cCell.TenantApi.OpsControl

/-!
# Rolling a function back

`handle_lambda_rollback` against Lambda: what the aliases of functions point to, and the pages the
published versions of a function are listed in. However the versions are cut into pages, in whatever
order and how often they are listed, the alias moves to the greatest version below its own, or stays
where it is.
-/

namespace A5cCell.TenantApi

open Py (Val Items)
open DataAccess Runs

/-! ## Lambda -/

/-- What each alias of a function points to. -/
abbrev AliasTargets : Type := String × String → Option String

/-- The alias a call is about. -/
def aliasOf (kwargs : Items) : String × String :=
  ((Items.get kwargs "FunctionName").toStr, (Items.get kwargs "Name").toStr)

/-- What Lambda answers: `pages` are those of `list_versions_by_function`. -/
def serveOperation (pages : String → Except Fault (List Val)) (targets : AliasTargets)
    (operation : String) (kwargs : Items) : Except Fault Val × AliasTargets :=
  if operation = "list_versions_by_function" then
    ((pages (aliasOf kwargs).1).map .list, targets)
  else match targets (aliasOf kwargs) with
    | none => (.error (.clientError "ResourceNotFoundException"), targets)
    | some target =>
        if operation = "get_alias" then (.ok (.dict [("FunctionVersion", .str target)]), targets)
        else if operation = "update_alias" then
          (.ok .none, Function.update targets (aliasOf kwargs)
            (some (Items.get kwargs "FunctionVersion").toStr))
        else (.error (.clientError "InvalidAction"), targets)

def serveLambda (pages : String → Except Fault (List Val)) (targets : AliasTargets) :
    (e : Effect) → e.Reply × AliasTargets
  | .service _ operation kwargs => serveOperation pages targets operation kwargs
  | .db _ => (.error (.clientError "AccessDeniedException"), targets)
  | .now => (0, targets)
  | .random _ => ("", targets)

/-- A version as it is listed. -/
inductive Listed where
  | latest
  | published (n : ℕ)
  deriving DecidableEq

def Listed.text : Listed → String
  | .latest => "$LATEST"
  | .published n => toString n

def Listed.number? : Listed → Option ℕ
  | .latest => none
  | .published n => some n

/-- A page of `list_versions_by_function` that lists these versions. -/
def IsPage (page : Val) (listed : List Listed) : Prop :=
  ∃ fields items, page = .dict fields ∧ Items.get fields "Versions" (.list []) = .list items ∧
    List.Forall₂ (fun item version => ∃ kvs, item = .dict kvs ∧
      Items.get kvs "Version" = .str version.text) items listed

/-- The pages list the published versions, each once or more often, and perhaps `$LATEST`. -/
def Lists (pages : List Val) (published : List ℕ) : Prop :=
  ∃ split, List.Forall₂ IsPage pages split ∧
    ∀ n, n ∈ split.flatten.filterMap Listed.number? ↔ n ∈ published

/-! ## The versions of a function, in order -/

theorem Listed.text_eq_latest {version : Listed} : version.text = "$LATEST" ↔ version = .latest := by
  cases version with
  | latest => simp [Listed.text]
  | published n =>
    simp only [reduceCtorEq, iff_false]
    intro h
    have hdigits := Py.not_mem_toString (c := '$') (by decide) (by decide) (n : Int)
    exact hdigits (by rw [show toString (n : Int) = "$LATEST" from h]; decide)

theorem filter_texts (listed : List Listed) :
    (listed.map Listed.text).filter (· ≠ "$LATEST") =
      (listed.filterMap Listed.number?).map toString := by
  induction listed with
  | nil => rfl
  | cons version listed ih =>
    cases version with
    | latest =>
      rw [List.map_cons, List.filter_cons_of_neg (by simp [Listed.text]), ih]
      rfl
    | published n =>
      have hne : (Listed.published n).text ≠ "$LATEST" := by
        rw [ne_eq, Listed.text_eq_latest]
        exact Listed.noConfusion
      rw [List.map_cons, List.filter_cons_of_pos (by simpa using hne), ih]
      rfl

/-- A page is read as the published versions it lists. -/
theorem publishedVersions_page {page : Val} {listed : List Listed} (h : IsPage page listed) :
    publishedVersions page = .ok ((listed.filterMap Listed.number?).map toString) := by
  obtain ⟨fields, items, rfl, hversions, hitems⟩ := h
  have htexts : (items.mapM fun item => do pure (← getAttr item "Version").toStr) =
      Except.ok (listed.map Listed.text) := by
    apply Except.mapM_eq_map
    refine hitems.imp ?_
    rintro item version ⟨kvs, rfl, hversion⟩
    show Except.ok (Items.get kvs "Version").toStr = _
    rw [hversion]
    rfl
  have hread : getAttr (.dict fields) "Versions" (.list []) = .ok (.list items) :=
    congrArg Except.ok hversions
  unfold publishedVersions
  rw [hread]
  simp only [bind, Except.bind] at htexts ⊢
  rw [htexts]
  show Except.ok ((listed.map Listed.text).filter (· ≠ "$LATEST")) = _
  rw [filter_texts]

/-- The published versions, lowest first. -/
def ascending (published : List ℕ) : List ℕ := published.dedup.insertionSort (· ≤ ·)

theorem mem_ascending {published : List ℕ} {n : ℕ} : n ∈ ascending published ↔ n ∈ published := by
  rw [ascending, List.mem_insertionSort, List.mem_dedup]

theorem ascending_pairwise (published : List ℕ) : (ascending published).Pairwise (· < ·) := by
  have hsorted := List.pairwise_insertionSort (· ≤ ·) published.dedup
  have hnodup : (ascending published).Nodup :=
    (List.perm_insertionSort (· ≤ ·) published.dedup).nodup_iff.mpr (List.nodup_dedup published)
  exact (hsorted.and hnodup).imp fun h => lt_of_le_of_ne h.1 h.2

theorem toString_nat_injective : Function.Injective (toString : ℕ → String) :=
  fun _ _ h => Py.repr_injective h

theorem intOf_toString (n : ℕ) : intOf (.str (toString n)) = .ok (n : Int) := by
  have hint (text : String) (m : Int) (h : Py.toInt? text = some m) :
      intOf (.str text) = .ok m := by
    simp only [intOf, Val.toInt, h]
  exact hint _ _ (Py.toInt?_toString (n : Int))

/-- Sorting by number sorts the numbers. -/
theorem orderedVersions_texts (numbers : List ℕ) :
    orderedVersions (numbers.map toString) = .ok ((ascending numbers).map toString) := by
  have hnumbered : ((numbers.map toString).dedup.mapM fun version => do
      pure (← intOf (.str version), version)) =
      Except.ok (numbers.dedup.map fun n : ℕ => ((n : Int), toString n)) := by
    rw [List.dedup_map_of_injective toString_nat_injective]
    apply Except.mapM_eq_map
    rw [List.forall₂_map_left_iff, List.forall₂_same]
    intro n _
    rw [intOf_toString]
    rfl
  unfold orderedVersions
  rw [hnumbered]
  show Except.ok (((numbers.dedup.map fun n : ℕ => ((n : Int), toString n)).insertionSort
    fun a b => a.1 ≤ b.1).map (·.2)) = _
  rw [← List.map_insertionSort (r := (· ≤ ·)) (s := fun a b : Int × String => a.1 ≤ b.1)
    (fun n : ℕ => ((n : Int), toString n)) numbers.dedup (by simp), List.map_map]
  rfl

/-! ## One rollback -/

/-- The alias a request is about: the function's name and the alias's. -/
def rollbackTarget (py : Python) (event : Items) (caller : CallerIdentity) :
    Except Exc (String × String) := do
  requirePlatformAdminRole caller
  let body ← requireJsonBody py event
  let functionSuffix ← requireNonEmptyText (body.get "functionSuffix") "functionSuffix"
  pure ("platform-" ++ functionSuffix ++ "-" ++ (py.environ "PLATFORM_ENV").getD "dev",
    (body.get "aliasName").strOrNone.getD "live")

section

variable {py : Python} {event : Items} {caller : CallerIdentity}
  {pages : String → Except Fault (List Val)} {targets : AliasTargets} {target : String × String}

/-- What the alias and the listing are read as. -/
theorem comesTo_readVersions (pages : String → Except Fault (List Val)) (targets : AliasTargets)
    (functionName aliasName : String) :
    Prog.ComesTo (serveLambda pages) targets (readVersions functionName aliasName)
      (match targets (functionName, aliasName) with
        | none => .error (.clientError "ResourceNotFoundException")
        | some current => match pages functionName with
          | .error fault => .error fault.exc
          | .ok listing => (listing.mapM publishedVersions).map fun versions =>
              (current, versions.flatten)) targets := by
  have halias : serveLambda pages targets (.service "lambda" "get_alias"
      [("FunctionName", .str functionName), ("Name", .str aliasName)]) =
        (match targets (functionName, aliasName) with
          | none => .error (.clientError "ResourceNotFoundException")
          | some current => .ok (.dict [("FunctionVersion", .str current)]), targets) := by
    show (match targets (functionName, aliasName) with
      | none => _
      | some current => _) = _
    cases targets (functionName, aliasName) <;> rfl
  have hlisting : serveLambda pages targets (.service "lambda" "list_versions_by_function"
      [("FunctionName", .str functionName)]) = ((pages functionName).map .list, targets) := rfl
  have hread := comesTo_service halias
  have hlist := comesTo_service hlisting
  unfold readVersions
  -- The alias is read before the listing, so an error of the alias comes first.
  cases htarget : targets (functionName, aliasName) with
  | none =>
    rw [htarget] at hread
    exact hread.bind_error
  | some current =>
    rw [htarget] at hread
    refine hread.bind ((comesTo_ofExcept targets _).bind ?_)
    cases hpages : pages functionName with
    | error fault =>
      rw [hpages] at hlist
      exact hlist.bind_error
    | ok listing =>
      rw [hpages] at hlist
      refine hlist.bind ?_
      have hmapped : Prog.ComesTo (serveLambda pages) targets
          (Api.ofExcept (listing.mapM publishedVersions)) _ targets := comesTo_ofExcept targets _
      show Prog.ComesTo _ _ (Api.ofExcept (listing.mapM publishedVersions) >>= _)
        ((listing.mapM publishedVersions).map _) _
      cases hversions : listing.mapM publishedVersions with
      | error exc =>
        rw [hversions] at hmapped
        exact hmapped.bind_error
      | ok versions =>
        rw [hversions] at hmapped
        exact hmapped.bind (Prog.comesTo_pure _ _)

/-- The rest of the handler, once the alias of a request is known. -/
def rollBack (py : Python) (target : String × String) : Api Response := do
  match ← (readVersions target.1 target.2).attempt with
  | .error (.clientError "ResourceNotFoundException") =>
      pure (error 404 "NOT_FOUND" "Lambda function not found")
  | .error x => .raise x
  | .ok (currentVersion, versions) =>
      let ordered ← Api.ofExcept (orderedVersions versions)
      match ordered.idxOf? currentVersion with
      | none => pure (error 404 "NOT_FOUND" "Alias version not found")
      | some 0 => pure (error 409 "NO_PREVIOUS_VERSION" "No previous published version")
      | some (previous + 1) =>
          let previousVersion := (ordered[previous]?).getD ""
          let _ ← Api.service "lambda" "update_alias" [
            ("FunctionName", .str target.1),
            ("Name", .str target.2),
            ("FunctionVersion", .str previousVersion),
            ("Description", .str
              ("Rollback from " ++ currentVersion ++ " to " ++ previousVersion))]
          response py 200 [
            ("functionName", .str target.1),
            ("fromVersion", .str currentVersion),
            ("toVersion", .str previousVersion),
            ("status", .str "rolled_back")]

theorem handleLambdaRollback_eq : handleLambdaRollback py event caller =
    Api.ofExcept (rollbackTarget py event caller) >>= rollBack py := by
  unfold handleLambdaRollback rollbackTarget
  cases requirePlatformAdminRole caller with
  | error exc => rfl
  | ok _ =>
    cases requireJsonBody py event with
    | error exc => rfl
    | ok body =>
      show (Api.ofExcept (requireNonEmptyText (body.get "functionSuffix") "functionSuffix") >>= _) =
        (Api.ofExcept ((requireNonEmptyText (body.get "functionSuffix") "functionSuffix") >>= _) >>= _)
      cases requireNonEmptyText (body.get "functionSuffix") "functionSuffix" <;> rfl

/-- An answer with an error, or an exception. -/
def IsError (result : Except Exc Response) : Prop :=
  ∀ answer, result = .ok answer → 400 ≤ answer.statusCode

/-- What a rollback from one version to another answers. -/
def rolledBack (target : String × String) (current previous : String) : Response :=
  ⟨200, .dict [("functionName", .str target.1), ("fromVersion", .str current),
    ("toVersion", .str previous), ("status", .str "rolled_back")]⟩

/-- Where the alias or the listing cannot be read, the alias stays. -/
theorem comesTo_rollBack_unread {exc : Exc}
    (hread : Prog.ComesTo (serveLambda pages) targets (readVersions target.1 target.2) (.error exc)
      targets) :
    ∃ result, IsError result ∧ Prog.ComesTo (serveLambda pages) targets (rollBack py target) result
      targets := by
  by_cases hmissing : exc = .clientError "ResourceNotFoundException"
  · subst hmissing
    refine ⟨.ok (error 404 "NOT_FOUND" "Lambda function not found"), ?_, ?_⟩
    · rintro answer ⟨⟩
      exact (by decide : 400 ≤ 404)
    · exact hread.attempt.bind (Prog.comesTo_pure _ _)
  · refine ⟨.error exc, fun answer h => absurd h (by simp), hread.attempt.bind ?_⟩
    split
    · rename_i heq
      cases heq
      exact absurd rfl hmissing
    · rename_i x _ heq
      cases heq
      exact Prog.comesTo_raise _ _
    · rename_i heq
      cases heq

section

variable {current : String} {numbers : List ℕ}

/-- Where the alias is not on a published version above the lowest, it stays. -/
theorem comesTo_rollBack_lowest
    (hread : Prog.ComesTo (serveLambda pages) targets (readVersions target.1 target.2)
      (.ok (current, numbers.map toString)) targets)
    (hindex : ∀ k, ((ascending numbers).map toString).idxOf? current ≠ some (k + 1)) :
    ∃ result, IsError result ∧ Prog.ComesTo (serveLambda pages) targets (rollBack py target) result
      targets := by
  have hordered : Prog.ComesTo (serveLambda pages) targets
      (Api.ofExcept (orderedVersions (numbers.map toString))) _ targets := comesTo_ofExcept targets _
  rw [orderedVersions_texts] at hordered
  cases hat : ((ascending numbers).map toString).idxOf? current with
  | none =>
    refine ⟨.ok (error 404 "NOT_FOUND" "Alias version not found"), ?_, hread.attempt.bind ?_⟩
    · rintro answer ⟨⟩
      exact (by decide : 400 ≤ 404)
    · show Prog.ComesTo _ _ (Api.ofExcept (orderedVersions (numbers.map toString)) >>= _) _ _
      rw [orderedVersions_texts]
      refine hordered.bind ?_
      rw [hat]
      exact Prog.comesTo_pure _ _
  | some index =>
    cases index with
    | succ k => exact absurd hat (hindex k)
    | zero =>
      refine ⟨.ok (error 409 "NO_PREVIOUS_VERSION" "No previous published version"), ?_,
        hread.attempt.bind ?_⟩
      · rintro answer ⟨⟩
        exact (by decide : 400 ≤ 409)
      · show Prog.ComesTo _ _ (Api.ofExcept (orderedVersions (numbers.map toString)) >>= _) _ _
        rw [orderedVersions_texts]
        refine hordered.bind ?_
        rw [hat]
        exact Prog.comesTo_pure _ _

/-- Where there is a version before its own, the alias moves to it. -/
theorem comesTo_rollBack_moves {k : ℕ} {previous : String}
    (hread : Prog.ComesTo (serveLambda pages) targets (readVersions target.1 target.2)
      (.ok (current, numbers.map toString)) targets)
    (htarget : targets target = some current)
    (hindex : ((ascending numbers).map toString).idxOf? current = some (k + 1))
    (hprevious : ((ascending numbers).map toString)[k]? = some previous) :
    Prog.ComesTo (serveLambda pages) targets (rollBack py target)
      (.ok (rolledBack target current previous))
      (Function.update targets target (some previous)) := by
  have hordered : Prog.ComesTo (serveLambda pages) targets
      (Api.ofExcept (orderedVersions (numbers.map toString))) _ targets := comesTo_ofExcept targets _
  have hupdate : serveLambda pages targets (.service "lambda" "update_alias" [
      ("FunctionName", .str target.1), ("Name", .str target.2),
      ("FunctionVersion", .str previous),
      ("Description", .str ("Rollback from " ++ current ++ " to " ++ previous))]) =
        (.ok .none, Function.update targets target (some previous)) := by
    show (match targets target with
      | none => _
      | some _ => _) = _
    rw [htarget]
    rfl
  refine hread.attempt.bind ?_
  show Prog.ComesTo _ _ (Api.ofExcept (orderedVersions (numbers.map toString)) >>= _) _ _
  rw [orderedVersions_texts] at hordered ⊢
  refine hordered.bind ?_
  rw [hindex]
  simp only [hprevious, Option.getD_some]
  exact (comesTo_service hupdate).bind (Prog.comesTo_pure _ _)

end

end

/-! ## The version before -/

/-- The greatest published version below the current one, where that is published too. -/
def Precedes (published : List ℕ) (current : String) (previous : ℕ) : Prop :=
  ∃ n ∈ published, current = toString n ∧ IsGreatest {m | m ∈ published ∧ m < n} previous

theorem isGreatest_of_getElem {versions : List ℕ} (hversions : versions.Pairwise (· < ·)) {k : ℕ}
    (hk : k + 1 < versions.length) :
    IsGreatest {m | m ∈ versions ∧ m < versions[k + 1]} versions[k] := by
  rw [List.pairwise_iff_getElem] at hversions
  refine ⟨⟨List.getElem_mem _, hversions k (k + 1) (by omega) hk (by omega)⟩, ?_⟩
  rintro m ⟨hm, hlt⟩
  obtain ⟨i, hi, rfl⟩ := List.getElem_of_mem hm
  by_contra hgt
  rcases Nat.lt_trichotomy i (k + 1) with hbefore | rfl | hafter
  · rcases Nat.lt_succ_iff_lt_or_eq.mp hbefore with hlower | rfl
    · exact hgt (hversions i k hi (by omega) hlower).le
    · exact hgt le_rfl
  · exact lt_irrefl _ hlt
  · exact lt_asymm hlt (hversions (k + 1) i hk hi hafter)

theorem precedes_of_index {numbers : List ℕ} {current : String} {k : ℕ}
    (h : ((ascending numbers).map toString).idxOf? current = some (k + 1)) :
    ∃ previous, Precedes numbers current previous ∧
      ((ascending numbers).map toString)[k]? = some (toString previous) := by
  obtain ⟨hk, hcurrent, -⟩ := List.idxOf?_eq_some_iff.mp h
  rw [List.length_map] at hk
  rw [List.getElem_map] at hcurrent
  have hgreatest := isGreatest_of_getElem (ascending_pairwise numbers) hk
  simp only [mem_ascending] at hgreatest
  refine ⟨(ascending numbers)[k], ⟨(ascending numbers)[k + 1], ?_, hcurrent.symm, hgreatest⟩, ?_⟩
  · exact mem_ascending.mp (List.getElem_mem _)
  · rw [List.getElem?_map, List.getElem?_eq_getElem (by omega)]
    rfl

/-- A version that has one before it is not the lowest. -/
theorem index_of_precedes {numbers : List ℕ} {current : String} {previous : ℕ}
    (h : Precedes numbers current previous) :
    ∃ k, ((ascending numbers).map toString).idxOf? current = some (k + 1) := by
  obtain ⟨n, hn, rfl, ⟨hprevious, hlt⟩, -⟩ := h
  cases hat : ((ascending numbers).map toString).idxOf? (toString n) with
  | none =>
    rw [List.idxOf?_eq_none_iff] at hat
    exact absurd (List.mem_map_of_mem (mem_ascending.mpr hn)) hat
  | some index =>
    cases index with
    | succ k => exact ⟨k, rfl⟩
    | zero =>
      -- nothing stands before the first version
      obtain ⟨hlength, hfirst, -⟩ := List.idxOf?_eq_some_iff.mp hat
      rw [List.getElem_map] at hfirst
      have hfirst := toString_nat_injective hfirst
      obtain ⟨i, hi, hget⟩ := List.getElem_of_mem (mem_ascending.mpr hprevious)
      have hpairwise := List.pairwise_iff_getElem.mp (ascending_pairwise numbers)
      rcases Nat.eq_zero_or_pos i with rfl | hpos
      · exact absurd (hget.symm.trans hfirst) (ne_of_lt hlt)
      · have hbelow := hpairwise 0 i (by omega) hi hpos
        omega

theorem Precedes.unique {published : List ℕ} {current : String} {v w : ℕ}
    (hv : Precedes published current v) (hw : Precedes published current w) : v = w := by
  obtain ⟨n, -, hn, hgreatest⟩ := hv
  obtain ⟨m, -, hm, hgreatest'⟩ := hw
  obtain rfl := toString_nat_injective (hn.symm.trans hm)
  exact hgreatest.unique hgreatest'

theorem Precedes.congr {published published' : List ℕ} (h : ∀ n, n ∈ published ↔ n ∈ published')
    {current : String} {v : ℕ} : Precedes published current v ↔ Precedes published' current v := by
  simp only [Precedes, h]

/-! ## The handler -/

section

variable {py : Python} {event : Items} {caller : CallerIdentity}
  {pages : String → Except Fault (List Val)} {targets : AliasTargets} {target : String × String}

/-- The versions that are read of a listing. -/
theorem mapM_publishedVersions {listing : List Val} {published : List ℕ}
    (h : Lists listing published) : ∃ numbers texts : List _,
      listing.mapM publishedVersions = .ok texts ∧ texts.flatten = numbers.map toString ∧
        ∀ n, n ∈ numbers ↔ n ∈ published := by
  obtain ⟨split, hpages, hsplit⟩ := h
  refine ⟨split.flatten.filterMap Listed.number?, _,
    Except.mapM_eq_map (hpages.imp fun page listed hpage => publishedVersions_page hpage), ?_, hsplit⟩
  rw [List.filterMap_flatten, List.map_flatten, List.map_map]
  rfl

/-- **One rollback.** The alias moves to the greatest published version below its own, or stays where
    there is none and the answer is an error. -/
theorem comesTo_rollBack {listing : List Val} {published : List ℕ} {current : String}
    (htarget : targets target = some current) (hpages : pages target.1 = .ok listing)
    (hlists : Lists listing published) :
    (∀ previous, Precedes published current previous →
      Prog.ComesTo (serveLambda pages) targets (rollBack py target)
        (.ok (rolledBack target current (toString previous)))
        (Function.update targets target (some (toString previous)))) ∧
    ((∀ previous, ¬ Precedes published current previous) →
      ∃ result, IsError result ∧
        Prog.ComesTo (serveLambda pages) targets (rollBack py target) result targets) := by
  obtain ⟨numbers, texts, hversions, htexts, hnumbers⟩ := mapM_publishedVersions hlists
  have hread := comesTo_readVersions pages targets target.1 target.2
  simp only [htarget, hpages, hversions] at hread
  rw [show (Except.ok texts : Except Exc _).map (fun versions => (current, versions.flatten)) =
    .ok (current, numbers.map toString) from congrArg (fun v => Except.ok (current, v)) htexts] at hread
  constructor
  · intro previous hprecedes
    rw [← Precedes.congr hnumbers] at hprecedes
    obtain ⟨k, hindex⟩ := index_of_precedes hprecedes
    obtain ⟨previous', hprecedes', hget⟩ := precedes_of_index hindex
    obtain rfl := hprecedes.unique hprecedes'
    exact comesTo_rollBack_moves hread htarget hindex hget
  · intro hnone
    refine comesTo_rollBack_lowest hread fun k hindex => ?_
    obtain ⟨previous, hprecedes, -⟩ := precedes_of_index hindex
    exact hnone previous ((Precedes.congr hnumbers).mp hprecedes)

/-- Where the alias is unknown or the versions cannot be listed, the alias stays. -/
theorem comesTo_rollBack_unlisted
    (h : targets target = none ∨ ∃ fault, pages target.1 = .error fault) :
    ∃ result, IsError result ∧
      Prog.ComesTo (serveLambda pages) targets (rollBack py target) result targets := by
  have hread := comesTo_readVersions pages targets target.1 target.2
  cases htarget : targets target with
  | none =>
    simp only [htarget] at hread
    exact comesTo_rollBack_unread hread
  | some current =>
    rw [htarget] at h
    obtain h | ⟨fault, hfault⟩ := h
    · cases h
    · simp only [htarget, hfault] at hread
      exact comesTo_rollBack_unread hread

/-- The handler does what a rollback of its alias does. -/
theorem comesTo_handleLambdaRollback {result : Except Exc Response} {targets' : AliasTargets}
    (hrequest : rollbackTarget py event caller = .ok target)
    (h : Prog.ComesTo (serveLambda pages) targets (rollBack py target) result targets') :
    Prog.ComesTo (serveLambda pages) targets (handleLambdaRollback py event caller) result
      targets' := by
  rw [handleLambdaRollback_eq]
  have hread : Prog.ComesTo (serveLambda pages) targets
      (Api.ofExcept (rollbackTarget py event caller)) _ targets := comesTo_ofExcept targets _
  rw [hrequest] at hread ⊢
  exact hread.bind h

/-- A request that names no function leaves every alias. -/
theorem comesTo_handleLambdaRollback_refused {exc : Exc}
    (hrequest : rollbackTarget py event caller = .error exc) :
    Prog.ComesTo (serveLambda pages) targets (handleLambdaRollback py event caller) (.error exc)
      targets := by
  rw [handleLambdaRollback_eq]
  have hread : Prog.ComesTo (serveLambda pages) targets
      (Api.ofExcept (rollbackTarget py event caller)) _ targets := comesTo_ofExcept targets _
  rw [hrequest] at hread ⊢
  exact hread.bind_error

end

/-! ## Rollbacks after each other -/

/-- A request, and the pages the versions are listed in while it is handled. -/
structure RollbackRequest where
  event : Items
  caller : CallerIdentity
  pages : String → Except Fault (List Val)

def rollbackStep (py : Python) (targets : AliasTargets) (request : RollbackRequest) :
    AliasTargets × Except Exc Response :=
  let run := Prog.run (serveLambda request.pages) targets
    (handleLambdaRollback py request.event request.caller)
  (run.final, run.outcome)

/-- The request is about this alias, and finds these published versions. -/
def RollbackRequest.Finds (py : Python) (target : String × String) (published : List ℕ)
    (request : RollbackRequest) : Prop :=
  rollbackTarget py request.event request.caller = .ok target ∧
    ∃ listing, request.pages target.1 = .ok listing ∧ Lists listing published

/-- Each version is the one before that the alias was on. -/
def Visits (published : List ℕ) : String → List ℕ → Prop
  | _, [] => True
  | current, v :: visited => Precedes published current v ∧ Visits published (toString v) visited

/-- What rollbacks that visit these versions answer. -/
def visitAnswers (target : String × String) : String → List ℕ → List (Except Exc Response)
  | _, [] => []
  | current, v :: visited =>
      .ok (rolledBack target current (toString v)) :: visitAnswers target (toString v) visited

/-- The version the alias is on after it visited these. -/
def lastVisited : String → List ℕ → String
  | current, [] => current
  | _, v :: visited => lastVisited (toString v) visited

theorem length_visitAnswers (target : String × String) (current : String) (visited : List ℕ) :
    (visitAnswers target current visited).length = visited.length := by
  induction visited generalizing current with
  | nil => rfl
  | cons v visited ih => rw [visitAnswers, List.length_cons, List.length_cons, ih]

theorem Visits.mem_and_lt {published : List ℕ} {current : String} {visited : List ℕ}
    (h : Visits published current visited) :
    ∀ v ∈ visited, v ∈ published ∧ ∀ n : ℕ, current = toString n → v < n := by
  induction visited generalizing current with
  | nil => intro v hv; cases hv
  | cons w visited ih =>
    obtain ⟨⟨n, -, hcurrent, ⟨hw, hlt⟩, -⟩, hrest⟩ := h
    have hbelow : ∀ m : ℕ, current = toString m → w < m := by
      intro m hm
      obtain rfl := toString_nat_injective (hcurrent.symm.trans hm)
      exact hlt
    intro v hv
    rcases List.mem_cons.mp hv with rfl | hv
    · exact ⟨hw, hbelow⟩
    · obtain ⟨hmem, hv⟩ := ih hrest v hv
      exact ⟨hmem, fun m hm => (hv w rfl).trans (hbelow m hm)⟩

/-- The versions that are visited go down. -/
theorem Visits.pairwise {published : List ℕ} {current : String} {visited : List ℕ}
    (h : Visits published current visited) : visited.Pairwise (· > ·) := by
  induction visited generalizing current with
  | nil => exact List.Pairwise.nil
  | cons w visited ih =>
    refine List.Pairwise.cons ?_ (ih h.2)
    intro v hv
    exact (h.2.mem_and_lt v hv).2 w rfl

theorem Visits.length_le {published : List ℕ} {current : String} {visited : List ℕ}
    (h : Visits published current visited) : visited.length ≤ published.length := by
  have hnodup : visited.Nodup := h.pairwise.imp fun hgt => ne_of_gt hgt
  exact (List.subperm_of_subset hnodup fun v hv => (h.mem_and_lt v hv).1).length_le

section

variable {py : Python} {target : String × String} {published : List ℕ}
  {targets : AliasTargets} {current : String} {request : RollbackRequest}

/-- One step moves the alias to the version before, with the answer that says so. -/
theorem rollbackStep_moves {v : ℕ} (hrequest : request.Finds py target published)
    (htarget : targets target = some current) (hv : Precedes published current v) :
    rollbackStep py targets request =
      (Function.update targets target (some (toString v)),
        .ok (rolledBack target current (toString v))) := by
  obtain ⟨hread, listing, hpages, hlists⟩ := hrequest
  have hmoves : Prog.ComesTo (serveLambda request.pages) targets (rollBack py target) _ _ :=
    (comesTo_rollBack htarget hpages hlists).1 v hv
  have hrun := comesTo_handleLambdaRollback hread hmoves
  exact Prod.ext hrun.2 hrun.1

/-- Where there is none, it leaves the alias and answers an error. -/
theorem rollbackStep_stays (hrequest : request.Finds py target published)
    (htarget : targets target = some current) (hnone : ∀ v, ¬ Precedes published current v) :
    ∃ result, IsError result ∧ rollbackStep py targets request = (targets, result) := by
  obtain ⟨hread, listing, hpages, hlists⟩ := hrequest
  obtain ⟨result, herror, hstays⟩ : ∃ result, IsError result ∧
      Prog.ComesTo (serveLambda request.pages) targets (rollBack py target) result targets :=
    (comesTo_rollBack htarget hpages hlists).2 hnone
  have hrun := comesTo_handleLambdaRollback hread hstays
  exact ⟨result, herror, Prod.ext hrun.2 hrun.1⟩

/-- **Repeated rollbacks.** The alias goes down version by version; once there is none below it stays
    and every further answer is an error. -/
theorem rollbacks_visit {requests : List RollbackRequest}
    (hrequests : ∀ request ∈ requests, request.Finds py target published)
    (htarget : targets target = some current) :
    ∃ visited failed, Visits published current visited ∧
      (trace (rollbackStep py) targets requests).map (·.response) =
        visitAnswers target current visited ++ failed ∧
      (∀ result ∈ failed, IsError result) ∧
      (failed ≠ [] → ∀ v, ¬ Precedes published (lastVisited current visited) v) ∧
      final (rollbackStep py) targets requests =
        Function.update targets target (some (lastVisited current visited)) := by
  induction requests generalizing targets current with
  | nil =>
    refine ⟨[], [], trivial, rfl, List.forall_mem_nil _, fun h => absurd rfl h, ?_⟩
    rw [final_nil]
    exact (Function.update_eq_self_iff.mpr htarget.symm).symm
  | cons request requests ih =>
    rw [List.forall_mem_cons] at hrequests
    by_cases hprecedes : ∃ v, Precedes published current v
    · obtain ⟨v, hv⟩ := hprecedes
      have hstep := rollbackStep_moves hrequests.1 htarget hv
      have hmoved : Function.update targets target (some (toString v)) target =
          some (toString v) := Function.update_self ..
      obtain ⟨visited, failed, hvisits, hanswers, herrors, hend, hfinal⟩ := ih hrequests.2 hmoved
      refine ⟨v :: visited, failed, ⟨hv, hvisits⟩, ?_, herrors, hend, ?_⟩
      · rw [trace_cons, List.map_cons, hstep, hanswers]
        rfl
      · rw [final_cons, hstep, hfinal, Function.update_idem]
        rfl
    · have hnone : ∀ v, ¬ Precedes published current v := not_exists.mp hprecedes
      obtain ⟨result, herror, hstep⟩ := rollbackStep_stays hrequests.1 htarget hnone
      obtain ⟨visited, failed, hvisits, hanswers, herrors, -, hfinal⟩ := ih hrequests.2 htarget
      cases visited with
      | cons v visited => exact absurd hvisits.1 (hnone v)
      | nil =>
        refine ⟨[], result :: failed, trivial, ?_, ?_, fun _ => hnone, ?_⟩
        · rw [trace_cons, List.map_cons, hstep, hanswers]
          rfl
        · exact List.forall_mem_cons.mpr ⟨herror, herrors⟩
        · rw [final_cons, hstep, hfinal]

end

/-- A rollback points the alias at the greatest published version below its own, or answers an error
    and leaves it; rollbacks after each other visit versions that go down, and end with the error. -/
theorem lambda_rollback (py : Python) (target : String × String) (published : List ℕ) :
    (∀ (request : RollbackRequest) (targets : AliasTargets),
      rollbackTarget py request.event request.caller = .ok target →
        (∀ listing current, targets target = some current → request.pages target.1 = .ok listing →
          Lists listing published →
            (∀ v, Precedes published current v → rollbackStep py targets request =
              (Function.update targets target (some (toString v)),
                .ok (rolledBack target current (toString v)))) ∧
            ((∀ v, ¬ Precedes published current v) →
              ∃ result, IsError result ∧ rollbackStep py targets request = (targets, result))) ∧
        ((targets target = none ∨ ∃ fault, request.pages target.1 = .error fault) →
          ∃ result, IsError result ∧ rollbackStep py targets request = (targets, result))) ∧
    (∀ (request : RollbackRequest) (targets : AliasTargets) (exc : Exc),
      rollbackTarget py request.event request.caller = .error exc →
        rollbackStep py targets request = (targets, .error exc)) ∧
    ∀ (requests : List RollbackRequest) (targets : AliasTargets) (current : String),
      (∀ request ∈ requests, request.Finds py target published) → targets target = some current →
        ∃ visited failed, visited.Pairwise (· > ·) ∧
          (∀ v ∈ visited, v ∈ published ∧ ∀ n : ℕ, current = toString n → v < n) ∧
          (trace (rollbackStep py) targets requests).map (·.response) =
            visitAnswers target current visited ++ failed ∧
          (∀ result ∈ failed, IsError result) ∧
          (published.length < requests.length → failed ≠ []) ∧
          final (rollbackStep py) targets requests =
            Function.update targets target (some (lastVisited current visited)) := by
  refine ⟨?_, ?_, ?_⟩
  · intro request targets hread
    constructor
    · intro listing current htarget hpages hlists
      have hrequest : request.Finds py target published := ⟨hread, listing, hpages, hlists⟩
      exact ⟨fun v hv => rollbackStep_moves hrequest htarget hv,
        fun hnone => rollbackStep_stays hrequest htarget hnone⟩
    · intro hunlisted
      obtain ⟨result, herror, hstays⟩ : ∃ result, IsError result ∧
          Prog.ComesTo (serveLambda request.pages) targets (rollBack py target) result targets :=
        comesTo_rollBack_unlisted hunlisted
      have hrun := comesTo_handleLambdaRollback hread hstays
      exact ⟨result, herror, Prod.ext hrun.2 hrun.1⟩
  · intro request targets exc hread
    have hrun : Prog.ComesTo (serveLambda request.pages) targets
        (handleLambdaRollback py request.event request.caller) _ targets :=
      comesTo_handleLambdaRollback_refused hread
    exact Prod.ext hrun.2 hrun.1
  · intro requests targets current hrequests htarget
    obtain ⟨visited, failed, hvisits, hanswers, herrors, -, hfinal⟩ :=
      rollbacks_visit hrequests htarget
    refine ⟨visited, failed, hvisits.pairwise, hvisits.mem_and_lt, hanswers, herrors, ?_, hfinal⟩
    -- Each visit goes down, so there are no more visits than published versions.
    rintro hlong rfl
    have hlength := congrArg List.length hanswers
    rw [List.length_map, length_trace, List.append_nil, length_visitAnswers] at hlength
    have hbound := hvisits.length_le
    omega

/-- A library that reads one text, a body that names the function `bridge`. -/
def rollbackPython : Python :=
  KnownTexts.python { json := [("body", .dict [("functionSuffix", .str "bridge")])] }

/-- A page that lists these versions, and says nothing else. -/
def pageOf (listed : List Listed) : Val :=
  .dict [("Versions", .list (listed.map fun version => .dict [("Version", .str version.text)]))]

theorem isPage_pageOf (listed : List Listed) : IsPage (pageOf listed) listed := by
  refine ⟨_, _, rfl, rfl, ?_⟩
  rw [List.forall₂_map_left_iff, List.forall₂_same]
  intro version _
  exact ⟨_, rfl, rfl⟩

/-- The alias is on 10, and the versions are listed on two pages. -/
theorem lambda_rollback_two_pages :
    rollbackStep rollbackPython (fun _ => some "10") ⟨[("body", .str "body")], platformAdmin,
        fun _ => .ok [pageOf [.latest, .published 10], pageOf [.published 9, .published 9]]⟩ =
      (Function.update (fun _ => some "10") ("platform-bridge-dev", "live") (some "9"),
        .ok (rolledBack ("platform-bridge-dev", "live") "10" "9")) := by
  have hlists : Lists [pageOf [.latest, .published 10], pageOf [.published 9, .published 9]]
      [9, 10] := by
    refine ⟨[[.latest, .published 10], [.published 9, .published 9]], ?_, ?_⟩
    · exact .cons (isPage_pageOf _) (.cons (isPage_pageOf _) .nil)
    · intro n
      simp only [List.flatten_cons, List.flatten_nil, List.append_nil, List.cons_append,
        List.nil_append, Listed.number?, List.filterMap_cons, List.filterMap_nil, List.mem_cons,
        List.not_mem_nil, or_false]
      omega
  have hprecedes : Precedes [9, 10] "10" 9 := by
    refine ⟨10, by decide, rfl, ⟨by decide, by decide⟩, ?_⟩
    rintro m ⟨hm, hlt⟩
    omega
  exact (((lambda_rollback rollbackPython ("platform-bridge-dev", "live") [9, 10]).1
    ⟨[("body", .str "body")], platformAdmin, _⟩ _ rfl).1 _ "10" rfl rfl hlists).1 9 hprecedes

end A5cCell.TenantApi
