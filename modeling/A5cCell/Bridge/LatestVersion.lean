import A5cCell.Bridge.Agreement
import A5cCell.Lib.Except
import A5cCell.Lib.SemVer

/-!
# The latest version

An invocation that names no version should take the promoted version of the highest precedence. It takes
the first of the first page of the agent's partition in the order of `_agent_record_sort_key`, which
reads the digits of each part of a version between its dots as one number: the releases are in order of
precedence (`ahead_of_releases`), and a pre-release or build metadata adds its digits to the patch
number. A promoted version whose mode is not supported, or whose row cannot be decoded, it passes over.
-/

namespace A5cCell.Bridge.Discovery

open Py (Val Items Dict)
open DataAccess Newest

/-! ## The versions of an agent -/

/-- The status of a row is that of a promoted version. -/
def hasPromotedStatus (item : Items) : Bool :=
  match isInvokableAgentStatus (optionalText item "status") with
  | .ok promoted => promoted
  | .error _ => false

/-- The promoted versions of an agent. -/
def agentVersions (tables : Tables) (table name : String) : List Items :=
  ((Dynamo.partition tables table (agentPk name)).map fun row => row.1.row row.2).filter
    hasPromotedStatus

/-- A version that can be taken: a promoted row of a supported mode, which can be decoded. -/
def invokable (item : Items) : Bool := promotable item && decodable item

/-- Those of the promoted versions that the first page has and that can be taken. -/
def shownVersions (dynamo : Dynamo) (tables : Tables) (table name : String) : List Items :=
  (dynamo.firstPage tables table (agentPk name)).filter invokable

/-- The version of a row is a semantic version. -/
def IsSemVer (item : Items) : Prop := ∃ v, SemVer.parse? (versionText item) = some v

/-- The version of a row has precedence over that of another. -/
def Outranks (item other : Items) : Prop :=
  ∃ v w, SemVer.parse? (versionText item) = some v ∧ SemVer.parse? (versionText other) = some w ∧
    w.precedence < v.precedence

section

variable (dynamo : Dynamo) (unicode : Unicode) (tables : Tables) (table name : String)

/-- The agent resolves to a promoted version of the highest precedence, and to none where there is
    none. -/
def ResolvesHighest : Prop :=
  ∃ resolved,
    (Prog.run dynamo.serve tables (resolveAgentRecord unicode table name)).outcome = .ok resolved ∧
    (resolved = none → agentVersions tables table name = []) ∧
    ∀ agent, resolved = some agent → ∃ row ∈ agentVersions tables table name,
      agentRecordFromItem row = .ok agent ∧
        ∀ other ∈ agentVersions tables table name, ¬ Outranks other row

/-- The first page can be read, has a promoted version of the highest precedence that can be taken, and
    has no version ahead of all that outrank it. -/
structure HighestShown : Prop where
  readable : Readable unicode (dynamo.firstPage tables table (agentPk name))
  shown : agentVersions tables table name ≠ [] → ∃ row ∈ shownVersions dynamo tables table name,
    ∀ other ∈ agentVersions tables table name, ¬ Outranks other row
  ordered : ∀ lower ∈ shownVersions dynamo tables table name,
    ∀ higher ∈ shownVersions dynamo tables table name, Outranks higher lower →
      ∃ row ∈ shownVersions dynamo tables table name, Outranks row lower ∧
        Ahead (sortKey unicode) (shownVersions dynamo tables table name) row lower

end

variable {dynamo : Dynamo} {unicode : Unicode} {tables : Tables} {table name : String}

theorem hasPromotedStatus_of_invokable {item : Items} (h : invokable item = true) :
    hasPromotedStatus item = true := by
  unfold invokable promotable isPromoted at h
  unfold hasPromotedStatus
  cases hstatus : isInvokableAgentStatus (optionalText item "status") with
  | ok promoted =>
    rw [hstatus] at h
    simp only [bind, Except.bind, pure, Except.pure, Bool.and_eq_true] at h
    exact h.1.1
  | error exc =>
    rw [hstatus] at h
    cases h

theorem shownVersions_sublist :
    List.Sublist (shownVersions dynamo tables table name) (agentVersions tables table name) := by
  have hshown : shownVersions dynamo tables table name =
      ((dynamo.firstPage tables table (agentPk name)).filter hasPromotedStatus).filter invokable := by
    rw [List.filter_filter, shownVersions]
    apply List.filter_congr
    intro item _
    cases hinvokable : invokable item with
    | true => rw [hasPromotedStatus_of_invokable hinvokable, Bool.and_self]
    | false => rw [Bool.false_and]
  rw [hshown]
  refine List.filter_sublist.trans ?_
  unfold agentVersions Dynamo.firstPage Table.page
  exact ((List.take_sublist _ _).map _).filter _

theorem nodup_agentVersions : (agentVersions tables table name).Nodup := by
  refine List.Nodup.filter _ (List.Nodup.map_on ?_ Dynamo.nodup_partition)
  intro row hrow row' hrow' heq
  obtain ⟨hget, htable, hpk⟩ := Dynamo.mem_partition.mp hrow
  obtain ⟨hget', htable', hpk'⟩ := Dynamo.mem_partition.mp hrow'
  obtain ⟨⟨table, pk, sk⟩, attributes⟩ := row
  obtain ⟨⟨table', pk', sk'⟩, attributes'⟩ := row'
  simp only [RowKey.row, RowKey.item, List.cons_append, List.nil_append, List.cons.injEq,
    Prod.mk.injEq, Val.str.injEq, true_and] at heq htable htable' hpk hpk'
  rw [htable, htable', heq.1, heq.2.1, heq.2.2]

theorem not_outranks_trans {a b c : Items} (hb : IsSemVer b) (hab : ¬ Outranks a b)
    (hac : Outranks a c) : Outranks b c := by
  obtain ⟨v, w, hv, hw, hlt⟩ := hac
  obtain ⟨u, hu⟩ := hb
  have hle : v.precedence ≤ u.precedence := by
    by_contra hnot
    exact hab ⟨v, u, hv, hu, not_le.mp hnot⟩
  exact ⟨u, w, hu, hw, hlt.trans_le hle⟩

theorem outranks_irrefl (item : Items) : ¬ Outranks item item := by
  intro h
  obtain ⟨v, w, hv, hw, hlt⟩ := h
  cases hv.symm.trans hw
  exact lt_irrefl _ hlt

/-- A record has the version of its row. -/
theorem version_of_record {item : Items} {agent : AgentVersion}
    (h : agentRecordFromItem item = .ok agent) : agent.version = versionText item := by
  obtain ⟨-, tierMinimum, invocationMode, status, transport, -, -, -, -, rfl⟩ :=
    agentRecordFromItem_eq_ok.mp h
  rfl

theorem outranks_congr {item row row' : Items} {agent : AgentVersion}
    (h : agentRecordFromItem row = .ok agent) (h' : agentRecordFromItem row' = .ok agent) :
    Outranks item row ↔ Outranks item row' := by
  unfold Outranks
  rw [← version_of_record h, ← version_of_record h']

/-- The record of a version that is shown. -/
theorem exists_record {item : Items} (h : item ∈ shownVersions dynamo tables table name) :
    ∃ agent, agentRecordFromItem item = .ok agent := by
  have hinvokable := (List.mem_filter.mp h).2
  unfold invokable decodable at hinvokable
  rw [Bool.and_eq_true] at hinvokable
  obtain ⟨agent, hagent⟩ := Option.isSome_iff_exists.mp hinvokable.2
  exact ⟨agent, toOption_eq_some.mp hagent⟩

/-- What a readable first page resolves to. -/
theorem resolveFrom_firstPage
    (h : Readable unicode (dynamo.firstPage tables table (agentPk name))) :
    resolveFrom unicode (dynamo.firstPage tables table (agentPk name)) = .ok
      ((newest? (sortKey unicode) (shownVersions dynamo tables table name)).bind
        fun item => (agentRecordFromItem item).toOption) :=
  resolveFrom_ok h

/-- **The agent resolves to a promoted version of the highest precedence** exactly where the first page
    can be read, has such a version that can be taken, and has it ahead of the others. -/
theorem resolvesHighest_iff (hsemver : ∀ item ∈ agentVersions tables table name, IsSemVer item) :
    ResolvesHighest dynamo unicode tables table name ↔
      HighestShown dynamo unicode tables table name := by
  unfold ResolvesHighest
  rw [outcome_resolveAgentRecord]
  have hall : ∀ item ∈ shownVersions dynamo tables table name,
      item ∈ agentVersions tables table name := fun item hitem => shownVersions_sublist.subset hitem
  constructor
  · intro h
    obtain ⟨resolved, hresolved, hnone, hhighest⟩ := h
    have hreadable := readable_of_resolveFrom hresolved
    rw [resolveFrom_firstPage hreadable] at hresolved
    cases hnewest : newest? (sortKey unicode) (shownVersions dynamo tables table name) with
    | none =>
      rw [hnewest] at hresolved
      cases hresolved
      have hempty := newest?_eq_none.mp hnewest
      refine ⟨hreadable, fun hsome => absurd (hnone rfl) hsome, ?_⟩
      rw [hempty]
      intro lower hlower
      cases hlower
    | some picked =>
      have hpicked := mem_of_newest? hnewest
      obtain ⟨agent, hagent⟩ := exists_record hpicked
      rw [hnewest, Option.bind_some, hagent] at hresolved
      cases hresolved
      obtain ⟨row, -, hrow, hhighest⟩ := hhighest agent rfl
      have hbest : ∀ other ∈ agentVersions tables table name, ¬ Outranks other picked := by
        intro other hother
        rw [outranks_congr hagent hrow]
        exact hhighest other hother
      refine ⟨hreadable, fun _ => ⟨picked, hpicked, hbest⟩, ?_⟩
      intro lower hlower higher hhigher houtranks
      have hpickedOutranks : Outranks picked lower :=
        not_outranks_trans (hsemver picked (hall _ hpicked)) (hbest higher (hall _ hhigher)) houtranks
      refine ⟨picked, hpicked, hpickedOutranks, ahead_of_newest? hnewest hlower ?_⟩
      intro heq
      exact outranks_irrefl picked (heq ▸ hpickedOutranks)
  · intro h
    rw [resolveFrom_firstPage h.readable]
    refine ⟨_, rfl, ?_, ?_⟩
    · intro hnone
      cases hnewest : newest? (sortKey unicode) (shownVersions dynamo tables table name) with
      | none =>
        by_contra hsome
        obtain ⟨row, hrow, -⟩ := h.shown hsome
        rw [newest?_eq_none.mp hnewest] at hrow
        cases hrow
      | some picked =>
        obtain ⟨agent, hagent⟩ := exists_record (mem_of_newest? hnewest)
        rw [hnewest, Option.bind_some, hagent] at hnone
        cases hnone
    · intro agent hagent
      obtain ⟨picked, hnewest, hdecoded⟩ := Option.bind_eq_some_iff.mp hagent
      have hpicked := mem_of_newest? hnewest
      refine ⟨picked, hall _ hpicked, toOption_eq_some.mp hdecoded, ?_⟩
      intro other hother houtranks
      -- a version of the highest precedence is shown, so one that outranks the picked is ahead of it
      obtain ⟨highest, hhighest, hbest⟩ := h.shown (List.ne_nil_of_mem hother)
      have hhigher : Outranks highest picked :=
        not_outranks_trans (hsemver highest (hall _ hhighest)) (hbest other hother) houtranks
      obtain ⟨row, hrow, hrowOutranks, hahead⟩ := h.ordered picked hpicked highest hhighest hhigher
      refine not_ahead_newest? (nodup_agentVersions.sublist shownVersions_sublist) hnewest hrow ?_ hahead
      intro heq
      exact outranks_irrefl picked (heq ▸ hrowOutranks)

/-! ## The sort key -/

/-- The digits of a part of a version are read as a number. -/
def ReadsDigits (unicode : Unicode) (part : String) : Prop :=
  String.ofList (part.toList.filter unicode.isDigit) = "" ∨
    ∃ n, unicode.intOfDigits (String.ofList (part.toList.filter unicode.isDigit)) = some n

theorem semverPart_ok_iff {part : String} :
    (∃ n, semverPart unicode part = .ok n) ↔ ReadsDigits unicode part := by
  unfold semverPart ReadsDigits
  simp only
  split
  · rename_i hempty
    exact ⟨fun _ => .inl hempty, fun _ => ⟨0, rfl⟩⟩
  · rename_i hempty
    cases hint : unicode.intOfDigits (String.ofList (part.toList.filter unicode.isDigit)) with
    | none => simp [hempty]
    | some n => simp

/-- The sort key of a version does not raise exactly where the digits of each part are read. -/
theorem semverSortKey_ok_iff {version : String} :
    (∃ key, semverSortKey unicode version = .ok key) ↔
      ∀ part ∈ Py.splitOn '.' version, ReadsDigits unicode part := by
  unfold semverSortKey
  rw [Except.exists_mapM_ok_iff]
  simp only [semverPart_ok_iff]

/-! ## Releases -/

/-- The digits of ASCII are digits, and are read as numbers. -/
structure ReadsAscii (unicode : Unicode) : Prop where
  isDigit : ∀ c : Char, c.isDigit = true → unicode.isDigit c = true
  intOfDigits : ∀ digits : List Char, digits ≠ [] → digits.all Char.isDigit = true →
    unicode.intOfDigits (String.ofList digits) = some (SemVer.numberOf digits)

/-- A release without build metadata. -/
def IsPlainRelease (item : Items) : Prop :=
  ∃ v, SemVer.parse? (versionText item) = some v ∧ v.IsRelease ∧ v.build = []

theorem semverPart_number (hascii : ReadsAscii unicode) {digits : List Char} {n : Nat}
    (h : SemVer.number? digits = some n) : semverPart unicode (String.ofList digits) = .ok n := by
  unfold SemVer.number? at h
  split at h
  · rename_i hdigits
    obtain ⟨hne, hall, -⟩ := hdigits
    cases h
    have hfilter : digits.filter unicode.isDigit = digits := by
      rw [List.filter_eq_self]
      intro c hc
      exact hascii.isDigit c (List.all_eq_true.mp hall c hc)
    unfold semverPart
    rw [String.toList_ofList, hfilter]
    simp only
    rw [if_neg (by simpa using hne), hascii.intOfDigits digits hne hall]
  · cases h

theorem semverSortKey_release (hascii : ReadsAscii unicode) {text : String} {v : SemVer.Version}
    (h : SemVer.parse? text = some v) (hrelease : v.IsRelease) (hbuild : v.build = []) :
    semverSortKey unicode text = .ok [v.major, v.minor, v.patch] := by
  obtain ⟨major, minor, patch, hsplit, hmajor, hminor, hpatch⟩ :=
    SemVer.parts_of_release h hrelease hbuild
  unfold semverSortKey Py.splitOn
  rw [hsplit]
  simp only [List.map_cons, List.map_nil, List.mapM_cons, List.mapM_nil, semverPart_number hascii hmajor,
    semverPart_number hascii hminor, semverPart_number hascii hpatch]
  rfl

/-- **Releases are ahead of what they outrank.** -/
theorem ahead_of_releases (hascii : ReadsAscii unicode) {higher lower : Items} (items : List Items)
    (hhigher : IsPlainRelease higher) (hlower : IsPlainRelease lower)
    (houtranks : Outranks higher lower) : Ahead (sortKey unicode) items higher lower := by
  obtain ⟨v, hv, hvrelease, hvbuild⟩ := hhigher
  obtain ⟨w, hw, hwrelease, hwbuild⟩ := hlower
  obtain ⟨v', w', hv', hw', hlt⟩ := houtranks
  cases hv.symm.trans hv'
  cases hw.symm.trans hw'
  have hkey {item : Items} {u : SemVer.Version} (hu : SemVer.parse? (versionText item) = some u)
      (hrelease : u.IsRelease) (hbuild : u.build = []) : sortKey unicode item =
        toLex ([u.major, u.minor, u.patch], textOr item "deployed_at" "") := by
    have hsemver : semverSortKey unicode (textOr item "version" "") =
        .ok [u.major, u.minor, u.patch] := semverSortKey_release hascii hu hrelease hbuild
    unfold sortKey agentRecordSortKey
    rw [hsemver]
    rfl
  refine .inl ?_
  rw [hkey hv hvrelease hvbuild, hkey hw hwrelease hwbuild, Prod.Lex.toLex_lt_toLex]
  exact .inl ((SemVer.precedence_lt_iff hwrelease hvrelease).mp hlt)

/-- Where the first page shows plain releases only, its order is right. -/
theorem HighestShown.of_releases (hascii : ReadsAscii unicode)
    (hreleases : ∀ item ∈ shownVersions dynamo tables table name, IsPlainRelease item)
    (hreadable : Readable unicode (dynamo.firstPage tables table (agentPk name)))
    (hshown : agentVersions tables table name ≠ [] →
      ∃ row ∈ shownVersions dynamo tables table name,
        ∀ other ∈ agentVersions tables table name, ¬ Outranks other row) :
    HighestShown dynamo unicode tables table name := by
  refine ⟨hreadable, hshown, ?_⟩
  intro lower hlower higher hhigher houtranks
  exact ⟨higher, hhigher, houtranks, ahead_of_releases hascii _ (hreleases higher hhigher)
    (hreleases lower hlower) houtranks⟩

variable (dynamo unicode) in
/-- **The latest version** is that of the highest precedence exactly where the first page shows it
    first; and a version has a sort key exactly where the digits of its parts are read. -/
theorem latest_version_iff
    (hsemver : ∀ item ∈ agentVersions tables table name, IsSemVer item) (version : String) :
    (ResolvesHighest dynamo unicode tables table name ↔
      HighestShown dynamo unicode tables table name) ∧
    ((∃ key, semverSortKey unicode version = .ok key) ↔
      ∀ part ∈ Py.splitOn '.' version, ReadsDigits unicode part) :=
  ⟨resolvesHighest_iff hsemver, semverSortKey_ok_iff⟩

/-! ## Versions of the sample agent -/

/-- A DynamoDB whose pages have room for everything. -/
def wholePages : Dynamo := { Dynamo.rowByRow with fit := List.length }

/-- The row of a promoted version of `helper`. -/
def versionRow (version : String) : Items :=
  [("agent_name", .str "helper"), ("version", .str version), ("status", .str "promoted"),
    ("tier_minimum", .str "basic"), ("runtime_arn", .str "arn"), ("deployed_at", .str "2026-01-01")]

def releaseKey (version : String) : RowKey := ⟨"platform-agents", "AGENT#helper", "VERSION#" ++ version⟩

/-- Two promoted versions of `helper`. -/
def twoVersions (first second : String) : Tables :=
  (Dict.empty.set (releaseKey first) (versionRow first)).set (releaseKey second) (versionRow second)

theorem agentVersions_releases :
    agentVersions (twoVersions "1.2.0" "1.10.0") "platform-agents" "helper" =
      [(releaseKey "1.10.0").row (versionRow "1.10.0"),
        (releaseKey "1.2.0").row (versionRow "1.2.0")] := rfl

theorem agentVersions_candidate :
    agentVersions (twoVersions "1.0.0" "1.0.0-rc.1") "platform-agents" "helper" =
      [(releaseKey "1.0.0").row (versionRow "1.0.0"),
        (releaseKey "1.0.0-rc.1").row (versionRow "1.0.0-rc.1")] := rfl

theorem latest_version_releases :
    ResolvesHighest wholePages asciiDigits (twoVersions "1.2.0" "1.10.0") "platform-agents" "helper" ∧
      ∃ key, semverSortKey asciiDigits "1.10.0" = .ok key := by
  have hsemver : ∀ item ∈ agentVersions (twoVersions "1.2.0" "1.10.0") "platform-agents" "helper",
      IsSemVer item := by
    rw [agentVersions_releases]
    simp only [List.forall_mem_cons, List.not_mem_nil, false_implies, implies_true, and_true]
    exact ⟨⟨_, rfl⟩, ⟨_, rfl⟩⟩
  have hparse : SemVer.parse? "1.2.0" = some ⟨1, 2, 0, [], []⟩ ∧
      SemVer.parse? "1.10.0" = some ⟨1, 10, 0, [], []⟩ := ⟨rfl, rfl⟩
  have hhigher : Outranks ((releaseKey "1.10.0").row (versionRow "1.10.0"))
      ((releaseKey "1.2.0").row (versionRow "1.2.0")) := by
    refine ⟨_, _, hparse.2, hparse.1, ?_⟩
    simp [SemVer.Version.precedence, Prod.Lex.toLex_lt_toLex]
  have hlower : ¬ Outranks ((releaseKey "1.2.0").row (versionRow "1.2.0"))
      ((releaseKey "1.10.0").row (versionRow "1.10.0")) := by
    intro h
    obtain ⟨v, w, hv, hw, hlt⟩ := h
    cases hparse.1.symm.trans hv
    cases hparse.2.symm.trans hw
    simp [SemVer.Version.precedence, Prod.Lex.toLex_lt_toLex] at hlt
  have hshown : shownVersions wholePages (twoVersions "1.2.0" "1.10.0") "platform-agents" "helper" =
      [(releaseKey "1.10.0").row (versionRow "1.10.0"),
        (releaseKey "1.2.0").row (versionRow "1.2.0")] := rfl
  have hpage : wholePages.firstPage (twoVersions "1.2.0" "1.10.0") "platform-agents"
      (agentPk "helper") = [(releaseKey "1.10.0").row (versionRow "1.10.0"),
        (releaseKey "1.2.0").row (versionRow "1.2.0")] := rfl
  obtain ⟨hresolves, hkey⟩ := latest_version_iff wholePages asciiDigits hsemver "1.10.0"
  refine ⟨hresolves.mpr ⟨⟨?_, ?_⟩, ?_, ?_⟩, hkey.mpr ?_⟩
  · rw [hpage]
    simp only [List.forall_mem_cons, List.not_mem_nil, false_implies, implies_true, and_true]
    exact ⟨⟨true, rfl⟩, ⟨true, rfl⟩⟩
  · rw [hpage]
    simp only [List.forall_mem_cons, List.not_mem_nil, false_implies, implies_true, and_true]
    exact ⟨fun _ => ⟨_, rfl⟩, fun _ => ⟨_, rfl⟩⟩
  · intro _
    rw [hshown, agentVersions_releases]
    refine ⟨_, List.mem_cons_self, ?_⟩
    simp only [List.forall_mem_cons, List.not_mem_nil, false_implies, implies_true, and_true]
    exact ⟨outranks_irrefl _, hlower⟩
  · rw [hshown]
    simp only [List.forall_mem_cons, List.not_mem_nil, false_implies, implies_true, and_true]
    refine ⟨⟨fun h => absurd h (outranks_irrefl _), fun h => absurd h hlower⟩,
      ⟨fun _ => ⟨_, List.mem_cons_self, hhigher, .inl ?_⟩, fun h => absurd h (outranks_irrefl _)⟩⟩
    decide
  · have hparts : Py.splitOn '.' "1.10.0" = ["1", "10", "0"] := by decide
    rw [hparts]
    simp only [List.forall_mem_cons, List.not_mem_nil, false_implies, implies_true, and_true]
    exact ⟨.inr ⟨1, rfl⟩, .inr ⟨10, rfl⟩, .inr ⟨0, rfl⟩⟩

/-- A candidate is taken for later than its release. -/
theorem candidate_resolves : ¬ ∀ dynamo unicode tables table name,
    (∀ item ∈ agentVersions tables table name, IsSemVer item) →
      ResolvesHighest dynamo unicode tables table name := by
  intro h
  have hsemver : ∀ item ∈ agentVersions (twoVersions "1.0.0" "1.0.0-rc.1") "platform-agents" "helper",
      IsSemVer item := by
    rw [agentVersions_candidate]
    simp only [List.forall_mem_cons, List.not_mem_nil, false_implies, implies_true, and_true]
    exact ⟨⟨_, rfl⟩, ⟨_, rfl⟩⟩
  obtain ⟨resolved, hresolved, -, hhighest⟩ := h wholePages asciiDigits _ _ _ hsemver
  obtain ⟨agent, hagent, hversion⟩ : ∃ agent, (Prog.run wholePages.serve
      (twoVersions "1.0.0" "1.0.0-rc.1")
        (resolveAgentRecord asciiDigits "platform-agents" "helper")).outcome = .ok (some agent) ∧
      agent.version = "1.0.0-rc.1" := ⟨_, rfl, rfl⟩
  cases hresolved.symm.trans hagent
  obtain ⟨row, -, hrow, hbest⟩ := hhighest agent rfl
  rw [version_of_record hrow] at hversion
  refine hbest ((releaseKey "1.0.0").row (versionRow "1.0.0")) ?_ ?_
  · rw [agentVersions_candidate]
    exact List.mem_cons_self
  · have hrelease : SemVer.parse? (versionText ((releaseKey "1.0.0").row (versionRow "1.0.0"))) =
        some ⟨1, 0, 0, [], []⟩ := rfl
    have hcandidate : SemVer.parse? "1.0.0-rc.1" =
        some ⟨1, 0, 0, [toLex (.inr "rc"), toLex (.inl 1)], []⟩ := rfl
    refine ⟨_, _, hrelease, hversion ▸ hcandidate, ?_⟩
    simp [SemVer.Version.precedence, Prod.Lex.toLex_lt_toLex]

end A5cCell.Bridge.Discovery
