import A5cCell.Bridge.Listing

/-!
# The listing, the detail and the resolution of an agent

The listing shows the newest promoted row that carries a name, wherever it is in the table, with a
tier that is no tier read as basic. An invocation takes the newest promoted row on the first page of
the agent's partition that can be decoded, and a tier or a status that is not spelled as its value is
not decoded. The two agree where these two rows are there together and show one version
(`agrees_iff`).
-/

namespace A5cCell.Bridge.Discovery

open Py (Val Items Dict)
open DataAccess Newest

/-- The agent is listed, with its latest version. -/
def Listed (summaries : List AgentSummary) (name version : String) : Prop :=
  ∃ summary ∈ summaries, summary.agentName = name ∧ summary.latestVersion = version

/-- An invocation resolved to the version, and the caller's tier suffices. -/
def Invokes (viewer : Viewer) (resolved : Option AgentVersion) (version : String) : Prop :=
  ∃ agent, resolved = some agent ∧ agent.version = version ∧
    agent.tierMinimum.order ≤ viewer.tenantContext.tier.order

variable (dynamo : Dynamo) (unicode : Unicode) (viewer : Viewer) (tables : Tables) (table name : String)

/-- The listing and the resolution answer, and agree on the agent; and the detail reports the version
    that is listed. -/
def Agrees (pages : Nat) : Prop :=
  ∃ summaries resolved,
    (Prog.run dynamo.serve tables (listAgents unicode viewer table pages)).outcome = .ok summaries ∧
    (Prog.run dynamo.serve tables (resolveAgentRecord unicode table name)).outcome = .ok resolved ∧
    (∀ version, Listed summaries name version ↔ Invokes viewer resolved version) ∧
    ∀ version, Listed summaries name version → ∃ detail versions,
      (Prog.run dynamo.serve tables (getAgentDetail unicode viewer table name)).outcome =
        .ok (some (detail, versions)) ∧ detail.latestVersion = version

/-! ## The rows -/

def versionText (item : Items) : String := textOr item "version" ""

/-- The minimum tier of a row that can be decoded. -/
def decodedTierMinimum (item : Items) : TenantTier :=
  (TenantTier.ofValue? (textOr item "tier_minimum" "basic")).getD .basic

/-- The row the listing shows of the agent: the newest that carries its name, spelled as it is. -/
structure ShownRow (row : Items) : Prop where
  newest : newestNamed unicode (dynamo.scanned tables table) name = some row
  spelled : textOr row "agent_name" "" = name
  shows : Shows viewer row

/-- The row an invocation takes: the newest of the first page that can be decoded. -/
structure InvokedRow (row : Items) : Prop where
  newest : newest? (sortKey unicode) ((dynamo.firstPage tables table (agentPk name)).filter
    fun item => promotable item && decodable item) = some row
  tier : (decodedTierMinimum row).order ≤ viewer.tenantContext.tier.order

/-- The row the detail shows: the newest promoted one of the first page. -/
structure DetailRow (row : Items) : Prop where
  newest : newest? (sortKey unicode)
    ((dynamo.firstPage tables table (agentPk name)).filter promotable) = some row
  dumpable : dumpable (row.get "estimated_duration_seconds") = true

/-- What the rows have to say for the three to agree. -/
structure Consistent : Prop where
  lists : Lists unicode viewer (dynamo.scanned tables table)
  readable : Readable unicode (dynamo.firstPage tables table (agentPk name))
  shown : ∀ row, ShownRow dynamo unicode viewer tables table name row → ∃ invoked,
    InvokedRow dynamo unicode viewer tables table name invoked ∧ versionText invoked = versionText row
  invoked : ∀ row, InvokedRow dynamo unicode viewer tables table name row → ∃ shown,
    ShownRow dynamo unicode viewer tables table name shown ∧ versionText shown = versionText row
  detailed : ∀ row, ShownRow dynamo unicode viewer tables table name row → ∃ detail,
    DetailRow dynamo unicode tables table name detail ∧ versionText detail = versionText row

variable {dynamo unicode viewer tables table name}

/-- A name as the routes read one. -/
def IsName (name : String) : Prop := (Val.str name).strOrNone = some name

/-- A row that spells its name as it is carries that name. -/
theorem carries_of_spelled {item : Items} {other : String} (hname : IsName name)
    (hcarries : optionalText item "agent_name" = some other)
    (hspelled : textOr item "agent_name" "" = name) : other = name := by
  unfold optionalText Items.get at hcarries
  unfold textOr Items.get at hspelled
  cases hlookup : item.lookup "agent_name" with
  | none =>
    rw [hlookup] at hcarries
    cases hcarries
  | some v =>
    rw [hlookup, Option.getD_some] at hcarries hspelled
    have hne : v ≠ .none := by
      rintro rfl
      cases hcarries
    have hstr : v.strOrNone = (Val.str name).strOrNone := by
      rw [Val.strOrNone_eq hne, Val.strOrNone_eq (by simp), hspelled, Val.toStr_str]
    rw [hstr, hname] at hcarries
    exact (Option.some.inj hcarries).symm

/-- The agent is listed with the version of the row the listing shows. -/
theorem listed_iff (hname : IsName name) {summaries : List AgentSummary}
    (hsummaries : ∀ summary, summary ∈ summaries ↔ ∃ other row,
      newestNamed unicode (dynamo.scanned tables table) other = some row ∧ Shows viewer row ∧
        agentSummaryFromItem row = summary) (version : String) :
    Listed summaries name version ↔
      ∃ row, ShownRow dynamo unicode viewer tables table name row ∧ versionText row = version := by
  constructor
  · rintro ⟨summary, hsummary, hagent, hversion⟩
    obtain ⟨other, row, hnewest, hshows, rfl⟩ := (hsummaries summary).mp hsummary
    have hmem := mem_of_newest? hnewest
    rw [List.mem_filter, named, Bool.and_eq_true, decide_eq_true_iff] at hmem
    obtain rfl := carries_of_spelled hname hmem.2.2 hagent
    exact ⟨row, ⟨hnewest, hagent, hshows⟩, hversion⟩
  · rintro ⟨row, hrow, hversion⟩
    refine ⟨agentSummaryFromItem row, ?_, hrow.spelled, hversion⟩
    exact (hsummaries _).mpr ⟨name, row, hrow.newest, hrow.shows, rfl⟩

/-- An invocation resolves to the version of the row it takes. -/
theorem invokes_iff (version : String) :
    Invokes viewer ((newest? (sortKey unicode) ((dynamo.firstPage tables table
        (agentPk name)).filter fun item => promotable item && decodable item)).bind
      fun item => (agentRecordFromItem item).toOption) version ↔
      ∃ row, InvokedRow dynamo unicode viewer tables table name row ∧ versionText row = version := by
  have hdecode : ∀ row agent, (agentRecordFromItem row).toOption = some agent →
      agent.version = versionText row ∧ agent.tierMinimum = decodedTierMinimum row := by
    intro row agent hagent
    obtain ⟨-, tier, mode, status, transport, htier, -, -, -, rfl⟩ := agentRecordFromItem_eq_ok.mp (toOption_eq_some.mp hagent)
    refine ⟨rfl, ?_⟩
    rw [decodedTierMinimum, htier]
    rfl
  constructor
  · rintro ⟨agent, hagent, hversion, htier⟩
    obtain ⟨row, hnewest, hrow⟩ := Option.bind_eq_some_iff.mp hagent
    obtain ⟨hsame, hminimum⟩ := hdecode row agent hrow
    exact ⟨row, ⟨hnewest, hminimum ▸ htier⟩, hsame.symm.trans hversion⟩
  · rintro ⟨row, hrow, hversion⟩
    have hmem := mem_of_newest? hrow.newest
    rw [List.mem_filter, Bool.and_eq_true] at hmem
    obtain ⟨agent, hagent⟩ := Option.isSome_iff_exists.mp hmem.2.2
    obtain ⟨hsame, hminimum⟩ := hdecode row agent hagent
    refine ⟨agent, ?_, hsame.trans hversion, hminimum ▸ hrow.tier⟩
    rw [hrow.newest]
    exact hagent

/-- The detail reports the version of the row it shows. -/
theorem detail_iff (hpolicy : viewer.capabilityPolicy = none)
    (hreadable : Readable unicode (dynamo.firstPage tables table (agentPk name))) (version : String) :
    (∃ detail versions, detailFrom unicode viewer (dynamo.firstPage tables table (agentPk name)) =
        .ok (some (detail, versions)) ∧ detail.latestVersion = version) ↔
      ∃ row, DetailRow dynamo unicode tables table name row ∧ versionText row = version := by
  have hhead : (descending (sortKey unicode)
        ((dynamo.firstPage tables table (agentPk name)).filter promotable)).head? =
      newest? (sortKey unicode)
        ((dynamo.firstPage tables table (agentPk name)).filter promotable) := head?_descending _
  unfold detailFrom
  rw [promotedNewestFirst_ok hreadable]
  simp only [bind, Except.bind]
  cases hsorted : descending (sortKey unicode)
      ((dynamo.firstPage tables table (agentPk name)).filter promotable) with
  | nil =>
    rw [hsorted] at hhead
    constructor
    · rintro ⟨detail, versions, h, -⟩
      cases h
    · rintro ⟨row, hrow, -⟩
      cases hhead.trans hrow.newest
  | cons latest older =>
    rw [hsorted, List.head?_cons] at hhead
    simp only [withAgUiPolicy_none hpolicy]
    constructor
    · rintro ⟨detail, versions, h, hversion⟩
      split at h
      · rename_i hdumpable
        cases h
        exact ⟨latest, ⟨hhead.symm, hdumpable⟩, hversion⟩
      · cases h
    · rintro ⟨row, hrow, hversion⟩
      cases hhead.trans hrow.newest
      exact ⟨_, _, if_pos hrow.dumpable, hversion⟩

/-- **Discovery agrees with invocation** exactly where the rows are consistent: every status of the
    table is known and every version that is compared can be read; and the row the listing shows and
    the row an invocation takes are there together, with one version. -/
theorem agrees_iff (hname : IsName name) (hpolicy : viewer.capabilityPolicy = none)
    (hkeyed : tables.Keyed) {pages : Nat} (hpages : (dynamo.scanned tables table).length < pages) :
    Agrees dynamo unicode viewer tables table name pages ↔
      Consistent dynamo unicode viewer tables table name := by
  unfold Agrees
  rw [outcome_listAgents unicode viewer hkeyed hpages, outcome_resolveAgentRecord,
    outcome_getAgentDetail]
  constructor
  · rintro ⟨summaries, resolved, hlisting, hresolution, hagree, hdetail⟩
    have hlists := lists_of_listFrom hpolicy hlisting
    have hreadable := readable_of_resolveFrom hresolution
    obtain ⟨summaries', hlisting', hsummaries⟩ := listFrom_ok hpolicy hlists
    cases hlisting.symm.trans hlisting'
    cases hresolution.symm.trans (resolveFrom_ok hreadable)
    simp only [listed_iff hname hsummaries, invokes_iff, detail_iff hpolicy hreadable] at hagree hdetail
    exact {
      lists := hlists
      readable := hreadable
      shown := fun row hrow => (hagree _).mp ⟨row, hrow, rfl⟩
      invoked := fun row hrow => (hagree _).mpr ⟨row, hrow, rfl⟩
      detailed := fun row hrow => hdetail _ ⟨row, hrow, rfl⟩ }
  · intro h
    obtain ⟨summaries, hlisting, hsummaries⟩ := listFrom_ok hpolicy h.lists
    refine ⟨summaries, _, hlisting, resolveFrom_ok h.readable, fun version => ?_, fun version => ?_⟩
    · rw [listed_iff hname hsummaries, invokes_iff]
      constructor
      · rintro ⟨row, hrow, rfl⟩
        exact h.shown row hrow
      · rintro ⟨row, hrow, rfl⟩
        exact h.invoked row hrow
    · rw [listed_iff hname hsummaries, detail_iff hpolicy h.readable]
      rintro ⟨row, hrow, rfl⟩
      exact h.detailed row hrow

/-! ## Rows that agree, and rows that do not -/

/-- A version of the agent `helper`, with a status. -/
def helperRow (status : String) : Items :=
  [("agent_name", .str "helper"), ("version", .str "1.0"), ("status", .str status),
    ("tier_minimum", .str "basic"), ("runtime_arn", .str "arn"), ("deployed_at", .str "2026-01-01")]

def helperKey : RowKey := ⟨"platform-agents", "AGENT#helper", "VERSION#1.0"⟩

/-- The version, alone in the table. -/
def helperTables (status : String) : Tables := Dict.empty.set helperKey (helperRow status)

def basicViewer : Viewer where
  lower := Py.lower
  sha256 := fun _ => []
  tenantContext := ⟨"acme", "app", .basic, "sub"⟩
  capabilityPolicy := none

theorem helperTables_keyed (status : String) : (helperTables status).Keyed := by
  intro key attributes hget
  have hmem := (helperTables status).mem_iff.mpr hget
  have hrow : key = helperKey ∧ attributes = helperRow status := by
    rw [helperTables, Dict.set] at hmem
    simpa [Py.setItem, Dict.empty] using hmem
  rw [hrow.1]
  decide

/-- A promoted version that is all spelled as it is meant agrees. -/
theorem promoted_helper_agrees : Agrees Dynamo.rowByRow asciiDigits basicViewer
    (helperTables "promoted") "platform-agents" "helper" 2 := by
  have hname : IsName "helper" := rfl
  refine (agrees_iff hname rfl (helperTables_keyed _) (by decide)).mpr ?_
  have hnewest (other : String) (row : Items) (h : newestNamed asciiDigits
      (Dynamo.rowByRow.scanned (helperTables "promoted") "platform-agents") other = some row) :
      row = helperKey.row (helperRow "promoted") := by
    have hmem := mem_of_newest? h
    exact List.mem_singleton.mp (List.mem_filter.mp hmem).1
  have hrecognised : Recognised (helperKey.row (helperRow "promoted")) := ⟨true, rfl⟩
  have hshown : ShownRow Dynamo.rowByRow asciiDigits basicViewer (helperTables "promoted")
      "platform-agents" "helper" (helperKey.row (helperRow "promoted")) := ⟨rfl, rfl, le_refl 0⟩
  have hinvoked : InvokedRow Dynamo.rowByRow asciiDigits basicViewer (helperTables "promoted")
      "platform-agents" "helper" (helperKey.row (helperRow "promoted")) := ⟨rfl, le_refl 0⟩
  exact {
    lists := {
      listable := {
        recognised := fun item hitem => List.mem_singleton.mp hitem ▸ hrecognised
        comparable := fun other hlength => by
          have hone : ((Dynamo.rowByRow.scanned (helperTables "promoted") "platform-agents").filter
            (named other)).length ≤ 1 := List.length_filter_le _ _
          omega }
      dumpable := fun other row hrow _ => by
        rw [hnewest other row hrow]
        rfl }
    readable := {
      recognised := fun item hitem => List.mem_singleton.mp hitem ▸ hrecognised
      comparable := fun item hitem _ => List.mem_singleton.mp hitem ▸ ⟨_, rfl⟩ }
    shown := fun row hrow => ⟨_, hinvoked, by rw [hnewest _ row hrow.newest]⟩
    invoked := fun row hrow => ⟨_, hshown, by
      have hmem := mem_of_newest? hrow.newest
      rw [List.mem_singleton.mp (List.mem_filter.mp hmem).1]⟩
    detailed := fun row hrow => ⟨_, ⟨rfl, rfl⟩, by rw [hnewest _ row hrow.newest]⟩ }

/-- A version whose status is spelled as it once was is listed, and is not found when it is
    invoked. -/
theorem released_helper_disagrees : ¬ Agrees Dynamo.rowByRow asciiDigits basicViewer
    (helperTables "released") "platform-agents" "helper" 2 := by
  rintro ⟨summaries, resolved, hlisting, hresolution, hagree, -⟩
  have hlisted : (Prog.run Dynamo.rowByRow.serve (helperTables "released")
      (listAgents asciiDigits basicViewer "platform-agents" 2)).outcome =
        .ok [agentSummaryFromItem (helperKey.row (helperRow "released"))] := rfl
  have hnotFound : (Prog.run Dynamo.rowByRow.serve (helperTables "released")
      (resolveAgentRecord asciiDigits "platform-agents" "helper")).outcome = .ok none := rfl
  cases hlisting.symm.trans hlisted
  cases hresolution.symm.trans hnotFound
  obtain ⟨agent, hagent, -⟩ := (hagree "1.0").mp ⟨_, List.mem_singleton_self _, rfl, rfl⟩
  cases hagent

end A5cCell.Bridge.Discovery
