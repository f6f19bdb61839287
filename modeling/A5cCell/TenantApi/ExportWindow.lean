import A5cCell.DataAccess.Audit
import A5cCell.DataAccess.Pages
import A5cCell.TenantApi.AuditExports
import A5cCell.TenantApi.World

/-!
# What an audit export has

The export compares the texts of times. `iso_utc` leaves the fraction of a second out and ends in
`Z`, which comes after what a stored time has in its place; so the texts of one second are all below
the text of a bound in that second, and the export has the records of the seconds after that of the
start, up to the whole second of the end.
-/

namespace A5cCell.TenantApi

open Py (Val Items Dict)
open Civil (DateTime)
open DataAccess

/-- `iso_utc`. -/
def isoUtc (ts : DateTime) : String := Py.replace ts.wholeSecond.isoformat "+00:00" "Z"

variable {startAt endAt now : DateTime} {record : InvocationRecord}

theorem toList_isoUtc : (isoUtc now).toList = now.isoSeconds ++ ['Z'] := by
  have hsplit : now.wholeSecond.isoformat = String.ofList now.isoSeconds ++ "+00:00" := by
    apply String.toList_inj.mp
    simp only [DateTime.isoformat, String.toList_append, String.toList_ofList,
      DateTime.wholeSecond_isoSeconds, DateTime.wholeSecond_isoFraction, List.nil_append]
  have hplus : '+' ∉ (String.ofList now.isoSeconds).toList := by
    rw [String.toList_ofList]
    intro hmem
    exact DateTime.forall_isoSeconds (P := (· ≠ '+')) (by decide) (by decide) _ hmem rfl
  have hzone : Py.replace "+00:00" "+00:00" "Z" = "Z" := by decide
  rw [isoUtc, hsplit, Py.replace_append (show "+00:00".toList = '+' :: _ from rfl) hplus, hzone,
    String.toList_append, String.toList_ofList]
  rfl

/-- What follows the second in a stored text comes before the end of a bound. -/
theorem fraction_lt_zulu (now : DateTime) (suffix rest : List Char) :
    now.isoFraction ++ ("+00:00".toList ++ suffix) < 'Z' :: rest := by
  unfold DateTime.isoFraction
  split_ifs
  · exact List.cons_lt_cons_iff.mpr (.inl (by decide))
  · exact List.cons_lt_cons_iff.mpr (.inl (by decide))

/-- So texts compare by their seconds, and a bound comes last in its own. -/
theorem stamp_lt_bound_iff {suffix rest : List Char} :
    now.isoSeconds ++ (now.isoFraction ++ ("+00:00".toList ++ suffix)) <
      startAt.isoSeconds ++ 'Z' :: rest ↔ now.seconds ≤ startAt.seconds := by
  rw [DateTime.isoSeconds_append_lt_iff]
  simp only [fraction_lt_zulu, and_true]
  omega

theorem bound_lt_stamp_iff {suffix rest : List Char} :
    endAt.isoSeconds ++ 'Z' :: rest <
      now.isoSeconds ++ (now.isoFraction ++ ("+00:00".toList ++ suffix)) ↔
        endAt.seconds < now.seconds := by
  have hnot := lt_asymm (fraction_lt_zulu now suffix rest)
  rw [DateTime.isoSeconds_append_lt_iff]
  simp only [hnot, and_false, or_false]

/-! ## The two comparisons -/

theorem toList_isoformat :
    now.isoformat.toList = now.isoSeconds ++ (now.isoFraction ++ ("+00:00".toList ++ [])) := by
  rw [DateTime.isoformat, String.toList_ofList, List.append_nil]

/-- The condition on the sort keys. -/
theorem keyBetween_iff :
    keyBetween "SK" (some ("INV#" ++ isoUtc startAt)) (some ("INV#" ++ isoUtc endAt ++ "~"))
        (record.writtenAt now).item = true ↔
      startAt.seconds < now.seconds ∧ now.seconds ≤ endAt.seconds := by
  have hlow : ("INV#" ++ isoUtc startAt).toList =
      "INV#".toList ++ (startAt.isoSeconds ++ ['Z']) := by
    rw [String.toList_append, toList_isoUtc]
  have hhigh : ("INV#" ++ isoUtc endAt ++ "~").toList =
      "INV#".toList ++ (endAt.isoSeconds ++ ['Z', '~']) := by
    rw [String.toList_append, String.toList_append, toList_isoUtc, List.append_assoc,
      List.append_assoc]
    rfl
  rw [keyBetween, InvocationRecord.textOf_item_sk]
  simp only [Option.any_some, Option.all_some, Bool.and_eq_true, decide_eq_true_eq]
  rw [← not_lt, ← not_lt, String.lt_iff_toList_lt, String.lt_iff_toList_lt, hlow, hhigh,
    InvocationRecord.toList_writtenAt_sk, inv_lt_inv_iff, inv_lt_inv_iff, stamp_lt_bound_iff,
    bound_lt_stamp_iff, not_le, not_lt]

/-- `_invocation_timestamp`, of a stored record. -/
theorem invocationTimestamp_item :
    invocationTimestamp (record.writtenAt now).item = some now.isoformat := by
  have hspace : ∀ c ∈ now.isoformat.toList, Py.isSpace c = false := by
    have hoffset : "+00:00".toList.all (!Py.isSpace ·) = true := rfl
    rw [toList_isoformat]
    simp only [List.forall_mem_append]
    refine ⟨?_, ?_, by simpa using List.all_eq_true.mp hoffset, by simp⟩
    · exact DateTime.forall_isoSeconds (by decide) (by decide)
    · exact DateTime.forall_isoFraction (by decide) (by decide)
  have hne : now.isoformat ≠ "" := by
    intro hempty
    have hlength := congrArg (List.length ∘ String.toList) hempty
    simp [toList_isoformat] at hlength
  have hstamp : ((record.writtenAt now).item.get "timestamp").strOrNone = some now.isoformat := by
    rw [InvocationRecord.item_timestamp]
    show (if Py.strip now.isoformat = "" then none else some (Py.strip now.isoformat)) = _
    rw [Py.strip_eq_self hspace, if_neg hne]
  rw [invocationTimestamp, hstamp]

/-- The filter of the records read. -/
theorem inExport_iff {py : Python} (hstart : py.isoUtc startAt.instant = isoUtc startAt)
    (hend : py.isoUtc endAt.instant = isoUtc endAt) :
    inExport py (some startAt.instant) (some endAt.instant) (record.writtenAt now).item = true ↔
      startAt.seconds < now.seconds ∧ now.seconds ≤ endAt.seconds := by
  rw [inExport, invocationTimestamp_item]
  simp only [Option.any_some, Option.all_some, hstart, hend, Bool.and_eq_true, decide_eq_true_eq]
  rw [← not_lt, ← not_lt, String.lt_iff_toList_lt, String.lt_iff_toList_lt, toList_isoUtc,
    toList_isoUtc, toList_isoformat, stamp_lt_bound_iff, bound_lt_stamp_iff, not_le, not_lt]

/-! ## The pages -/

section

variable {dynamo : Dynamo} {tables : Tables} {py : Python} {tenantId : String}

/-- A request of a client, where DynamoDB is the tables and nothing fails. -/
theorem run_issue {request : Request} {value : request.operation.Answer}
    (hserve : dynamo.serve tables request = (.ok value, tables)) :
    (Prog.run (quiet dynamo).serve (tables, ()) (Api.dynamodb (issue request))).outcome =
        .ok value ∧
      (Prog.run (quiet dynamo).serve (tables, ()) (Api.dynamodb (issue request))).final =
        (tables, ()) := by
  have hcall : (quiet dynamo).serve (tables, ()) (.db request) = (.ok value, (tables, ())) := by
    simp only [World.serve, quiet, hserve]
  simp only [Api.dynamodb, issue, Prog.mapCalls, Prog.run, hcall, and_self]

/-- The loop reads what is left of the rows, a page at a time, and keeps what the filter keeps. -/
theorem run_collectAuditExportPages (dynamo : Dynamo) {s e : Instant} {condition : Items → Bool}
    (hcondition : auditExportSkCondition py (some s) (some e) = some condition)
    (first : List (RowKey × Items)) {rest : List (RowKey × Items)}
    (hkeys : ∀ row ∈ first ++ rest, row.1.sk ≠ "")
    (hrows : Dynamo.selected tables (invocationsTableName py) tenantId condition = first ++ rest)
    {pages : Nat} (hpages : rest.length < pages) :
    (Prog.run (quiet dynamo).serve (tables, ()) (collectAuditExportPages py (.tenantScoped tenantId)
      (some s) (some e) pages (Dynamo.resume first))).outcome =
        .ok ((rest.map fun row => row.1.row row.2).filter (inExport py (some s) (some e))) := by
  induction pages generalizing first rest with
  | zero => exact absurd hpages (Nat.not_lt_zero _)
  | succ pages ih =>
    have hserve := Dynamo.serve_tenantQueryRequest dynamo (show 1 ≤ 200 by decide)
      (fun row hrow => hkeys row (List.mem_append_left rest hrow)) hrows
    obtain ⟨houtcome, hfinal⟩ := run_issue hserve
    rw [collectAuditExportPages, hcondition]
    refine (Prog.run_bind_ok houtcome).1.trans ?_
    rw [hfinal]
    have hpos : 1 ≤ Dynamo.limitedSize dynamo (some 200) rest :=
      le_min (by show 1 ≤ 200; omega) (le_max_left _ _)
    generalize Dynamo.limitedSize dynamo (some 200) rest = size at hpos ⊢
    cases hlast : (rest.take size).getLast? with
    | none =>
      -- an empty page is the last, and there is nothing left
      have hrest : rest = [] := by
        rcases List.take_eq_nil_iff.mp (List.getLast?_eq_none_iff.mp hlast) with hzero | hrest
        · omega
        · exact hrest
      subst hrest
      simp only [List.take_nil, List.map_nil, List.filter_nil, Option.map_none, ite_self]
      rfl
    | some last =>
      have hne : rest ≠ [] := by
        rintro rfl
        simp at hlast
      have hlength : 0 < rest.length := List.length_pos_iff.mpr hne
      by_cases hstop : size < rest.length ∨ some 200 = some size
      · have hresume : Dynamo.resume (first ++ rest.take size) = .dict last.1.item := by
          simp only [Dynamo.resume, List.getLast?_append, hlast, Option.some_or]
        have hsplit : first ++ rest = (first ++ rest.take size) ++ rest.drop size := by
          rw [List.append_assoc, List.take_append_drop]
        have hmore := ih (first ++ rest.take size) (hsplit ▸ hkeys)
          (hrows.trans hsplit) (by rw [List.length_drop]; omega)
        rw [hresume] at hmore
        simp only [if_pos hstop, Option.map_some]
        refine (Prog.run_bind_ok hmore).1.trans ?_
        show Except.ok _ = _
        rw [← List.filter_append, ← List.map_append, List.take_append_drop]
      · have hall : rest.take size = rest := List.take_of_length_le (by omega)
        simp only [if_neg hstop, hall]
        rfl

end

/-! ## The records between two times -/

/-- The invocation records of a tenant, in order. -/
def storedInvocations (py : Python) (tables : Tables) (tenantId : String) : List (RowKey × Items) :=
  Dynamo.partition tables (invocationsTableName py) (tenantPk tenantId)

/-- From the start to the end, both included. -/
def IsBetween (startAt endAt now : DateTime) : Prop :=
  startAt.instant ≤ now.instant ∧ now.instant ≤ endAt.instant

instance (startAt endAt now : DateTime) : Decidable (IsBetween startAt endAt now) :=
  inferInstanceAs (Decidable (_ ∧ _))

/-- The records a tenant's export from the start to the end is to have; `written` says when the
    record of a key was written. -/
def recordsBetween (py : Python) (tables : Tables) (tenantId : String) (written : RowKey → DateTime)
    (startAt endAt : DateTime) : List Items :=
  ((storedInvocations py tables tenantId).filter fun row =>
    IsBetween startAt endAt (written row.1)).map fun row => row.1.row row.2

/-- The time is not one of those between that fall in the second of the start, and not one after the
    end that falls in the second of the end (unless that is the start's too). -/
def ClearOfBounds (startAt endAt now : DateTime) : Prop :=
  ¬ (now.seconds = startAt.seconds ∧ IsBetween startAt endAt now) ∧
  ¬ (now.seconds = endAt.seconds ∧ startAt.seconds < now.seconds ∧ endAt.instant < now.instant)

theorem clearOfBounds_iff :
    ClearOfBounds startAt endAt now ↔
      (startAt.seconds < now.seconds ∧ now.seconds ≤ endAt.seconds ↔
        IsBetween startAt endAt now) := by
  simp only [ClearOfBounds, IsBetween, DateTime.instant_le_iff, DateTime.instant_lt_iff]
  omega

/-- A row says what its key and its attributes are. -/
theorem row_inj {a b : RowKey × Items} (htable : a.1.table = b.1.table)
    (h : a.1.row a.2 = b.1.row b.2) : a = b := by
  obtain ⟨⟨table, pk, sk⟩, attributes⟩ := a
  obtain ⟨⟨table', pk', sk'⟩, attributes'⟩ := b
  cases htable
  simp only [RowKey.row, RowKey.item, List.cons_append, List.nil_append, List.cons.injEq,
    Prod.mk.injEq, Val.str.injEq, true_and] at h
  obtain ⟨rfl, rfl, rfl⟩ := h
  rfl

section

variable {dynamo : Dynamo} {tables : Tables} {py : Python} {tenantId : String}
  {caller : CallerIdentity} {written : RowKey → DateTime}

/-- What is exported: the records of the seconds after that of the start, up to that of the end. -/
theorem run_collectAuditExportRecords (dynamo : Dynamo)
    (hscope : requireTenantScopeAllowed tenantId caller = .ok ())
    (hstart : py.isoUtc startAt.instant = isoUtc startAt)
    (hend : py.isoUtc endAt.instant = isoUtc endAt)
    (hstored : ∀ row ∈ storedInvocations py tables tenantId, ∃ record : InvocationRecord,
      row.1.row row.2 = (record.writtenAt (written row.1)).item)
    (hpages : (storedInvocations py tables tenantId).length < py.pages) :
    ∃ rows : List (RowKey × Items), rows.Nodup ∧
      (∀ row, row ∈ rows ↔ row ∈ storedInvocations py tables tenantId ∧
        startAt.seconds < (written row.1).seconds ∧ (written row.1).seconds ≤ endAt.seconds) ∧
      (Prog.run (quiet dynamo).serve (tables, ()) (collectAuditExportRecords py tenantId caller
        (some startAt.instant) (some endAt.instant))).outcome =
          .ok (rows.map fun row => row.1.row row.2) := by
  obtain ⟨condition, hcondition⟩ : ∃ condition, condition = keyBetween "SK"
    (some ("INV#" ++ isoUtc startAt)) (some ("INV#" ++ isoUtc endAt ++ "~")) := ⟨_, rfl⟩
  have hskCondition : auditExportSkCondition py (some startAt.instant) (some endAt.instant) =
      some condition := by
    simp only [auditExportSkCondition, Option.map_some, hstart, hend, hcondition]
  obtain ⟨rows, hrows⟩ : ∃ rows, rows = Dynamo.selected tables (invocationsTableName py) tenantId
    condition := ⟨_, rfl⟩
  have hnodup : rows.Nodup := hrows ▸ Dynamo.nodup_selected
  have hmem : ∀ row, row ∈ rows ↔ row ∈ storedInvocations py tables tenantId ∧
      startAt.seconds < (written row.1).seconds ∧ (written row.1).seconds ≤ endAt.seconds := by
    intro row
    rw [hrows, Dynamo.mem_selected, hcondition]
    apply and_congr_right
    intro hrow
    obtain ⟨record, hitem⟩ := hstored row hrow
    rw [hitem, keyBetween_iff]
  have hkeys : ∀ row ∈ rows, row.1.sk ≠ "" := by
    intro row hrow hempty
    obtain ⟨record, hitem⟩ := hstored row ((hmem row).mp hrow).1
    have hsk : some row.1.sk = some (record.writtenAt (written row.1)).sk :=
      congrArg (textOf · "SK") hitem
    rw [hempty] at hsk
    have hlist := congrArg String.toList (Option.some.inj hsk)
    rw [InvocationRecord.toList_writtenAt_sk] at hlist
    exact absurd hlist (by simp)
  -- The second filter, on the timestamps, keeps every row the key condition selected.
  have hkept : (rows.map fun row => row.1.row row.2).filter
      (inExport py (some startAt.instant) (some endAt.instant)) =
        rows.map fun row => row.1.row row.2 := by
    rw [List.filter_eq_self]
    intro item hitem
    obtain ⟨row, hrow, rfl⟩ := List.mem_map.mp hitem
    obtain ⟨hrow, hseconds⟩ := (hmem row).mp hrow
    obtain ⟨record, hitem⟩ := hstored row hrow
    rw [hitem]
    exact (inExport_iff hstart hend).mpr hseconds
  have hlength : rows.length < py.pages := by
    have hsubset : rows ⊆ storedInvocations py tables tenantId :=
      fun row hrow => ((hmem row).mp hrow).1
    exact (List.subperm_of_subset hnodup hsubset).length_le.trans_lt hpages
  refine ⟨rows, hnodup, hmem, ?_⟩
  have hrun := run_collectAuditExportPages dynamo hskCondition [] hkeys hrows.symm hlength
  rw [hkept] at hrun
  rw [collectAuditExportRecords, dbForTenant, hscope]
  exact hrun

/-- An export that is exact cuts no stored record off. -/
theorem clear_of_export (hscope : requireTenantScopeAllowed tenantId caller = .ok ())
    (hstart : py.isoUtc startAt.instant = isoUtc startAt)
    (hend : py.isoUtc endAt.instant = isoUtc endAt)
    (hstored : ∀ row ∈ storedInvocations py tables tenantId, ∃ record : InvocationRecord,
      row.1.row row.2 = (record.writtenAt (written row.1)).item)
    (hpages : (storedInvocations py tables tenantId).length < py.pages) {records : List Items}
    (houtcome : (Prog.run (quiet dynamo).serve (tables, ()) (collectAuditExportRecords py tenantId
      caller (some startAt.instant) (some endAt.instant))).outcome = .ok records)
    (hperm : records.Perm (recordsBetween py tables tenantId written startAt endAt)) :
    ∀ row ∈ storedInvocations py tables tenantId, ClearOfBounds startAt endAt (written row.1) := by
  obtain ⟨rows, hnodup, hmem, hrows⟩ :=
    run_collectAuditExportRecords dynamo hscope hstart hend hstored hpages
  cases houtcome.symm.trans hrows
  intro row hrow
  have htable (other : RowKey × Items) (hother : other ∈ storedInvocations py tables tenantId) :
      other.1.table = row.1.table :=
    (Dynamo.mem_partition.mp hother).2.1.trans (Dynamo.mem_partition.mp hrow).2.1.symm
  have hexported := hperm.mem_iff (a := row.1.row row.2)
  simp only [recordsBetween, List.mem_map, List.mem_filter, decide_eq_true_eq] at hexported
  rw [clearOfBounds_iff]
  constructor
  · intro hseconds
    obtain ⟨other, ⟨hother, hbetween⟩, hitem⟩ :=
      hexported.mp ⟨row, (hmem row).mpr ⟨hrow, hseconds⟩, rfl⟩
    exact row_inj (htable other hother) hitem ▸ hbetween
  · intro hbetween
    obtain ⟨other, hother, hitem⟩ := hexported.mpr ⟨row, ⟨hrow, hbetween⟩, rfl⟩
    obtain ⟨hother, hseconds⟩ := (hmem other).mp hother
    exact row_inj (htable other hother) hitem ▸ hseconds

/-- **The export has each record from the start to the end once, and no other**, exactly when none of
    the stored records falls in the part of a second that a bound cuts off. -/
theorem export_exact_iff (hscope : requireTenantScopeAllowed tenantId caller = .ok ())
    (hstart : py.isoUtc startAt.instant = isoUtc startAt)
    (hend : py.isoUtc endAt.instant = isoUtc endAt)
    (hstored : ∀ row ∈ storedInvocations py tables tenantId, ∃ record : InvocationRecord,
      row.1.row row.2 = (record.writtenAt (written row.1)).item)
    (hpages : (storedInvocations py tables tenantId).length < py.pages) :
    (∃ records, (Prog.run (quiet dynamo).serve (tables, ()) (collectAuditExportRecords py tenantId
        caller (some startAt.instant) (some endAt.instant))).outcome = .ok records ∧
      records.Perm (recordsBetween py tables tenantId written startAt endAt)) ↔
    ∀ row ∈ storedInvocations py tables tenantId, ClearOfBounds startAt endAt (written row.1) := by
  constructor
  · rintro ⟨records, houtcome, hperm⟩
    exact clear_of_export hscope hstart hend hstored hpages houtcome hperm
  · intro hclear
    obtain ⟨rows, hnodup, hmem, houtcome⟩ :=
      run_collectAuditExportRecords dynamo hscope hstart hend hstored hpages
    refine ⟨_, houtcome, List.Perm.map _ ?_⟩
    have hpartition : (storedInvocations py tables tenantId).Nodup := Dynamo.nodup_partition
    rw [List.perm_ext_iff_of_nodup hnodup (hpartition.filter _)]
    intro row
    rw [hmem, List.mem_filter, decide_eq_true_eq]
    exact and_congr_right fun hrow => clearOfBounds_iff.mp (hclear row hrow)

end

/-! ## One record -/

/-- A library that writes two times as `iso_utc` does, and has time for three pages. -/
def exportPython (startAt endAt : DateTime) : Python :=
  { ({} : KnownTexts).python with
    isoUtc := fun t => if t = startAt.instant then isoUtc startAt else isoUtc endAt
    pages := 3 }

/-- Where the record of an invocation is. -/
def invocationKey (now : DateTime) : RowKey :=
  ⟨"platform-invocations", "TENANT#acme", (echoInvocation.writtenAt now).sk⟩

/-- Tables with that record. -/
def oneInvocation (now : DateTime) : Tables :=
  Dict.empty.set (invocationKey now) ((echoInvocation.writtenAt now).item.drop 2)

theorem mem_storedInvocations_one {py : Python} {row : RowKey × Items}
    (hrow : row ∈ storedInvocations py (oneInvocation now) "acme") :
    row = (invocationKey now, (echoInvocation.writtenAt now).item.drop 2) := by
  have hget := (Dynamo.mem_partition.mp hrow).1
  rw [oneInvocation, Dict.get?_set] at hget
  split at hget
  · rename_i hkey
    exact Prod.ext hkey (Option.some.inj hget).symm
  · cases hget

/-- A time of the minute after noon of a day. -/
def afterNoon (second : Fin 60) (microsecond : Fin 1000000) : DateTime :=
  ⟨lastDayOfJanuary, 12, 0, second, microsecond, by decide, (0 : Fin 60).isLt, second.isLt,
    microsecond.isLt⟩

/-- Every record was written at one time. -/
def always (now : DateTime) : RowKey → DateTime := fun _ => now

/-- That the export between two times, of tables with the record of one time, is exact. -/
def ExportsExactly (startAt endAt now : DateTime) : Prop :=
  ∃ records, (Prog.run (quiet Dynamo.rowByRow).serve (oneInvocation now, ())
      (collectAuditExportRecords (exportPython startAt endAt) "acme" platformAdmin
        (some startAt.instant) (some endAt.instant))).outcome = .ok records ∧
    records.Perm (recordsBetween (exportPython startAt endAt) (oneInvocation now) "acme"
      (always now) startAt endAt)

theorem exportPython_isoUtc (h : startAt.instant ≠ endAt.instant) :
    (exportPython startAt endAt).isoUtc startAt.instant = isoUtc startAt ∧
      (exportPython startAt endAt).isoUtc endAt.instant = isoUtc endAt :=
  ⟨if_pos rfl, if_neg (Ne.symm h)⟩

theorem stored_oneInvocation {py : Python} :
    ∀ row ∈ storedInvocations py (oneInvocation now) "acme", ∃ record : InvocationRecord,
      row.1.row row.2 = (record.writtenAt (always now row.1)).item := by
  intro row hrow
  rw [mem_storedInvocations_one hrow]
  exact ⟨echoInvocation, rfl⟩

theorem length_oneInvocation {py : Python} :
    (storedInvocations py (oneInvocation now) "acme").length < 3 := by
  have hall : ∀ row ∈ storedInvocations py (oneInvocation now) "acme",
      row ∈ [(invocationKey now, (echoInvocation.writtenAt now).item.drop 2)] :=
    fun row hrow => List.mem_singleton.mpr (mem_storedInvocations_one hrow)
  have hle := (List.subperm_of_subset Dynamo.nodup_partition hall).length_le
  exact hle.trans_lt (by simp)

theorem adminScope : requireTenantScopeAllowed "acme" platformAdmin = .ok () := rfl

/-- A record clear of the bounds is exported. -/
theorem export_exact_iff_noon : ExportsExactly (afterNoon 0 0) (afterNoon 2 0) (afterNoon 1 500000) := by
  have hiso := exportPython_isoUtc
    (show (afterNoon 0 0).instant ≠ (afterNoon 2 0).instant by decide)
  apply (export_exact_iff adminScope hiso.1 hiso.2 stored_oneInvocation length_oneInvocation).mpr
  intro row hrow
  show ClearOfBounds (afterNoon 0 0) (afterNoon 2 0) (afterNoon 1 500000)
  rw [clearOfBounds_iff]
  decide

/-- An exact export has no record that a bound cuts off. -/
theorem clear_of_exportsExactly (hne : startAt.instant ≠ endAt.instant)
    (h : ExportsExactly startAt endAt now) : ClearOfBounds startAt endAt now := by
  obtain ⟨records, houtcome, hperm⟩ := h
  have hiso := exportPython_isoUtc hne
  have hrow : (invocationKey now, (echoInvocation.writtenAt now).item.drop 2) ∈
      storedInvocations (exportPython startAt endAt) (oneInvocation now) "acme" := by
    rw [storedInvocations, Dynamo.mem_partition]
    exact ⟨Dict.get?_set_self _ _ _, rfl, rfl⟩
  exact clear_of_export adminScope hiso.1 hiso.2 stored_oneInvocation length_oneInvocation houtcome
    hperm _ hrow

/-- A record half a second after a start on the second is lost, and one half a second past an end on
    the second is exported. -/
theorem bounds_cut_seconds :
    ¬ ExportsExactly (afterNoon 0 0) (afterNoon 2 0) (afterNoon 0 500000) ∧
      ¬ ExportsExactly (afterNoon 0 0) (afterNoon 2 0) (afterNoon 2 500000) := by
  constructor
  · intro h
    have hclear := clearOfBounds_iff.mp (clear_of_exportsExactly (by decide) h)
    exact absurd hclear (by decide)
  · intro h
    have hclear := clearOfBounds_iff.mp (clear_of_exportsExactly (by decide) h)
    exact absurd hclear (by decide)

end A5cCell.TenantApi
