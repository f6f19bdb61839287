import A5cCell.DataAccess.Audit

/-!
# The window of a billed day

`_process_tenant` of the billing pipeline asks for the invocation records of a day by their sort keys,
between the texts of its first and of its last microsecond. A sort key goes on after its time, so the
key of a record of the last microsecond comes after the bound, and no day has that record.
-/

namespace A5cCell.Billing

open Py (Items)
open Civil (DateTime)
open DataAccess

/-- `date_to_process.replace(hour=0, minute=0, second=0, microsecond=0)`. -/
def startTime (dateToProcess : DateTime) : DateTime :=
  ⟨dateToProcess.date, 0, 0, 0, 0, Nat.succ_pos _, Nat.succ_pos _, Nat.succ_pos _, Nat.succ_pos _⟩

/-- `date_to_process.replace(hour=23, minute=59, second=59, microsecond=999999)`. -/
def endTime (dateToProcess : DateTime) : DateTime :=
  ⟨dateToProcess.date, 23, 59, 59, 999999, by decide, by decide, by decide, by decide⟩

/-- The condition on the sort keys of a day. -/
def dayWindow (dateToProcess : DateTime) : Items → Bool :=
  keyBetween "SK" (some ("INV#" ++ (startTime dateToProcess).isoformat))
    (some ("INV#" ++ (endTime dateToProcess).isoformat))

/-- The last microsecond of a day. -/
def LastMicrosecond (now : DateTime) : Prop :=
  now.hour = 23 ∧ now.minute = 59 ∧ now.second = 59 ∧ now.microsecond = 999999

variable {dateToProcess now : DateTime} {record : InvocationRecord}

theorem lastMicrosecond_iff :
    LastMicrosecond now ↔ now.secondOfDay = 86399 ∧ now.microsecond = 999999 := by
  have hhour := now.hour_lt
  have hminute := now.minute_lt
  have hsecond := now.second_lt
  unfold LastMicrosecond DateTime.secondOfDay
  omega

@[simp] theorem startTime_isoFraction : (startTime dateToProcess).isoFraction = [] := rfl

theorem endTime_seconds :
    (endTime dateToProcess).seconds = dateToProcess.date.ordinal * 86400 + 86399 := by
  have hdate : (endTime dateToProcess).date = dateToProcess.date := rfl
  have hday : (endTime dateToProcess).secondOfDay = 23 * 3600 + 59 * 60 + 59 := rfl
  rw [DateTime.seconds, hdate, hday]

@[simp] theorem endTime_isoFraction :
    (endTime dateToProcess).isoFraction = '.' :: Civil.padded 6 999999 :=
  if_neg (by decide : ¬ 999999 = 0)

/-- No key of a second comes before the text of the whole second. -/
theorem fraction_not_lt (suffix : List Char) :
    ¬ now.isoFraction ++ ("+00:00".toList ++ suffix) < "+00:00".toList := by
  unfold DateTime.isoFraction
  split_ifs
  · rw [List.nil_append]
    nth_rewrite 2 [← List.append_nil "+00:00".toList]
    rw [Civil.append_lt_append_iff rfl]
    simp
  · show ¬ '.' :: _ < '+' :: _
    rw [List.cons_lt_cons_iff]
    exact fun h => h.elim (by decide) fun h => absurd h.1 (by decide)

/-- Only the key of a last microsecond comes after the text of the last microsecond. -/
theorem lastFraction_lt_iff {rest : List Char} :
    '.' :: (Civil.padded 6 999999 ++ "+00:00".toList) <
        now.isoFraction ++ ("+00:00".toList ++ '#' :: rest) ↔ now.microsecond = 999999 := by
  have hlt := now.microsecond_lt
  unfold DateTime.isoFraction
  split_ifs with hzero
  · show '.' :: _ < '+' :: _ ↔ _
    rw [List.cons_lt_cons_iff]
    constructor
    · exact fun h => h.elim (fun h => absurd h (by decide)) fun h => absurd h.1 (by decide)
    · intro h
      omega
  · have hrest : "+00:00".toList < "+00:00".toList ++ '#' :: rest := by
      nth_rewrite 1 [← List.append_nil "+00:00".toList]
      rw [Civil.append_lt_append_iff rfl]
      exact .inr ⟨rfl, List.nil_lt_cons _ _⟩
    rw [List.cons_append, List.cons_lt_cons_iff, Civil.padded_append_lt_iff (by decide) (by omega)]
    simp only [lt_irrefl, false_or, true_and, hrest, and_true]
    omega

theorem start_le_iff :
    "INV#" ++ (startTime dateToProcess).isoformat ≤ (record.writtenAt now).sk ↔
      dateToProcess.date.ordinal ≤ now.date.ordinal := by
  have hday := DateTime.secondOfDay_lt (a := now)
  have hstart : (startTime dateToProcess).seconds = dateToProcess.date.ordinal * 86400 := by
    simp [DateTime.seconds, DateTime.secondOfDay, startTime]
  have htext : ("INV#" ++ (startTime dateToProcess).isoformat).toList =
      "INV#".toList ++ ((startTime dateToProcess).isoSeconds ++ "+00:00".toList) := by
    simp only [DateTime.isoformat, String.toList_append, String.toList_ofList, startTime_isoFraction,
      List.nil_append]
  rw [← not_lt, String.lt_iff_toList_lt, htext, InvocationRecord.toList_writtenAt_sk, inv_lt_inv_iff,
    DateTime.isoSeconds_append_lt_iff, hstart, DateTime.seconds]
  simp only [fraction_not_lt, and_false, or_false]
  omega

theorem le_end_iff :
    (record.writtenAt now).sk ≤ "INV#" ++ (endTime dateToProcess).isoformat ↔
      now.date.ordinal < dateToProcess.date.ordinal ∨
        now.date.ordinal = dateToProcess.date.ordinal ∧ ¬ LastMicrosecond now := by
  obtain ⟨rest, hrest⟩ := record.toList_suffix
  have hday := DateTime.secondOfDay_lt (a := now)
  have htext : ("INV#" ++ (endTime dateToProcess).isoformat).toList = "INV#".toList ++
      ((endTime dateToProcess).isoSeconds ++ '.' :: (Civil.padded 6 999999 ++ "+00:00".toList)) := by
    simp only [DateTime.isoformat, String.toList_append, String.toList_ofList, endTime_isoFraction,
      List.cons_append]
  rw [← not_lt, String.lt_iff_toList_lt, htext, InvocationRecord.toList_writtenAt_sk, inv_lt_inv_iff,
    DateTime.isoSeconds_append_lt_iff, hrest, lastFraction_lt_iff, lastMicrosecond_iff,
    endTime_seconds, DateTime.seconds]
  omega

/-- A window has the records of its day, but for those of the last microsecond. -/
theorem dayWindow_iff :
    dayWindow dateToProcess (record.writtenAt now).item = true ↔
      dateToProcess.date = now.date ∧ ¬ LastMicrosecond now := by
  rw [dayWindow, keyBetween, InvocationRecord.textOf_item_sk]
  simp only [Option.any_some, Option.all_some, Bool.and_eq_true, decide_eq_true_eq, start_le_iff,
    le_end_iff]
  rw [← @Civil.Date.ordinal_inj dateToProcess.date now.date]
  by_cases hlast : LastMicrosecond now
  · simp only [hlast, not_true, and_false, or_false, iff_false]
    omega
  · simp only [hlast, not_false_eq_true, and_true]
    omega

/-- **A record is billed on the day it was written, and on no other**, exactly when it was not written
    in the last microsecond of its day. -/
theorem billed_once_iff (record : InvocationRecord) (now : DateTime) :
    (∀ dateToProcess, dayWindow dateToProcess (record.writtenAt now).item = true ↔
      dateToProcess.date = now.date) ↔ ¬ LastMicrosecond now := by
  simp only [dayWindow_iff]
  constructor
  · intro h
    exact ((h now).mpr rfl).2
  · intro hlast dateToProcess
    exact and_iff_left hlast

/-- The last microsecond of January 2026. -/
def lastOfJanuary : DateTime :=
  ⟨lastDayOfJanuary, 23, 59, 59, 999999,
    by decide, by decide, by decide, by decide⟩

/-- It is billed on no day. -/
theorem lastMicrosecond_unbilled :
    (echoInvocation.writtenAt lastOfJanuary).sk = "INV#2026-01-31T23:59:59.999999+00:00#inv-1#0a" ∧
      ¬ ∃ dateToProcess, dayWindow dateToProcess (echoInvocation.writtenAt lastOfJanuary).item = true := by
  refine ⟨by decide, ?_⟩
  rintro ⟨dateToProcess, hselects⟩
  exact (dayWindow_iff.mp hselects).2 ⟨rfl, rfl, rfl, rfl⟩

end A5cCell.Billing
