import A5cCell.Bridge.RuntimeBindings

/-!
# The tenant's execution role

The bridge calls the runtime under a role it asks STS for. The role is the one the tenant's record
names, or else the one of the parameter store, and it is held against the account id of the record.
A record without an account id has nothing to hold it against, and the role is then asked for as it
stands: `sameAccount_iff` says that this is the only way past the check.
-/

namespace A5cCell.Bridge.RuntimeCalls

open Py (Val Items truthyText)
open DataAccess
open RuntimeBindings (partitionTexts isRuntimeIdChar)

/-! ## The pattern -/

/-- `IAM_ROLE_ARN_PATTERN`, for what `\d` and `\w` hold. -/
def iamRoleArnRegex (digit word : Char → Bool) : Regex :=
  .seq (.text "arn:".toList) <|
  .seq (.alt (.text "aws".toList) (.alt (.text "aws-us-gov".toList) (.text "aws-cn".toList))) <|
  .seq (.text ":iam::".toList) <|
  .seq (.group "account_id" (.span digit 12 (some 12))) <|
  .seq (.text ":role/".toList) <|
  .group "role_name" (.span (isRuntimeIdChar word) 1 none)

/-- The parts of the ARN of an IAM role. -/
structure RoleArn (digit word : Char → Bool) where
  partition : String
  accountId : String
  roleName : String
  partition_mem : partition ∈ partitionTexts
  accountId_digits : ∀ c ∈ accountId.toList, digit c = true
  accountId_length : accountId.toList.length = 12
  roleName_chars : ∀ c ∈ roleName.toList, isRuntimeIdChar word c = true
  roleName_ne : roleName ≠ ""

def RoleArn.text {digit word : Char → Bool} (arn : RoleArn digit word) : String :=
  "arn:" ++ arn.partition ++ ":iam::" ++ arn.accountId ++ ":role/" ++ arn.roleName

variable {digit word : Char → Bool}

/-- What the pattern matches is the ARN of a role, and the groups are its account and its name. -/
theorem RoleArn.exists_of_fullmatch {s : String} {groups : List (String × String)}
    (h : (iamRoleArnRegex digit word).fullmatch s = some groups) :
    ∃ arn : RoleArn digit word, s = arn.text ∧
      groups = [("account_id", arn.accountId), ("role_name", arn.roleName)] := by
  have htakes := Regex.takes_of_fullmatch h
  obtain ⟨_, _, _, _, hs, hgroups, ⟨rfl, rfl⟩, partition, _, _, _, rfl, rfl, hpartition,
    _, _, _, _, rfl, rfl, ⟨rfl, rfl⟩,
    account, _, _, _, rfl, rfl, ⟨_, rfl, rfl, haccount, haccountmin, haccountmax⟩,
    _, name, _, _, rfl, rfl, ⟨rfl, rfl⟩, _, rfl, rfl, hname, hnamemin, -⟩ := htakes
  obtain ⟨rfl, hmem⟩ := RuntimeBindings.RuntimeArn.partition_of_takes hpartition
  refine ⟨⟨String.ofList partition, String.ofList account, String.ofList name, hmem, ?_, ?_, ?_, ?_⟩,
    ?_, ?_⟩
  · simpa using haccount
  · rw [String.toList_ofList]
    exact Nat.le_antisymm (haccountmax 12 rfl) haccountmin
  · simpa using hname
  · intro hempty
    rw [String.ofList_eq_empty_iff.mp hempty] at hnamemin
    exact absurd hnamemin (by simp)
  · apply String.toList_inj.mp
    rw [hs]
    simp [RoleArn.text]
  · simpa using hgroups

/-! ## The role an invocation asks for -/

/-- The account id the tenant's record holds. -/
def recordedAccountId (env : Surroundings) : Option String :=
  (((env.tenantRecord.getD []).get "accountId").or
    ((env.tenantRecord.getD []).get "account_id")).strOrNone

/-- The role the tenant's record names, or else the parameter store. -/
def namedRole (env : Surroundings) : Option String :=
  (((env.tenantRecord.getD []).get "executionRoleArn").or
    ((env.tenantRecord.getD []).get "execution_role_arn")).strOrNone.or (truthyText env.executionRole)

/-- The role STS is asked for. -/
def assumedRole (env : Surroundings) (inv : AgentInvocation) : Option String :=
  match resolveRuntime env inv, resolveExecutionRole env inv with
  | .ok _, .ok roleArn => some roleArn
  | _, _ => none

section

variable {env : Surroundings} {inv : AgentInvocation} {roleArn : String}

theorem assumedRole_eq_some : assumedRole env inv = some roleArn ↔
    (∃ runtime, resolveRuntime env inv = .ok runtime) ∧
      resolveExecutionRole env inv = .ok roleArn := by
  unfold assumedRole
  cases resolveRuntime env inv <;> cases resolveExecutionRole env inv <;> simp

/-- What an invocation does with the answer of STS. -/
theorem invokeRealRuntime_of_assumed (h : assumedRole env inv = some roleArn) :
    ∃ runtimeArn qualifier, ∀ assumeRole,
      invokeRealRuntime { env with assumeRole := assumeRole } inv =
        Handling.ofExcept (assumeRole roleArn) >>= fun credentials =>
          (callRuntime env inv runtimeArn qualifier credentials).tryExcept
            (failedCall env inv env.runtimeRegion) := by
  obtain ⟨⟨runtime, hruntime⟩, hrole⟩ := assumedRole_eq_some.mp h
  refine ⟨runtime.1, runtime.2, fun assumeRole => ?_⟩
  have hruntime' : resolveRuntime { env with assumeRole := assumeRole } inv = .ok runtime := hruntime
  have hrole' : resolveExecutionRole { env with assumeRole := assumeRole } inv = .ok roleArn := hrole
  simp only [invokeRealRuntime, hruntime', hrole']
  rfl

/-- The invocation is answered with an error or raises, whatever STS would answer. -/
def Refuses (env : Surroundings) (inv : AgentInvocation) : Prop :=
  (∃ response : HttpResponse, 400 ≤ response.statusCode ∧ ∀ assumeRole,
    invokeRealRuntime { env with assumeRole := assumeRole } inv = pure response) ∨
  ∃ exc, ∀ assumeRole, invokeRealRuntime { env with assumeRole := assumeRole } inv = .raise exc

theorem le_statusCode_of_resolveRuntime {response : HttpResponse}
    (h : resolveRuntime env inv = .error (.respond response)) : 400 ≤ response.statusCode := by
  have hvalidated {α : Type} {x : Except BridgeExc α} {f : α → Except Stop (String × Option String)}
      (hbind : (x.mapError Stop.raised >>= f) = .error (.respond response)) :
      ∃ a, f a = .error (.respond response) := by
    cases x with
    | error exc => cases hbind
    | ok a => exact ⟨a, hbind⟩
  have hqualified {x : Except String (Option String)} {runtimeArn : String}
      (hbind : (x.mapError (fun message => Stop.respond (invalidRuntime inv message)) >>=
        fun qualifier => pure (runtimeArn, qualifier)) = .error (.respond response)) :
      400 ≤ response.statusCode := by
    cases x with
    | error message =>
      cases hbind
      exact (by decide : (400 : Int) ≤ 500)
    | ok qualifier => cases hbind
  unfold resolveRuntime at h
  split at h
  · cases h
    exact (by decide : (400 : Int) ≤ 500)
  · obtain ⟨runtimeArnMatch, h⟩ := hvalidated h
    simp only at h
    split_ifs at h
    · cases h
      exact (by decide : (400 : Int) ≤ 500)
    · obtain ⟨movedMatch, h⟩ := hvalidated h
      exact hqualified h
    · exact hqualified h

theorem le_statusCode_of_resolveExecutionRole {response : HttpResponse}
    (h : resolveExecutionRole env inv = .error response) : 400 ≤ response.statusCode := by
  unfold resolveExecutionRole at h
  simp only at h
  split_ifs at h
  · cases h
    exact (by decide : (400 : Int) ≤ 404)
  · split at h
    · cases h
      exact (by decide : (400 : Int) ≤ 500)
    · split at h
      · cases h
      · rename_i role _ _ accountId _
        cases hvalid : validateExecutionRoleArn env role accountId with
        | ok text => rw [hvalid] at h; cases h
        | error message =>
          rw [hvalid] at h
          cases h
          exact (by decide : (400 : Int) ≤ 500)

/-- Where no role is asked for, the invocation is refused. -/
theorem refuses_of_not_assumed (h : assumedRole env inv = none) : Refuses env inv := by
  unfold assumedRole at h
  cases hruntime : resolveRuntime env inv with
  | error stop =>
    have hruntime' (assumeRole : String → Except BridgeExc Items) :
        resolveRuntime { env with assumeRole := assumeRole } inv = .error stop := hruntime
    cases stop with
    | respond response =>
      exact .inl ⟨response, le_statusCode_of_resolveRuntime hruntime,
        fun assumeRole => by simp only [invokeRealRuntime, hruntime' assumeRole]⟩
    | raised exc =>
      exact .inr ⟨exc, fun assumeRole => by simp only [invokeRealRuntime, hruntime' assumeRole]⟩
  | ok runtime =>
    cases hrole : resolveExecutionRole env inv with
    | ok role => rw [hruntime, hrole] at h; cases h
    | error response =>
      refine .inl ⟨response, le_statusCode_of_resolveExecutionRole hrole, fun assumeRole => ?_⟩
      have hruntime' : resolveRuntime { env with assumeRole := assumeRole } inv = .ok runtime :=
        hruntime
      have hrole' : resolveExecutionRole { env with assumeRole := assumeRole } inv = .error response :=
        hrole
      simp only [invokeRealRuntime, hruntime', hrole']

/-- Where a role is asked for, what STS answers shows. -/
theorem not_refuses_of_assumed (h : assumedRole env inv = some roleArn) : ¬ Refuses env inv := by
  obtain ⟨runtimeArn, qualifier, hinvoke⟩ := invokeRealRuntime_of_assumed h
  have hdenied (text : String) : invokeRealRuntime
      { env with assumeRole := fun _ => .error (.other text) } inv = .raise (.other text) :=
    hinvoke fun _ => .error (.other text)
  rintro (⟨response, -, hanswer⟩ | ⟨exc, hraise⟩)
  · have hboth := (hdenied "AccessDenied").symm.trans (hanswer _)
    cases hboth
  · have hfirst := (hdenied "AccessDenied").symm.trans (hraise _)
    have hsecond := (hdenied "Throttling").symm.trans (hraise _)
    exact absurd (hfirst.trans hsecond.symm) (by simp)

/-- What the bridge makes of the two places of the role and of the account id. -/
theorem resolveExecutionRole_eq_ok : resolveExecutionRole env inv = .ok roleArn ↔
    (env.tenantRecord.getD []).isEmpty = false ∧ namedRole env = some roleArn ∧
      ∀ accountId, recordedAccountId env = some accountId →
        validateExecutionRoleArn env roleArn accountId = .ok roleArn := by
  unfold resolveExecutionRole
  dsimp only
  rw [← namedRole, ← recordedAccountId]
  have hvalid (role accountId : String) :
      (validateExecutionRoleArn env role accountId).mapError (invalidRuntime inv) = .ok roleArn ↔
        role = roleArn ∧ validateExecutionRoleArn env roleArn accountId = .ok roleArn := by
    have hsame (text : String) (h : validateExecutionRoleArn env role accountId = .ok text) :
        text = role := by
      unfold validateExecutionRoleArn at h
      split at h
      · cases h
      · split_ifs at h
        exact (Except.ok.inj h).symm
    constructor
    · intro h
      cases hrole : validateExecutionRoleArn env role accountId with
      | error message => rw [hrole] at h; cases h
      | ok text =>
        rw [hrole] at h
        cases h
        obtain rfl := hsame _ hrole
        exact ⟨rfl, hrole⟩
    · rintro ⟨rfl, h⟩
      rw [h]
      rfl
  cases hempty : (env.tenantRecord.getD []).isEmpty with
  | true => simp
  | false =>
    cases hnamed : namedRole env with
    | none => simp
    | some role =>
      cases haccount : recordedAccountId env with
      | none => simp
      | some accountId =>
        simp only [Bool.false_eq_true, if_false, hvalid, true_and, Option.some.injEq,
          forall_eq']

/-- A role that passes the check is one of the account it is held against. -/
theorem exists_roleArn_of_valid {digit word : Char → Bool} {accountId : String}
    (hpattern : ∀ text, env.fullmatch iamRoleArnPattern text =
      (iamRoleArnRegex digit word).fullmatch text)
    (h : validateExecutionRoleArn env roleArn accountId = .ok roleArn) :
    ∃ arn : RoleArn digit word, roleArn = arn.text ∧ accountId = arn.accountId := by
  unfold validateExecutionRoleArn at h
  rw [hpattern] at h
  split at h
  · cases h
  · rename_i groups hmatch
    obtain ⟨arn, htext, rfl⟩ := RoleArn.exists_of_fullmatch hmatch
    refine ⟨arn, htext, ?_⟩
    split_ifs at h with hsame
    exact (Option.some.inj (not_not.mp hsame)).symm

end

/-! ## The account of the role -/

/-- The invocation is refused before STS is asked, or STS is asked for a role of the account that the
    tenant's record holds. -/
def SameAccount (digit word : Char → Bool) (env : Surroundings) (inv : AgentInvocation) : Prop :=
  Refuses env inv ∨ ∃ arn : RoleArn digit word,
    assumedRole env inv = some arn.text ∧ recordedAccountId env = some arn.accountId

/-- **The account of the role.** It is the tenant's, unless the tenant's record has no account id:
    the runtime of the agent is in order, a role is named, and nothing is checked of it. -/
theorem sameAccount_iff {env : Surroundings}
    (hpattern : ∀ text, env.fullmatch iamRoleArnPattern text =
      (iamRoleArnRegex digit word).fullmatch text) (inv : AgentInvocation) :
    SameAccount digit word env inv ↔
      (recordedAccountId env).isSome ∨ (env.tenantRecord.getD []).isEmpty ∨ namedRole env = none ∨
        ∃ stop, resolveRuntime env inv = .error stop := by
  constructor
  · intro h
    by_contra hnot
    simp only [not_or, Bool.not_eq_true, not_exists] at hnot
    obtain ⟨haccount, hrecord, hrole, hruntime⟩ := hnot
    rw [Option.isSome_eq_false_iff, Option.isNone_iff_eq_none] at haccount
    obtain ⟨roleArn, hnamed⟩ := Option.ne_none_iff_exists'.mp hrole
    have hresolved : resolveExecutionRole env inv = .ok roleArn :=
      resolveExecutionRole_eq_ok.mpr
        ⟨hrecord, hnamed, fun _ h => absurd (haccount.symm.trans h) (by simp)⟩
    have hassumed : assumedRole env inv = some roleArn := by
      unfold assumedRole
      cases hok : resolveRuntime env inv with
      | error stop => exact absurd hok (hruntime stop)
      | ok runtime => rw [hresolved]
    rcases h with hrefuses | ⟨arn, -, harn⟩
    · exact not_refuses_of_assumed hassumed hrefuses
    · exact absurd (haccount.symm.trans harn) (by simp)
  · intro h
    cases hassumed : assumedRole env inv with
    | none => exact .inl (refuses_of_not_assumed hassumed)
    | some roleArn =>
      right
      obtain ⟨⟨runtime, hruntime⟩, hresolved⟩ := assumedRole_eq_some.mp hassumed
      obtain ⟨hrecord, hnamed, hchecked⟩ := resolveExecutionRole_eq_ok.mp hresolved
      rcases h with haccount | hempty | hnone | ⟨stop, hstop⟩
      · obtain ⟨accountId, haccountId⟩ := Option.isSome_iff_exists.mp haccount
        obtain ⟨arn, rfl, rfl⟩ := exists_roleArn_of_valid hpattern (hchecked accountId haccountId)
        exact ⟨arn, hassumed, haccountId⟩
      · exact absurd (hempty.symm.trans hrecord) (by simp)
      · exact absurd (hnone.symm.trans hnamed) (by simp)
      · exact absurd (hruntime.symm.trans hstop) (by simp)

/-! ## A record without an account id -/

/-- The two ARN patterns, on texts of ASCII characters. -/
def asciiArns (pattern text : String) : Option (List (String × String)) :=
  if pattern = iamRoleArnPattern then
    (iamRoleArnRegex Char.isDigit RuntimeBindings.isAsciiWord).fullmatch text
  else RuntimeBindings.asciiFullmatch pattern text

/-- What stands around an invocation for a tenant with this record. -/
def surroundingsOf (tenantRecord : Items) : Surroundings :=
  { RouteAdapter.answeringRuntime (some tenantRecord) with
    fullmatch := asciiArns, executionRole := none }

theorem sameAccount_iff_accountId :
    SameAccount Char.isDigit RuntimeBindings.isAsciiWord
        (surroundingsOf [("executionRoleArn", .str "arn:aws:iam::111122223333:role/acme"),
          ("account_id", .str "111122223333")])
        (RouteAdapter.echoInvocation .sync false) := by
  refine (sameAccount_iff ?_ _).mpr (.inl rfl)
  intro text
  simp [surroundingsOf, asciiArns]

/-- A tenant whose record has a role of another account, and no account id of its own: STS is asked
    for the role. -/
theorem unrecorded_account_assumed : ¬ ∀ tenantRecord inv,
    SameAccount Char.isDigit RuntimeBindings.isAsciiWord (surroundingsOf tenantRecord) inv := by
  intro h
  have hassumed : assumedRole
      (surroundingsOf [("executionRoleArn", .str "arn:aws:iam::999999999999:role/other")])
      (RouteAdapter.echoInvocation .sync false) = some "arn:aws:iam::999999999999:role/other" := by
    decide +kernel
  rcases h [("executionRoleArn", .str "arn:aws:iam::999999999999:role/other")]
    (RouteAdapter.echoInvocation .sync false) with hrefuses | ⟨arn, -, harn⟩
  · exact not_refuses_of_assumed hassumed hrefuses
  · cases harn

end A5cCell.Bridge.RuntimeCalls
