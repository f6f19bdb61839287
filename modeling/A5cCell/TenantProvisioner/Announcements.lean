import A5cCell.Lib.Except
import A5cCell.Lib.History
import A5cCell.TenantProvisioner.Workflow

/-!
# What a workflow announces

The workflow has one thing to say of a tenant, and CloudFormation is the one that knows it. `standing`
reads it off CloudFormation's last answer. Whatever CloudFormation, the bus and the Lambda service
answer, and however often a task is tried again, an execution announces that the tenant is provisioned
where its stack was ready, or had nothing to update, and that it failed where the stack had, or a call
raised; it announces nothing while the stack is in progress, and it asks for no stack but the tenant's.

What is announced is the detail on the bus. The outputs of the stack are merged over it, so an output
named like a field stands there in the field's place (`Shows`).
-/

namespace A5cCell.TenantProvisioner

open Py (Val Items)
open DataAccess TenantApi

/-! ## How a stack stands -/

abbrev Past : Type := List (Answered ProvisionEffect ProvisionEffect.Reply)

/-- What CloudFormation answered, to `describe_stacks`, or to `create_stack` or `update_stack`. -/
inductive CfnAnswer where
  | described (stackName : String) (answer : Except Raised (List Stack))
  | submitted (answer : Except Raised Unit)

def cfnAnswer? : Answered ProvisionEffect ProvisionEffect.Reply → Option CfnAnswer
  | ⟨.describeStacks stackName, answer⟩ => some (.described stackName answer)
  | ⟨.createStack _, answer⟩ => some (.submitted answer)
  | ⟨.updateStack _, answer⟩ => some (.submitted answer)
  | _ => none

/-- The answers of CloudFormation, the latest first. -/
def cfnAnswers (past : Past) : List CfnAnswer := past.filterMap cfnAnswer?

inductive Standing where
  | unasked
  | inProgress
  | ready (stack : Stack)
  | failed (reason : String) (outputs : Items)

/-- How a described stack stands. -/
def Stack.standing (stack : Stack) : Standing :=
  if stack.stackStatus ∈ readyStatuses then .ready stack
  else if stack.stackStatus ∈ inProgressStatuses then .inProgress
  else .failed stack.stackStatus (stackOutputs stack)

/-- Whether CloudFormation last refused for want of a change. -/
def nothingToUpdate : List CfnAnswer → Bool
  | .submitted (.error x) :: _ => saysNoUpdates x
  | _ => false

/-- How the stack stands by CloudFormation's last answer. -/
def standing : List CfnAnswer → Standing
  | [] => .unasked
  | .submitted (.ok _) :: _ => .inProgress
  | .submitted (.error x) :: _ => .failed x.text []
  | .described _ (.error x) :: _ => .failed x.text []
  | .described stackName (.ok []) :: _ => .failed ("Stack " ++ stackName ++ " not found") []
  | .described _ (.ok (stack :: _)) :: earlier =>
      if nothingToUpdate earlier then .ready stack else stack.standing

/-- The outputs of the stack, as far as they are known. -/
def Standing.outputs : Standing → Items
  | .ready stack => stackOutputs stack
  | .failed _ outputs => outputs
  | _ => []

/-! ## What an execution may do -/

section

variable (py : Python) (detail : Items)

/-- The tenant's stack; a poll reads its name without the space around it. -/
def IsOwnStack (stackName : String) : Prop :=
  ∃ own, stackNameOf py (strippedText detail "tenantId") = .ok own ∧
    (stackName = own ∨ stackName = Py.strip own)

/-- The entry's detail has the value under the name, or the output of that name. -/
def Shows (outputs : Items) (entry : Entry) (field : String) (value : Val) : Prop :=
  entry.detail.get field = (outputs.lookup field).getD value

/-- The type and the detail of the entry say how the stack stands. -/
def Standing.SaidBy (entry : Entry) : Standing → Prop
  | .ready stack =>
      entry.detailType = "tenant.provisioned" ∧
        Shows (stackOutputs stack) entry "stackStatus" (.str stack.stackStatus) ∧
        ∀ name value, (stackOutputs stack).lookup name = some value → entry.detail.get name = value
  | .failed reason _ =>
      entry.detailType = "tenant.provisioning_failed" ∧ entry.detail.get "reason" = .str reason
  | .unasked => entry.detailType = "tenant.provisioning_failed"
  | .inProgress => False

/-- The entry announces how the stack of the tenant stands. -/
structure Announces (now : Standing) (entry : Entry) : Prop where
  tenantId : Shows now.outputs entry "tenantId" (.str (strippedText detail "tenantId"))
  stackName : ∃ stackName, IsOwnStack py detail stackName ∧
    Shows now.outputs entry "stackName" (.str stackName)
  said : now.SaidBy entry

/-- What an execution may call, given what was answered before. -/
def Permits (past : Past) : ProvisionEffect → Prop
  | .describeStacks stackName => IsOwnStack py detail stackName
  | .createStack request => IsOwnStack py detail request.stackName
  | .updateStack request => IsOwnStack py detail request.stackName
  | .putEvents entry => Announces py detail (standing (cfnAnswers past)) entry
  | _ => True

/-- Why an execution fails: a task was tried often enough, the Lambda service failed or the time was up
    before a task was tried again, the bus refused the event, or the environment is not named. -/
def Stops (past : Past) (x : Raised) : Prop :=
  (∃ message, x = .retryable message) ∨ (∃ name, x = .service name) ∨
    (∃ entry, ⟨.putEvents entry, .error x⟩ ∈ past) ∨ py.environ "PLATFORM_ENV" = none

/-- How an execution ends: it is timed out while the stack is in progress, it has announced, or it
    stopped. -/
def Ends (past : Past) : Except Raised Ending → Prop
  | .ok .timedOut => standing (cfnAnswers past) = .inProgress
  | .ok (.announced _) => ∃ entry, ⟨.putEvents entry, .ok ()⟩ ∈ past
  | .error x => Stops py past x

end

/-! ## What a result says -/

variable {py : Python} {invokedFunctionArn : String} {builtIn : List Retrier} {detail data : Items} {now : Standing}
  {past : Past}

/-- The data says how the stack stands, and has what the task reads that follows. -/
def Standing.ShownBy (detail data : Items) : Standing → Prop
  | .ready stack =>
      data.lookup "provisioningState" = some (.str "READY") ∧
        data.lookup "stackStatus" = some (.str stack.stackStatus) ∧
        data.lookup "outputs" = some (.dict (stackOutputs stack))
  | .inProgress =>
      data.lookup "provisioningState" = some (.str "IN_PROGRESS") ∧
        strippedText detail "tenantId" ≠ ""
  | .failed reason outputs =>
      data.lookup "provisioningState" = some (.str "FAILED") ∧
        data.lookup "reason" = some (.str reason) ∧
        data.lookup "outputs" = some (.dict outputs) ∧ (data.lookup "stackStatus").isSome
  | .unasked =>
      data.lookup "provisioningState" = some (.str "FAILED") ∧
        data.lookup "outputs" = some (.dict []) ∧
        ∀ field ∈ ["stackStatus", "reason"], (data.lookup field).isSome

variable (py detail) in
/-- A result of a start or of a poll says how the stack of the tenant stands. -/
structure Reports (now : Standing) (data : Items) : Prop where
  tenantId : data.lookup "tenantId" = some (.str (strippedText detail "tenantId"))
  own : ∀ field ∈ ["appId", "tier", "accountId"], (data.lookup field).isSome
  stackName : ∃ stackName, data.lookup "stackName" = some (.str stackName) ∧
    IsOwnStack py detail stackName
  state : now.ShownBy detail data

theorem get_of_found {field : String} {value : Val} (h : data.lookup field = some value) :
    data.get field = value := by
  rw [Items.get, h]
  rfl

/-- The fields a task names are there. -/
theorem select_eq {fields : List String} (h : ∀ field ∈ fields, (data.lookup field).isSome) :
    select fields data = .ok (fields.map fun field => (field, data.get field)) := by
  refine Except.mapM_eq_map (List.forall₂_same.mpr ?_)
  intro field hfield
  obtain ⟨value, hvalue⟩ := Option.isSome_iff_exists.mp (h field hfield)
  simp [Items.get, hvalue]

/-- A plan is for the tenant's stack. -/
theorem stackPlan_ok {plan : StackPlan} (h : stackPlan py invokedFunctionArn detail = .ok plan) :
    plan.tenantId = strippedText detail "tenantId" ∧ plan.tenantId ≠ "" ∧
      stackNameOf py plan.tenantId = .ok plan.stackName := by
  unfold stackPlan at h
  obtain ⟨tenantId, htenant, h⟩ := Except.bind_eq_ok.mp h
  obtain ⟨stackName, hstack, h⟩ := Except.bind_eq_ok.mp h
  obtain ⟨templateUrl, -, h⟩ := Except.bind_eq_ok.mp h
  obtain ⟨parameters, -, h⟩ := Except.bind_eq_ok.mp h
  obtain ⟨env, -, h⟩ := Except.bind_eq_ok.mp h
  obtain ⟨accountId, -, h⟩ := Except.bind_eq_ok.mp h
  cases h
  unfold tenantIdOf at htenant
  split at htenant
  · cases htenant
  · rename_i hblank
    cases htenant
    exact ⟨rfl, hblank, hstack⟩

/-- The name of a stack is more than space. -/
theorem strip_stackName_ne {tenantId stackName : String}
    (h : stackNameOf py tenantId = .ok stackName) : Py.strip stackName ≠ "" ∧ stackName ≠ "" := by
  unfold stackNameOf at h
  obtain ⟨env, -, h⟩ := Except.bind_eq_ok.mp h
  cases h
  have hfirst : 'p' ∈ ("platform-tenant-" ++ tenantId ++ "-" ++ env).toList := by
    rw [String.toList_append, String.toList_append, String.toList_append]
    simp
  refine ⟨Py.strip_ne_empty hfirst rfl, ?_⟩
  intro hempty
  rw [hempty] at hfirst
  cases hfirst

theorem isOwnStack_self {stackName : String}
    (h : stackNameOf py (strippedText detail "tenantId") = .ok stackName) :
    IsOwnStack py detail stackName :=
  ⟨stackName, h, .inl rfl⟩

/-! ## The calls of CloudFormation -/

/-- What describing a stack adds to what was answered. -/
def Described (stackName : String) (past past' : Past) : Except Raised Stack → Prop
  | .ok stack => ∃ rest, past' = ⟨.describeStacks stackName, .ok (stack :: rest)⟩ :: past
  | .error x => past' = ⟨.describeStacks stackName, .error x⟩ :: past ∨
      past' = ⟨.describeStacks stackName, .ok []⟩ :: past ∧
        x = .other ("Stack " ++ stackName ++ " not found")

theorem traced_describeStack {stackName : String} (hown : IsOwnStack py detail stackName) :
    (describeStack stackName).Traced (Permits py detail) (Described stackName past) past := by
  refine ⟨hown, fun answer => ?_⟩
  cases answer with
  | error x => exact .inl rfl
  | ok found =>
    cases found with
    | nil => exact .inr ⟨rfl, rfl⟩
    | cons stack rest => exact ⟨rest, rfl⟩

theorem Described.standing_ok {stackName : String} {past' : Past} {stack : Stack}
    (h : Described stackName past past' (.ok stack)) : standing (cfnAnswers past') =
      if nothingToUpdate (cfnAnswers past) then .ready stack else stack.standing := by
  obtain ⟨rest, rfl⟩ := h
  rfl

theorem Described.standing_error {stackName : String} {past' : Past} {x : Raised}
    (h : Described stackName past past' (.error x)) :
    standing (cfnAnswers past') = .failed x.text [] := by
  rcases h with rfl | ⟨rfl, rfl⟩ <;> rfl

theorem Described.nothingToUpdate {stackName : String} {past' : Past} {r : Except Raised Stack}
    (h : Described stackName past past' r) : nothingToUpdate (cfnAnswers past') = false := by
  cases r with
  | ok stack =>
    obtain ⟨rest, rfl⟩ := h
    rfl
  | error x => rcases h with rfl | ⟨rfl, -⟩ <;> rfl

/-- What a start or a poll comes to, before its errors are caught. -/
def Handled (py : Python) (detail : Items) (past : Past) : Except Raised Items → Prop
  | .ok data => Reports py detail (standing (cfnAnswers past)) data
  | .error x =>
      standing (cfnAnswers past) = .failed x.text [] ∨ standing (cfnAnswers past) = .unasked

theorem traced_findOperation {stackName : String} (hown : IsOwnStack py detail stackName) :
    (findOperation stackName).Traced (Permits py detail)
      (fun past' r => ∀ x, r = .error x → standing (cfnAnswers past') = .failed x.text []) past := by
  refine Prog.Traced.tryExcept
    (Q := fun past' r => ∀ x, r = .error x → standing (cfnAnswers past') = .failed x.text []) ?_ ?_ ?_
  · refine (traced_describeStack hown).bind ?_ ?_
    · intro past' x h y hy
      cases hy
      exact h.standing_error
    · intro past' stack _ x hx
      cases hx
  · intro past' operation _ x hx
    cases hx
  · intro past' x h
    have hraise : (Prog.raise x : Provisioning String).Traced (Permits py detail)
        (fun past' r => ∀ x, r = .error x → standing (cfnAnswers past') = .failed x.text []) past' := by
      intro y hy
      cases hy
      exact h x rfl
    cases x with
    | clientError code message =>
      by_cases hcode : code = "ValidationError"
      -- The stack is not there yet: it is created.
      · simp only [hcode, if_true]
        intro y hy
        cases hy
      · simp only [hcode, if_false]
        exact hraise
    | _ => exact hraise

theorem traced_submitStack {plan : StackPlan} {operation : String}
    (hown : IsOwnStack py detail plan.stackName) :
    (submitStack plan operation).attempt.Traced (Permits py detail)
      (fun past' r => ∃ answer, r = .ok answer ∧
        cfnAnswers past' = .submitted answer :: cfnAnswers past) past := by
  unfold submitStack
  split
  all_goals
    refine ⟨hown, fun answer => ?_⟩
    cases answer with
    | ok done => exact ⟨.ok (), rfl, rfl⟩
    | error x => exact ⟨.error x, rfl, rfl⟩

/-- A result of a start is about the tenant of its plan. -/
theorem StackPlan.reports {plan : StackPlan} {status operation state : String} {more : Items}
    (hplan : stackPlan py invokedFunctionArn detail = .ok plan)
    (hstate : now.ShownBy detail (plan.result detail status operation state ++ more)) :
    Reports py detail now (plan.result detail status operation state ++ more) := by
  obtain ⟨htenant, -, hstack⟩ := stackPlan_ok hplan
  refine ⟨?_, ?_, ⟨plan.stackName, rfl, isOwnStack_self (htenant ▸ hstack)⟩, hstate⟩
  · rw [← htenant]
    rfl
  · intro field hfield
    simp only [List.mem_cons, List.not_mem_nil, or_false] at hfield
    rcases hfield with rfl | rfl | rfl <;> rfl

/-- Nothing was asked of CloudFormation where the plan is refused. -/
def AsksByPlan (py : Python) (invokedFunctionArn : String) (detail : Items) (past : Past) : Prop :=
  ∀ x, stackPlan py invokedFunctionArn detail = .error x → cfnAnswers past = []

/-- A start reports how the stack stands. -/
theorem traced_startProvisioning {event : Items} (hdetail : eventDetail event = detail)
    (hpast : AsksByPlan py invokedFunctionArn detail past) :
    (startProvisioning py invokedFunctionArn event).Traced (Permits py detail)
      (fun past' r => AsksByPlan py invokedFunctionArn detail past' ∧ Handled py detail past' r)
      past := by
  simp only [startProvisioning, hdetail]
  cases hplan : stackPlan py invokedFunctionArn detail with
  | error x =>
    -- The plan is made before the first call, in every attempt.
    refine ⟨hpast, Or.inr ?_⟩
    rw [hpast x hplan]
    rfl
  | ok plan =>
    have hasks (past' : Past) : AsksByPlan py invokedFunctionArn detail past' := by
      intro x hx
      rw [hplan] at hx
      cases hx
    obtain ⟨htenant, hne, hstack⟩ := stackPlan_ok hplan
    have hown : IsOwnStack py detail plan.stackName := isOwnStack_self (htenant ▸ hstack)
    refine (traced_findOperation hown).bind (fun past' x h => ⟨hasks past', .inl (h x rfl)⟩) ?_
    intro past₁ operation _
    refine (traced_submitStack hown).bind ?_ ?_
    · rintro past₂ x ⟨answer, hanswer, -⟩
      cases hanswer
    · rintro past₂ answer ⟨answer', hanswer, hcfn⟩
      cases hanswer
      cases answer with
      | ok done =>
        refine ⟨hasks past₂, ?_⟩
        show Reports py detail (standing (cfnAnswers past₂)) _
        rw [hcfn]
        have hresult : Reports py detail .inProgress
            (plan.result detail "STARTED" operation "IN_PROGRESS" ++ []) :=
          StackPlan.reports hplan ⟨rfl, htenant ▸ hne⟩
        rwa [List.append_nil] at hresult
      | error x =>
        cases hnone : saysNoUpdates x with
        | false =>
          simp only [hnone, Bool.false_eq_true, if_false]
          refine ⟨hasks past₂, Or.inl ?_⟩
          rw [hcfn]
          rfl
        | true =>
          -- Nothing was to update, so the stack counts as ready, whatever its status.
          simp only [hnone, if_true]
          refine (traced_describeStack hown).bind
            (fun past' x h => ⟨hasks past', .inl h.standing_error⟩) ?_
          intro past₃ stack hdescribed
          refine ⟨hasks past₃, ?_⟩
          show Reports py detail (standing (cfnAnswers past₃)) _
          rw [hdescribed.standing_ok, hcfn, nothingToUpdate, hnone, if_pos rfl]
          exact StackPlan.reports hplan ⟨rfl, rfl, rfl⟩

theorem not_inProgress_of_failed {status : String} (h : status ∈ failedStatuses) :
    status ∉ inProgressStatuses := by
  have hall : ∀ status ∈ failedStatuses, status ∉ inProgressStatuses := by decide
  exact hall status h

/-- What a poll says of a stack is how it stands. -/
theorem pollState_shows {stack : Stack} {common : Items}
    (hstate : common.lookup "provisioningState" = none) (hreason : common.lookup "reason" = none)
    (hstatus : common.lookup "stackStatus" = some (.str stack.stackStatus))
    (houtputs : common.lookup "outputs" = some (.dict (stackOutputs stack)))
    (htenant : strippedText detail "tenantId" ≠ "") :
    stack.standing.ShownBy detail (common ++ pollState stack.stackStatus) := by
  unfold Stack.standing
  by_cases hready : stack.stackStatus ∈ readyStatuses
  · rw [if_pos hready]
    refine ⟨?_, ?_, ?_⟩
    · rw [List.lookup_append, hstate, pollState, if_pos hready]
      rfl
    · rw [List.lookup_append, hstatus]
      rfl
    · rw [List.lookup_append, houtputs]
      rfl
  · rw [if_neg hready]
    by_cases hgoing : stack.stackStatus ∈ inProgressStatuses
    · have hnot : stack.stackStatus ∉ failedStatuses := fun h => not_inProgress_of_failed h hgoing
      rw [if_pos hgoing]
      refine ⟨?_, htenant⟩
      rw [List.lookup_append, hstate, pollState, if_neg hready, if_neg hnot, if_pos hgoing]
      rfl
    -- A status of no list is a failure, as one of the failed ones is.
    · have hpoll : pollState stack.stackStatus =
          [("provisioningState", .str "FAILED"), ("reason", .str stack.stackStatus)] := by
        rw [pollState, if_neg hready, if_neg hgoing, ite_self]
      rw [if_neg hgoing]
      refine ⟨?_, ?_, ?_, ?_⟩
      · rw [List.lookup_append, hstate, hpoll]
        rfl
      · rw [List.lookup_append, hreason, hpoll]
        rfl
      · rw [List.lookup_append, houtputs]
        rfl
      · rw [List.lookup_append, hstatus]
        rfl

/-- A poll reports how the stack stands. -/
theorem traced_pollProvisioning {event : Items}
    (htenant : strippedText event "tenantId" = strippedText detail "tenantId")
    (hne : strippedText detail "tenantId" ≠ "")
    (hown : IsOwnStack py detail (strippedText event "stackName"))
    (hstack : strippedText event "stackName" ≠ "")
    (hpast : nothingToUpdate (cfnAnswers past) = false) :
    (pollProvisioning event).Traced (Permits py detail)
      (fun past' r => nothingToUpdate (cfnAnswers past') = false ∧ Handled py detail past' r)
      past := by
  have hnamed : ¬(strippedText event "stackName" = "" ∨ strippedText event "tenantId" = "") := by
    rw [htenant]
    exact not_or.mpr ⟨hstack, hne⟩
  simp only [pollProvisioning, if_neg hnamed]
  refine (traced_describeStack hown).bind
    (fun _ x h => ⟨h.nothingToUpdate, .inl h.standing_error⟩) ?_
  intro past₁ stack hdescribed
  refine ⟨hdescribed.nothingToUpdate, ?_⟩
  show Reports py detail (standing (cfnAnswers past₁)) _
  -- No update was refused just before, so the status tells how the stack stands.
  rw [hdescribed.standing_ok, hpast, if_neg Bool.false_ne_true]
  refine ⟨?_, ?_, ⟨_, rfl, hown⟩, pollState_shows rfl rfl rfl rfl hne⟩
  · rw [← htenant]
    rfl
  · intro field hfield
    simp only [List.mem_cons, List.not_mem_nil, or_false] at hfield
    rcases hfield with rfl | rfl | rfl <;> rfl

/-! ## The function -/

/-- What an invocation of a start or of a poll comes to. -/
def Done (py : Python) (detail : Items) (past : Past) : Except Raised Items → Prop
  | .ok data => Reports py detail (standing (cfnAnswers past)) data
  | .error x => (∃ message, x = .retryable message) ∨ py.environ "PLATFORM_ENV" = none

/-- The answer of a start or a poll that failed is about the tenant still. -/
theorem failedResult_reports {event : Items} {x : Raised} {data : Items}
    (htenant : Py.strip ((((eventDetail event).get "tenantId").or (event.get "tenantId")).or
      (.str "")).toStr = strippedText detail "tenantId")
    (hstack : event.get "stackName" = .none ∨
      ∃ stackName, event.get "stackName" = .str stackName ∧ stackName ≠ "" ∧
        IsOwnStack py detail stackName)
    (hnow : now = .failed x.text [] ∨ now = .unasked) (h : failedResult py event x = .ok data) :
    Reports py detail now data := by
  unfold failedResult at h
  obtain ⟨stackName, hname, h⟩ := Except.bind_eq_ok.mp h
  rw [htenant] at hname h
  cases h
  refine ⟨rfl, ?_, ?_, ?_⟩
  · intro field hfield
    simp only [List.mem_cons, List.not_mem_nil, or_false] at hfield
    rcases hfield with rfl | rfl | rfl <;> rfl
  · unfold failedStackName at hname
    rcases hstack with hnone | ⟨own, hstr, hne, hown⟩
    · rw [hnone, if_neg (by simp [Val.truthy])] at hname
      cases hof : stackNameOf py (strippedText detail "tenantId") with
      | error y =>
        rw [hof] at hname
        cases hname
      | ok own =>
        rw [hof] at hname
        cases hname
        exact ⟨own, rfl, isOwnStack_self hof⟩
    · rw [hstr, if_pos (by simpa [Val.truthy] using hne)] at hname
      cases hname
      exact ⟨own, rfl, hown⟩
  · rcases hnow with rfl | rfl
    · exact ⟨rfl, rfl, rfl, rfl⟩
    · refine ⟨rfl, rfl, ?_⟩
      intro field hfield
      simp only [List.mem_cons, List.not_mem_nil, or_false] at hfield
      rcases hfield with rfl | rfl <;> rfl

theorem stackNameOf_error {tenantId : String} {y : Raised} (h : stackNameOf py tenantId = .error y) :
    py.environ "PLATFORM_ENV" = none := by
  cases henv : py.environ "PLATFORM_ENV" with
  | none => rfl
  | some env =>
    rw [stackNameOf, environOf, henv] at h
    cases h

/-- Only the environment may be missing for it. -/
theorem failedResult_error {event : Items} {x y : Raised} (h : failedResult py event x = .error y) :
    py.environ "PLATFORM_ENV" = none := by
  dsimp only [failedResult] at h
  generalize Py.strip _ = tenantId at h
  cases hname : failedStackName py event tenantId with
  | ok stackName =>
    rw [hname] at h
    cases h
  | error z =>
    unfold failedStackName at hname
    split at hname
    · cases hname
    · cases hof : stackNameOf py tenantId with
      | ok own =>
        rw [hof] at hname
        cases hname
      | error z => exact stackNameOf_error hof

/-- The errors of a start or of a poll are its result, or are raised to be tried again. -/
theorem traced_caught {K : Past → Prop} {event : Items} {handled : Provisioning Items}
    (hhandled : handled.Traced (Permits py detail)
      (fun past' r => K past' ∧ Handled py detail past' r) past)
    (htenant : Py.strip ((((eventDetail event).get "tenantId").or (event.get "tenantId")).or
      (.str "")).toStr = strippedText detail "tenantId")
    (hstack : event.get "stackName" = .none ∨
      ∃ stackName, event.get "stackName" = .str stackName ∧ stackName ≠ "" ∧
        IsOwnStack py detail stackName) :
    (handled.tryExcept fun x =>
      if isRetryable x then .raise (.retryable x.text)
      else Provisioning.ofExcept (failedResult py event x)).Traced (Permits py detail)
        (fun past' r => K past' ∧ Done py detail past' r) past := by
  refine hhandled.tryExcept (fun _ _ h => h) ?_
  rintro past₁ x ⟨hkept, hx⟩
  by_cases hretry : isRetryable x = true
  · rw [if_pos hretry]
    exact ⟨hkept, Or.inl ⟨x.text, rfl⟩⟩
  · rw [if_neg hretry]
    cases hfailed : failedResult py event x with
    | error y => exact ⟨hkept, Or.inr (failedResult_error hfailed)⟩
    | ok data => exact ⟨hkept, failedResult_reports htenant hstack hx hfailed⟩

/-- An invocation of a start. -/
theorem lambdaHandler_start {event : Items} (haction : actionOf event = "start") :
    lambdaHandler py invokedFunctionArn event =
      (startProvisioning py invokedFunctionArn event).tryExcept fun x =>
        if isRetryable x then .raise (.retryable x.text)
        else Provisioning.ofExcept (failedResult py event x) := by
  simp only [lambdaHandler, dispatchAction, haction, if_true, true_or]

/-- An invocation of a poll. -/
theorem lambdaHandler_poll {event : Items} (haction : actionOf event = "poll") :
    lambdaHandler py invokedFunctionArn event =
      (pollProvisioning event).tryExcept fun x =>
        if isRetryable x then .raise (.retryable x.text)
        else Provisioning.ofExcept (failedResult py event x) := by
  have hne : ("poll" : String) ≠ "start" := by decide
  simp only [lambdaHandler, dispatchAction, haction, if_neg hne, if_true, or_true]

theorem strippedText_eq {event : Items} {field text : String} (h : event.get field = .str text) :
    strippedText event field = Py.strip text := by
  unfold strippedText
  rw [h]
  by_cases hblank : text = ""
  · rw [hblank]
    rfl
  · simp [Val.or, Val.truthy, hblank]

/-- The action of an event that says it in lower case. -/
theorem actionOf_eq {event : Items} {action : String} (h : event.get "action" = .str action)
    (hplain : Py.lower (Py.strip action) = action) (hne : action ≠ "") : actionOf event = action := by
  unfold actionOf
  rw [strippedText_eq h, hplain]
  exact if_neg fun hblank => hne hblank.1

/-- What a start hands the function. -/
def startEvent (detail : Items) : Items := [("action", .str "start"), ("detail", .dict detail)]

theorem traced_start (hpast : AsksByPlan py invokedFunctionArn detail past) :
    (lambdaHandler py invokedFunctionArn (startEvent detail)).Traced (Permits py detail)
      (fun past' r => AsksByPlan py invokedFunctionArn detail past' ∧ Done py detail past' r)
      past := by
  have haction : actionOf (startEvent detail) = "start" :=
    actionOf_eq rfl (by decide +kernel) (by decide)
  have hdetail : eventDetail (startEvent detail) = detail := rfl
  have hstack : (startEvent detail).get "stackName" = .none := rfl
  have hevent : (startEvent detail).get "tenantId" = .none := rfl
  rw [lambdaHandler_start haction]
  refine traced_caught (traced_startProvisioning hdetail hpast) ?_ (.inl hstack)
  rw [hdetail, hevent]
  unfold strippedText
  cases htruthy : (detail.get "tenantId").truthy with
  | true => simp only [Val.or, htruthy, if_true]
  | false =>
    simp only [Val.or, htruthy, Bool.false_eq_true, if_false]
    rfl

/-- What a poll hands the function. -/
def pollEvent (data : Items) : Items :=
  ("action", .str "poll") :: pollFields.map fun field => (field, data.get field)

theorem traced_poll (h : Reports py detail .inProgress data)
    (hpast : nothingToUpdate (cfnAnswers past) = false) :
    (lambdaHandler py invokedFunctionArn (pollEvent data)).Traced (Permits py detail)
      (fun past' r => nothingToUpdate (cfnAnswers past') = false ∧ Done py detail past' r) past := by
  have haction : actionOf (pollEvent data) = "poll" :=
    actionOf_eq rfl (by decide +kernel) (by decide)
  obtain ⟨stackName, hlookup, own, hof, hname⟩ := h.stackName
  have htenantId : (pollEvent data).get "tenantId" = .str (strippedText detail "tenantId") := by
    show data.get "tenantId" = _
    exact get_of_found h.tenantId
  have hstackName : (pollEvent data).get "stackName" = .str stackName := by
    show data.get "stackName" = _
    exact get_of_found hlookup
  have hstripped : Py.strip (strippedText detail "tenantId") = strippedText detail "tenantId" := by
    unfold strippedText
    exact Py.strip_strip _
  have htenant : strippedText (pollEvent data) "tenantId" = strippedText detail "tenantId" :=
    (strippedText_eq htenantId).trans hstripped
  have hpolled : Py.strip stackName = Py.strip own := by
    rcases hname with rfl | rfl
    · rfl
    · exact Py.strip_strip own
  have hne := strip_stackName_ne hof
  rw [lambdaHandler_poll haction]
  refine traced_caught (traced_pollProvisioning htenant h.state.2 ?_ ?_ hpast) ?_ ?_
  · rw [strippedText_eq hstackName, hpolled]
    exact ⟨own, hof, .inr rfl⟩
  · rw [strippedText_eq hstackName, hpolled]
    exact hne.1
  · show Py.strip ((((pollEvent data).get "tenantId").or ((pollEvent data).get "tenantId")).or
      (.str "")).toStr = _
    rw [htenantId]
    simp [Val.or, Val.truthy, h.state.2, hstripped]
  · refine .inr ⟨stackName, hstackName, ?_, own, hof, hname⟩
    rcases hname with rfl | rfl
    · exact hne.2
    · exact hne.1

/-! ## The tasks -/

/-- A call of the workflow itself. -/
def IsIdle : ProvisionEffect → Prop
  | .invoking => True
  | .returning => True
  | .wait _ => True
  | _ => False

/-- The workflow's own calls leave it as it is. -/
def Unmoved (K : Past → Prop) : Prop :=
  ∀ past e answer, IsIdle e → K past → K (⟨e, answer⟩ :: past)

theorem cfnAnswers_idle {e : ProvisionEffect} {answer : ProvisionEffect.Reply e} (he : IsIdle e) :
    cfnAnswers (⟨e, answer⟩ :: past) = cfnAnswers past := by
  cases e with
  | invoking => rfl
  | returning => rfl
  | wait seconds => rfl
  | _ => exact he.elim

/-- What is read off CloudFormation's answers is unmoved. -/
theorem unmoved_cfn (K : List CfnAnswer → Prop) : Unmoved fun past => K (cfnAnswers past) := by
  intro past e answer he h
  rwa [cfnAnswers_idle he]

section

variable {K : Past → Prop} {F : Past → Except Raised Items → Prop} {handled : Provisioning Items}
  (hK : Unmoved K) (hF : ∀ r, Unmoved (F · r))
  (hhandled : ∀ past, K past →
    handled.Traced (Permits py detail) (fun past' r => K past' ∧ F past' r) past)

include hK hF hhandled

/-- An invocation comes to what the function does, or the Lambda service fails. -/
theorem traced_invoked (hpast : K past) :
    (invoked handled).Traced (Permits py detail)
      (fun past' r => K past' ∧ (F past' r ∨ ∃ name, r = .error (.service name))) past := by
  refine ⟨trivial, fun fault => ?_⟩
  have hinvoked := hK past .invoking fault trivial hpast
  cases fault with
  | some name => exact ⟨hinvoked, .inr ⟨name, rfl⟩⟩
  | none =>
    refine (hhandled _ hinvoked).attempt.bind ?_ ?_
    · rintro past₁ x ⟨result, hresult, -⟩
      cases hresult
    · rintro past₁ result ⟨result', hresult, hkept, hdone⟩
      cases hresult
      refine ⟨trivial, fun fault => ?_⟩
      -- The function has done its work here, and its result may yet be lost.
      have hreturned := hK past₁ .returning fault trivial hkept
      cases fault with
      | some name => exact ⟨hreturned, .inr ⟨name, rfl⟩⟩
      | none =>
        have hstill := hF result past₁ .returning none trivial hdone
        cases result with
        | ok data => exact ⟨hreturned, .inl hstill⟩
        | error x => exact ⟨hreturned, .inl hstill⟩

/-- So does a task, however often it is tried. -/
theorem traced_retrying (attempts : ℕ) (retriers : List Retrier) (hpast : K past) :
    (retrying handled attempts retriers).Traced (Permits py detail)
      (fun past' r => K past' ∧ (F past' r ∨ ∃ name, r = .error (.service name))) past := by
  induction attempts generalizing retriers past with
  | zero => exact traced_invoked hK hF hhandled hpast
  | succ attempts ih =>
    refine (traced_invoked hK hF hhandled hpast).tryExcept (fun _ _ h => h) ?_
    intro past₁ x hx
    cases hretry : retryAfter x retriers with
    | none => exact hx
    | some retry =>
      -- The next attempt starts from whatever the calls of this one were answered.
      refine ⟨trivial, fun timeIsUp => ?_⟩
      have hwaited := hK past₁ (.wait retry.1) timeIsUp trivial hx.1
      cases timeIsUp with
      | true => exact ⟨hwaited, .inr ⟨_, rfl⟩⟩
      | false => exact ih retry.2 hwaited

end

/-- What announcing comes to. -/
def Emitted (past : Past) : Except Raised Items → Prop
  | .ok _ => ∃ entry, ⟨.putEvents entry, .ok ()⟩ ∈ past
  | .error x => (∃ message, x = .retryable message) ∨ ∃ entry, ⟨.putEvents entry, .error x⟩ ∈ past

theorem traced_emit {event : Items} {entry : Entry}
    (haction : event.get "action" = .str "emit-result")
    (hentry : completionEntry py event = .ok entry) (hannounces : Announces py detail now entry)
    (hpast : standing (cfnAnswers past) = now) :
    (lambdaHandler py invokedFunctionArn event).Traced (Permits py detail)
      (fun past' r => standing (cfnAnswers past') = now ∧ Emitted past' r) past := by
  have hof : actionOf event = "emit-result" := actionOf_eq haction (by decide +kernel) (by decide)
  have hstart : ¬("emit-result" : String) = "start" := by decide
  have hpoll : ¬("emit-result" : String) = "poll" := by decide
  simp only [lambdaHandler, dispatchAction, hof, hstart, hpoll, or_self, if_true, if_false,
    emitResult, hentry, Except.mapError]
  refine ⟨?_, fun answer => ?_⟩
  · rw [← hpast] at hannounces
    exact hannounces
  · cases answer with
    | ok done => exact ⟨hpast, entry, List.mem_cons_self⟩
    | error x =>
      show Prog.Traced _ _ _ (if isRetryable x then .raise (.retryable x.text) else .raise x)
      by_cases hretry : isRetryable x = true
      · rw [if_pos hretry]
        exact ⟨hpast, .inl ⟨x.text, rfl⟩⟩
      · rw [if_neg hretry]
        exact ⟨hpast, .inr ⟨entry, List.mem_cons_self⟩⟩

theorem resultTypeOf_eq {event : Items} {resultType : String}
    (h : event.get "resultType" = .str resultType)
    (hresult : resultType = "provisioned" ∨ resultType = "failed") :
    resultTypeOf event = resultType := by
  unfold resultTypeOf
  rw [h]
  rcases hresult with rfl | rfl <;> decide +kernel

/-- A result the workflow names has an event. -/
theorem completionEntry_ok {event : Items} {resultType : String}
    (h : event.get "resultType" = .str resultType)
    (hresult : resultType = "provisioned" ∨ resultType = "failed") :
    ∃ entry, completionEntry py event = .ok entry := by
  unfold completionEntry
  rw [resultTypeOf_eq h hresult]
  rcases hresult with rfl | rfl
  · exact ⟨_, rfl⟩
  · exact ⟨_, rfl⟩

theorem emitted_unmoved (r : Except Raised Items) : Unmoved (Emitted · r) := by
  intro past e answer _ h
  cases r with
  | ok data =>
    obtain ⟨entry, hmem⟩ := h
    exact ⟨entry, List.mem_cons_of_mem _ hmem⟩
  | error x =>
    rcases h with hretry | ⟨entry, hmem⟩
    · exact .inl hretry
    · exact .inr ⟨entry, List.mem_cons_of_mem _ hmem⟩

/-- The event that announces a result, from the data that reports it. -/
def announcedEvent (resultType : String) (fields : List String) (data : Items) : Items :=
  announcement resultType (fields.map fun field => (field, data.get field))

theorem traced_announce {resultType : String} {fields : List String}
    (hfields : ∀ field ∈ fields, (data.lookup field).isSome)
    (hresult : resultType = "provisioned" ∨ resultType = "failed")
    (htells : ∀ entry, completionEntry py (announcedEvent resultType fields data) = .ok entry →
      Announces py detail (standing (cfnAnswers past)) entry) :
    (announce py invokedFunctionArn builtIn resultType fields data).Traced (Permits py detail) (Ends py)
      past := by
  obtain ⟨entry, hentry⟩ :
      ∃ entry, completionEntry py (announcedEvent resultType fields data) = .ok entry :=
    completionEntry_ok rfl hresult
  have hemit : ∀ past', standing (cfnAnswers past') = standing (cfnAnswers past) →
      (lambdaHandler py invokedFunctionArn (announcedEvent resultType fields data)).Traced
        (Permits py detail)
        (fun past'' r => standing (cfnAnswers past'') = standing (cfnAnswers past) ∧ Emitted past'' r)
        past' :=
    fun past' hpast' => traced_emit rfl hentry (htells entry hentry) hpast'
  have hunmoved : Unmoved fun past' => standing (cfnAnswers past') = standing (cfnAnswers past) :=
    unmoved_cfn fun answers => standing answers = standing (cfnAnswers past)
  unfold announce
  rw [select_eq hfields]
  refine (traced_retrying hunmoved emitted_unmoved hemit _ _ rfl).bind ?_ ?_
  · rintro past' x ⟨-, hdone | ⟨name, hname⟩⟩
    · rcases hdone with hretry | hput
      · exact .inl hretry
      · exact .inr (.inr (.inl hput))
    · cases hname
      exact .inr (.inl ⟨name, rfl⟩)
  · rintro past' result ⟨-, hdone | ⟨name, hname⟩⟩
    · exact hdone
    · cases hname

theorem done_unmoved (r : Except Raised Items) : Unmoved (Done py detail · r) := by
  intro past e answer he h
  cases r with
  | ok data =>
    show Reports py detail (standing (cfnAnswers _)) data
    rw [cfnAnswers_idle he]
    exact h
  | error x => exact h

/-- Why a start or a poll fails. -/
theorem stops_of_done {x : Raised} {K : Prop}
    (h : K ∧ (Done py detail past (.error x) ∨
      ∃ name, (.error x : Except Raised Items) = .error (.service name))) : Stops py past x := by
  obtain ⟨-, hdone | ⟨name, hname⟩⟩ := h
  · rcases hdone with hretry | henv
    · exact .inl hretry
    · exact .inr (.inr (.inr henv))
  · cases hname
    exact .inr (.inl ⟨name, rfl⟩)

/-- A stack in progress was not refused for want of a change. -/
theorem nothingToUpdate_of_inProgress {answers : List CfnAnswer}
    (h : standing answers = .inProgress) : nothingToUpdate answers = false := by
  cases answers with
  | nil => rfl
  | cons answer earlier =>
    cases answer with
    | described stackName answer => rfl
    | submitted answer =>
      cases answer with
      | ok done => rfl
      | error x => cases h

/-! ## The state machine -/

section

variable {polls : ℕ}

theorem complete_ready (h : data.lookup "provisioningState" = some (.str "READY")) :
    complete py invokedFunctionArn builtIn polls data =
      announce py invokedFunctionArn builtIn "provisioned" provisionedFields data := by
  cases polls <;> simp [complete, h, Val.asStr?]

theorem complete_failed (h : data.lookup "provisioningState" = some (.str "FAILED")) :
    complete py invokedFunctionArn builtIn polls data =
      announce py invokedFunctionArn builtIn "failed" failedFields data := by
  cases polls <;> simp [complete, h, Val.asStr?]

end

/-- What a result has that an announcement reads. -/
theorem Reports.common (h : Reports py detail now data) {fields : List String}
    (hfields : ∀ field ∈ fields, (data.lookup field).isSome) :
    ∀ field ∈ pollFields ++ fields, (data.lookup field).isSome := by
  obtain ⟨stackName, hstackName, -⟩ := h.stackName
  intro field hfield
  rcases List.mem_append.mp hfield with hfield | hfield
  · simp only [pollFields, List.mem_cons, List.not_mem_nil, or_false] at hfield
    rcases hfield with rfl | rfl | rfl | rfl | rfl
    · rw [h.tenantId]
      rfl
    · exact h.own _ (by simp)
    · exact h.own _ (by simp)
    · exact h.own _ (by simp)
    · rw [hstackName]
      rfl
  · exact hfields field hfield

/-- The outputs of a stack have different names. -/
theorem nodup_stackOutputs (stack : Stack) : ((stackOutputs stack).map Prod.fst).Nodup := by
  refine List.foldlRecOn (motive := fun outputs : Items => (outputs.map Prod.fst).Nodup) stack.outputs _
    List.nodup_nil ?_
  intro outputs hnodup output _
  split
  · exact Py.nodup_setItem _ _ hnodup
  · exact hnodup

theorem Stack.nodup_outputs (stack : Stack) : (stack.standing.outputs.map Prod.fst).Nodup := by
  unfold Stack.standing
  split
  · exact nodup_stackOutputs stack
  · split
    · exact List.nodup_nil
    · exact nodup_stackOutputs stack

/-- So have those that are known of it. -/
theorem nodup_outputs_standing (answers : List CfnAnswer) :
    ((standing answers).outputs.map Prod.fst).Nodup := by
  unfold standing
  split
  · exact List.nodup_nil
  · exact List.nodup_nil
  · exact List.nodup_nil
  · exact List.nodup_nil
  · exact List.nodup_nil
  · rename_i stackName stack rest earlier
    split
    · exact nodup_stackOutputs stack
    · exact stack.nodup_outputs

section

variable {resultType : String} {fields : List String} {entry : Entry} {outputs : Items}
  (hfields : fields = provisionedFields ∨ fields = failedFields)
  (houtputs : data.lookup "outputs" = some (.dict outputs))

include hfields houtputs

/-- The outputs of the data are those of the event that announces it. -/
theorem outputsOf_announcedEvent : outputsOf (announcedEvent resultType fields data) = outputs := by
  have hget : (announcedEvent resultType fields data).get "outputs" = data.get "outputs" := by
    rcases hfields with rfl | rfl <;> rfl
  rw [outputsOf, hget, get_of_found houtputs]
  rfl

/-- A field that is announced is in the detail that is put on the bus, or hidden by an output. -/
theorem shows_announced (hnodup : (outputs.map Prod.fst).Nodup)
    (hentry : completionEntry py (announcedEvent resultType fields data) = .ok entry)
    {field : String} (hfield : field ∈ ["tenantId", "stackName", "stackStatus"]) {value : Val}
    (hfound : data.lookup field = some value) : Shows outputs entry field value := by
  have hof := @outputsOf_announcedEvent data resultType fields outputs hfields houtputs
  have hget : (announcedEvent resultType fields data).get field = data.get field := by
    simp only [List.mem_cons, List.not_mem_nil, or_false] at hfield
    rcases hfields with rfl | rfl <;> rcases hfield with rfl | rfl | rfl <;> rfl
  have hall : ∀ field ∈ ["tenantId", "stackName", "stackStatus"],
      field ∈ ["tenantId", "appId", "tier", "accountId", "stackName", "stackStatus"] := by decide
  rw [Shows, (entry_cases hentry).1, get_completionDetail (hof.symm ▸ hnodup) (hall field hfield),
    hof, hget, get_of_found hfound]

/-- An announcement is about the tenant and its stack. -/
theorem Reports.announces (h : Reports py detail now data) (hnow : now.outputs = outputs)
    (hnodup : (outputs.map Prod.fst).Nodup)
    (hentry : completionEntry py (announcedEvent resultType fields data) = .ok entry)
    (hsaid : now.SaidBy entry) : Announces py detail now entry := by
  obtain ⟨stackName, hstackName, hown⟩ := h.stackName
  subst hnow
  exact ⟨shows_announced hfields houtputs hnodup hentry (by decide) h.tenantId,
    ⟨stackName, hown, shows_announced hfields houtputs hnodup hentry (by decide) hstackName⟩, hsaid⟩

end

/-- The type of an entry that announces a result the workflow names. -/
theorem detailType_announced {resultType : String} {fields : List String} {entry : Entry}
    (hresult : resultType = "provisioned" ∨ resultType = "failed")
    (hentry : completionEntry py (announcedEvent resultType fields data) = .ok entry) :
    detailTypeOf resultType = some entry.detailType := by
  have hof : resultTypeOf (announcedEvent resultType fields data) = resultType :=
    resultTypeOf_eq rfl hresult
  unfold completionEntry at hentry
  rw [hof] at hentry
  split at hentry
  · cases hentry
  · rename_i detailType htype
    cases hentry
    exact htype

/-- A stack that is ready is announced. -/
theorem traced_ready {stack : Stack} (h : Reports py detail (standing (cfnAnswers past)) data)
    (hnow : standing (cfnAnswers past) = .ready stack) :
    (announce py invokedFunctionArn builtIn "provisioned" provisionedFields data).Traced
      (Permits py detail) (Ends py) past := by
  have hstate := h.state
  rw [hnow] at hstate
  obtain ⟨-, hstatus, houtputs⟩ := hstate
  have hnodup := nodup_stackOutputs stack
  refine traced_announce (h.common ?_) (.inl rfl) fun entry hentry => ?_
  · intro field hfield
    simp only [List.mem_cons, List.not_mem_nil, or_false] at hfield
    rcases hfield with rfl | rfl
    · rw [hstatus]
      rfl
    · rw [houtputs]
      rfl
  · have hof := @outputsOf_announcedEvent data "provisioned" _ _ (.inl rfl) houtputs
    refine h.announces (.inl rfl) houtputs (by rw [hnow]; rfl) hnodup hentry ?_
    rw [hnow]
    refine ⟨?_, shows_announced (.inl rfl) houtputs hnodup hentry (by decide) hstatus, ?_⟩
    · exact Option.some.inj (detailType_announced (.inl rfl) hentry).symm
    · intro name value hvalue
      rw [(entry_cases hentry).1]
      exact get_completionDetail_output (hof.symm ▸ hnodup) rfl (by rw [hof]; exact hvalue)

/-- So is one that failed, and a start that was refused. -/
theorem traced_failed (h : Reports py detail (standing (cfnAnswers past)) data)
    (hnow : standing (cfnAnswers past) = .unasked ∨
      ∃ reason outputs, standing (cfnAnswers past) = .failed reason outputs) :
    (announce py invokedFunctionArn builtIn "failed" failedFields data).Traced (Permits py detail) (Ends py)
      past := by
  have hstate := h.state
  have hnodup := nodup_outputs_standing (cfnAnswers past)
  rcases hnow with hnow | ⟨reason, outputs, hnow⟩
  · rw [hnow] at hstate hnodup
    obtain ⟨-, houtputs, hrest⟩ := hstate
    refine traced_announce (h.common ?_) (.inr rfl) fun entry hentry => ?_
    · intro field hfield
      simp only [List.mem_cons, List.not_mem_nil, or_false] at hfield
      rcases hfield with rfl | rfl | rfl
      · exact hrest _ (by simp)
      · exact hrest _ (by simp)
      · rw [houtputs]
        rfl
    · refine h.announces (.inr rfl) houtputs (by rw [hnow]; rfl) hnodup hentry ?_
      rw [hnow]
      exact Option.some.inj (detailType_announced (.inr rfl) hentry).symm
  · rw [hnow] at hstate hnodup
    obtain ⟨-, hreason, houtputs, hstatus⟩ := hstate
    refine traced_announce (h.common ?_) (.inr rfl) fun entry hentry => ?_
    · intro field hfield
      simp only [List.mem_cons, List.not_mem_nil, or_false] at hfield
      rcases hfield with rfl | rfl | rfl
      · exact hstatus
      · rw [hreason]
        rfl
      · rw [houtputs]
        rfl
    · refine h.announces (.inr rfl) houtputs (by rw [hnow]; rfl) hnodup hentry ?_
      rw [hnow]
      refine ⟨Option.some.inj (detailType_announced (.inr rfl) hentry).symm, ?_⟩
      rw [(entry_cases hentry).1]
      apply get_completionDetail_reason
      show data.get "reason" = _
      exact get_of_found hreason

/-- A stack that is not in progress is announced, however often it was polled. -/
theorem traced_settled (polls : ℕ) (h : Reports py detail (standing (cfnAnswers past)) data)
    (hnow : standing (cfnAnswers past) ≠ .inProgress) :
    (complete py invokedFunctionArn builtIn polls data).Traced (Permits py detail) (Ends py) past := by
  have hstate := h.state
  cases hstanding : standing (cfnAnswers past) with
  | ready stack =>
    rw [hstanding] at hstate
    rw [complete_ready hstate.1]
    exact traced_ready h hstanding
  | failed reason outputs =>
    rw [hstanding] at hstate
    rw [complete_failed hstate.1]
    exact traced_failed h (.inr ⟨reason, outputs, hstanding⟩)
  | unasked =>
    rw [hstanding] at hstate
    rw [complete_failed hstate.1]
    exact traced_failed h (.inl hstanding)
  | inProgress => exact absurd hstanding hnow

/-- A poll of a stack in progress is one more wait, one more task, and the choice again. -/
theorem complete_inProgress {polls : ℕ} (h : Reports py detail .inProgress data) :
    complete py invokedFunctionArn builtIn (polls + 1) data =
      .call (.wait 10) fun timeIsUp =>
        if timeIsUp then pure .timedOut
        else task builtIn (lambdaHandler py invokedFunctionArn (pollEvent data)) >>=
          complete py invokedFunctionArn builtIn polls := by
  have hfields : ∀ field ∈ pollFields, (data.lookup field).isSome := by
    intro field hfield
    have hcommon := h.common (fun _ (hmem : _ ∈ ([] : List String)) => absurd hmem (by simp))
    exact hcommon field (List.mem_append_left _ hfield)
  conv_lhs => unfold complete
  simp only [h.state.1, select_eq hfields]
  rfl

/-- The choice, the wait and the poll, as often as they are taken. -/
theorem traced_complete (polls : ℕ) (h : Reports py detail (standing (cfnAnswers past)) data) :
    (complete py invokedFunctionArn builtIn polls data).Traced (Permits py detail) (Ends py) past := by
  by_cases hnow : standing (cfnAnswers past) = .inProgress
  · have hgoing : Reports py detail .inProgress data := hnow ▸ h
    -- On the polls left: after each, the data reports how the stack stands by then.
    induction polls generalizing past data with
    | zero =>
      have htimedOut : complete py invokedFunctionArn builtIn 0 data = pure .timedOut := by
        simp [complete, hgoing.state.1, Val.asStr?]
      rw [htimedOut]
      exact hnow
    | succ polls ih =>
      rw [complete_inProgress hgoing]
      refine ⟨trivial, fun timeIsUp => ?_⟩
      cases timeIsUp with
      | true => exact hnow
      | false =>
        have hunmoved : Unmoved fun past' => nothingToUpdate (cfnAnswers past') = false :=
          unmoved_cfn fun answers => nothingToUpdate answers = false
        have hasked : nothingToUpdate (cfnAnswers (⟨.wait 10, false⟩ :: past)) = false :=
          hunmoved past (.wait 10) false trivial (nothingToUpdate_of_inProgress hnow)
        have hpoll : ∀ past', nothingToUpdate (cfnAnswers past') = false →
            (lambdaHandler py invokedFunctionArn (pollEvent data)).Traced (Permits py detail)
              (fun past'' r =>
                nothingToUpdate (cfnAnswers past'') = false ∧ Done py detail past'' r)
              past' :=
          fun past' hpast' => traced_poll hgoing hpast'
        refine (traced_retrying hunmoved done_unmoved hpoll _ _ hasked).bind ?_ ?_
        · intro past' x hx
          exact stops_of_done hx
        · rintro past' polled ⟨-, hdone | ⟨name, hname⟩⟩
          · by_cases hstill : standing (cfnAnswers past') = .inProgress
            · exact ih hdone hstill (hstill ▸ hdone)
            · exact traced_settled polls hdone hstill
          · cases hname
  · exact traced_settled polls h hnow

end A5cCell.TenantProvisioner
