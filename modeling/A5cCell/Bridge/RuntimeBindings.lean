import A5cCell.Bridge.AuditedOnce
import A5cCell.Lib.Regex
import A5cCell.TenantApi.AgentRegistry

/-!
# Runtime bindings

The registry and the bridge each check the runtime a version names, and the bridge moves a runtime ARN
to the region that is active. The ARN pattern is taken apart here: a text it matches is put together of
one partition, region, account and runtime only, so the groups of a match are what the text says.
-/

namespace A5cCell.Bridge.RuntimeBindings

open Py (Val Items)
open DataAccess TenantApi RuntimeCalls

/-! ## The pattern -/

def partitionTexts : List String := ["aws", "aws-us-gov", "aws-cn"]

def serviceText : String := "bedrock-agentcore"

/-- `[a-z0-9-]`. -/
def isRegionChar (c : Char) : Bool := c.isLower || c.isDigit || c == '-'

/-- What `[a-z0-9-]+` matches. -/
def IsRegion (region : String) : Prop := region ≠ "" ∧ ∀ c ∈ region.toList, isRegionChar c = true

/-- `[\w+=,.@\-_/]`, for what `\w` holds. -/
def isRuntimeIdChar (word : Char → Bool) (c : Char) : Bool :=
  word c || "+=,.@-_/".toList.contains c

/-- `RUNTIME_ARN_PATTERN`, for what `\d` and `\w` hold. -/
def runtimeArnRegex (digit word : Char → Bool) : Regex :=
  .seq (.text "arn:".toList) <|
  .seq (.group "partition"
    (.alt (.text "aws".toList) (.alt (.text "aws-us-gov".toList) (.text "aws-cn".toList)))) <|
  .seq (.text ":bedrock-agentcore:".toList) <|
  .seq (.group "region" (.span isRegionChar 1 none)) <|
  .seq (.text ":".toList) <|
  .seq (.group "account_id" (.span digit 12 (some 12))) <|
  .seq (.text ":runtime/".toList) <|
  .group "runtime_id" (.span (isRuntimeIdChar word) 1 none)

/-- The parts of a runtime ARN. -/
structure RuntimeArn (digit word : Char → Bool) where
  partition : String
  region : String
  accountId : String
  runtimeId : String
  partition_mem : partition ∈ partitionTexts
  isRegion : IsRegion region
  accountId_digits : ∀ c ∈ accountId.toList, digit c = true
  accountId_length : accountId.toList.length = 12
  runtimeId_chars : ∀ c ∈ runtimeId.toList, isRuntimeIdChar word c = true
  runtimeId_ne : runtimeId ≠ ""

namespace RuntimeArn

variable {digit word : Char → Bool}

/-- What comes before the region. -/
def front (arn : RuntimeArn digit word) : String :=
  "arn:" ++ arn.partition ++ ":" ++ serviceText ++ ":"

/-- What comes after the region. -/
def back (arn : RuntimeArn digit word) : String :=
  ":" ++ arn.accountId ++ ":runtime/" ++ arn.runtimeId

def text (arn : RuntimeArn digit word) : String := arn.front ++ arn.region ++ arn.back

def groups (arn : RuntimeArn digit word) : List (String × String) :=
  [("partition", arn.partition), ("region", arn.region), ("account_id", arn.accountId),
    ("runtime_id", arn.runtimeId)]

def inRegion (arn : RuntimeArn digit word) (region : String) (h : IsRegion region) :
    RuntimeArn digit word :=
  { arn with region := region, isRegion := h }

/-! ## The fields of an ARN -/

theorem partition_sep (arn : RuntimeArn digit word) : ':' ∉ arn.partition.toList := by
  have hall : ∀ text ∈ partitionTexts, ':' ∉ text.toList := by decide
  exact hall _ arn.partition_mem

theorem region_sep (arn : RuntimeArn digit word) : ':' ∉ arn.region.toList := by
  intro h
  exact absurd (arn.isRegion.2 ':' h) (by decide)

theorem toList_text (arn : RuntimeArn digit word) : arn.text.toList =
    "arn".toList ++ ':' :: (arn.partition.toList ++ ':' :: (serviceText.toList ++ ':' ::
      (arn.region.toList ++ ':' :: (arn.accountId.toList ++ ("runtime/".toList.cons ':' ++
        arn.runtimeId.toList))))) := by
  simp [text, front, back]

/-- A text has one partition, region, account and runtime. -/
theorem groups_eq_of_text {arn arn' : RuntimeArn digit word} (h : arn.text = arn'.text) :
    arn.groups = arn'.groups := by
  have hlist := congrArg String.toList h
  rw [toList_text, toList_text] at hlist
  have hfields := (List.cons.inj (List.append_cancel_left hlist)).2
  obtain ⟨hpartition, hfields⟩ :=
    Py.append_cons_inj_left arn.partition_sep arn'.partition_sep hfields
  have hfields := (List.cons.inj (List.append_cancel_left hfields)).2
  obtain ⟨hregion, hfields⟩ := Py.append_cons_inj_left arn.region_sep arn'.region_sep hfields
  obtain ⟨haccount, hfields⟩ :=
    List.append_inj hfields (by rw [arn.accountId_length, arn'.accountId_length])
  have hruntime := List.append_cancel_left hfields
  rw [groups, groups, String.toList_inj.mp hpartition, String.toList_inj.mp hregion,
    String.toList_inj.mp haccount, String.toList_inj.mp hruntime]

/-! ## The match -/

theorem partition_of_takes {before taken rest : List Char} {groups : List (String × String)}
    (h : (Regex.alt (.text "aws".toList) (.alt (.text "aws-us-gov".toList)
      (.text "aws-cn".toList))).Takes before taken rest groups) :
    groups = [] ∧ String.ofList taken ∈ partitionTexts := by
  simp only [Regex.Takes] at h
  obtain ⟨hgroups, htaken⟩ | ⟨hgroups, htaken⟩ | ⟨hgroups, htaken⟩ := h
  all_goals
    refine ⟨hgroups, ?_⟩
    rw [htaken, String.ofList_toList]
    simp [partitionTexts]

/-- What the pattern matches is an ARN, and the groups are its parts. -/
theorem exists_of_fullmatch {s : String} {groups : List (String × String)}
    (h : (runtimeArnRegex digit word).fullmatch s = some groups) :
    ∃ arn : RuntimeArn digit word, s = arn.text ∧ groups = arn.groups := by
  have htakes := Regex.takes_of_fullmatch h
  -- the alternative of the partition is taken apart on its own
  obtain ⟨_, _, _, _, hs, hgroups, ⟨rfl, rfl⟩, _, _, _, _, rfl, rfl,
    ⟨_, rfl, hpartition⟩, _, _, _, _, rfl, rfl, ⟨rfl, rfl⟩,
    region, _, _, _, rfl, rfl, ⟨_, rfl, rfl, hregion, hregionmin, -⟩,
    _, _, _, _, rfl, rfl, ⟨rfl, rfl⟩,
    account, _, _, _, rfl, rfl, ⟨_, rfl, rfl, haccount, haccountmin, haccountmax⟩,
    _, runtime, _, _, rfl, rfl, ⟨rfl, rfl⟩, _, rfl, rfl, hruntime, hruntimemin, -⟩ := htakes
  obtain ⟨rfl, hmem⟩ := partition_of_takes hpartition
  refine ⟨⟨_, String.ofList region, String.ofList account, String.ofList runtime, hmem, ⟨?_, ?_⟩,
    ?_, ?_, ?_, ?_⟩, ?_, ?_⟩
  · intro h
    rw [String.ofList_eq_empty_iff.mp h] at hregionmin
    exact absurd hregionmin (by simp)
  · simpa using hregion
  · simpa using haccount
  · rw [String.toList_ofList]
    exact Nat.le_antisymm (haccountmax 12 rfl) haccountmin
  · simpa using hruntime
  · intro h
    rw [String.ofList_eq_empty_iff.mp h] at hruntimemin
    exact absurd hruntimemin (by simp)
  · apply String.toList_inj.mp
    rw [hs]
    simp [text, front, back, serviceText]
  · simpa [RuntimeArn.groups] using hgroups

theorem takes_partition (arn : RuntimeArn digit word) (before rest : List Char) :
    (Regex.alt (.text "aws".toList) (.alt (.text "aws-us-gov".toList)
      (.text "aws-cn".toList))).Takes before arn.partition.toList rest [] := by
  have hmem := arn.partition_mem
  simp only [partitionTexts, List.mem_cons, List.not_mem_nil, or_false] at hmem
  simp only [Regex.Takes, true_and, String.toList_inj]
  exact hmem

theorem takes_text (arn : RuntimeArn digit word) :
    (runtimeArnRegex digit word).Takes [] arn.text.toList [] arn.groups := by
  have htext : arn.text.toList = "arn:".toList ++ (arn.partition.toList ++
      (":bedrock-agentcore:".toList ++ (arn.region.toList ++ (":".toList ++ (arn.accountId.toList ++
        (":runtime/".toList ++ arn.runtimeId.toList)))))) := by
    simp [text, front, back, serviceText]
  have hgroup (name part : String) :
      [(name, part)] = [] ++ [(name, String.ofList part.toList)] := by
    rw [String.ofList_toList, List.nil_append]
  have hne {part : String} (h : part ≠ "") : 1 ≤ part.toList.length :=
    List.length_pos_of_ne_nil (by simpa using h)
  rw [htext]
  refine ⟨_, _, [], _, rfl, rfl, ⟨rfl, rfl⟩, ?_⟩
  refine ⟨_, _, [_], _, rfl, rfl, ⟨_, hgroup _ _, arn.takes_partition _ _⟩, ?_⟩
  refine ⟨_, _, [], _, rfl, rfl, ⟨rfl, rfl⟩, ?_⟩
  refine ⟨_, _, [_], _, rfl, rfl, ⟨_, hgroup _ _, rfl, arn.isRegion.2, hne arn.isRegion.1, ?_⟩, ?_⟩
  · intro n hn
    cases hn
  refine ⟨_, _, [], _, rfl, rfl, ⟨rfl, rfl⟩, ?_⟩
  refine ⟨_, _, [_], _, rfl, rfl,
    ⟨_, hgroup _ _, rfl, arn.accountId_digits, arn.accountId_length.ge, ?_⟩, ?_⟩
  · intro n hn
    cases hn
    exact arn.accountId_length.le
  refine ⟨_, _, [], _, rfl, rfl, ⟨rfl, rfl⟩, ?_⟩
  refine ⟨_, hgroup _ _, rfl, arn.runtimeId_chars, hne arn.runtimeId_ne, ?_⟩
  intro n hn
  cases hn

/-- Every ARN is matched, and the groups are its parts. -/
theorem fullmatch_text (arn : RuntimeArn digit word) :
    (runtimeArnRegex digit word).fullmatch arn.text = some arn.groups := by
  obtain ⟨groups, hgroups⟩ := Regex.exists_fullmatch arn.takes_text
  obtain ⟨arn', htext, hparts⟩ := exists_of_fullmatch hgroups
  rw [hgroups, hparts, groups_eq_of_text htext]

/-! ## Another region -/

/-- The bridge's rewriting of an ARN is the ARN in the other region. -/
theorem replaceFirst_text (arn : RuntimeArn digit word) (hpartition : arn.region ≠ arn.partition)
    (hservice : arn.region ≠ serviceText) {region : String} (hregion : IsRegion region) :
    Py.replaceFirst arn.text (":" ++ arn.region ++ ":") (":" ++ region ++ ":") =
      (arn.inRegion region hregion).text := by
  have hold : (":" ++ arn.region ++ ":").toList = ':' :: (arn.region.toList ++ [':']) := by simp
  have hne {part : String} (h : arn.region ≠ part) : part.toList ≠ arn.region.toList := by
    intro hpart
    exact h (String.toList_inj.mp hpart.symm)
  apply String.toList_inj.mp
  rw [Py.replaceFirst, String.toList_ofList, hold, toList_text,
    Py.replaceFirstAux_front _ (by decide),
    Py.replaceFirstAux_field arn.partition_sep arn.region_sep (hne hpartition),
    Py.replaceFirstAux_field (by decide) arn.region_sep (hne hservice),
    Py.replaceFirstAux_name, toList_text]
  simp [inRegion]

end RuntimeArn

/-! ## Bindings -/

/-- A runtime, and the endpoint of it a version names. -/
structure RuntimeBinding where
  runtimeArn : String
  runtimeEndpointArn : String
  runtimeEndpointName : String
  runtimeEndpointVersion : String

/-- Not empty, and without outer whitespace. -/
def Stated (text : String) : Prop := text ≠ "" ∧ Py.strip text = text

theorem stated_of_all {text : String} (hne : text ≠ "")
    (h : text.toList.all (fun c => !Py.isSpace c) = true) : Stated text := by
  refine ⟨hne, Py.strip_eq_self ?_⟩
  intro c hc
  simpa using List.all_eq_true.mp h c hc

namespace RuntimeBinding

def IsStated (binding : RuntimeBinding) : Prop :=
  Stated binding.runtimeArn ∧ Stated binding.runtimeEndpointArn ∧
    Stated binding.runtimeEndpointName ∧ Stated binding.runtimeEndpointVersion

/-- The fields a version with the binding is registered under. -/
def item (binding : RuntimeBinding) : Items :=
  [("runtime_arn", .str binding.runtimeArn),
    ("runtime_endpoint_arn", .str binding.runtimeEndpointArn),
    ("runtime_endpoint_name", .str binding.runtimeEndpointName),
    ("runtime_endpoint_version", .str binding.runtimeEndpointVersion)]

/-- The binding matches the patterns, and names an endpoint of its own runtime. -/
def Matches (fullmatch : String → String → Option (List (String × String)))
    (binding : RuntimeBinding) : Prop :=
  ∃ runtimeMatch endpointMatch, fullmatch runtimeArnPattern binding.runtimeArn = some runtimeMatch ∧
    fullmatch runtimeEndpointArnPattern binding.runtimeEndpointArn = some endpointMatch ∧
    (["partition", "region", "account_id", "runtime_id"].all fun part =>
      decide (endpointMatch.lookup part = runtimeMatch.lookup part)) = true ∧
    Py.startsWith ((endpointMatch.lookup "endpoint_id").getD "")
      (binding.runtimeEndpointName ++ "-") = true

/-- The bridge's two checks accept the binding. -/
def AcceptedByBridge (env : Surroundings) (binding : RuntimeBinding) : Prop :=
  ∃ runtimeArnMatch qualifier, validateRuntimeArn env binding.runtimeArn = .ok runtimeArnMatch ∧
    validateRuntimeEndpoint env runtimeArnMatch (some binding.runtimeEndpointArn)
      (some binding.runtimeEndpointName) = .ok qualifier

theorem fieldText_eq {item : Items} {field text : String} (h : item.lookup field = some (.str text))
    (htext : Stated text) : fieldText item field = text := by
  rw [fieldText, Items.get, h]
  exact htext.2

theorem checked_iff {ε α : Type} {refuses : Prop} [Decidable refuses] {e : ε} {x : Except ε α} {a : α} :
    (if refuses then .error e else x) = Except.ok a ↔ ¬ refuses ∧ x = .ok a := by
  by_cases hrefuses : refuses <;> simp [hrefuses]

theorem validateRuntimeEndpointInvariants_iff {py : Python} {binding : RuntimeBinding}
    (hbinding : binding.IsStated) {item : Items}
    (hitem : ∀ field ∈ binding.item, item.lookup field.1 = some field.2) :
    validateRuntimeEndpointInvariants py item = .ok () ↔ binding.Matches py.fullmatch := by
  simp only [RuntimeBinding.item, List.forall_mem_cons, List.not_mem_nil, false_implies,
    implies_true, and_true] at hitem
  obtain ⟨harn, hendpoint, hname, hversion⟩ := hbinding
  have harnText := fieldText_eq hitem.1 harn
  have hendpointText := fieldText_eq hitem.2.1 hendpoint
  have hnameText := fieldText_eq hitem.2.2.1 hname
  have hversionText := fieldText_eq hitem.2.2.2 hversion
  have hconfigured : runtimeEndpointFields.partition (fun field => fieldText item field.1 = "") =
      ([], runtimeEndpointFields) := by
    simp [runtimeEndpointFields, List.partition_eq_filter_filter, hendpointText, hnameText,
      hversionText, hendpoint.1, hname.1, hversion.1]
  unfold validateRuntimeEndpointInvariants RuntimeBinding.Matches
  rw [hconfigured, harnText, hendpointText, hnameText]
  cases hruntime : py.fullmatch runtimeArnPattern binding.runtimeArn with
  | none => simp [runtimeEndpointFields, hruntime]
  | some runtimeMatch =>
    cases hmatch : py.fullmatch runtimeEndpointArnPattern binding.runtimeEndpointArn with
    | none => simp [runtimeEndpointFields, hruntime]
    | some endpointMatch => simp [runtimeEndpointFields, hruntime, checked_iff]

theorem acceptedByBridge_iff {env : Surroundings} {binding : RuntimeBinding} :
    binding.AcceptedByBridge env ↔ binding.Matches env.fullmatch := by
  unfold AcceptedByBridge RuntimeBinding.Matches validateRuntimeArn validateRuntimeEndpoint
  cases hruntime : env.fullmatch runtimeArnPattern binding.runtimeArn with
  | none => simp
  | some runtimeMatch =>
    cases hmatch : env.fullmatch runtimeEndpointArnPattern binding.runtimeEndpointArn with
    | none => simp [hmatch]
    | some endpointMatch => simp [hmatch, checked_iff]

/-- The endpoint a binding is accepted with is the one it names. -/
theorem qualifier_of_accepted {env : Surroundings} {runtimeArnMatch : List (String × String)}
    {endpointArn endpointName : String} {qualifier : Option String}
    (h : validateRuntimeEndpoint env runtimeArnMatch (some endpointArn) (some endpointName) =
      .ok qualifier) : qualifier = some endpointName := by
  unfold validateRuntimeEndpoint at h
  simp only at h
  split at h
  · cases h
  · rw [checked_iff, checked_iff] at h
    exact (Except.ok.inj h.2.2).symm

/-- A version names the binding. -/
def NamedBy (binding : RuntimeBinding) (agent : AgentVersion) : Prop :=
  agent.runtimeArn = some binding.runtimeArn ∧
    agent.runtimeEndpointArn = some binding.runtimeEndpointArn ∧
    agent.runtimeEndpointName = some binding.runtimeEndpointName ∧
    agent.runtimeEndpointVersion = some binding.runtimeEndpointVersion

end RuntimeBinding

/-! ## The runtime the bridge calls -/

/-- The ARN the bridge calls a runtime of the region `own` under, where another region is active. -/
def movedTo (region runtimeArn own : String) : String :=
  Py.replaceFirst runtimeArn (":" ++ own ++ ":") (":" ++ region ++ ":")

theorem agentOptionalString_of_stated {text : String} (h : Stated text) :
    agentOptionalString (some text) = some text := by
  rw [agentOptionalString, Option.bind_some, Val.strOrNone_eq (by simp), Val.toStr, h.2,
    Py.truthyText_eq_some]
  exact ⟨rfl, h.1⟩

section

variable {env : Surroundings} {inv : AgentInvocation} {runtimeArnMatch : List (String × String)}

/-- In the region of the ARN, the bridge calls the runtime of a binding where its checks accept it. -/
theorem resolveRuntime_own {binding : RuntimeBinding} (hbinding : binding.IsStated)
    (hnamed : binding.NamedBy inv.agent)
    (hmatch : validateRuntimeArn env binding.runtimeArn = .ok runtimeArnMatch)
    (hregion : runtimeArnMatch.lookup "region" = some env.runtimeRegion) :
    resolveRuntime env inv = .ok (binding.runtimeArn, some binding.runtimeEndpointName) ↔
      binding.AcceptedByBridge env := by
  obtain ⟨harn, hendpoint, hname, -⟩ := hbinding
  obtain ⟨harn', hendpoint', hname', -⟩ := hnamed
  have hchecked : resolveRuntime env inv =
      ((validateRuntimeEndpoint env runtimeArnMatch (some binding.runtimeEndpointArn)
        (some binding.runtimeEndpointName)).mapError
          (fun message => .respond (invalidRuntime inv message))).map
        (binding.runtimeArn, ·) := by
    simp only [resolveRuntime, harn', hendpoint', hname', agentOptionalString_of_stated harn,
      agentOptionalString_of_stated hendpoint, agentOptionalString_of_stated hname, hmatch, hregion,
      Except.mapError, bind, Except.bind, Option.getD_some, ne_eq, not_true, if_false, pure,
      Except.pure]
    rfl
  rw [hchecked]
  constructor
  · intro h
    cases hok : validateRuntimeEndpoint env runtimeArnMatch (some binding.runtimeEndpointArn)
        (some binding.runtimeEndpointName) with
    | error message =>
      rw [hok] at h
      cases h
    | ok qualifier => exact ⟨runtimeArnMatch, qualifier, hmatch, hok⟩
  · intro h
    obtain ⟨accepted, qualifier, haccepted, hok⟩ := h
    cases hmatch.symm.trans haccepted
    rw [hok, RuntimeBinding.qualifier_of_accepted hok]
    rfl

/-- In another region, a runtime without an endpoint is called under the moved ARN. -/
theorem resolveRuntime_other {runtimeArn own : String} {movedMatch : List (String × String)}
    (hnamed : agentOptionalString inv.agent.runtimeArn = some runtimeArn)
    (hendpoint : agentOptionalString inv.agent.runtimeEndpointArn = none)
    (hname : agentOptionalString inv.agent.runtimeEndpointName = none)
    (hmatch : validateRuntimeArn env runtimeArn = .ok runtimeArnMatch)
    (hregion : runtimeArnMatch.lookup "region" = some own) (hne : own ≠ env.runtimeRegion)
    (hmoved : validateRuntimeArn env (movedTo env.runtimeRegion runtimeArn own) = .ok movedMatch) :
    resolveRuntime env inv = .ok (movedTo env.runtimeRegion runtimeArn own, none) := by
  unfold movedTo at hmoved ⊢
  simp only [resolveRuntime, hnamed, hendpoint, hname, hmatch, hregion, hne, hmoved, Except.mapError,
    bind, Except.bind, Option.getD_some, ne_eq, not_false_eq_true, not_true, if_true, if_false, pure,
    Except.pure, validateRuntimeEndpoint]

end

/-! ## The registry and the bridge -/

/-- What moving an ARN to another region comes to. -/
structure Moved (env : Surroundings) (region runtimeArn : String)
    (runtimeArnMatch : List (String × String)) (moved : String) : Prop where
  accepted : ∃ movedMatch, validateRuntimeArn env moved = .ok movedMatch ∧
    movedMatch.lookup "region" = some region ∧
    ∀ part, part ≠ "region" → movedMatch.lookup part = runtimeArnMatch.lookup part
  text : ∃ front own back, runtimeArnMatch.lookup "region" = some own ∧
    runtimeArn = front ++ own ++ back ∧ moved = front ++ region ++ back

theorem movedTo_moved {digit word : Char → Bool} {env : Surroundings}
    (harn : ∀ text, env.fullmatch runtimeArnPattern text = (runtimeArnRegex digit word).fullmatch text)
    {runtimeArn own : String} {runtimeArnMatch : List (String × String)}
    (hmatch : validateRuntimeArn env runtimeArn = .ok runtimeArnMatch)
    (hregion : runtimeArnMatch.lookup "region" = some own)
    (hpartition : runtimeArnMatch.lookup "partition" ≠ some own) (hservice : own ≠ serviceText)
    {region : String} (hname : IsRegion region) :
    Moved env region runtimeArn runtimeArnMatch (movedTo region runtimeArn own) := by
  have hfull : (runtimeArnRegex digit word).fullmatch runtimeArn = some runtimeArnMatch := by
    rw [← harn]
    unfold validateRuntimeArn at hmatch
    split at hmatch
    · cases hmatch
    · rename_i hmatch'
      cases hmatch
      exact hmatch'
  obtain ⟨arn, rfl, rfl⟩ := RuntimeArn.exists_of_fullmatch hfull
  obtain rfl : arn.region = own := Option.some.inj hregion
  have hmoved := arn.replaceFirst_text (fun h => hpartition (congrArg some h.symm)) hservice hname
  rw [movedTo, hmoved]
  refine ⟨⟨(arn.inRegion region hname).groups, ?_, rfl, ?_⟩, arn.front, arn.region, arn.back, rfl,
    rfl, rfl⟩
  · rw [validateRuntimeArn, harn, RuntimeArn.fullmatch_text]
  · intro part hpart
    have hbeq : (part == "region") = false := by simpa using hpart
    simp [RuntimeArn.groups, RuntimeArn.inRegion, List.lookup_cons, hbeq]

/-- The registry accepts a binding exactly where the bridge does, which then calls the runtime in its
    own region; and the ARN the bridge makes for another region differs in the region only. -/
theorem registry_agrees_with_bridge {digit word : Char → Bool} {py : Python} {env : Surroundings}
    (hre : py.fullmatch = env.fullmatch)
    (harn : ∀ text, env.fullmatch runtimeArnPattern text = (runtimeArnRegex digit word).fullmatch text) :
    (∀ binding : RuntimeBinding, binding.IsStated →
      ∀ item : Items, (∀ field ∈ binding.item, item.lookup field.1 = some field.2) →
        (validateRuntimeEndpointInvariants py item = .ok () ↔ binding.AcceptedByBridge env) ∧
        ∀ inv runtimeArnMatch, binding.NamedBy inv.agent →
          validateRuntimeArn env binding.runtimeArn = .ok runtimeArnMatch →
          runtimeArnMatch.lookup "region" = some env.runtimeRegion →
            (validateRuntimeEndpointInvariants py item = .ok () ↔ resolveRuntime env inv =
              .ok (binding.runtimeArn, some binding.runtimeEndpointName))) ∧
    ∀ runtimeArn runtimeArnMatch own, validateRuntimeArn env runtimeArn = .ok runtimeArnMatch →
      runtimeArnMatch.lookup "region" = some own → runtimeArnMatch.lookup "partition" ≠ some own →
      own ≠ serviceText → ∀ region, IsRegion region →
        Moved env region runtimeArn runtimeArnMatch (movedTo region runtimeArn own) ∧
        ∀ inv : AgentInvocation, own ≠ region → env.runtimeRegion = region →
          agentOptionalString inv.agent.runtimeArn = some runtimeArn →
          agentOptionalString inv.agent.runtimeEndpointArn = none →
          agentOptionalString inv.agent.runtimeEndpointName = none →
            resolveRuntime env inv = .ok (movedTo region runtimeArn own, none) := by
  constructor
  · intro binding hbinding item hitem
    have haccepted : validateRuntimeEndpointInvariants py item = .ok () ↔
        binding.AcceptedByBridge env := by
      rw [RuntimeBinding.validateRuntimeEndpointInvariants_iff hbinding hitem,
        RuntimeBinding.acceptedByBridge_iff, hre]
    refine ⟨haccepted, ?_⟩
    intro inv runtimeArnMatch hnamed hmatch hregion
    rw [haccepted, resolveRuntime_own hbinding hnamed hmatch hregion]
  · intro runtimeArn runtimeArnMatch own hmatch hregion hpartition hservice region hname
    have hmoved := movedTo_moved harn hmatch hregion hpartition hservice hname
    refine ⟨hmoved, ?_⟩
    intro inv hne henv hnamed hendpoint hendpointName
    obtain ⟨⟨movedMatch, hmovedMatch, -⟩, -⟩ := hmoved
    subst henv
    exact resolveRuntime_other hnamed hendpoint hendpointName hmatch hregion hne hmovedMatch

/-! ## A binding of the sample tenant -/

def isAsciiWord (c : Char) : Bool := c.isAlphanum || c == '_'

/-- `[A-Za-z][A-Za-z0-9_]{0,most}-[A-Za-z0-9]{10}`. -/
def namedIdRegex (most : Nat) : Regex :=
  .seq (.span Char.isAlpha 1 (some 1)) <| .seq (.span isAsciiWord 0 (some most)) <|
  .seq (.text "-".toList) (.span Char.isAlphanum 10 (some 10))

/-- `RUNTIME_ENDPOINT_ARN_PATTERN`, for what `\d` holds. -/
def runtimeEndpointArnRegex (digit : Char → Bool) : Regex :=
  .seq (.text "arn:".toList) <|
  .seq (.group "partition"
    (.alt (.text "aws".toList) (.alt (.text "aws-us-gov".toList) (.text "aws-cn".toList)))) <|
  .seq (.text ":bedrock-agentcore:".toList) <|
  .seq (.group "region" (.span isRegionChar 1 none)) <|
  .seq (.text ":".toList) <|
  .seq (.group "account_id" (.span digit 12 (some 12))) <|
  .seq (.text ":runtime/".toList) <|
  .seq (.group "runtime_id" (namedIdRegex 99)) <|
  .seq (.text "/runtime-endpoint/".toList) <|
  .group "endpoint_id" (namedIdRegex 47)

/-- The two patterns, on texts of ASCII characters. -/
def asciiFullmatch (pattern text : String) : Option (List (String × String)) :=
  if pattern = runtimeArnPattern then (runtimeArnRegex Char.isDigit isAsciiWord).fullmatch text
  else if pattern = runtimeEndpointArnPattern then
    (runtimeEndpointArnRegex Char.isDigit).fullmatch text
  else none

def echoBinding : RuntimeBinding where
  runtimeArn := "arn:aws:bedrock-agentcore:eu-west-2:111122223333:runtime/echo-0123456789"
  runtimeEndpointArn := "arn:aws:bedrock-agentcore:eu-west-2:111122223333:runtime/echo-0123456789" ++
    "/runtime-endpoint/live-0123456789"
  runtimeEndpointName := "live"
  runtimeEndpointVersion := "1"

def asciiPython : Python := { KnownTexts.python {} with fullmatch := asciiFullmatch }

def asciiRuntime : Surroundings :=
  { RouteAdapter.answeringRuntime none with fullmatch := asciiFullmatch }

theorem registry_agrees_with_bridge_echo :
    (validateRuntimeEndpointInvariants asciiPython echoBinding.item = .ok () ↔
      echoBinding.AcceptedByBridge asciiRuntime) ∧
    Moved asciiRuntime "us-east-1" echoBinding.runtimeArn
      [("partition", "aws"), ("region", "eu-west-2"), ("account_id", "111122223333"),
        ("runtime_id", "echo-0123456789")]
      "arn:aws:bedrock-agentcore:us-east-1:111122223333:runtime/echo-0123456789" := by
  have harn (text : String) : asciiRuntime.fullmatch runtimeArnPattern text =
      (runtimeArnRegex Char.isDigit isAsciiWord).fullmatch text := by
    simp [asciiRuntime, asciiFullmatch]
  obtain ⟨hbinding, hmoved⟩ := @registry_agrees_with_bridge Char.isDigit isAsciiWord asciiPython
    asciiRuntime rfl harn
  have hstated : echoBinding.IsStated :=
    ⟨stated_of_all (by decide) (by decide), stated_of_all (by decide) (by decide),
      stated_of_all (by decide) (by decide), stated_of_all (by decide) (by decide)⟩
  have hregion : IsRegion "us-east-1" :=
    ⟨by decide, fun c hc => List.all_eq_true.mp (by decide) c hc⟩
  have hmatch : validateRuntimeArn asciiRuntime echoBinding.runtimeArn =
      .ok [("partition", "aws"), ("region", "eu-west-2"), ("account_id", "111122223333"),
        ("runtime_id", "echo-0123456789")] := by
    rw [validateRuntimeArn, harn]
    rfl
  constructor
  · refine (hbinding echoBinding hstated echoBinding.item ?_).1
    simp [RuntimeBinding.item, List.lookup_cons]
  · exact (hmoved _ _ "eu-west-2" hmatch rfl (by decide) (by decide) "us-east-1" hregion).1

end A5cCell.Bridge.RuntimeBindings
