import A5cCell.Bridge.RoundTrip
import A5cCell.Bridge.RuntimeBindings
import A5cCell.Scripts.ManifestLaws
import A5cCell.Scripts.RegisterAgent

/-!
# From the manifest to the bridge

What the command posts for a manifest that was loaded, the registry checks once more, and the bridge
decodes once the version is promoted. The three agree on the runtime, as they have the same patterns.
They do not agree on all else: the registry takes no `async` agents and has ids of its own for agents,
and the `None` of a field that is left out is a text by the time the registry reads it.
-/

namespace A5cCell.Scripts

open Py (Val Items Dict)
open DataAccess TenantApi
open Bridge.RuntimeBindings Bridge.Discovery

/-! ## What is posted -/

/-- The parameters of a runtime endpoint, as they are posted. -/
def endpointMetadata (binding : RuntimeBinding) : Items :=
  [("runtimeEndpointArn", .str binding.runtimeEndpointArn),
    ("runtimeEndpointName", .str binding.runtimeEndpointName),
    ("runtimeEndpointVersion", .str binding.runtimeEndpointVersion)]

/-- A runtime that the command has checked. -/
structure CheckedRuntime (fullmatch : String → String → Option (List (String × String)))
    (binding : RuntimeBinding) : Prop where
  arn : binding.runtimeArn ≠ ""
  endpointArn : binding.runtimeEndpointArn ≠ ""
  endpointName : binding.runtimeEndpointName ≠ ""
  endpointVersion : binding.runtimeEndpointVersion ≠ ""
  agrees : binding.Matches fullmatch

/-- What is posted, if anything, is such a body. -/
def PostsOnly (Body : Items → Prop) : RegisterEffect → Prop
  | .requestApi _ _ _ body => Body body
  | _ => True

variable {Body : Items → Prop} {fullmatch : String → String → Option (List (String × String))}
  {settings : RegisterSettings} {agentName env runtimeArn : String}

theorem sat_ofExcept {α : Type} {x : Except Exc α} :
    (Registering.ofExcept x).Sat (PostsOnly Body) fun a => x = .ok a := by
  cases x with
  | ok a => exact rfl
  | error exc => trivial

theorem sat_getSsmParam (name : String) : (getSsmParam name).Sat (PostsOnly Body) fun _ => True := by
  refine ⟨trivial, fun answer => ?_⟩
  dsimp only
  split
  · trivial
  · split <;> trivial
  · trivial

theorem sat_ssmParamOrNone (name : String) :
    (ssmParamOrNone name).Sat (PostsOnly Body) fun _ => True := by
  refine (sat_getSsmParam name).tryExcept fun exc => ?_
  split <;> trivial

/-- Where no parameter is missing, each has a text. -/
theorem sat_readParameters (names : List (String × String)) :
    (readParameters names).Sat (PostsOnly Body) fun read => read.2 = [] →
      ∃ texts : List String, texts.length = names.length ∧ (∀ text ∈ texts, text ≠ "") ∧
        read.1 = List.zipWith (fun name text => (name.1, Val.str text)) names texts := by
  induction names with
  | nil => exact fun _ => ⟨[], rfl, by simp, rfl⟩
  | cons name names ih =>
    obtain ⟨key, name⟩ := name
    refine (sat_ssmParamOrNone name).seq fun value => ih.bind fun read hread => ?_
    obtain ⟨metadata, missing⟩ := read
    simp only
    split
    · rename_i value hvalue
      intro hmissing
      obtain ⟨texts, hlength, hne, rfl⟩ := hread hmissing
      obtain ⟨-, hvalue⟩ := Py.truthyText_eq_some.mp hvalue
      exact ⟨value :: texts, congrArg Nat.succ hlength, List.forall_mem_cons.mpr ⟨hvalue, hne⟩, rfl⟩
    · intro hmissing
      cases hmissing

theorem validateRuntimeEndpointMetadata_eq_ok {binding : RuntimeBinding} :
    validateRuntimeEndpointMetadata fullmatch binding.runtimeArn (endpointMetadata binding) = .ok () ↔
      binding.Matches fullmatch := by
  have hsome : endpointMetadata binding ≠ [] := by simp [endpointMetadata]
  have harn : Items.get (endpointMetadata binding) "runtimeEndpointArn" =
    .str binding.runtimeEndpointArn := rfl
  have hname : Items.get (endpointMetadata binding) "runtimeEndpointName" =
    .str binding.runtimeEndpointName := rfl
  unfold validateRuntimeEndpointMetadata RuntimeBinding.Matches
  rw [if_neg hsome, harn, hname, Val.toStr_str, Val.toStr_str]
  cases hruntime : fullmatch runtimeArnPattern binding.runtimeArn with
  | none => simp
  | some runtimeMatch =>
    cases hmatch : fullmatch runtimeEndpointArnPattern binding.runtimeEndpointArn with
    | none => simp
    | some endpointMatch => simp [RuntimeBinding.checked_iff]

/-- Metadata that was read and checked is that of a runtime that was checked. -/
theorem sat_readEndpoint {canonicalRuntimeArn : Option String} (harn : runtimeArn ≠ "") :
    (readEndpoint fullmatch env canonicalRuntimeArn runtimeArn).Sat (PostsOnly Body) fun read =>
      ∀ metadata, read = some metadata → ∃ binding : RuntimeBinding, binding.runtimeArn = runtimeArn ∧
        CheckedRuntime fullmatch binding ∧ metadata = endpointMetadata binding := by
  refine Prog.Sat.tryExcept ?_ fun exc => ?_
  · unfold runtimeEndpointMetadata
    rw [bind_assoc]
    refine (sat_readParameters _).bind fun read hread => ?_
    obtain ⟨metadata, missing⟩ := read
    dsimp only
    by_cases hmissing : missing = []
    · rw [if_neg (not_not.mpr hmissing), pure_bind]
      split
      · intro metadata' hnone
        cases hnone
      · refine sat_ofExcept.bind fun _ hvalid => ?_
        rintro metadata' ⟨⟩
        obtain ⟨texts, hlength, hne, rfl⟩ := hread hmissing
        obtain ⟨arn, name, version, rfl⟩ := List.length_eq_three.mp hlength
        simp only [List.forall_mem_cons] at hne
        exact ⟨⟨runtimeArn, arn, name, version⟩, rfl,
          ⟨harn, hne.1, hne.2.1, hne.2.2.1, validateRuntimeEndpointMetadata_eq_ok.mp hvalid⟩, rfl⟩
    · rw [if_pos hmissing]
      trivial
  · split
    · intro metadata hnone
      cases hnone
    · trivial

theorem sat_readArtifacts {manifest : AgentManifest} :
    (readArtifacts manifest agentName env).Sat (PostsOnly Body) fun _ => True := by
  unfold readArtifacts
  split
  · trivial
  · refine (sat_getSsmParam _).seq fun layerHash => (sat_getSsmParam _).seq fun layerS3Key =>
      (sat_getSsmParam _).seq fun scriptS3Key => ?_
    split <;> trivial

theorem sat_resolveToken {token : Option String} :
    (resolveToken settings env token).Sat (PostsOnly Body) fun _ => True := by
  unfold resolveToken
  split
  · trivial
  · refine ⟨trivial, fun answer => ?_⟩
    dsimp only
    split
    · split <;> trivial
    · trivial

/-- The body of a registration, of a runtime. -/
def postedBody (settings : RegisterSettings) (manifest : AgentManifest) (agentName deployedAt : String)
    (artifacts : DeployedArtifacts) (binding : RuntimeBinding) : Items :=
  registrationBody settings manifest agentName binding.runtimeArn deployedAt artifacts
    (endpointMetadata binding)

/-- The body of a registration of the manifest, of a runtime that was checked. -/
def IsPosted (fullmatch : String → String → Option (List (String × String)))
    (settings : RegisterSettings) (manifest : AgentManifest) (agentName : String) (body : Items) : Prop :=
  ∃ deployedAt artifacts binding, CheckedRuntime fullmatch binding ∧
    body = postedBody settings manifest agentName deployedAt artifacts binding

theorem sat_registerManifest {manifest : AgentManifest} {apiBaseUrl token : Option String} :
    (registerManifest fullmatch settings manifest agentName env apiBaseUrl token).Sat
      (PostsOnly (IsPosted fullmatch settings manifest agentName)) fun _ => True := by
  unfold registerManifest
  refine sat_ofExcept.bind fun _ _ => (sat_getSsmParam _).seq fun runtimeArn => ?_
  split
  · trivial
  rename_i runtimeArn hruntimeArn
  obtain ⟨-, harn⟩ := Py.truthyText_eq_some.mp hruntimeArn
  refine (sat_ssmParamOrNone _).seq fun canonicalRuntimeArn => ?_
  extract_lets canonicalRuntimeArn
  split
  · trivial
  refine sat_readArtifacts.seq fun artifacts => ?_
  split
  · trivial
  rename_i artifacts
  refine ⟨trivial, fun deployedAt => ?_⟩
  refine (sat_readEndpoint harn).bind fun read hread => ?_
  split
  · trivial
  rename_i metadata
  obtain ⟨binding, rfl, hchecked, rfl⟩ := hread metadata rfl
  extract_lets body
  split
  · trivial
  refine sat_resolveToken.seq fun token => ?_
  split
  · trivial
  exact ⟨⟨deployedAt, artifacts, binding, hchecked, rfl⟩, fun _ => trivial⟩

/-! ## What the registry makes of it -/

/-- What `\d` and `\w` hold, of which neither holds a space. -/
structure CharClasses where
  digit : Char → Bool
  word : Char → Bool
  digit_not_space : ∀ c, digit c = true → Py.isSpace c = false
  word_not_space : ∀ c, word c = true → Py.isSpace c = false

/-- The matcher has the two patterns. -/
structure HasPatterns (classes : CharClasses)
    (fullmatch : String → String → Option (List (String × String))) : Prop where
  arn : ∀ text, fullmatch runtimeArnPattern text =
    (runtimeArnRegex classes.digit classes.word).fullmatch text
  endpoint : ∀ text, fullmatch runtimeEndpointArnPattern text =
    (runtimeEndpointArnRegex classes.digit).fullmatch text

/-- Not a space. -/
def NotSpace (c : Char) : Prop := Py.isSpace c = false

theorem notSpace_of_all {text : String} (h : text.toList.all (fun c => !Py.isSpace c) = true) :
    ∀ c ∈ text.toList, NotSpace c := by
  intro c hc
  have hspace := List.all_eq_true.mp h c hc
  simpa [NotSpace] using hspace

/-- The digits and the letters lie between `0` and `z`. -/
theorem notSpace_of_between {c low high : Char} (hlow : low.val ≤ c.val) (hhigh : c.val ≤ high.val)
    (hzero : '0'.toNat ≤ low.toNat) (hz : high.toNat ≤ 'z'.toNat) : NotSpace c := by
  have hlower : 48 ≤ c.toNat := le_trans hzero (UInt32.le_iff_toNat_le.mp hlow)
  have hupper : c.toNat ≤ 122 := le_trans (UInt32.le_iff_toNat_le.mp hhigh) hz
  simp [NotSpace, Py.isSpace]
  omega

theorem notSpace_of_isAlphanum {c : Char} (h : c.isAlphanum = true) : NotSpace c := by
  rcases Bool.or_eq_true_iff.mp h with halpha | hdigit
  · rcases Bool.or_eq_true_iff.mp halpha with hupper | hlower
    · obtain ⟨hlow, hhigh⟩ := of_decide_eq_true hupper
      exact notSpace_of_between hlow hhigh (by decide) (by decide)
    · obtain ⟨hlow, hhigh⟩ := Bool.and_eq_true_iff.mp hlower
      exact notSpace_of_between (of_decide_eq_true hlow) (of_decide_eq_true hhigh) (by decide)
        (by decide)
  · obtain ⟨hlow, hhigh⟩ := Bool.and_eq_true_iff.mp hdigit
    exact notSpace_of_between (of_decide_eq_true hlow) (of_decide_eq_true hhigh) (by decide) (by decide)

theorem isAlphanum_of_isAlpha {c : Char} (h : c.isAlpha = true) : c.isAlphanum = true :=
  Bool.or_eq_true_iff.mpr (.inl h)

theorem isAlphanum_of_isDigit {c : Char} (h : c.isDigit = true) : c.isAlphanum = true :=
  Bool.or_eq_true_iff.mpr (.inr h)

theorem notSpace_of_isRegionChar {c : Char} (h : isRegionChar c = true) : NotSpace c := by
  rcases Bool.or_eq_true_iff.mp h with halphanum | hhyphen
  · rcases Bool.or_eq_true_iff.mp halphanum with hlower | hdigit
    · exact notSpace_of_isAlphanum (isAlphanum_of_isAlpha (Bool.or_eq_true_iff.mpr (.inr hlower)))
    · exact notSpace_of_isAlphanum (isAlphanum_of_isDigit hdigit)
  · rw [eq_of_beq hhyphen]
    rfl

theorem within_runtimeArnRegex (classes : CharClasses) :
    (runtimeArnRegex classes.digit classes.word).Within NotSpace := by
  have hid (c : Char) (h : isRuntimeIdChar classes.word c = true) : NotSpace c := by
    have hmarks : ∀ c ∈ "+=,.@-_/".toList, NotSpace c := notSpace_of_all rfl
    rcases Bool.or_eq_true_iff.mp h with hword | hmark
    · exact classes.word_not_space c hword
    · exact hmarks c (List.contains_iff_mem.mp hmark)
  simp only [runtimeArnRegex, Regex.Within]
  exact ⟨notSpace_of_all rfl, ⟨notSpace_of_all rfl, notSpace_of_all rfl, notSpace_of_all rfl⟩,
    notSpace_of_all rfl, fun _ => notSpace_of_isRegionChar, notSpace_of_all rfl,
    classes.digit_not_space, notSpace_of_all rfl, hid⟩

theorem notSpace_of_isAsciiWord {c : Char} (h : isAsciiWord c = true) : NotSpace c := by
  rcases Bool.or_eq_true_iff.mp h with halphanum | hunderscore
  · exact notSpace_of_isAlphanum halphanum
  · rw [eq_of_beq hunderscore]
    rfl

theorem within_namedIdRegex (most : Nat) : (namedIdRegex most).Within NotSpace := by
  have hhyphen : ∀ c ∈ "-".toList, NotSpace c := notSpace_of_all rfl
  exact ⟨fun _ h => notSpace_of_isAlphanum (isAlphanum_of_isAlpha h),
    fun _ => notSpace_of_isAsciiWord, hhyphen, fun _ => notSpace_of_isAlphanum⟩

theorem within_runtimeEndpointArnRegex (classes : CharClasses) :
    (runtimeEndpointArnRegex classes.digit).Within NotSpace := by
  simp only [runtimeEndpointArnRegex, Regex.Within]
  exact ⟨notSpace_of_all rfl, ⟨notSpace_of_all rfl, notSpace_of_all rfl, notSpace_of_all rfl⟩,
    notSpace_of_all rfl, fun _ => notSpace_of_isRegionChar, notSpace_of_all rfl,
    classes.digit_not_space, notSpace_of_all rfl, within_namedIdRegex 99, notSpace_of_all rfl,
    within_namedIdRegex 47⟩

theorem mem_of_lookup {groups : List (String × String)} {name text : String}
    (h : groups.lookup name = some text) : (name, text) ∈ groups := by
  obtain ⟨before, after, rfl, -⟩ := List.lookup_eq_some_iff.mp h
  simp

/-- The texts of a runtime that was checked have no spaces, but for its version. -/
theorem stated_of_checked {classes : CharClasses} (hpatterns : HasPatterns classes fullmatch)
    {binding : RuntimeBinding} (h : CheckedRuntime fullmatch binding) :
    Stated binding.runtimeArn ∧ Stated binding.runtimeEndpointArn ∧
      Stated binding.runtimeEndpointName := by
  obtain ⟨runtimeMatch, endpointMatch, hruntime, hendpoint, -, hname⟩ := h.agrees
  rw [hpatterns.arn] at hruntime
  rw [hpatterns.endpoint] at hendpoint
  have harn := (Regex.within_of_fullmatch (within_runtimeArnRegex classes) hruntime).1
  obtain ⟨hendpointArn, hgroups⟩ :=
    Regex.within_of_fullmatch (within_runtimeEndpointArnRegex classes) hendpoint
  refine ⟨⟨h.arn, Py.strip_eq_self harn⟩, ⟨h.endpointArn, Py.strip_eq_self hendpointArn⟩,
    h.endpointName, Py.strip_eq_self fun c hc => ?_⟩
  -- the name starts the id of the endpoint, which is a group
  have hfront := (List.isPrefixOf_iff_prefix.mp hname).subset
  rw [String.toList_append] at hfront
  have hmem := hfront (List.mem_append_left _ hc)
  cases hid : endpointMatch.lookup "endpoint_id" with
  | none =>
    rw [hid] at hmem
    cases hmem
  | some endpointId =>
    rw [hid] at hmem
    exact hgroups _ (mem_of_lookup hid) c hmem

/-- What the registry takes of what is posted. -/
structure Supported (manifest : AgentManifest) (agentName : String) (body : Items) : Prop where
  mode : manifest.invocationMode ≠ .async
  name : ∃ name, canonicalTenantId (.str agentName) = .ok name
  endpointVersion : fieldText body "runtimeEndpointVersion" ≠ ""

section

variable {toml : Toml} {manifest : AgentManifest} {binding : RuntimeBinding}
  {artifacts : DeployedArtifacts} {deployedAt : String} {py : Python} {event body item row : Items}
  {name nowIso : String} {classes : CharClasses}

theorem bodyInvocationMode_postedBody :
    bodyInvocationMode (postedBody settings manifest agentName deployedAt artifacts binding) =
      manifest.invocationMode.value := by
  have hget : Items.get (postedBody settings manifest agentName deployedAt artifacts binding)
      "invocationMode" (.str "sync") = .str manifest.invocationMode.value := rfl
  rw [bodyInvocationMode, hget]
  cases manifest.invocationMode <;> decide

theorem initialStatusOf_postedBody :
    initialStatusOf (postedBody settings manifest agentName deployedAt artifacts binding) =
      .ok .built := by
  have hget : Items.get (postedBody settings manifest agentName deployedAt artifacts binding) "status" =
    .str "built" := rfl
  rw [initialStatusOf, hget]
  rfl

/-- The runtime as it is registered. -/
def registeredBinding (binding : RuntimeBinding) : RuntimeBinding :=
  { binding with runtimeEndpointVersion := Py.strip binding.runtimeEndpointVersion }

variable (hbody : body = postedBody settings manifest agentName deployedAt artifacts binding)

include hbody

theorem fieldText_version (hvalid : manifest.Valid toml agentName) :
    fieldText body "version" = manifest.version := by
  rw [hbody]
  exact hvalid.version.1

variable (hpatterns : HasPatterns classes py.fullmatch) (hchecked : CheckedRuntime py.fullmatch binding)

include hpatterns hchecked

/-- The runtime fields of the item are those of the runtime. -/
theorem lookup_registeredBinding
    (hitem : registeredItem body name (fieldText body "version") nowIso (bodyInvocationMode body) .built =
      .ok item) :
    ∀ field ∈ (registeredBinding binding).item, item.lookup field.1 = some field.2 := by
  obtain ⟨harn, hendpoint, hname⟩ := stated_of_checked hpatterns hchecked
  have hfields := lookup_runtimeField hitem
  subst hbody
  simp only [registeredRuntimeFields, List.forall_mem_cons] at hfields
  obtain ⟨hruntime, hruntimeEndpoint, hruntimeName, hruntimeVersion, -⟩ := hfields
  simp only [RuntimeBinding.item, registeredBinding, List.forall_mem_cons]
  refine ⟨hruntime.trans ?_, hruntimeEndpoint.trans ?_, hruntimeName.trans ?_, hruntimeVersion, by simp⟩
  · exact congrArg (some ∘ Val.str) harn.2
  · exact congrArg (some ∘ Val.str) hendpoint.2
  · exact congrArg (some ∘ Val.str) hname.2

/-- **The checks of the registry.** They pass what is supported. -/
theorem isRegistration_of_supported (hvalid : manifest.Valid toml agentName)
    (hread : requireJsonBody py event = .ok body) (hsupported : Supported manifest agentName body)
    (hname : canonicalTenantId (.str agentName) = .ok name) (nowIso : String) :
    ∃ item, IsRegistration py event body item name nowIso := by
  obtain ⟨harn, hendpoint, hendpointName⟩ := stated_of_checked hpatterns hchecked
  obtain ⟨item, hitem⟩ : ∃ item, registeredItem body name (fieldText body "version") nowIso
      (bodyInvocationMode body) .built = .ok item := by
    subst hbody
    exact ⟨_, rfl⟩
  have hfields := lookup_registeredBinding hbody hpatterns hchecked hitem
  have hruntime : fieldText item "runtime_arn" = binding.runtimeArn :=
    RuntimeBinding.fieldText_eq (hfields _ List.mem_cons_self) harn
  have hversion : Stated (Py.strip binding.runtimeEndpointVersion) := by
    refine ⟨?_, Py.strip_strip _⟩
    have hblank := hsupported.endpointVersion
    rw [hbody] at hblank
    exact hblank
  refine ⟨item, {
    readBody := hread
    canonicalName := by rw [hbody]; exact hname
    hasVersion := by rw [fieldText_version hbody hvalid]; exact hvalid.version.2
    supportedMode := ?_
    readItem := hitem
    layer := by rw [validateLayerMetadataInvariants, hruntime, if_pos harn.1]
    endpoint := ?_ }⟩
  · have hmode := hsupported.mode
    rw [hbody, bodyInvocationMode_postedBody]
    cases hkind : manifest.invocationMode with
    | sync => exact .inl rfl
    | streaming => exact .inr rfl
    | async => exact absurd hkind hmode
  · have hstated : (registeredBinding binding).IsStated :=
      ⟨harn, hendpoint, hendpointName, hversion⟩
    exact (RuntimeBinding.validateRuntimeEndpointInvariants_iff hstated hfields).mpr hchecked.agrees

/-- The checks of the registry pass nothing else. -/
theorem supported_of_isRegistration (hreg : IsRegistration py event body item name nowIso) :
    Supported manifest agentName body where
  mode := by
    have hmode := hreg.supportedMode
    rw [hbody, bodyInvocationMode_postedBody] at hmode
    intro hasync
    rw [hasync] at hmode
    revert hmode
    decide
  name := by
    have hname := hreg.canonicalName
    rw [hbody] at hname
    exact ⟨name, hname⟩
  endpointVersion := by
    intro hblank
    obtain ⟨-, hendpoint, hendpointName⟩ := stated_of_checked hpatterns hchecked
    have hfields := lookup_registeredBinding hbody hpatterns hchecked hreg.readItem
    simp only [RuntimeBinding.item, registeredBinding, List.forall_mem_cons] at hfields
    have harnText := RuntimeBinding.fieldText_eq hfields.2.1 hendpoint
    have hnameText := RuntimeBinding.fieldText_eq hfields.2.2.1 hendpointName
    have hversionText : fieldText item "runtime_endpoint_version" = "" := by
      have hstrip : Py.strip binding.runtimeEndpointVersion = "" := by
        rw [hbody] at hblank
        exact hblank
      rw [fieldText, Items.get, hfields.2.2.2.1, hstrip]
      rfl
    have hmissing : runtimeEndpointFields.partition (fun field => fieldText item field.1 = "") =
        ([("runtime_endpoint_version", "runtimeEndpointVersion")],
          [("runtime_endpoint_arn", "runtimeEndpointArn"),
            ("runtime_endpoint_name", "runtimeEndpointName")]) := by
      simp [runtimeEndpointFields, List.partition_eq_filter_filter, harnText, hnameText, hversionText,
        hendpoint.1, hendpointName.1]
    have hcheck := hreg.endpoint
    rw [validateRuntimeEndpointInvariants, hmissing] at hcheck
    cases hcheck

end

/-! ## The runs of the registry -/

section

variable {py : Python} {event body item : Items} {caller : CallerIdentity} {agentName : String}

/-- The agents of the platform are no rows of another tenant. -/
theorem putItem_registered {tenantId table name version nowIso mode : String}
    (h : registeredItem body name version nowIso mode .built = .ok item) :
    (Client.tenantScoped tenantId).putItem table item = issue (putRequest table item) := by
  have hpk : item.get "PK" (.str "") = .str ("AGENT#" ++ name) := by
    rw [Items.get, lookup_registeredBase h rfl]
    rfl
  have hown : isForeignPk tenantId ("AGENT#" ++ name) = false := by
    simp [isForeignPk, Py.startsWith, tenantPkPrefix]
  have hvalid : (Client.tenantScoped tenantId).validatePk item = .ok () := by
    rw [Client.validatePk, hpk]
    simp [hown]
  rw [Client.putItem, hvalid]
  rfl

theorem ofExcept_bind {α β : Type} {x : Except Exc α} {a : α} (h : x = .ok a) (f : α → Api β) :
    Api.ofExcept x >>= f = f a := by
  rw [h]
  rfl

/-- A body that passes every check is put, in every run. -/
theorem puts_of_isRegistration (hadmin : caller.isAdmin = true)
    (hplatform : caller.isPlatformActor = true) (hstatus : initialStatusOf body = .ok .built)
    (hreg : ∀ nowIso, ∃ item, IsRegistration py event body item agentName nowIso) {σ : Type}
    (serve : σ → (e : Effect) → e.Reply × σ) (s : σ) :
    ∃ item, Effect.db (putRequest (agentsTableName py) item) ∈
      (Prog.run serve s (handleRegisterAgent py event caller)).calls := by
  obtain ⟨item, h⟩ := hreg (py.isoUtc (serve s .now).1)
  have hrole : requireAdmin caller = .ok () := if_pos hadmin
  have hactor : requirePlatformActor caller = .ok () := if_pos hplatform
  have hscope : requireTenantScopeAllowed ((Py.truthyText caller.tenantId).getD "platform") caller =
      .ok () := if_pos hplatform
  have hnow (f : Instant → Api Response) : (Prog.run serve s (Api.now >>= f)).calls =
      .now :: (Prog.run serve (serve s .now).2 (f (serve s .now).1)).calls := rfl
  refine ⟨item, ?_⟩
  -- the checks before the clock is read
  rw [handleRegisterAgent, ofExcept_bind hrole, ofExcept_bind hactor,
    ofExcept_bind h.readBody, ofExcept_bind h.canonicalName]
  extract_lets version invocationMode
  have hmode : invocationMode = "sync" ∨ invocationMode = "streaming" := h.supportedMode
  rw [if_neg h.hasVersion, ofExcept_bind hstatus, dbForTenant, bind_assoc, ofExcept_bind hscope,
    pure_bind, hnow]
  -- and those after it
  extract_lets nowIso
  have hitem : registeredItem body agentName version nowIso invocationMode .built = .ok item :=
    h.readItem
  rw [if_neg (not_not.mpr hmode), ofExcept_bind hitem, ofExcept_bind h.layer,
    ofExcept_bind h.endpoint, putItem_registered hitem]
  exact List.mem_cons_of_mem _ List.mem_cons_self

/-- Only a body that passes every check is put. -/
theorem isRegistration_of_put {σ : Type} {serve : σ → (e : Effect) → e.Reply × σ} {s : σ}
    (h : Effect.db (putRequest (agentsTableName py) item) ∈
      (Prog.run serve s (handleRegisterAgent py event caller)).calls) : Registers py event item := by
  have htraced : Prog.Traced (RegistryCall py (Registers py event)) (fun _ _ => True) []
      (handleRegisterAgent py event caller) := traced_handleRegisterAgent
  have hsat : (handleRegisterAgent py event caller).Sat
      (fun e => ∃ past, RegistryCall py (Registers py event) past e) fun _ => True :=
    htraced.sat fun past e h => ⟨past, h⟩
  obtain ⟨past, hcall⟩ := Prog.run_calls hsat s _ h
  exact hcall.puts

end

/-! ## What the bridge reads of it -/

/-- The record says what the manifest says, of the runtime: the model is lost, and an endpoint of the
    user interface that was left out has the text of `None`. -/
structure SaysManifest (manifest : AgentManifest) (binding : RuntimeBinding) (name : String)
    (agent : AgentVersion) : Prop where
  agentName : agent.agentName = name
  version : agent.version = manifest.version
  ownerTeam : agent.ownerTeam = manifest.ownerTeam
  tierMinimum : agent.tierMinimum = manifest.tierMinimum
  invocationMode : agent.invocationMode = manifest.invocationMode
  streamingEnabled : agent.streamingEnabled = manifest.streamingEnabled
  estimatedDurationSeconds : agent.estimatedDurationSeconds = .int manifest.estimatedDurationSeconds
  runtime : (registeredBinding binding).NamedBy agent
  modelId : agent.modelId = none
  agUiEnabled : agent.agUi.enabled = manifest.agUi.enabled
  agUiTransport : agent.agUi.transport = manifest.agUi.transport
  agUiEndpoint : agent.agUi.endpoint = some (shownText manifest.agUi.endpoint)

section

variable {toml : Toml} {manifest : AgentManifest} {binding : RuntimeBinding}
  {artifacts : DeployedArtifacts} {deployedAt agentName : String} {py : Python}
  {event body item row : Items} {name nowIso : String} {classes : CharClasses}
  {settings : RegisterSettings}

theorem unlessBlank_of_ne {text text' : String} (hne : text' ≠ "") (h : text = text') :
    unlessBlank text = some text' := by
  rw [h]
  exact Py.truthyText_eq_some.mpr ⟨rfl, hne⟩

theorem toStr_textVal (text : Option String) : (textVal text).toStr = shownText text := by
  cases text <;> rfl

/-- The text of `None` is a text like another. -/
theorem trimmed_shownText {text : Option String} (h : ∀ t ∈ text, Trimmed t) :
    Trimmed (shownText text) := by
  cases text with
  | none => exact ⟨by decide, by decide⟩
  | some t => exact h t rfl

theorem lookup_duration
    (hbody : body = postedBody settings manifest agentName deployedAt artifacts binding)
    (hitem : registeredItem body name (fieldText body "version") nowIso (bodyInvocationMode body) .built =
      .ok item) :
    item.lookup "estimated_duration_seconds" = some (.int manifest.estimatedDurationSeconds) := by
  subst hbody
  rw [← Except.ok.inj hitem]
  rfl

/-- **What the bridge decodes** of a version that was registered and promoted. -/
theorem decoded_of_isRegistration
    (hbody : body = postedBody settings manifest agentName deployedAt artifacts binding)
    (hpatterns : HasPatterns classes py.fullmatch) (hchecked : CheckedRuntime py.fullmatch binding)
    (hvalid : manifest.Valid toml agentName)
    (hreg : IsRegistration py event body item name nowIso) (hsame : SameArtifact item row)
    (hpromoted : row.get "status" = .str "promoted") :
    ∃ agent, agentRecordFromItem row = .ok agent ∧ SaysManifest manifest binding name agent := by
  -- What the script posts is what the handler reads back out of the body, once its checks passed.
  have hsupported := supported_of_isRegistration hbody hpatterns hchecked hreg
  obtain ⟨harn, hendpoint, hendpointName⟩ := stated_of_checked hpatterns hchecked
  have hversion : Py.strip binding.runtimeEndpointVersion ≠ "" := by
    have hblank := hsupported.endpointVersion
    rw [hbody] at hblank
    exact hblank
  have htier : bodyTierMinimum body = manifest.tierMinimum.value := by
    rw [hbody]
    exact (trimmed_tier _).1
  have htransport : bodyAgUiTransport body = manifest.agUi.transport.value := by
    rw [hbody]
    exact (trimmed_transport _).1
  have hmode : bodyInvocationMode body = manifest.invocationMode.value := by
    rw [hbody, bodyInvocationMode_postedBody]
  have hruntimeText : fieldText body "runtimeArn" = binding.runtimeArn := by
    rw [hbody]
    exact harn.2
  refine ⟨_, (agentRecordFromItem_registered hreg hsame hpromoted).mpr
    ⟨.inl (by rw [hruntimeText]; exact harn.1), manifest.tierMinimum, manifest.invocationMode,
      manifest.agUi.transport, ?_, ?_, ?_, rfl⟩, ?_⟩
  · rw [htier]
    exact TenantTier.ofValue?_eq_some.mpr rfl
  · rw [hmode]
    exact InvocationMode.ofValue?_value _
  · rw [htransport]
    exact AgUiTransport.ofValue?_value _
  -- The three enumerations are read; what is left is the record, field by field.
  · have hagUi := agUiItem_registered hreg hsame
    have hruntime := optionalText_registered hreg hsame
    exact {
      agentName := by
        show textOr row "agent_name" "" = name
        rw [textOr, get_registered hreg hsame _ rfl (by decide)]
        rfl
      version := by
        show textOr row "version" "" = _
        rw [textOr, get_registered hreg hsame _ rfl (by decide), ← fieldText_version hbody hvalid]
        rfl
      ownerTeam := by
        show textOr row "owner_team" "" = _
        rw [textOr, get_registered hreg hsame _ rfl (by decide), hbody]
        exact hvalid.ownerTeam.1
      tierMinimum := rfl
      invocationMode := rfl
      streamingEnabled := by
        show (row.get "streaming_enabled" (.bool false)).truthy = _
        rw [get_registered hreg hsame _ rfl (by decide), hbody]
        rfl
      estimatedDurationSeconds := by
        show row.get "estimated_duration_seconds" = _
        rw [get_of_sameArtifact hsame _ (by decide), Items.get, lookup_duration hbody hreg.readItem]
        rfl
      runtime := by
        refine ⟨(hruntime ("runtimeArn", "runtime_arn") (by decide)).trans ?_,
          (hruntime ("runtimeEndpointArn", "runtime_endpoint_arn") (by decide)).trans ?_,
          (hruntime ("runtimeEndpointName", "runtime_endpoint_name") (by decide)).trans ?_,
          (hruntime ("runtimeEndpointVersion", "runtime_endpoint_version") (by decide)).trans ?_⟩
        · exact unlessBlank_of_ne harn.1 hruntimeText
        · exact unlessBlank_of_ne hendpoint.1 (by rw [hbody]; exact hendpoint.2)
        · exact unlessBlank_of_ne hendpointName.1 (by rw [hbody]; exact hendpointName.2)
        · exact unlessBlank_of_ne hversion (by rw [hbody]; rfl)
      modelId := rfl
      agUiEnabled := by
        show ((agUiItem row).get "enabled" (.bool false)).truthy = _
        rw [hagUi, hbody]
        rfl
      agUiTransport := rfl
      agUiEndpoint := by
        show optionalText (agUiItem row) "endpoint" = _
        have hendpoint := trimmed_shownText hvalid.endpoint
        have hposted : bodyAgUiEndpoint body = shownText manifest.agUi.endpoint := by
          refine Eq.trans ?_ hendpoint.1
          rw [hbody, bodyAgUiEndpoint, ← toStr_textVal]
          rfl
        rw [hagUi, optionalText]
        show (optionVal (unlessBlank (bodyAgUiEndpoint body))).strOrNone = _
        rw [unlessBlank_of_ne hendpoint.2 hposted]
        exact (Val.strOrNone_eq (by simp [optionVal])).trans (unlessBlank_of_ne hendpoint.2 hendpoint.1) }

end

/-! ## The whole way -/

theorem valid_of_loadAgentManifest {toml : Toml} {agentName tomlPath : String} {file : ManifestFile}
    {manifest : AgentManifest} (h : loadAgentManifest toml agentName tomlPath file = .ok manifest) :
    manifest.Valid toml agentName := by
  cases file with
  | missing => cases h
  | undecodable message => cases h
  | table data => exact valid_of_readManifest (loadAgentManifest_eq_ok.mp h)

theorem sat_registerAgent {toml : Toml} {tomlPath : String} {file : ManifestFile}
    {apiBaseUrl token : Option String} :
    (registerAgent fullmatch settings (loadAgentManifest toml agentName tomlPath file) agentName env
      apiBaseUrl token).Sat (PostsOnly fun body => ∃ manifest,
        loadAgentManifest toml agentName tomlPath file = .ok manifest ∧
          IsPosted fullmatch settings manifest agentName body) fun _ => True := by
  cases hload : loadAgentManifest toml agentName tomlPath file with
  | ok manifest =>
    refine sat_registerManifest.mono (fun e he => ?_) fun _ => id
    cases e with
    | requestApi url method token body => exact ⟨manifest, rfl, he⟩
    | _ => trivial
  | error exc => cases exc <;> trivial

/-- **From the manifest to the bridge.** Whatever the file of a manifest and the parameter store hold,
    what the command posts is of a manifest that was loaded, and of a runtime the bridge accepts. The
    registry puts it, in any run of an administrator of the platform, exactly where the agent is not
    `async`, its name is a canonical id and the version of its endpoint is not blank; and once the
    version is promoted, the bridge decodes a record that says what the manifest says. -/
theorem registration_reaches_bridge {classes : CharClasses} {py : Python}
    {surroundings : Bridge.Surroundings} (hpatterns : HasPatterns classes py.fullmatch)
    (hbridge : surroundings.fullmatch = py.fullmatch) (toml : Toml) (agentName tomlPath : String)
    (file : ManifestFile) (settings : RegisterSettings) (env : String) (apiBaseUrl token : Option String)
    {σ : Type} (serve : σ → (e : RegisterEffect) → e.Reply × σ) (s : σ)
    {url method apiToken : String} {body : Items}
    (hposted : .requestApi url method apiToken body ∈ (Prog.run serve s (registerAgent py.fullmatch
      settings (loadAgentManifest toml agentName tomlPath file) agentName env apiBaseUrl token)).calls) :
    ∃ manifest binding, loadAgentManifest toml agentName tomlPath file = .ok manifest ∧
      binding.AcceptedByBridge surroundings ∧
      ∀ {event : Items} {caller : CallerIdentity}, requireJsonBody py event = .ok body →
        caller.isAdmin = true → caller.isPlatformActor = true →
        ∀ {τ : Type} (serve' : τ → (e : Effect) → e.Reply × τ) (t : τ),
          ((∃ item, Effect.db (putRequest (agentsTableName py) item) ∈
              (Prog.run serve' t (handleRegisterAgent py event caller)).calls) ↔
            Supported manifest agentName body) ∧
          ∀ item row, Effect.db (putRequest (agentsTableName py) item) ∈
              (Prog.run serve' t (handleRegisterAgent py event caller)).calls →
            SameArtifact item row → row.get "status" = .str "promoted" →
            ∃ agent name, canonicalTenantId (.str agentName) = .ok name ∧
              agentRecordFromItem row = .ok agent ∧ SaysManifest manifest binding name agent := by
  obtain ⟨manifest, hload, deployedAt, artifacts, binding, hchecked, hbody⟩ :=
    Prog.run_calls sat_registerAgent s _ hposted
  have hvalid := valid_of_loadAgentManifest hload
  refine ⟨manifest, binding, hload, ?_, ?_⟩
  · rw [RuntimeBinding.acceptedByBridge_iff, hbridge]
    exact hchecked.agrees
  intro event caller hread hadmin hplatform τ serve' t
  -- what was put was checked as the body that was posted
  have hregistered {item : Items} (hput : Effect.db (putRequest (agentsTableName py) item) ∈
      (Prog.run serve' t (handleRegisterAgent py event caller)).calls) :
      ∃ name nowIso, IsRegistration py event body item name nowIso := by
    obtain ⟨body', name, nowIso, hreg⟩ := isRegistration_of_put hput
    cases hread.symm.trans hreg.readBody
    exact ⟨name, nowIso, hreg⟩
  refine ⟨⟨?_, ?_⟩, ?_⟩
  · rintro ⟨item, hput⟩
    obtain ⟨name, nowIso, hreg⟩ := hregistered hput
    exact supported_of_isRegistration hbody hpatterns hchecked hreg
  · intro hsupported
    obtain ⟨name, hname⟩ := hsupported.name
    have hstatus : initialStatusOf body = .ok .built := by
      rw [hbody]
      exact initialStatusOf_postedBody
    have hreg := isRegistration_of_supported hbody hpatterns hchecked hvalid hread hsupported hname
    exact puts_of_isRegistration hadmin hplatform hstatus hreg serve' t
  · intro item row hput hsame hpromoted
    obtain ⟨name, nowIso, hreg⟩ := hregistered hput
    obtain ⟨agent, hagent, hsays⟩ :=
      decoded_of_isRegistration hbody hpatterns hchecked hvalid hreg hsame hpromoted
    have hname := hreg.canonicalName
    rw [hbody] at hname
    exact ⟨agent, name, hname, hagent, hsays⟩

/-! ## An agent that makes the whole way -/

/-- The manifest of the echo agent, deployed as a container. -/
def echoManifest : AgentManifest where
  projectName := "echo"
  version := "1.0.0"
  name := "echo"
  ownerTeam := "platform"
  tierMinimum := .basic
  handler := "handler:main"
  invocationMode := .sync
  streamingEnabled := false
  estimatedDurationSeconds := 5
  deployment := ⟨"container"⟩
  runtime := ⟨none, "http", 8080⟩
  llm := ⟨none, none⟩
  evaluations := ⟨.number (4 / 5), defaultEvaluationRegion⟩
  agUi := ⟨false, .sse, none⟩

/-- No floats. -/
def plainToml : Toml where
  typeName _ := "float"
  float _ := none

theorem echoManifest_valid : echoManifest.Valid plainToml "echo" where
  directory := ⟨by decide, by decide⟩
  projectName := rfl
  name := rfl
  version := ⟨by decide, by decide⟩
  ownerTeam := ⟨by decide, by decide⟩
  handler := ⟨by decide, by decide⟩
  function := by decide
  duration := by decide
  modelId := by simp [echoManifest]
  maxTokens := by simp [echoManifest]
  deployment := .inr ⟨rfl, .inl rfl⟩
  entrypoint := by simp [echoManifest]
  port := rfl
  threshold := by
    constructor <;> norm_num
  written := .inl rfl
  region := ⟨by decide, by decide⟩
  agUi := by simp [echoManifest]
  endpoint := by simp [echoManifest]

def devSettings : RegisterSettings where
  awsRegion := some "eu-west-2"
  gitlab := ⟨none, none, none⟩
  agents := ⟨some "https://api.example.test", none, some "token", none⟩

/-- What a deployment of the echo agent left in the parameter store. -/
def echoParameters : List (String × String) :=
  [("/platform/agents/dev/echo/runtime-arn", echoBinding.runtimeArn),
    ("/platform/dev/agentcore/runtime-arn", echoBinding.runtimeArn),
    ("/platform/dev/agentcore/runtime-endpoint-arn", echoBinding.runtimeEndpointArn),
    ("/platform/dev/agentcore/runtime-endpoint-name", echoBinding.runtimeEndpointName),
    ("/platform/dev/agentcore/runtime-endpoint-version", echoBinding.runtimeEndpointVersion)]

def serveEcho (s : Unit) : (e : RegisterEffect) → e.Reply × Unit
  | .getParameter name => (match echoParameters.lookup name with
      | some value => .ok value
      | none => .error (.clientError "ParameterNotFound"), s)
  | .now => ("2026-01-01T00:00:00+00:00", s)
  | .readCredentials => (none, s)
  | .requestApi .. => (.ok .none, s)

def asciiClasses : CharClasses where
  digit := Char.isDigit
  word := isAsciiWord
  digit_not_space _ h := notSpace_of_isAlphanum (isAlphanum_of_isDigit h)
  word_not_space _ := notSpace_of_isAsciiWord

/-- The body that is posted for it. -/
def echoBody : Items :=
  postedBody devSettings echoManifest "echo" "2026-01-01T00:00:00+00:00" {} echoBinding

/-- A library that reads the body that is posted. -/
def echoPython : Python := { readsBody echoBody with fullmatch := asciiFullmatch }

theorem hasPatterns_ascii : HasPatterns asciiClasses asciiFullmatch := by
  have hne : runtimeEndpointArnPattern ≠ runtimeArnPattern := by decide +kernel
  refine ⟨fun text => ?_, fun text => ?_⟩
  · rw [asciiFullmatch, if_pos rfl, asciiClasses]
  · rw [asciiFullmatch, if_neg hne, if_pos rfl, asciiClasses]

set_option maxRecDepth 20000 in
/-- It is posted after six other calls. -/
theorem echo_posted :
    .requestApi "https://api.example.test/v1/platform/agents" "POST" "token" echoBody ∈
      (Prog.run serveEcho () (registerAgent asciiFullmatch devSettings (.ok echoManifest) "echo" "dev"
        none none)).calls :=
  List.mem_of_getElem? (i := 6) rfl

theorem echo_reaches_bridge :
    ∃ (manifest : AgentManifest) (binding : RuntimeBinding),
      loadAgentManifest plainToml "echo" "pyproject.toml" (.table (echoManifest.render [])) =
        .ok manifest ∧ binding.AcceptedByBridge asciiRuntime ∧
      ∃ item, Effect.db (putRequest (agentsTableName echoPython) item) ∈
        (Prog.run (quiet Dynamo.rowByRow).serve (Dict.empty, ())
          (handleRegisterAgent echoPython registration platformAdmin)).calls := by
  have hfullmatch : echoPython.fullmatch = asciiFullmatch := by rw [echoPython]
  have hloaded : loadAgentManifest plainToml "echo" "pyproject.toml"
      (.table (echoManifest.render [])) = .ok echoManifest :=
    loadAgentManifest_eq_ok.mpr (passes_render echoManifest_valid (by simp) rfl)
  have hsupported : Supported echoManifest "echo" echoBody :=
    { mode := by decide, name := ⟨"echo", rfl⟩, endpointVersion := by decide }
  obtain ⟨manifest, binding, hload, haccepted, hregistry⟩ := @registration_reaches_bridge asciiClasses
    echoPython asciiRuntime (hfullmatch ▸ hasPatterns_ascii) hfullmatch.symm plainToml "echo"
    "pyproject.toml" (.table (echoManifest.render [])) devSettings "dev" none none Unit serveEcho ()
    _ _ _ echoBody (by rw [hfullmatch, hloaded]; exact echo_posted)
  cases hload.symm.trans hloaded
  exact ⟨_, binding, hload, haccepted,
    (@hregistry registration platformAdmin rfl rfl rfl _ _ _).1.mpr hsupported⟩

end A5cCell.Scripts
