import A5cCell.Lib.Prog
import A5cCell.Scripts.AgentManifest

/-!
# Registering an agent

`scripts/register_agent.py`: a version of an agent is put together from its manifest and from what its
deployment left in the parameter store, and posted to the platform API. The command checks the runtime
it found before it posts anything, with the patterns the API and the bridge have too.
-/

namespace A5cCell.Scripts

open Py (Val Items)
open DataAccess

/-! ## What the command talks to -/

/-- A call of the command. -/
inductive RegisterEffect where
  | getParameter (name : String)
  | now
  /-- `~/.platform/credentials`. -/
  | readCredentials
  | requestApi (url method token : String) (body : Items)

/-- What a call is answered; the credentials are there or not, and may be unreadable. -/
abbrev RegisterEffect.Reply : RegisterEffect → Type
  | .getParameter _ => Except Exc String
  | .now => String
  | .readCredentials => Option (Except Exc Val)
  | .requestApi .. => Except Exc Val

abbrev Registering (α : Type) : Type := Prog RegisterEffect RegisterEffect.Reply Exc α

def Registering.ofExcept {α : Type} : Except Exc α → Registering α
  | .ok a => .ret a
  | .error exc => .raise exc

/-- `GitLabSettings`, as far as a registration reads it. -/
structure GitLabSettings where
  commitSha : Option String
  pipelineUrl : Option String
  jobId : Option String

/-- `AgentSettings`, as far as a registration reads it. -/
structure AgentSettings where
  apiBaseUrl : Option String
  viteApiBaseUrl : Option String
  platformAccessToken : Option String
  opsAccessToken : Option String

def AgentSettings.resolvedApiBaseUrl (agents : AgentSettings) : Option String :=
  (Py.truthyText agents.apiBaseUrl).or agents.viteApiBaseUrl

def AgentSettings.resolvedAccessToken (agents : AgentSettings) : Option String :=
  (Py.truthyText agents.platformAccessToken).or agents.opsAccessToken

/-- What the environment of the command says; a region where it is not blank. -/
structure RegisterSettings where
  awsRegion : Option String
  gitlab : GitLabSettings
  agents : AgentSettings

/-- `require_aws_region`. -/
def requireAwsRegion (settings : RegisterSettings) : Except Exc String :=
  match settings.awsRegion with
  | some region => .ok region
  | none => .error (.runtimeError "AWS_REGION must be set")

/-! ## Parameters -/

/-- `get_ssm_param`. -/
def getSsmParam (name : String) : Registering (Option String) :=
  .call (.getParameter name) fun answer => match answer with
    | .ok value => .ret (some value)
    | .error (.clientError code) =>
        if code = "ParameterNotFound" then .ret none else .raise (.clientError code)
    | .error exc => .raise exc

/-- A parameter, or `None` where the answer had none in it. -/
def ssmParamOrNone (name : String) : Registering (Option String) :=
  (getSsmParam name).tryExcept fun exc => match exc with
    | .keyError _ => .ret none
    | exc => .raise exc

/-- The parameters of a runtime endpoint. -/
def runtimeEndpointNames (env : String) : List (String × String) :=
  [("runtimeEndpointArn", "/platform/" ++ env ++ "/agentcore/runtime-endpoint-arn"),
    ("runtimeEndpointName", "/platform/" ++ env ++ "/agentcore/runtime-endpoint-name"),
    ("runtimeEndpointVersion", "/platform/" ++ env ++ "/agentcore/runtime-endpoint-version")]

/-- The parameters that are there, and the keys of those that are not. -/
def readParameters : List (String × String) → Registering (Items × List String)
  | [] => pure ([], [])
  | (key, name) :: names => do
      let value ← ssmParamOrNone name
      let (metadata, missing) ← readParameters names
      match Py.truthyText value with
      | some value => pure ((key, .str value) :: metadata, missing)
      | none => pure (metadata, key :: missing)

/-- `_runtime_endpoint_metadata`. The keys are in order already. -/
def runtimeEndpointMetadata (env : String) : Registering Items := do
  let (metadata, missing) ← readParameters (runtimeEndpointNames env)
  if missing ≠ [] then
    .raise (.runtimeError ("Incomplete runtime endpoint metadata in SSM: missing " ++
      ", ".intercalate missing))
  else pure metadata

/-- `_validate_runtime_endpoint_metadata`, of metadata that is complete where there is any. -/
def validateRuntimeEndpointMetadata (fullmatch : String → String → Option (List (String × String)))
    (runtimeArn : String) (metadata : Items) : Except Exc Unit :=
  if metadata = [] then .ok ()
  else match fullmatch runtimeArnPattern runtimeArn with
    | none => .error (.runtimeError "Runtime endpoint metadata requires a valid runtime ARN")
    | some runtimeMatch =>
        match fullmatch runtimeEndpointArnPattern (metadata.get "runtimeEndpointArn").toStr with
        | none => .error (.runtimeError "Runtime endpoint ARN from SSM is malformed")
        | some endpointMatch =>
            let sameParts := ["partition", "region", "account_id", "runtime_id"].all fun part =>
              endpointMatch.lookup part = runtimeMatch.lookup part
            if !sameParts then
              .error (.runtimeError "Runtime endpoint ARN from SSM does not match runtime ARN")
            else if !Py.startsWith ((endpointMatch.lookup "endpoint_id").getD "")
                ((metadata.get "runtimeEndpointName").toStr ++ "-") then
              .error (.runtimeError
                "Runtime endpoint ARN from SSM does not match runtime endpoint name")
            else .ok ()

/-- What a deployment as a zip file left behind. -/
structure DeployedArtifacts where
  layerHash : String := ""
  layerS3Key : String := ""
  scriptS3Key : String := ""

/-- The artifacts of a deployment, unless one is missing. -/
def readArtifacts (manifest : AgentManifest) (agentName env : String) :
    Registering (Option DeployedArtifacts) := do
  if manifest.deployment.type = "container" then pure (some {})
  else
    let layerHash ← getSsmParam ("/platform/layers/" ++ env ++ "/" ++ agentName ++ "/hash")
    let layerS3Key ← getSsmParam ("/platform/layers/" ++ env ++ "/" ++ agentName ++ "/s3-key")
    let scriptS3Key ←
      getSsmParam ("/platform/agents/" ++ env ++ "/" ++ agentName ++ "/script-s3-key")
    match Py.truthyText layerHash, Py.truthyText layerS3Key, Py.truthyText scriptS3Key with
    | some layerHash, some layerS3Key, some scriptS3Key =>
        pure (some { layerHash := layerHash, layerS3Key, scriptS3Key })
    | _, _, _ => pure none

/-- The metadata of the endpoint, unless it is refused. -/
def readEndpoint (fullmatch : String → String → Option (List (String × String))) (env : String)
    (canonicalRuntimeArn : Option String) (runtimeArn : String) : Registering (Option Items) :=
  Prog.tryExcept
    (do
      let metadata ← runtimeEndpointMetadata env
      if canonicalRuntimeArn = none then pure none
      else
        Registering.ofExcept (validateRuntimeEndpointMetadata fullmatch runtimeArn metadata)
        pure (some metadata))
    fun exc => match exc with
      | .runtimeError _ => .ret none
      | exc => .raise exc

/-! ## The request -/

/-- The body that is posted. -/
def registrationBody (settings : RegisterSettings) (manifest : AgentManifest)
    (agentName runtimeArn deployedAt : String) (artifacts : DeployedArtifacts) (metadata : Items) :
    Items :=
  [("agentName", .str agentName),
    ("version", .str manifest.version),
    ("ownerTeam", .str manifest.ownerTeam),
    ("tierMinimum", .str manifest.tierMinimum.value),
    ("layerHash", .str artifacts.layerHash),
    ("layerS3Key", .str artifacts.layerS3Key),
    ("scriptS3Key", .str artifacts.scriptS3Key),
    ("deployedAt", .str deployedAt),
    ("invocationMode", .str manifest.invocationMode.value),
    ("streamingEnabled", .bool manifest.streamingEnabled),
    ("status", .str "built"),
    ("runtimeArn", .str runtimeArn)] ++ metadata ++
  [("modelId", textVal manifest.llm.modelId),
    ("estimatedDurationSeconds", .int manifest.estimatedDurationSeconds),
    ("commitSha", textVal settings.gitlab.commitSha),
    ("pipelineUrl", textVal settings.gitlab.pipelineUrl),
    ("jobId", textVal settings.gitlab.jobId),
    ("agUi", .dict [("enabled", .bool manifest.agUi.enabled),
      ("transport", .str manifest.agUi.transport.value),
      ("endpoint", textVal manifest.agUi.endpoint)])]

/-- The token of a profile of the credentials. -/
def profileToken (env : String) (credentials : Val) : Val :=
  match credentials with
  | .dict credentials => match Items.get credentials "profiles" (.dict []) with
    | .dict profiles => match Items.get profiles env (.dict []) with
      | .dict profile => Items.get profile "accessToken"
      | _ => .none
    | _ => .none
  | _ => .none

/-- The token of a request, given what the command line says. -/
def resolveToken (settings : RegisterSettings) (env : String) (token : Option String) :
    Registering (Option String) :=
  match Py.truthyText ((Py.truthyText token).or settings.agents.resolvedAccessToken) with
  | some token => pure (some token)
  | none => .call .readCredentials fun answer => match answer with
    | some (.ok credentials) =>
        if (profileToken env credentials).truthy then .ret (some (profileToken env credentials).toStr)
        else .ret none
    | _ => .ret none

/-- `_request_api`; the caller takes any exception for a failure. -/
def requestApi (url method token : String) (body : Items) : Registering Bool :=
  .call (.requestApi url method token body) fun answer => .ret answer.isOk

/-- What is posted where the manifest was loaded. -/
def registerManifest (fullmatch : String → String → Option (List (String × String)))
    (settings : RegisterSettings) (manifest : AgentManifest) (agentName env : String)
    (apiBaseUrl token : Option String) : Registering Bool := do
  let _ ← Registering.ofExcept (requireAwsRegion settings)
  let runtimeArn ←
    getSsmParam ("/platform/agents/" ++ env ++ "/" ++ agentName ++ "/runtime-arn")
  match Py.truthyText runtimeArn with
  | none => pure false
  | some runtimeArn =>
    let canonicalRuntimeArn ← ssmParamOrNone ("/platform/" ++ env ++ "/agentcore/runtime-arn")
    let canonicalRuntimeArn := Py.truthyText canonicalRuntimeArn
    if canonicalRuntimeArn.any (· ≠ runtimeArn) then pure false
    else
      match ← readArtifacts manifest agentName env with
      | none => pure false
      | some artifacts =>
        let deployedAt ← .call .now .ret
        match ← readEndpoint fullmatch env canonicalRuntimeArn runtimeArn with
        | none => pure false
        | some metadata =>
          let body :=
            registrationBody settings manifest agentName runtimeArn deployedAt artifacts metadata
          match Py.truthyText ((Py.truthyText apiBaseUrl).or settings.agents.resolvedApiBaseUrl) with
          | none => pure false
          | some apiUrl =>
            match ← resolveToken settings env token with
            | none => pure false
            | some apiToken =>
              requestApi (Py.rstripChar '/' apiUrl ++ "/v1/platform/agents") "POST" apiToken body

/-- `register_agent`, given what the loader made of the manifest. -/
def registerAgent (fullmatch : String → String → Option (List (String × String)))
    (settings : RegisterSettings) (manifest : Except LoadError AgentManifest) (agentName env : String)
    (apiBaseUrl token : Option String) : Registering Bool :=
  match manifest with
  | .ok manifest => registerManifest fullmatch settings manifest agentName env apiBaseUrl token
  | .error (.invalid _) => pure false
  | .error (.raised exc) => .raise exc

end A5cCell.Scripts
