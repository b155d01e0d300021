import QuantaWatch.Store.Tables

/-!
The gateway's clients of outside services: GitHub, GitLab, Jira and Linear
(`qw-integrations`) and the connectors to cloud providers and clusters (`cloud.rs`).
-/

namespace QuantaWatch.Gateway

open Store

/-- `IntegrationConfig` as a client is made from it. -/
structure IntegrationSettings where
  id : String
  integrationType : String
  baseUrl : Option String
  apiTokenEnv : String
  token : Option String
  defaultProject : Option String
  settings : String → Option String

inductive Integration where
  | github (id : String) (repo : Option String)
  | gitlab (id : String)
  | jira (id : String) (defaultProject : Option String)
  | linear (id : String) (teamId : Option String)

/-- `build_one`. No client is made without a token, and none of Jira without an email and a
base URL. -/
def buildOne (env : String → Option String) (config : IntegrationSettings) : Option Integration :=
  match config.token <|> env config.apiTokenEnv with
  | none => none
  | some _ =>
    if config.integrationType = "github" then
      some (.github config.id (config.settings "repo"))
    else if config.integrationType = "gitlab" then some (.gitlab config.id)
    else if config.integrationType = "jira" then
      if (config.settings "email").isSome && config.baseUrl.isSome then
        some (.jira config.id config.defaultProject)
      else none
    else if config.integrationType = "linear" then
      some (.linear config.id (config.settings "team_id"))
    else none

namespace Integration

def id : Integration → String
  | github id _ => id
  | gitlab id => id
  | jira id _ => id
  | linear id _ => id

/-- Whether `discover_targets` contacts the service. Jira and Linear do not support it. -/
def discovers : Integration → Bool
  | github _ _ => true
  | gitlab _ => true
  | jira _ _ => false
  | linear _ _ => false

/-- Whether `create_remediation` does. GitLab does not support it, and the others need a place
to file in; Linear does not look at the requested project. -/
def files (project : Option String) : Integration → Bool
  | github _ repo => (project <|> repo).isSome
  | gitlab _ => false
  | jira _ defaultProject => (project <|> defaultProject).isSome
  | linear _ teamId => teamId.isSome

/-- Whether `remediation_status` does. -/
def polls : Integration → Bool
  | github _ repo => repo.isSome
  | gitlab _ => false
  | jira _ _ => true
  | linear _ _ => true

/-- Whether `register_webhook` does. -/
def registers : Integration → Bool
  | github _ repo => repo.isSome
  | _ => false

end Integration

/-- `build_integration_registry`, asked for an id: the last client with an id counts. -/
def registered (env : String → Option String) (configs : List IntegrationSettings) (id : String) :
    Option Integration :=
  (configs.filterMap (buildOne env)).reverse.find? fun integration => integration.id = id

structure ConnectionFields where
  integrationType : String
  baseUrl : Option String
  org : Option String
  project : Option String
  repo : Option String

def toConfig (row : ConnectionRow) (fields : ConnectionFields) : IntegrationSettings where
  id := row.id
  integrationType := fields.integrationType
  baseUrl := fields.baseUrl
  apiTokenEnv := ""
  token := some row.token
  defaultProject := fields.project
  settings name :=
    if name = "org" then fields.org else if name = "repo" then fields.repo else none

structure ConnectorConfig where
  connectorType : String
  endpoints : List String
  tags : List String
deriving DecidableEq

namespace ConnectorConfig

variable (connector : ConnectorConfig)

def isPublicCloud : Bool :=
  connector.connectorType = "aws" || connector.connectorType = "azure" ||
    connector.connectorType = "gcp"

def isKubernetes : Bool :=
  connector.connectorType = "kubernetes" || connector.connectorType = "k8s"

def isApiConnector : Bool := connector.isPublicCloud || connector.isKubernetes

def tokenEnv : String :=
  (connector.tags.findSome? fun tag =>
    if "token_env:".toList.isPrefixOf tag.toList then
      some (String.ofList (tag.toList.drop "token_env:".length))
    else none).getD "KUBE_TOKEN"

/-- Whether `discover` contacts the API: it returns early where credentials or endpoints are
missing. `accountToken` says whether the token of a service account can be read. -/
def reaches (env : String → Option String) (accountToken : Bool) : Bool :=
  if connector.connectorType = "aws" then
    (env "AWS_ACCESS_KEY_ID").isSome && (env "AWS_SECRET_ACCESS_KEY").isSome
  else if connector.connectorType = "azure" then
    (env "AZURE_TENANT_ID").isSome && (env "AZURE_CLIENT_ID").isSome &&
      (env "AZURE_CLIENT_SECRET").isSome && connector.endpoints ≠ []
  else if connector.connectorType = "gcp" then
    (env "GCP_ACCESS_TOKEN").isSome && connector.endpoints ≠ []
  else if connector.isKubernetes then
    (connector.endpoints ≠ [] || (env "KUBERNETES_SERVICE_HOST").isSome) &&
      ((env connector.tokenEnv).isSome || accountToken)
  else false

theorem isPublicCloud_of_isKubernetes (kubernetes : connector.isKubernetes = true) :
    connector.isPublicCloud = false := by
  simp only [isKubernetes, Bool.or_eq_true, decide_eq_true_eq] at kubernetes
  rcases kubernetes with type | type <;> simp [isPublicCloud, type]

end ConnectorConfig

end QuantaWatch.Gateway
