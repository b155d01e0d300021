import QuantaWatch.Gateway.Auth

/-!
Sign-in through an OIDC provider (`qw-gateway/src/oidc.rs`).
-/

namespace QuantaWatch.Gateway

open Crypto Lib Lib.Encoding Store

structure OidcConfig where
  clientId : String
  redirectUri : String
  appUrl : String
  groupsClaim : String
  adminGroup : Option String
  operatorGroup : Option String
  orgClaim : Option String
  defaultOrg : String

def claimedGroups (claims : Json.Value) (config : OidcConfig) : List String :=
  match claims.get config.groupsClaim with
  | some (.array values) => values.filterMap Json.Value.asStr
  | some (.string group) => [group]
  | _ => []

def mapClaims (claims : Json.Value) (config : OidcConfig) : String × Role × String :=
  let text (claim : String) : Option String := (claims.get claim).bind Json.Value.asStr
  let username :=
    (text "email" <|> text "preferred_username" <|> text "sub").getD "sso-user"
  let has (group : Option String) : Bool :=
    group.any fun name => name ∈ claimedGroups claims config
  let role :=
    if has config.adminGroup then .admin
    else if has config.operatorGroup then .operator
    else .viewer
  (username, role, (config.orgClaim.bind text).getD config.defaultOrg)

def urlencoding (text : String) : String :=
  String.ofList ((utf8 text).flatMap fun byte =>
    let char := Char.ofNat byte.toNat
    if char.isAlphanum || char = '-' || char = '_' || char = '.' || char = '~' then [char]
    else '%' :: (hexByte byte).map Char.toUpper)

structure OidcAnswers where
  clientSecretSet : Bool
  discovery : Except String String
  idToken : Except String (Option String)
  claims : Except String Json.Value

structure CallbackParams where
  code : Option String
  state : Option String
  error : Option String

inductive OidcReply where
  | error (status : Nat) (text : String)
  | authorize (location : String)
  | signedIn (appUrl : String) (separator : Char) (token : String)
deriving DecidableEq

namespace AuthManager

variable (manager : AuthManager) (oidc : Option OidcConfig) (now : DateTime) (random : Randomness)
  (answers : OidcAnswers) (store : SignInStore)

def createExternalSession (username : String) (role : Role) (org : String) : SignInStore :=
  { store with auth := manager.issueSession now random store.auth username role org }

def beginOidc : SignInStore := store.putOidcState random.token (after now 600)

def liveOidcState (state : String) : Bool :=
  (store.oidcStates.lookup state).any fun expiresAt => now.nanos < expiresAt.nanos

def oidcLogin : OidcReply × SignInStore :=
  match oidc with
  | none => (.error 404 "OIDC not configured", store)
  | some config =>
    match answers.discovery with
    | .error reason => (.error 502 ("OIDC discovery failed: " ++ reason), store)
    | .ok endpoint =>
      (.authorize (endpoint ++
          "?response_type=code&client_id=" ++ urlencoding config.clientId ++
          "&redirect_uri=" ++ urlencoding config.redirectUri ++ "&scope=" ++
          urlencoding "openid email profile groups" ++ "&state=" ++ random.token),
        beginOidc now random store)

def exchange : Except (Nat × String) Json.Value :=
  if answers.clientSecretSet then
    match answers.discovery with
    | .error reason => .error (502, "discovery failed: " ++ reason)
    | .ok _ =>
      match answers.idToken with
      | .error reason => .error (502, "token exchange failed: " ++ reason)
      | .ok none => .error (502, "no id_token in response")
      | .ok (some _) =>
        match answers.claims with
        | .error reason => .error (401, "id_token verification failed: " ++ reason)
        | .ok claims => .ok claims
  else .error (500, "client secret env not set")

def callback (params : CallbackParams) : OidcReply × SignInStore :=
  match oidc with
  | none => (.error 404 "OIDC not configured", store)
  | some config =>
    match params.error, params.code, params.state with
    | some reason, _, _ => (.error 401 ("IdP error: " ++ reason), store)
    | none, some _, some state =>
      let rest := (store.consumeOidcState state).2
      if liveOidcState now store state then
        match exchange answers with
        | .error (status, text) => (.error status text, rest)
        | .ok claims =>
          let (username, role, org) := mapClaims claims config
          (.signedIn config.appUrl (if config.appUrl.contains '?' then '&' else '?')
              random.token,
            manager.createExternalSession now random rest username role org)
      else (.error 400 "invalid or expired state", rest)
    | none, _, _ => (.error 400 "missing code/state", store)

end AuthManager

end QuantaWatch.Gateway
