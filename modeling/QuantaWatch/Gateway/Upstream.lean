import QuantaWatch.Gateway.Providers

/-!
Where a proxied request goes (`build_registry`, `build_upstream_url`
of every adapter, `proxy_routes` and the URL in `proxy_handler`).
-/

namespace QuantaWatch.Gateway

structure ProviderConfig where
  protocol : String
  upstream : String
deriving DecidableEq

abbrev ProviderConfigs := AList fun _ : String => ProviderConfig

def ProviderConfigs.registry (configs : ProviderConfigs) : ProviderRegistry :=
  buildRegistry (configs.entries.map fun entry => (entry.1, entry.2.protocol))

variable {name front path : String} {providers : List (String × String)} {adapter : Adapter}

def startsWith (front path : String) : Bool := front.toList.isPrefixOf path.toList

/-- The text after its first `length` characters. -/
def dropChars (length : Nat) (text : String) : String := String.ofList (text.toList.drop length)

/-- `str::strip_prefix`. -/
def stripFront (front path : String) : Option String :=
  if startsWith front path then some (dropChars front.length path) else none

private def trimFronts (front : List Char) : Nat → List Char → List Char
  | 0, text => text
  | fuel + 1, text =>
    if front.isPrefixOf text then trimFronts front fuel (text.drop front.length) else text

/-- `str::trim_start_matches`: the front goes as often as it stands there. -/
def trimStartMatches (front path : String) : String :=
  String.ofList (trimFronts front.toList path.length path.toList)

def Adapter.buildUpstreamUrl (adapter : Adapter) (upstream path : String) : String :=
  upstream ++
    match adapter with
    | .anthropic => if startsWith "/claude" path then trimStartMatches "/claude" path else path
    | .openAi => if startsWith "/openai" path then trimStartMatches "/openai" path else path
    | .ollama => if startsWith "/ollama" path then trimStartMatches "/ollama" path else path
    | .azureOpenAi =>
      ((stripFront "/azure-openai" path).or (stripFront "/azure" path)).getD path
    | .cohere => (stripFront "/cohere" path).getD path

structure Uri where
  path : String
  query : Option String
deriving DecidableEq

def Uri.queryText (uri : Uri) : String :=
  match uri.query with
  | some query => "?" ++ query
  | none => ""

/-- The URL that `proxy_handler` sends a request to. It hands only the path on. -/
def upstreamUrl (configs : ProviderConfigs) (uri : Uri) : Option String := do
  let (name, adapter) ← configs.registry.resolveFromPath uri.path
  let config ← configs.lookup name
  some (adapter.buildUpstreamUrl config.upstream uri.path)

def fixedRoutes : List String :=
  ["/v1/messages", "/v1/chat/completions", "/v1/chat", "/api/chat", "/api/generate"]

def routeFronts : List String :=
  ["/claude", "/openai", "/ollama", "/azure", "/azure-openai", "/cohere"]

def routeFront (path : String) : Option String :=
  routeFronts.find? fun front => startsWith (front ++ "/") path && front.length + 1 < path.length

def routed (path : String) : Bool := path ∈ fixedRoutes || (routeFront path).isSome

def withoutFront (path : String) : String :=
  match routeFront path with
  | some front => dropChars front.length path
  | none => path

def Adapter.fronts : Adapter → List String
  | .anthropic => ["/claude"]
  | .openAi => ["/openai"]
  | .ollama => ["/ollama"]
  | .azureOpenAi => ["/azure-openai", "/azure"]
  | .cohere => ["/cohere"]

@[simp] theorem startsWith_append (front rest : String) :
    startsWith front (front ++ rest) = true := by
  simp [startsWith]

@[simp] theorem dropChars_append (front rest : String) :
    dropChars front.length (front ++ rest) = rest := by
  simp [dropChars, ← String.length_toList]

theorem exists_of_startsWith (starts : startsWith front path = true) :
    ∃ rest, path = front ++ rest := by
  obtain ⟨rest, equal⟩ := List.isPrefixOf_iff_prefix.mp starts
  refine ⟨String.ofList rest, ?_⟩
  rw [← String.toList_inj, String.toList_append, String.toList_ofList, equal]

theorem trimFronts_once {front rest : List Char} (once : front.isPrefixOf rest = false)
    (fuel : Nat) : trimFronts front (fuel + 1) (front ++ rest) = rest := by
  have starts : front.isPrefixOf (front ++ rest) = true := by simp
  rw [trimFronts, if_pos starts, List.drop_left]
  cases fuel with
  | zero => rfl
  | succ fuel => rw [trimFronts, if_neg (by simp [once])]

theorem trimStartMatches_once {rest : String} (named : 0 < front.length)
    (once : startsWith front rest = false) : trimStartMatches front (front ++ rest) = rest := by
  obtain ⟨fuel, enough⟩ : ∃ fuel, (front ++ rest).length = fuel + 1 :=
    ⟨front.length + rest.length - 1, by rw [String.length_append]; omega⟩
  rw [trimStartMatches, enough, String.toList_append, trimFronts_once once, String.ofList_toList]

theorem buildUpstreamUrl_own {more : String} (upstream : String) (own : front ∈ adapter.fronts)
    (once : adapter ≠ .azureOpenAi → adapter ≠ .cohere →
      startsWith front ("/" ++ more) = false) :
    adapter.buildUpstreamUrl upstream (front ++ ("/" ++ more)) = upstream ++ ("/" ++ more) := by
  cases adapter with
  | anthropic =>
    obtain rfl := List.mem_singleton.mp own
    rw [Adapter.buildUpstreamUrl, startsWith_append, if_pos rfl,
      trimStartMatches_once (by decide) (once nofun nofun)]
  | openAi =>
    obtain rfl := List.mem_singleton.mp own
    rw [Adapter.buildUpstreamUrl, startsWith_append, if_pos rfl,
      trimStartMatches_once (by decide) (once nofun nofun)]
  | ollama =>
    obtain rfl := List.mem_singleton.mp own
    rw [Adapter.buildUpstreamUrl, startsWith_append, if_pos rfl,
      trimStartMatches_once (by decide) (once nofun nofun)]
  | azureOpenAi =>
    rcases List.mem_cons.mp own with rfl | own
    · rw [Adapter.buildUpstreamUrl, stripFront, startsWith_append, if_pos rfl, dropChars_append]
      rfl
    · obtain rfl := List.mem_singleton.mp own
      -- the slash keeps `/azure-openai` from matching
      have longer : startsWith "/azure-openai" ("/azure" ++ ("/" ++ more)) = false := by
        rw [startsWith, String.toList_append, String.toList_append]
        rfl
      rw [Adapter.buildUpstreamUrl, stripFront, longer, stripFront, startsWith_append,
        if_pos rfl, dropChars_append]
      rfl
  | cohere =>
    obtain rfl := List.mem_singleton.mp own
    rw [Adapter.buildUpstreamUrl, stripFront, startsWith_append, if_pos rfl, dropChars_append]
    rfl

theorem buildUpstreamUrl_other (upstream : String)
    (other : ∀ front ∈ adapter.fronts, startsWith front path = false) :
    adapter.buildUpstreamUrl upstream path = upstream ++ path := by
  cases adapter <;>
    simp_all [Adapter.buildUpstreamUrl, Adapter.fronts, stripFront]

theorem routeFront_eq_some (found : routeFront path = some front) :
    front ∈ routeFronts ∧ ∃ more, path = front ++ ("/" ++ more) := by
  refine ⟨List.mem_of_find?_eq_some found, ?_⟩
  have holds := List.find?_some found
  rw [Bool.and_eq_true] at holds
  obtain ⟨more, rfl⟩ := exists_of_startsWith holds.1
  exact ⟨more, String.append_assoc ..⟩

/-- Azure paths keep their `/openai`. -/
theorem azure_keeps (more : String) :
    ∀ front ∈ Adapter.azureOpenAi.fronts,
      startsWith front ("/openai" ++ ("/" ++ more)) = false := by
  intro front own
  rcases List.mem_cons.mp own with rfl | own
  · rw [startsWith, String.toList_append, String.toList_append]
    rfl
  · obtain rfl := List.mem_singleton.mp own
    rw [startsWith, String.toList_append, String.toList_append]
    rfl

theorem fixedRoutes_keep : ∀ path ∈ fixedRoutes, ∀ adapter : Adapter,
    ∀ front ∈ adapter.fronts, startsWith front path = false := by
  intro path fixed adapter
  cases adapter <;> revert path <;> decide

/-- The path that a request is to be forwarded with. An Azure deployment is
addressed below `/openai`, so there that front is part of the caller's path. -/
def Adapter.forwardedPath (adapter : Adapter) (path : String) : String :=
  if adapter = .azureOpenAi ∧ routeFront path = some "/openai" then path else withoutFront path

/-- The upstream URL of a routed request without a query: the upstream base and
the path without the routing front, once, of the provider's adapter. -/
theorem upstreamUrl_eq {configs : ProviderConfigs} {uri : Uri} {name : String}
    {adapter : Adapter} {config : ProviderConfig} (isRouted : routed uri.path = true)
    (noQuery : uri.query = none)
    (resolved : configs.registry.resolveFromPath uri.path = some (name, adapter))
    (configured : configs.lookup name = some config)
    (matching : ∀ front, routeFront uri.path = some front →
      front ∈ adapter.fronts ∨ adapter = .azureOpenAi ∧ front = "/openai")
    (once : adapter ≠ .azureOpenAi → adapter ≠ .cohere → ∀ front,
      routeFront uri.path = some front → startsWith front (withoutFront uri.path) = false) :
    upstreamUrl configs uri =
      some (config.upstream ++ adapter.forwardedPath uri.path ++ uri.queryText) := by
  have url : upstreamUrl configs uri =
      some (adapter.buildUpstreamUrl config.upstream uri.path) := by
    simp [upstreamUrl, resolved, configured]
  have noText : uri.queryText = "" := by rw [Uri.queryText, noQuery]
  rw [url, noText, String.append_empty]
  congr 1
  cases found : routeFront uri.path with
  | none =>
    have fixed : uri.path ∈ fixedRoutes := by simpa [routed, found] using isRouted
    rw [buildUpstreamUrl_other _ (fixedRoutes_keep _ fixed adapter), Adapter.forwardedPath,
      found, if_neg (by simp), withoutFront, found]
  | some front =>
    obtain ⟨-, more, path⟩ := routeFront_eq_some found
    have stripped : withoutFront uri.path = "/" ++ more := by
      rw [withoutFront, found, path]
      exact dropChars_append front ("/" ++ more)
    have notAgain : adapter ≠ .azureOpenAi → adapter ≠ .cohere →
        startsWith front ("/" ++ more) = false := by
      intro notAzure notCohere
      rw [← stripped]
      exact once notAzure notCohere front found
    rw [Adapter.forwardedPath, found, stripped]
    rcases matching front found with own | ⟨rfl, rfl⟩
    · have notAzure : ¬ (adapter = .azureOpenAi ∧ some front = some "/openai") := by
        rintro ⟨rfl, same⟩
        cases Option.some.inj same
        revert own
        decide
      rw [if_neg notAzure, path, buildUpstreamUrl_own _ own notAgain]
    · rw [if_pos ⟨rfl, rfl⟩, path, buildUpstreamUrl_other _ (azure_keeps more)]

namespace UpstreamSample

def configs : ProviderConfigs :=
  [⟨"openai", ⟨"openai", "https://api.openai.com"⟩⟩,
    ⟨"azure-openai", ⟨"azure-openai", "https://res.openai.azure.com"⟩⟩].toAList

def chat : Uri := ⟨"/openai/v1/chat/completions", none⟩

def deployment : Uri := ⟨"/openai/deployments/gpt-4o/chat/completions", none⟩

end UpstreamSample

theorem upstreamUrl_chat :
    upstreamUrl UpstreamSample.configs UpstreamSample.chat =
        some ("https://api.openai.com" ++ Adapter.openAi.forwardedPath UpstreamSample.chat.path ++
          UpstreamSample.chat.queryText) ∧
      Adapter.openAi.forwardedPath UpstreamSample.chat.path = "/v1/chat/completions" := by
  have front : routeFront UpstreamSample.chat.path = some "/openai" := by decide
  refine ⟨@upstreamUrl_eq UpstreamSample.configs UpstreamSample.chat "openai" .openAi
    ⟨"openai", "https://api.openai.com"⟩ (by decide) rfl (by decide) (by decide) ?_ ?_, by decide⟩
  · intro other found
    obtain rfl := Option.some.inj (front.symm.trans found)
    exact Or.inl (by decide)
  · intro _ _ other found
    obtain rfl := Option.some.inj (front.symm.trans found)
    decide

theorem upstreamUrl_deployment :
    routed UpstreamSample.deployment.path = true ∧
      upstreamUrl UpstreamSample.configs UpstreamSample.deployment =
        some ("https://res.openai.azure.com" ++ UpstreamSample.deployment.path) ∧
      upstreamUrl UpstreamSample.configs UpstreamSample.deployment ≠
        some ("https://res.openai.azure.com" ++ withoutFront UpstreamSample.deployment.path ++
          UpstreamSample.deployment.queryText) := by
  decide

end QuantaWatch.Gateway
