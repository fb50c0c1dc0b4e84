import BpfCompat.Agent.HostLoad
import BpfCompat.Go.Http

/-!
# Where the tokens of an agent go

A run that asks a control plane sends two requests with the tokens of the agent: one for the
decision, to the address of the flags, and one for the artifact, to whatever address the decision
names.  Both follow redirects.

The registry token is sent in a header that redirects to other hosts do not get, and the identity
token in one that they get.  So the tokens stay with the control plane precisely when the address of
the decision, and every place a redirect leads to while a token is still sent, are on the server of
the flags (`credentials_confined_iff`).
-/

namespace Agent

open Go Registry Runtime

/-- The tokens of an agent, empty where there is none. -/
structure Credentials where
  registryToken : Str := []
  identityToken : Str := []

def agentIdentityHeader : Str := str "X-API-Identity-Token"

/-- The headers of a request that have the tokens. -/
def Credentials.header (c : Credentials) : List (Str × Str) :=
  let header :=
    if c.registryToken ≠ [] then
      setHeader [] (str "Authorization") (str "Bearer " ++ c.registryToken)
    else []
  if c.identityToken ≠ [] then setHeader header agentIdentityHeader c.identityToken else header

/-- What answers a run: the answers to the request for the decision and its redirects, the decision
of the last of them, and the answers to the request for the artifact and its redirects. -/
structure Exchange where
  decisionResponses : List HttpResponse := []
  decision : Option DecisionResult := none
  downloadResponses : List HttpResponse := []

/-- A request has one of the tokens. -/
def CarriesToken (r : HttpRequest) : Prop :=
  r.carries (str "Authorization") = true ∨ r.carries (canonicalHeaderKey agentIdentityHeader) = true

instance (r : HttpRequest) : Decidable (CarriesToken r) := inferInstanceAs (Decidable (_ ∨ _))

/-- The server of the flags. -/
def apiServer (apiURL : Str) : Option Server :=
  (parseUrl (trimSpace apiURL)).map (·.destination.server)

section

variable (toASCII : Str → Option Str) (c : Credentials) (apiURL : Str)

/-- The requests for the artifact of a decision. -/
def downloadRequests (selected : SelectedArtifact) (responses : List HttpResponse) :
    List HttpRequest :=
  let downloadURL := trimSpace selected.downloadURL
  if downloadURL = [] then []
  else
    match absolutizeAgentURL apiURL downloadURL with
    | .error _ => []
    | .ok target => clientDo toASCII ⟨target, c.header⟩ responses

/-- The requests of a run that asks a control plane. -/
def agentRequests (x : Exchange) : List HttpRequest :=
  match resolveAgentEndpoint apiURL with
  | .error _ => []
  | .ok endpoint =>
    clientDo toASCII ⟨endpoint, c.header⟩ x.decisionResponses ++
      match x.decision with
      | none => []
      | some decision =>
        downloadRequests toASCII c apiURL decision.selectedArtifact x.downloadResponses

/-- The tokens go to the server of the flags only. -/
def Confined (x : Exchange) : Prop :=
  ∀ r ∈ agentRequests toASCII c apiURL x, CarriesToken r →
    some r.destination.server = apiServer apiURL

/-- A chain of requests with the tokens is on a server as far as it has one of them: all of it where
there is an identity token, and where there is a registry token up to the first host that is not
trusted with it. -/
structure StaysOn (server : Server) (start : Destination) (responses : List HttpResponse) :
    Prop where
  identity : c.identityToken ≠ [] → ∀ d ∈ visited 10 start responses, d.server = server
  registry : c.registryToken ≠ [] →
    ∀ d ∈ (visited 10 start responses).takeWhile (trusts toASCII start), d.server = server

/-! ### The tokens of a chain -/

section

variable {toASCII c apiURL}

theorem hasHeader_authorization_iff :
  hasHeader c.header (str "Authorization") = true ↔ c.registryToken ≠ []
  := by
  have hkey : canonicalHeaderKey (str "Authorization") = str "Authorization" := by decide
  have hother : canonicalHeaderKey agentIdentityHeader ≠ str "Authorization" := by decide
  by_cases hregistry : c.registryToken = []
  · by_cases hidentity : c.identityToken = []
    · simp [Credentials.header, hasHeader, hregistry, hidentity]
    · simp [Credentials.header, hasHeader, setHeader, hregistry, hidentity, hother]
  · by_cases hidentity : c.identityToken = []
    · simp [Credentials.header, hasHeader, setHeader, hregistry, hidentity, hkey]
    · simp [Credentials.header, hasHeader, setHeader, hregistry, hidentity, hkey, hother.symm]

theorem hasHeader_identity_iff :
  hasHeader c.header (canonicalHeaderKey agentIdentityHeader) = true ↔ c.identityToken ≠ []
  := by
  have hkey : canonicalHeaderKey (str "Authorization") ≠ canonicalHeaderKey agentIdentityHeader := by
    decide
  by_cases hidentity : c.identityToken = []
  · by_cases hregistry : c.registryToken = []
    · simp [Credentials.header, hasHeader, hregistry, hidentity]
    · simp [Credentials.header, hasHeader, setHeader, hregistry, hidentity, hkey]
  · simp [Credentials.header, hasHeader, setHeader, hidentity]

/-- The requests with a header go to a server. -/
theorem forall_carriers_iff {requests : List HttpRequest} {name : Str} {server : Server} :
  (∀ r ∈ requests, r.carries name = true → r.destination.server = server) ↔
    ∀ d ∈ (requests.filter (·.carries name)).map (·.destination), d.server = server
  := by
  simp only [List.forall_mem_map, List.mem_filter, and_imp]

section

variable {server : Server} {start : Destination} {responses : List HttpResponse}

/-- The identity token goes wherever the chain goes. -/
theorem identity_staysOn_iff :
  (∀ r ∈ clientDo toASCII ⟨start, c.header⟩ responses,
      r.carries (canonicalHeaderKey agentIdentityHeader) = true →
      r.destination.server = server) ↔
    (c.identityToken ≠ [] → ∀ d ∈ visited 10 start responses, d.server = server)
  := by
  have hplain : isSensitiveHeader (canonicalHeaderKey agentIdentityHeader) = false := by decide
  by_cases hidentity : c.identityToken = []
  · refine iff_of_true ?_ fun hne => absurd hidentity hne
    intro r hr hname
    exact absurd hidentity (hasHeader_identity_iff.mp (carries_of_mem_follow hr hname))
  · have hname : HttpRequest.carries ⟨start, c.header⟩ (canonicalHeaderKey agentIdentityHeader)
        = true := hasHeader_identity_iff.mpr hidentity
    rw [forall_carriers_iff, clientDo, carriers_of_plain hname hplain, imp_iff_right hidentity]

/-- The registry token goes as far as the chain is trusted with it. -/
theorem registry_staysOn_iff :
  (∀ r ∈ clientDo toASCII ⟨start, c.header⟩ responses,
      r.carries (str "Authorization") = true → r.destination.server = server) ↔
    (c.registryToken ≠ [] →
      ∀ d ∈ (visited 10 start responses).takeWhile (trusts toASCII start), d.server = server)
  := by
  have hsensitive : isSensitiveHeader (str "Authorization") = true := by decide
  by_cases hregistry : c.registryToken = []
  · refine iff_of_true ?_ fun hne => absurd hregistry hne
    intro r hr hname
    exact absurd hregistry (hasHeader_authorization_iff.mp (carries_of_mem_follow hr hname))
  · have hname : HttpRequest.carries ⟨start, c.header⟩ (str "Authorization") = true :=
      hasHeader_authorization_iff.mpr hregistry
    rw [forall_carriers_iff, clientDo,
      carriers_of_sensitive hname hsensitive 10 (trusts_self start), imp_iff_right hregistry]

/-- The requests of a chain that have one of the tokens go to a server precisely when the chain
stays on it as far as it has one. -/
theorem staysOn_iff :
  (∀ r ∈ clientDo toASCII ⟨start, c.header⟩ responses, CarriesToken r →
      r.destination.server = server) ↔
    StaysOn toASCII c server start responses
  := by
  constructor
  · intro h
    constructor
    · apply identity_staysOn_iff.mp
      intro r hr hname
      exact h r hr (.inr hname)
    · apply registry_staysOn_iff.mp
      intro r hr hname
      exact h r hr (.inl hname)
  · intro h r hr hname
    rcases hname with hname | hname
    · exact registry_staysOn_iff.mpr h.registry r hr hname
    · exact identity_staysOn_iff.mpr h.identity r hr hname

end

/-- The request for the decision goes to the server of the flags. -/
theorem apiServer_of_endpoint {endpoint : Destination}
    (h : resolveAgentEndpoint apiURL = .ok endpoint) :
  apiServer apiURL = some endpoint.server
  := by
  rw [resolveAgentEndpoint] at h
  cases horigin : parseUrl (trimSpace apiURL) with
  | none =>
      rw [horigin] at h
      cases h
  | some origin =>
      rw [horigin] at h
      dsimp only at h
      rw [refuse_if_eq_ok_iff, Except.ok.injEq] at h
      have hpath : str "/api/v1/agent/decision" ≠ [] := by decide
      have hresolve : resolve origin.destination { path := str "/api/v1/agent/decision" }
          = ⟨origin.scheme, [], origin.host⟩ := by
        simp [resolve, hpath, Url.destination]
      rw [apiServer, horigin, ← h.2, hresolve]
      rfl

end

/-- The requests for the artifact stay on a server precisely when the chain that begins at the
address of the decision does. -/
theorem download_staysOn_iff {server : Server} {selected : SelectedArtifact}
    {responses : List HttpResponse} :
  (∀ r ∈ downloadRequests toASCII c apiURL selected responses, CarriesToken r →
      r.destination.server = server) ↔
    ∀ target, trimSpace selected.downloadURL ≠ [] →
      absolutizeAgentURL apiURL (trimSpace selected.downloadURL) = .ok target →
      StaysOn toASCII c server target responses
  := by
  rw [downloadRequests]
  by_cases hblank : trimSpace selected.downloadURL = []
  · simp [hblank]
  · cases htarget : absolutizeAgentURL apiURL (trimSpace selected.downloadURL) with
    | error e => simp [hblank]
    | ok target =>
        simp only [hblank, if_false, staysOn_iff, ne_eq, not_false_eq_true, true_imp_iff,
          Except.ok.injEq, forall_eq']

/-- The tokens go to the server of the flags only, precisely when the address a decision names and
the places that redirects lead to are on it as far as there is a token to send. -/
theorem credentials_confined_iff (x : Exchange) :
  Confined toASCII c apiURL x ↔
    ∀ endpoint, resolveAgentEndpoint apiURL = .ok endpoint →
      StaysOn toASCII c endpoint.server endpoint x.decisionResponses ∧
      ∀ decision target, x.decision = some decision →
        trimSpace decision.selectedArtifact.downloadURL ≠ [] →
        absolutizeAgentURL apiURL (trimSpace decision.selectedArtifact.downloadURL)
          = .ok target →
        StaysOn toASCII c endpoint.server target x.downloadResponses
  := by
  rw [Confined, agentRequests]
  cases hendpoint : resolveAgentEndpoint apiURL with
  | error e => simp
  | ok endpoint =>
      simp only [apiServer_of_endpoint hendpoint, Option.some.injEq, List.mem_append,
        Except.ok.injEq, forall_eq']
      simp only [or_imp, forall_and, staysOn_iff]
      rw [and_congr_right_iff]
      intro _
      cases x.decision with
      | none => simp
      | some decision =>
          rw [download_staysOn_iff]
          constructor
          · intro h decision' target heq
            cases heq
            exact h target
          · intro h target
            exact h decision target rfl

/-! ### An address elsewhere -/

/-- The control plane answers with a decision that names an address elsewhere. -/
def elsewhere : Exchange where
  decisionResponses := [⟨200, []⟩]
  decision := some { remoteDecision with
    selectedArtifact := { remoteDecision.selectedArtifact with
      downloadURL := str "https://evil.example/x" } }
  downloadResponses := [⟨200, []⟩]

/-- The registry token is sent to an address that a decision names, on whatever host. -/
theorem token_sent_elsewhere :
  ¬ Confined (fun _ => none) { registryToken := str "secret" } (str "https://control.example")
    elsewhere
  := by
  rw [Confined]
  decide +kernel

end

end Agent
