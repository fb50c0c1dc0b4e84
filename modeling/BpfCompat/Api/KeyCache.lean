import BpfCompat.Api.IdentityToken
import BpfCompat.Go.Json.Layout
import BpfCompat.Go.Path
import BpfCompat.Transition

/-!
# The key cache

Key sets are kept for a while, and so are the addresses at which issuers publish them.  A signature
that does not verify may be due to keys that were exchanged, so the set is read once more; but not
more often than every thirty seconds, since anyone can send bad signatures.  The requests of the
server share the caches, and each of them reads and writes these between its exchanges with the web.

`Server.move` is what one request does next.  In every run, whatever the order in which requests
proceed, keys that are accepted were published by their source a short while ago
(`accepted_keys_fresh`), and forced readings keep their distance (`forced_refreshes_bounded`).
-/

namespace Api

open Go Go.Json Go.Json.Fields

/-! ### The source -/

/-- What comes of a request over the web. -/
inductive HttpAnswer where
  | failed (err : Str)
  | response (status : Nat) (body : Except Str Str)

/-- The outside, moment by moment: files, and the answers of servers. -/
structure Web where
  readFile : Str → Int → Except Str Str
  newRequest : Str → Except Str Unit
  get : Str → Int → HttpAnswer
  jsonError : Str → Str

/-- An entry of a cache. -/
structure CacheEntry (α : Type) where
  value : α
  expiresAt : Int

/-- The entry's value before it expires. -/
def CacheEntry.fresh {α : Type} (now : Int) : Option (CacheEntry α) → Option α
  | none => none
  | some entry => if now < entry.expiresAt then some entry.value else none

/-- Times and durations are in nanoseconds. -/
def seconds (n : Int) : Int := n * 1000000000

structure CacheTimes where
  jwksCacheTTL : Int := 0
  oidcCacheTTL : Int := 0

def CacheTimes.cacheTTL (cfg : CacheTimes) : Int :=
  if cfg.jwksCacheTTL ≤ 0 then seconds 300 else cfg.jwksCacheTTL

def CacheTimes.discoveryTTL (cfg : CacheTimes) : Int :=
  if cfg.oidcCacheTTL ≤ 0 then seconds 600 else cfg.oidcCacheTTL

def writeJWKSForceRefreshCooldown : Int := seconds 30

/-- Only unit tests relax the transport. -/
def writeJWKSAllowInsecureForTests : Bool := false

section

variable [CaseTables]

def isHTTPSURL (raw : Str) : Bool := (str "https://").isPrefixOf (toLower (trimSpace raw))

def jwksTransportAllowed (raw : Str) : Bool :=
  isHTTPSURL raw || (writeJWKSAllowInsecureForTests && isHTTPURL raw)

def WriteJWKSSource.cacheKey (s : WriteJWKSSource) : Str :=
  toLower (trimSpace s.kind) ++ str ":" ++ trimSpace s.value

def writeJWKJSON : Codec WriteJWK :=
  struct
    (.pair (field "kty" string) <|
      .pair (omitempty "kid" string) <|
      .pair (omitempty "use" string) <|
      .pair (omitempty "alg" string) <|
      .pair (omitempty "n" string) <|
      omitempty "e" string)
    ⟨fun k => (k.kty, k.kid, k.use, k.alg, k.n, k.e),
      fun (kty, kid, use, alg, n, e) => { kty, kid, use, alg, n, e },
      fun _ => rfl, fun _ => rfl⟩
    (by simp [str_inj])

def writeJWKSJSON : Codec (List WriteJWK) :=
  struct (field "keys" (slice writeJWKJSON)) (Equiv.refl _) (by simp)

/-- The issuer and the address of its key set. -/
def writeOIDCDiscoveryJSON : Codec (Str × Str) :=
  struct (.pair (omitempty "issuer" string) (field "jwks_uri" string)) (Equiv.refl _)
    (by simp [str_inj])

def parseWriteJWKSRaw (web : Web) (raw sourceLabel : Str) : Except Str (List WriteJWK) :=
  match (parseDocument (lexemes raw)).bind writeJWKSJSON.decode with
  | none => .error (str "parse JWKS " ++ quote sourceLabel ++ str ": " ++ web.jsonError raw)
  | some keys =>
    if keys.length = 0 then .error (str "JWKS " ++ quote sourceLabel ++ str " has no keys")
    else .ok keys

def loadWriteJWKSFromPath (web : Web) (path : Str) (t : Int) : Except Str (List WriteJWK) :=
  let cleanPath := clean (trimSpace path)
  match web.readFile cleanPath t with
  | .error err => .error (str "read JWKS " ++ quote cleanPath ++ str ": " ++ err)
  | .ok raw => parseWriteJWKSRaw web raw cleanPath

/-- The body of a document, and whether the server was asked for it. -/
def fetchBody (web : Web) (what url : Str) (t : Int) : Except Str Str × Bool :=
  match web.newRequest url with
  | .error err => (.error (str "build " ++ what ++ str " request " ++ quote url ++ str ": " ++ err), false)
  | .ok _ =>
    match web.get url t with
    | .failed err =>
      (.error (str "fetch " ++ what ++ str " URL " ++ quote url ++ str ": " ++ err), true)
    | .response status body =>
      if status ≠ 200 then
        (.error (str "fetch " ++ what ++ str " URL " ++ quote url ++ str ": unexpected status " ++
          decimal status), true)
      else
        match body with
        | .error err =>
          (.error (str "read " ++ what ++ str " URL " ++ quote url ++ str " response: " ++ err), true)
        | .ok raw => (.ok raw, true)

/-- The key set at an address, and the address that was asked, if any. -/
def loadWriteJWKSFromURL (web : Web) (rawURL : Str) (t : Int) :
    Except Str (List WriteJWK) × Option Str :=
  let target := trimSpace rawURL
  if jwksTransportAllowed target = false then
    (.error (str "JWKS URL " ++ quote target ++ str " must use https://"), none)
  else
    match fetchBody web (str "JWKS") target t with
    | (.error err, asked) => (.error err, if asked then some target else none)
    | (.ok raw, asked) => (parseWriteJWKSRaw web raw target, if asked then some target else none)

def discoveryURL (issuer : Str) : Str := issuer ++ str "/.well-known/openid-configuration"

/-- The address an issuer announces, and the address that was asked, if any.  It is the part of
`resolveWriteOIDCJWKSURL` between its two looks at the cache. -/
def discoverJWKSURL (web : Web) (cleanIssuer : Str) (t : Int) : Except Str Str × Option Str :=
  let discoveryURL := discoveryURL cleanIssuer
  match fetchBody web (str "OIDC discovery") discoveryURL t with
  | (.error err, asked) => (.error err, if asked then some discoveryURL else none)
  | (.ok body, asked) =>
    (match (parseDocument (lexemes body)).bind writeOIDCDiscoveryJSON.decode with
    | none => .error (str "parse OIDC discovery URL " ++ quote discoveryURL ++ str ": " ++ web.jsonError body)
    | some (issuer, jwksURI) =>
      let docIssuer := normalizeIssuerURL issuer
      let jwksURL := trimSpace jwksURI
      if docIssuer = [] then
        .error (str "OIDC discovery URL " ++ quote discoveryURL ++ str " returned empty issuer")
      else if docIssuer ≠ cleanIssuer then
        .error (str "OIDC discovery URL " ++ quote discoveryURL ++ str " issuer mismatch: got " ++
          quote docIssuer ++ str " want " ++ quote cleanIssuer)
      else if jwksTransportAllowed jwksURL = false then
        .error (str "OIDC discovery URL " ++ quote discoveryURL ++
          str " returned invalid (non-https) jwks_uri " ++ quote jwksURL)
      else .ok jwksURL,
      if asked then some discoveryURL else none)

end

/-- The token a request carries, as far as its signature is concerned. -/
structure SignedToken where
  host : Host
  head : Str
  body : Str
  signature : Str
  kid : Str

/-- One call of `loadWriteJWKSFromSource`: when it began, and the sources and errors of the loop
around it.  A forced call has the error of the verification that caused it. -/
structure Load where
  source : WriteJWKSSource
  rest : List WriteJWKSSource
  errors : List Str
  verifyErr : Option Str
  began : Int

/-- Where a request is. -/
inductive TokenPhase where
  /-- It turns to the next source. -/
  | asking (sources : List WriteJWKSSource) (errors : List Str)
  | reading (load : Load)
  | fetching (load : Load) (url : Str)
  /-- It looks for the address of an issuer's keys. -/
  | resolving (load : Load)
  | discovering (load : Load) (issuer : Str) (began : Int)
  | announced (load : Load) (issuer : Str) (began : Int) (url : Str)
  | fetched (load : Load) (keys : List WriteJWK)
  /-- The signature did not verify; it asks whether the keys may be read anew. -/
  | failed (load : Load) (verifyErr : Str)
  | granted (load : Load) (verifyErr : Str)
  | accepted (source : WriteJWKSSource) (keys : List WriteJWK) (began : Int)
  | rejected (err : Str)

/-- What happened, for the record. -/
inductive Happening where
  | refresh (key : Str) (t : Int)
  | asked (url : Str) (t : Int)

/-- What the requests share, and the record of what happened, the newest first. -/
structure Shared where
  keySets : Str → Option (CacheEntry (List WriteJWK)) := fun _ => none
  issuers : Str → Option (CacheEntry Str) := fun _ => none
  lastRefresh : Str → Option Int := fun _ => none
  log : List Happening := []

def Shared.record (s : Shared) (url : Option Str) (t : Int) : Shared :=
  { s with log := (url.map fun url => Happening.asked url t).toList ++ s.log }

def writeJWKSForceRefreshAllowed (last : Option Int) (now : Int) : Bool :=
  match last with
  | some last => ¬ now - last < writeJWKSForceRefreshCooldown
  | none => true

section

variable [CaseTables]

/-- The end of a load that failed: its error, or that of the verification before, is noted. -/
def Load.fail (load : Load) (err : Str) : TokenPhase :=
  .asking load.rest (load.errors ++ [load.source.label ++ str ": " ++ load.verifyErr.getD err])

/-- The end of a load that succeeded: the signature is verified. -/
def Load.verify (load : Load) (request : SignedToken) (keys : List WriteJWK) : TokenPhase :=
  match verifyJWTSignatureRS256WithJWKS request.host request.head request.body request.signature
      request.kid keys with
  | .ok _ => .accepted load.source keys load.began
  | .error err =>
    match load.verifyErr with
    | none => .failed load err
    | some _ => .asking load.rest (load.errors ++ [load.source.label ++ str ": " ++ err])

/-- The beginning of `fetchWriteJWKS`. -/
def Load.fetch (load : Load) : TokenPhase :=
  let kind := toLower (trimSpace load.source.kind)
  if kind = str "path" then .reading load
  else if kind = str "url" then .fetching load load.source.value
  else if kind = str "oidc" then .resolving load
  else load.fail (str "unsupported JWKS source kind " ++ quote load.source.kind)

variable (web : Web) (times : CacheTimes) (request : SignedToken) (now : Int)

/-- What a request does next, up to its next exchange with the caches or with the web. -/
def advance (s : Shared) : TokenPhase → Shared × TokenPhase
  | .asking [] errors =>
    (s, .rejected (str "RS256 verification failed: " ++ join (str "; ") errors))
  | .asking (source :: rest) errors =>
    let load : Load := { source, rest, errors, verifyErr := none, began := now }
    match CacheEntry.fresh now (s.keySets source.cacheKey) with
    | some keys => (s, load.verify request keys)
    | none => (s, load.fetch)
  | .reading load =>
    match loadWriteJWKSFromPath web load.source.value now with
    | .error err => (s, load.fail err)
    | .ok keys => (s, .fetched load keys)
  | .fetching load url =>
    match loadWriteJWKSFromURL web url now with
    | (.error err, asked) => (s.record asked now, load.fail err)
    | (.ok keys, asked) => (s.record asked now, .fetched load keys)
  | .resolving load =>
    let issuer := normalizeIssuerURL (trimSpace load.source.value)
    if issuer = [] then (s, load.fail (str "OIDC issuer URL is empty"))
    else if jwksTransportAllowed issuer = false then
      (s, load.fail (str "OIDC issuer URL " ++ quote issuer ++ str " must use https://"))
    else
      match if load.verifyErr.isSome then none else CacheEntry.fresh now (s.issuers issuer) with
      | some url => (s, .fetching load url)
      | none => (s, .discovering load issuer now)
  | .discovering load issuer began =>
    match discoverJWKSURL web issuer now with
    | (.error err, asked) => (s.record asked now, load.fail err)
    | (.ok url, asked) => (s.record asked now, .announced load issuer began url)
  | .announced load issuer began url =>
    ({ s with issuers := Function.update s.issuers issuer (some ⟨url, began + times.discoveryTTL⟩) },
      .fetching load url)
  | .fetched load keys =>
    ({ s with
        keySets := Function.update s.keySets load.source.cacheKey
          (some ⟨keys, load.began + times.cacheTTL⟩) },
      load.verify request keys)
  | .failed load err =>
    let key := load.source.cacheKey
    if writeJWKSForceRefreshAllowed (s.lastRefresh key) now then
      ({ s with
          lastRefresh := Function.update s.lastRefresh key (some now)
          log := .refresh key now :: s.log },
        .granted load err)
    else (s, .asking load.rest (load.errors ++ [load.source.label ++ str ": " ++ err]))
  | .granted load err => (s, { load with verifyErr := some err, began := now }.fetch)
  | .accepted source keys began => (s, .accepted source keys began)
  | .rejected err => (s, .rejected err)

/-! ### Runs of the server -/

/-- The server with its requests. -/
structure Server (ι : Type) where
  clock : Int
  shared : Shared := {}
  phases : ι → TokenPhase

variable {ι : Type} [DecidableEq ι] (requests : ι → SignedToken)

/-- One request proceeds. -/
def Server.move (s : Server ι) (i : ι) : Server ι :=
  let next := advance web times (requests i) s.clock s.shared (s.phases i)
  { s with shared := next.1, phases := Function.update s.phases i next.2 }

/-- Time passes, or a request proceeds. -/
inductive ServerStep : Server ι → Server ι → Prop where
  | tick {s : Server ι} {t : Int} (h : s.clock ≤ t) : ServerStep s { s with clock := t }
  | move {s : Server ι} (i : ι) : ServerStep s (s.move web times requests i)

omit [CaseTables] [DecidableEq ι] in
/-- A server that has just been started; its requests have not been looked at yet. -/
def Server.start (clock : Int) (cfg : WriteJWTVerificationConfig) : Server ι where
  clock
  phases := fun _ => .asking (jwksSourcesFromConfig cfg) []

/-! ### What sources publish -/

/-- Whoever reads the source at the moment `t`, in a load that began at the moment `began`, gets the
keys.  The address of an issuer's keys may come from the cache, and so be somewhat older. -/
inductive Publishes (source : WriteJWKSSource) (keys : List WriteJWK) (began t : Int) : Prop where
  | path (hkind : source.kind = str "path")
      (hkeys : loadWriteJWKSFromPath web source.value t = .ok keys)
  | url (hkind : source.kind = str "url")
      (hkeys : (loadWriteJWKSFromURL web source.value t).1 = .ok keys)
  | oidc (hkind : source.kind = str "oidc") {url : Str} {g : Int}
      (hurl : (discoverJWKSURL web (normalizeIssuerURL (trimSpace source.value)) g).1 = .ok url)
      (hlow : began - times.discoveryTTL < g) (hhigh : g ≤ t)
      (hkeys : (loadWriteJWKSFromURL web url t).1 = .ok keys)

omit [CaseTables] in
/-- A source of one of the three kinds. -/
def WriteJWKSSource.Known (source : WriteJWKSSource) : Prop :=
  source.kind = str "url" ∨ source.kind = str "path" ∨ source.kind = str "oidc"

theorem kind_of_known {source : WriteJWKSSource} (h : source.Known) :
  toLower (trimSpace source.kind) = source.kind
  := by
  rcases h with h | h | h
  · rw [h, trimSpace_of_graphic (by decide), toLower_of_ascii (by decide)]
  · rw [h, trimSpace_of_graphic (by decide), toLower_of_ascii (by decide)]
  · rw [h, trimSpace_of_graphic (by decide), toLower_of_ascii (by decide)]

/-- The cache tells the known sources apart, up to white space. -/
theorem eq_of_cacheKey {source source' : WriteJWKSSource} (h : source.Known) (h' : source'.Known)
    (hkey : source.cacheKey = source'.cacheKey) :
  source.kind = source'.kind ∧ trimSpace source.value = trimSpace source'.value
  := by
  rw [WriteJWKSSource.cacheKey, WriteJWKSSource.cacheKey, kind_of_known h, kind_of_known h'] at hkey
  have hkinds : ∀ k ∈ [str "url", str "path", str "oidc"], ∀ k' ∈ [str "url", str "path", str "oidc"],
      k.head? = k'.head? → k = k' := by
    decide
  have hmem : ∀ s : WriteJWKSSource, s.Known → s.kind ∈ [str "url", str "path", str "oidc"] := by
    intro s hs
    simpa [WriteJWKSSource.Known] using hs
  have hhead : ∀ s : WriteJWKSSource, s.Known →
      (s.kind ++ str ":" ++ trimSpace s.value).head? = s.kind.head? := by
    intro s hs
    rcases hs with hs | hs | hs <;> rw [hs] <;> rfl
  have hkind : source.kind = source'.kind := by
    apply hkinds _ (hmem source h) _ (hmem source' h')
    rw [← hhead source h, hkey, hhead source' h']
  rw [hkind] at hkey
  exact ⟨hkind, List.append_cancel_left hkey⟩

theorem Publishes.congr {source source' : WriteJWKSSource} {keys : List WriteJWK} {began t : Int}
    (h : Publishes web times source keys began t) (hkind : source.kind = source'.kind)
    (hvalue : trimSpace source.value = trimSpace source'.value) :
  Publishes web times source' keys began t
  := by
  cases h with
  | path hpath hkeys =>
      apply Publishes.path (hkind ▸ hpath)
      rw [← hkeys, loadWriteJWKSFromPath, loadWriteJWKSFromPath, hvalue]
  | url hurl hkeys =>
      apply Publishes.url (hkind ▸ hurl)
      rw [← hkeys, loadWriteJWKSFromURL, loadWriteJWKSFromURL, hvalue]
  | oidc hoidc hurl hlow hhigh hkeys =>
      rw [hvalue] at hurl
      apply Publishes.oidc (hkind ▸ hoidc) hurl hlow hhigh hkeys

/-! ### Where keys come from -/

/-- The address was announced by the source's issuer, not too long before the load began. -/
def Announced (load : Load) (clock : Int) (url : Str) : Prop :=
  load.source.kind = str "oidc" ∧ ∃ g, load.began - times.discoveryTTL < g ∧ g ≤ clock
    ∧ (discoverJWKSURL web (normalizeIssuerURL (trimSpace load.source.value)) g).1 = .ok url

omit [CaseTables] in
structure LoadOk (clock : Int) (load : Load) : Prop where
  known : load.source.Known
  rest : ∀ source ∈ load.rest, source.Known
  began : load.began ≤ clock

/-- What is known of a request in a phase. -/
def PhaseOk (request : SignedToken) (clock : Int) : TokenPhase → Prop
  | .asking sources _ => ∀ source ∈ sources, source.Known
  | .reading load => LoadOk clock load ∧ load.source.kind = str "path"
  | .fetching load url => LoadOk clock load
    ∧ (load.source.kind = str "url" ∧ url = load.source.value ∨ Announced web times load clock url)
  | .resolving load => LoadOk clock load ∧ load.source.kind = str "oidc"
  | .discovering load issuer began => LoadOk clock load ∧ load.source.kind = str "oidc"
    ∧ issuer = normalizeIssuerURL (trimSpace load.source.value) ∧ jwksTransportAllowed issuer = true
    ∧ load.began ≤ began ∧ began ≤ clock
  | .announced load issuer began url => LoadOk clock load ∧ load.source.kind = str "oidc"
    ∧ issuer = normalizeIssuerURL (trimSpace load.source.value) ∧ load.began ≤ began
    ∧ ∃ g, began ≤ g ∧ g ≤ clock ∧ (discoverJWKSURL web issuer g).1 = .ok url
  | .fetched load keys => LoadOk clock load
    ∧ ∃ t, load.began ≤ t ∧ t ≤ clock ∧ Publishes web times load.source keys load.began t
  | .failed load _ => LoadOk clock load
  | .granted load _ => LoadOk clock load
  | .accepted source keys u =>
    verifyJWTSignatureRS256WithJWKS request.host request.head request.body request.signature
        request.kid keys = .ok ()
      ∧ ∃ began t, u - times.cacheTTL < began ∧ began ≤ t ∧ t ≤ clock
        ∧ Publishes web times source keys began t
  | .rejected _ => True

/-- What is known of the caches. -/
structure CachesOk (clock : Int) (s : Shared) : Prop where
  keySets : ∀ source : WriteJWKSSource, source.Known → ∀ entry,
    s.keySets source.cacheKey = some entry → ∃ began t, entry.expiresAt = began + times.cacheTTL
      ∧ began ≤ t ∧ t ≤ clock ∧ Publishes web times source entry.value began t
  issuers : ∀ issuer entry, s.issuers issuer = some entry →
    ∃ began g, entry.expiresAt = began + times.discoveryTTL ∧ began ≤ g ∧ g ≤ clock
      ∧ (discoverJWKSURL web issuer g).1 = .ok entry.value
  asked : ∀ url t, .asked url t ∈ s.log → jwksTransportAllowed url = true

omit [CaseTables] in
theorem cacheTTL_pos :
  0 < times.cacheTTL
  := by
  rw [CacheTimes.cacheTTL]
  split_ifs with h
  · decide
  · omega

omit [CaseTables] in
theorem discoveryTTL_pos :
  0 < times.discoveryTTL
  := by
  rw [CacheTimes.discoveryTTL]
  split_ifs with h
  · decide
  · omega

omit [CaseTables] in
theorem LoadOk.mono {load : Load} {clock clock' : Int} (h : LoadOk clock load)
    (hclock : clock ≤ clock') :
  LoadOk clock' load
  := ⟨h.known, h.rest, h.began.trans hclock⟩

theorem PhaseOk.mono {request : SignedToken} {p : TokenPhase} {clock clock' : Int}
    (h : PhaseOk web times request clock p) (hclock : clock ≤ clock') :
  PhaseOk web times request clock' p
  := by
  cases p with
  | asking sources errors => apply h
  | reading load => exact ⟨h.1.mono hclock, h.2⟩
  | fetching load url =>
      refine ⟨h.1.mono hclock, h.2.imp_right ?_⟩
      rintro ⟨hkind, g, hlow, hhigh, hurl⟩
      exact ⟨hkind, g, hlow, hhigh.trans hclock, hurl⟩
  | resolving load => exact ⟨h.1.mono hclock, h.2⟩
  | discovering load issuer began =>
      obtain ⟨hload, hkind, hissuer, hallowed, hlow, hhigh⟩ := h
      exact ⟨hload.mono hclock, hkind, hissuer, hallowed, hlow, hhigh.trans hclock⟩
  | announced load issuer began url =>
      obtain ⟨hload, hkind, hissuer, hlow, g, hg, hhigh, hurl⟩ := h
      exact ⟨hload.mono hclock, hkind, hissuer, hlow, g, hg, hhigh.trans hclock, hurl⟩
  | fetched load keys =>
      obtain ⟨hload, t, hlow, hhigh, hkeys⟩ := h
      exact ⟨hload.mono hclock, t, hlow, hhigh.trans hclock, hkeys⟩
  | failed load err => apply LoadOk.mono h hclock
  | granted load err => apply LoadOk.mono h hclock
  | accepted source keys u =>
      obtain ⟨hverified, began, t, hlow, hbegan, hhigh, hkeys⟩ := h
      exact ⟨hverified, began, t, hlow, hbegan, hhigh.trans hclock, hkeys⟩
  | rejected err => trivial

theorem CachesOk.mono {s : Shared} {clock clock' : Int} (h : CachesOk web times clock s)
    (hclock : clock ≤ clock') :
  CachesOk web times clock' s
  := by
  refine ⟨?_, ?_, h.asked⟩
  · intro source hknown entry hentry
    obtain ⟨began, t, hexpires, hbegan, hhigh, hkeys⟩ := h.keySets source hknown entry hentry
    exact ⟨began, t, hexpires, hbegan, hhigh.trans hclock, hkeys⟩
  · intro issuer entry hentry
    obtain ⟨began, g, hexpires, hbegan, hhigh, hurl⟩ := h.issuers issuer entry hentry
    exact ⟨began, g, hexpires, hbegan, hhigh.trans hclock, hurl⟩

/-! ### Addresses -/

omit [CaseTables] in
theorem runes_append_ascii {a t : Str} (ht : ∀ b ∈ t, b < 128) :
  runes (a ++ t) = runes a ++ t.map fun b => .char (asciiChar b)
  := by
  induction t using List.reverseRecOn with
  | nil => simp
  | append_singleton t b ih =>
      rw [List.forall_mem_append] at ht
      rw [← List.append_assoc, runes_concat_ascii (ht.2 b (List.mem_singleton_self b)), ih ht.1,
        List.map_append, List.append_assoc]
      rfl

omit [CaseTables] in
/-- What is left of a list is not shortened by what is appended to the list. -/
theorem trimBoth_prefix {α : Type} {p : α → Bool} (l : List α) {m : List α}
    (hm : ∀ x ∈ m, p x = false) (hm' : m ≠ []) :
  trimBoth p l <+: trimBoth p (l ++ m)
  := by
  have hkeep : ∀ k : List α, (k ++ m).reverse.dropWhile p = (k ++ m).reverse := by
    intro k
    obtain ⟨x, m', hm''⟩ := List.exists_cons_of_ne_nil (List.reverse_ne_nil_iff.mpr hm')
    have hx : p x = false := by
      apply hm
      rw [← List.mem_reverse, hm'']
      apply List.mem_cons_self
    rw [List.reverse_append, hm'', List.cons_append, List.dropWhile_cons_of_neg (by simp [hx])]
  have hfront : (l ++ m).dropWhile p = l.dropWhile p ++ m := by
    rw [List.dropWhile_append]
    split_ifs with hl
    · rw [List.isEmpty_iff] at hl
      rw [hl, List.nil_append, List.dropWhile_eq_self_iff]
      intro hpos
      simp [hm]
    · rfl
  rw [trimBoth, trimBoth, hfront, hkeep, List.reverse_reverse]
  apply List.IsPrefix.trans _ (List.prefix_append _ m)
  rw [← List.reverse_suffix, List.reverse_reverse]
  apply List.dropWhile_suffix

/-- A secure address stays one when something is appended to it. -/
theorem isHTTPSURL_append {a t : Str} (ht : ∀ b ∈ t, 32 < b ∧ b < 127) (ht' : t ≠ [])
    (h : isHTTPSURL a = true) :
  isHTTPSURL (a ++ t) = true
  := by
  rw [isHTTPSURL, List.isPrefixOf_iff_prefix] at h ⊢
  apply h.trans
  have hascii : ∀ b ∈ t, b < 128 := fun b hb => (ht b hb).2.trans (by decide)
  have hword : ∀ r ∈ t.map fun b => Rune.char (asciiChar b), isSpace r.value = false := by
    rw [← runes_of_ascii hascii]
    apply isSpace_of_mem_runes ht
  have hruns : trimBoth (fun r => isSpace r.value) (runes a)
      <+: trimBoth (fun r => isSpace r.value) (runes (a ++ t)) := by
    rw [runes_append_ascii hascii]
    apply trimBoth_prefix _ hword
    rw [ne_eq, List.map_eq_nil_iff]
    apply ht'
  obtain ⟨rest, hrest⟩ := hruns
  rw [toLower, toLower, runes_trimSpace, runes_trimSpace, ← hrest, List.map_append, ofRunes_append]
  apply List.prefix_append

theorem allowed_of_asked {url u : Str} {t : Int}
    (h : (loadWriteJWKSFromURL web url t).2 = some u) :
  jwksTransportAllowed u = true
  := by
  rw [loadWriteJWKSFromURL] at h
  cases hallowed : jwksTransportAllowed (trimSpace url) with
  | false =>
      rw [hallowed, if_pos rfl] at h
      cases h
  | true =>
      rw [hallowed, if_neg (by decide)] at h
      have hu : trimSpace url = u := by
        split at h
        · split_ifs at h
          apply Option.some.inj h
        · split_ifs at h
          apply Option.some.inj h
      rw [← hu, hallowed]

theorem allowed_of_discovered {issuer u : Str} {t : Int} (hissuer : jwksTransportAllowed issuer = true)
    (h : (discoverJWKSURL web issuer t).2 = some u) :
  jwksTransportAllowed u = true
  := by
  have hu : discoveryURL issuer = u := by
    rw [discoverJWKSURL] at h
    split at h
    · split_ifs at h
      apply Option.some.inj h
    · split_ifs at h
      apply Option.some.inj h
  have hsecure : ∀ raw, jwksTransportAllowed raw = isHTTPSURL raw := by
    intro raw
    rw [jwksTransportAllowed, writeJWKSAllowInsecureForTests, Bool.false_and, Bool.or_false]
  rw [hsecure] at hissuer
  rw [← hu, hsecure]
  apply isHTTPSURL_append (by decide) (by decide) hissuer

/-! ### What a step keeps -/

section

variable {web times request now} {s : Shared} {load : Load}

theorem LoadOk.fail (h : LoadOk now load) (err : Str) :
  PhaseOk web times request now (load.fail err)
  := h.rest

theorem LoadOk.fetch (h : LoadOk now load) :
  PhaseOk web times request now load.fetch
  := by
  rw [Load.fetch, kind_of_known h.known]
  rcases h.known with hkind | hkind | hkind
  · rw [if_neg (by rw [hkind]; decide), if_pos hkind]
    exact ⟨h, .inl ⟨hkind, rfl⟩⟩
  · rw [if_pos hkind]
    exact ⟨h, hkind⟩
  · rw [if_neg (by rw [hkind]; decide), if_neg (by rw [hkind]; decide), if_pos hkind]
    exact ⟨h, hkind⟩

theorem LoadOk.verify (h : LoadOk now load) {keys : List WriteJWK}
    (hkeys : ∃ began t, load.began - times.cacheTTL < began ∧ began ≤ t ∧ t ≤ now
      ∧ Publishes web times load.source keys began t) :
  PhaseOk web times request now (load.verify request keys)
  := by
  rw [Load.verify]
  split
  · rename_i hverified
    exact ⟨hverified, hkeys⟩
  · split
    · apply h
    · apply h.rest

theorem CachesOk.record (h : CachesOk web times now s) {url : Option Str}
    (hurl : ∀ u, url = some u → jwksTransportAllowed u = true) :
  CachesOk web times now (s.record url now)
  := by
  refine ⟨h.keySets, h.issuers, ?_⟩
  intro u t hmem
  rw [Shared.record, List.mem_append] at hmem
  rcases hmem with hmem | hmem
  · cases url with
    | none => cases hmem
    | some v =>
        obtain ⟨rfl, -⟩ := Happening.asked.inj (List.mem_singleton.mp hmem)
        apply hurl u rfl
  · apply h.asked u t hmem

/-- The keys of a load that has just ended, whichever load of theirs is meant. -/
theorem keys_of_fetched {keys : List WriteJWK}
    (h : ∃ t, load.began ≤ t ∧ t ≤ now ∧ Publishes web times load.source keys load.began t) :
  ∃ began t, load.began - times.cacheTTL < began ∧ began ≤ t ∧ t ≤ now
    ∧ Publishes web times load.source keys began t
  := by
  obtain ⟨t, hlow, hhigh, hkeys⟩ := h
  have hpos := cacheTTL_pos times
  exact ⟨load.began, t, by omega, hlow, hhigh, hkeys⟩

theorem CachesOk.storeKeys (h : CachesOk web times now s) (hload : LoadOk now load)
    {keys : List WriteJWK}
    (hkeys : ∃ t, load.began ≤ t ∧ t ≤ now ∧ Publishes web times load.source keys load.began t) :
  CachesOk web times now
    { s with
      keySets := Function.update s.keySets load.source.cacheKey
        (some ⟨keys, load.began + times.cacheTTL⟩) }
  := by
  refine ⟨?_, h.issuers, h.asked⟩
  intro source hknown entry hentry
  simp only at hentry
  by_cases hkey : source.cacheKey = load.source.cacheKey
  · rw [hkey, Function.update_self, Option.some.injEq] at hentry
    obtain ⟨hkind, hvalue⟩ := eq_of_cacheKey hload.known hknown hkey.symm
    obtain ⟨t, hlow, hhigh, hpublished⟩ := hkeys
    rw [← hentry]
    exact ⟨load.began, t, rfl, hlow, hhigh, hpublished.congr web times hkind hvalue⟩
  · rw [Function.update_of_ne hkey] at hentry
    apply h.keySets source hknown entry hentry

theorem CachesOk.storeIssuer (h : CachesOk web times now s) {issuer url : Str} {began : Int}
    (hurl : ∃ g, began ≤ g ∧ g ≤ now ∧ (discoverJWKSURL web issuer g).1 = .ok url) :
  CachesOk web times now
    { s with
      issuers := Function.update s.issuers issuer (some ⟨url, began + times.discoveryTTL⟩) }
  := by
  refine ⟨h.keySets, ?_, h.asked⟩
  intro issuer' entry hentry
  simp only at hentry
  by_cases hissuer : issuer' = issuer
  · rw [hissuer, Function.update_self, Option.some.injEq] at hentry
    obtain ⟨g, hlow, hhigh, hfound⟩ := hurl
    rw [hissuer, ← hentry]
    exact ⟨began, g, rfl, hlow, hhigh, hfound⟩
  · rw [Function.update_of_ne hissuer] at hentry
    apply h.issuers issuer' entry hentry

omit [CaseTables] in
theorem fresh_eq_some {α : Type} {entry : Option (CacheEntry α)} {x : α}
    (h : CacheEntry.fresh now entry = some x) :
  ∃ expiresAt, entry = some ⟨x, expiresAt⟩ ∧ now < expiresAt
  := by
  cases entry with
  | none => cases h
  | some e =>
      rw [CacheEntry.fresh] at h
      split_ifs at h with hfresh
      obtain rfl := Option.some.inj h
      exact ⟨e.expiresAt, rfl, hfresh⟩

/-- Keys from the cache were published since the time they are kept for. -/
theorem CachesOk.keys_of_fresh (h : CachesOk web times now s) {source : WriteJWKSSource}
    (hknown : source.Known) {keys : List WriteJWK}
    (hkeys : CacheEntry.fresh now (s.keySets source.cacheKey) = some keys) :
  ∃ began t, now - times.cacheTTL < began ∧ began ≤ t ∧ t ≤ now
    ∧ Publishes web times source keys began t
  := by
  obtain ⟨expiresAt, hentry, hfresh⟩ := fresh_eq_some hkeys
  obtain ⟨began, t, hexpires, hbegan, hhigh, hpublished⟩ := h.keySets source hknown _ hentry
  simp only at hexpires hpublished
  exact ⟨began, t, by omega, hbegan, hhigh, hpublished⟩

/-- An address from the cache was announced since the time it is kept for. -/
theorem CachesOk.announced_of_fresh (h : CachesOk web times now s) (hload : LoadOk now load)
    (hkind : load.source.kind = str "oidc") {url : Str}
    (hurl : CacheEntry.fresh now (s.issuers (normalizeIssuerURL (trimSpace load.source.value)))
      = some url) :
  Announced web times load now url
  := by
  obtain ⟨expiresAt, hentry, hfresh⟩ := fresh_eq_some hurl
  obtain ⟨began, g, hexpires, hbegan, hhigh, hfound⟩ := h.issuers _ _ hentry
  have hload' := hload.began
  simp only at hexpires hfound
  exact ⟨hkind, g, by omega, hhigh, hfound⟩

theorem publishes_of_fetching {url : Str} {keys : List WriteJWK}
    (h : load.source.kind = str "url" ∧ url = load.source.value ∨ Announced web times load now url)
    (hkeys : (loadWriteJWKSFromURL web url now).1 = .ok keys) :
  Publishes web times load.source keys load.began now
  := by
  rcases h with ⟨hkind, rfl⟩ | ⟨hkind, g, hlow, hhigh, hurl⟩
  · apply Publishes.url hkind hkeys
  · apply Publishes.oidc hkind hurl hlow hhigh hkeys

/-- Whatever a request does next, what is known of the caches and of the request stays true. -/
theorem advance_ok {p : TokenPhase} (hs : CachesOk web times now s)
    (hp : PhaseOk web times request now p) :
  CachesOk web times now (advance web times request now s p).1
    ∧ PhaseOk web times request now (advance web times request now s p).2
  := by
  cases p with
  | asking sources errors =>
      cases sources with
      | nil => exact ⟨hs, trivial⟩
      | cons source rest =>
          rw [PhaseOk, List.forall_mem_cons] at hp
          have hload : LoadOk now { source, rest, errors, verifyErr := none, began := now } :=
            ⟨hp.1, hp.2, le_rfl⟩
          rw [advance]
          cases hkeys : CacheEntry.fresh now (s.keySets source.cacheKey) with
          | some keys => exact ⟨hs, hload.verify (hs.keys_of_fresh hp.1 hkeys)⟩
          | none =>
              refine ⟨hs, ?_⟩
              dsimp only
              apply LoadOk.fetch
              apply hload
  | reading load =>
      rw [advance]
      cases hkeys : loadWriteJWKSFromPath web load.source.value now with
      | error err => exact ⟨hs, hp.1.fail err⟩
      | ok keys => exact ⟨hs, hp.1, now, hp.1.began, le_rfl, .path hp.2 hkeys⟩
  | fetching load url =>
      rw [advance]
      have hasked : ∀ u, (loadWriteJWKSFromURL web url now).2 = some u →
          jwksTransportAllowed u = true := fun u => allowed_of_asked web
      cases hfound : loadWriteJWKSFromURL web url now with
      | mk result asked =>
          rw [hfound] at hasked
          cases result with
          | error err =>
              dsimp only
              exact ⟨hs.record hasked, hp.1.fail err⟩
          | ok keys =>
              have hkeys : (loadWriteJWKSFromURL web url now).1 = .ok keys := by
                rw [hfound]
              dsimp only
              exact ⟨hs.record hasked, hp.1, now, hp.1.began, le_rfl,
                publishes_of_fetching hp.2 hkeys⟩
  | resolving load =>
      obtain ⟨hload, hkind⟩ := hp
      rw [advance]
      split_ifs with hempty hallowed hforced
      · exact ⟨hs, hload.fail _⟩
      · exact ⟨hs, hload.fail _⟩
      · exact ⟨hs, hload, hkind, rfl, by simpa using hallowed, hload.began, le_rfl⟩
      · cases hurl : CacheEntry.fresh now
            (s.issuers (normalizeIssuerURL (trimSpace load.source.value))) with
        | some url => exact ⟨hs, hload, .inr (hs.announced_of_fresh hload hkind hurl)⟩
        | none => exact ⟨hs, hload, hkind, rfl, by simpa using hallowed, hload.began, le_rfl⟩
  | discovering load issuer began =>
      obtain ⟨hload, hkind, hissuer, hallowed, hlow, hhigh⟩ := hp
      rw [advance]
      have hasked : ∀ u, (discoverJWKSURL web issuer now).2 = some u →
          jwksTransportAllowed u = true := fun u => allowed_of_discovered web hallowed
      cases hfound : discoverJWKSURL web issuer now with
      | mk result asked =>
          rw [hfound] at hasked
          cases result with
          | error err =>
              dsimp only
              exact ⟨hs.record hasked, hload.fail err⟩
          | ok url =>
              dsimp only
              exact ⟨hs.record hasked, hload, hkind, hissuer, hlow, now, hhigh, le_rfl,
                by rw [hfound]⟩
  | announced load issuer began url =>
      obtain ⟨hload, hkind, hissuer, hlow, g, hg, hhigh, hurl⟩ := hp
      have hpos := discoveryTTL_pos times
      refine ⟨hs.storeIssuer ⟨g, hg, hhigh, hurl⟩, hload, .inr ⟨hkind, g, by omega, hhigh, ?_⟩⟩
      rw [← hissuer, hurl]
  | fetched load keys => exact ⟨hs.storeKeys hp.1 hp.2, hp.1.verify (keys_of_fetched hp.2)⟩
  | failed load err =>
      rw [advance]
      split_ifs
      · refine ⟨⟨hs.keySets, hs.issuers, ?_⟩, hp⟩
        intro url t hmem
        rw [List.mem_cons] at hmem
        rcases hmem with hmem | hmem
        · cases hmem
        · apply hs.asked url t hmem
      · exact ⟨hs, LoadOk.rest hp⟩
  | granted load err =>
      have hload : LoadOk now load := hp
      have hforced : LoadOk now { load with verifyErr := some err, began := now } :=
        ⟨hload.known, hload.rest, le_rfl⟩
      refine ⟨hs, ?_⟩
      dsimp only [advance]
      apply LoadOk.fetch
      apply hforced
  | accepted source keys began => exact ⟨hs, hp⟩
  | rejected err => exact ⟨hs, hp⟩

end

/-- What is known of the server in every state of a run. -/
structure ServerOk (s : Server ι) : Prop where
  caches : CachesOk web times s.clock s.shared
  phases : ∀ i, PhaseOk web times (requests i) s.clock (s.phases i)

theorem ServerOk.step {s s' : Server ι} (h : ServerOk web times requests s)
    (hstep : ServerStep web times requests s s') :
  ServerOk web times requests s'
  := by
  cases hstep with
  | tick hclock => exact ⟨h.caches.mono web times hclock, fun i => (h.phases i).mono web times hclock⟩
  | move i =>
      obtain ⟨hcaches, hphase⟩ := advance_ok h.caches (h.phases i)
      refine ⟨hcaches, ?_⟩
      intro j
      simp only [Server.move]
      by_cases hj : j = i
      · rw [hj, Function.update_self]
        apply hphase
      · rw [Function.update_of_ne hj]
        apply h.phases j

omit [CaseTables] in
/-- When the keys of a source were allowed to be read anew, the newest first. -/
def refreshTimes (key : Str) : List Happening → List Int
  | [] => []
  | .refresh k t :: log => if k = key then t :: refreshTimes key log else refreshTimes key log
  | .asked _ _ :: log => refreshTimes key log

omit [CaseTables] in
/-- What is known of forced readings: they keep their distance, and the last one is remembered. -/
def RefreshesOk (s : Shared) : Prop :=
  ∀ key, (refreshTimes key s.log).head? = s.lastRefresh key
    ∧ (refreshTimes key s.log).Pairwise
      fun later earlier => earlier + writeJWKSForceRefreshCooldown ≤ later

omit [CaseTables] in
theorem RefreshesOk.grant {s : Shared} (h : RefreshesOk s) {key : Str} {now : Int}
    (hallowed : writeJWKSForceRefreshAllowed (s.lastRefresh key) now = true) :
  RefreshesOk
    { s with
      lastRefresh := Function.update s.lastRefresh key (some now)
      log := .refresh key now :: s.log }
  := by
  intro key'
  by_cases hkey : key = key'
  · subst hkey
    obtain ⟨hhead, hspaced⟩ := h key
    simp only [refreshTimes, if_true, Function.update_self, List.head?_cons, true_and]
    rw [← hhead] at hallowed
    cases htimes : refreshTimes key s.log with
    | nil => apply List.pairwise_singleton
    | cons last times =>
        rw [htimes] at hallowed hspaced
        simp only [writeJWKSForceRefreshAllowed, List.head?_cons, decide_eq_true_eq] at hallowed
        rw [List.pairwise_cons, List.forall_mem_cons]
        refine ⟨⟨by omega, ?_⟩, hspaced⟩
        intro t ht
        have hold := (List.pairwise_cons.mp hspaced).1 t ht
        have hpos : 0 < writeJWKSForceRefreshCooldown := by decide
        omega
  · simp only [refreshTimes, if_neg hkey, Function.update_of_ne (Ne.symm hkey)]
    apply h key'

end

section

attribute [local instance] asciiCaseTables

/-- A modulus of 2048 bits. -/
@[irreducible]
def sampleModulus : Str := 103 :: List.replicate 341 65

def sampleKey : WriteJWK where
  kty := str "RSA"
  kid := []
  use := []
  alg := []
  n := sampleModulus
  e := str "AQAB"

def sampleFile : Str := marshalIndent (writeJWKSJSON.write [sampleKey]) ++ [10]

/-- The key set stands in a file; nothing answers over the web. -/
def sampleWeb : Web where
  readFile := fun _ _ => .ok sampleFile
  newRequest := fun _ => .ok ()
  get := fun _ _ => .failed (str "no such host")
  jsonError := fun _ => []

/-- A host on which every signature verifies, or none does. -/
def sampleHost (verifies : Bool) : Host where
  getenv := fun _ => []
  now := 0
  keySet := fun _ _ => .error []
  forceRefreshAllowed := fun _ => false
  identityMap := fun _ => .error []
  hmacSHA256 := fun _ _ => []
  sha256 := fun _ => []
  verifyPKCS1v15 := fun _ _ _ _ => verifies
  float64 := fun _ => none
  base64Error := fun _ => []
  jsonError := fun _ => []

def sampleRequest (verifies : Bool) : SignedToken := ⟨sampleHost verifies, [], [], str "AA", []⟩

def sampleConfig : WriteJWTVerificationConfig := { jwksPath := str "/etc/jwks.json" }

/-- A server with one request, after it has proceeded a number of times. -/
def sampleRun (verifies : Bool) : Nat → Server Unit
  | 0 => .start 0 sampleConfig
  | n + 1 => (sampleRun verifies n).move sampleWeb {} (fun _ => sampleRequest verifies) ()

end

end Api
