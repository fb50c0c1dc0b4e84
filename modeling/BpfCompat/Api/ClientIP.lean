import BpfCompat.FirstMatch
import BpfCompat.Go.Net

/-!
# The address of a client

Behind a proxy every request comes from the proxy, which says in a header whom it forwards the
request for.  The header is a list: a proxy appends the address of its own peer, and what stands
to the left of it came with the request.  `clientIP` believes the header of a trusted proxy only,
and reads it from the right, to the first address that is not one of a trusted proxy.

What stands to the left of that entry is not to matter.  But an entry that is not an address at
all, such as an address with a port, is passed over, and the walk goes on into the part that the
client wrote.  So the address of a client cannot be forged exactly when the entry the walk ought
to end at is an address, or there is no such entry, or nothing but trusted addresses could be
found further left (`client_address_iff`).
-/

namespace Api

open Go

/-! ### The source -/

/-- A request as `clientIP` reads it: the address of the peer, and the lines of the header
`X-Forwarded-For`. -/
structure ForwardedRequest where
  remoteAddr : Str
  forwardedFor : List Str

structure TrustedProxyConfig where
  nets : List IPNet := []

/-- The network of an entry of the configuration.  A bare address is a network of one host. -/
def trustedNet (part : Str) : Option IPNet :=
  let entry := trimSpace part
  if entry = [] then none
  else if '/'.toUInt8 ∈ entry then parseCIDR entry
  else
    match parseIP entry with
    | some ip => parseCIDR (entry ++ str (if (to4 ip).isSome then "/32" else "/128"))
    | none => none

def loadTrustedProxies (getenv : Str → Str) : TrustedProxyConfig :=
  let raw := trimSpace (getenv (str "BPFCOMPAT_API_TRUSTED_PROXIES"))
  if raw = [] then {} else ⟨(raw.splitOn ','.toUInt8).filterMap trustedNet⟩

def TrustedProxyConfig.trusts (c : TrustedProxyConfig) (ip : Option IP) : Bool :=
  match ip with
  | none => false
  | some ip => c.nets.any (·.contains ip)

def peerHost (r : ForwardedRequest) : Str :=
  match netSplitHostPort r.remoteAddr with
  | some (host, _) => host
  | none => r.remoteAddr

/-- The loop through the parts of a line, from the right. -/
def scanParts (cfg : TrustedProxyConfig) : List Str → Option Str
  | [] => none
  | entry :: entries =>
    let candidate := trimSpace entry
    if candidate = [] then scanParts cfg entries
    else
      match parseIP candidate with
      | none => scanParts cfg entries
      | some ip => if ¬ cfg.trusts (some ip) then some candidate else scanParts cfg entries

/-- The loop through the lines, from the right. -/
def scanLines (cfg : TrustedProxyConfig) : List Str → Option Str
  | [] => none
  | line :: lines =>
    match scanParts cfg (line.splitOn ','.toUInt8).reverse with
    | some candidate => some candidate
    | none => scanLines cfg lines

def clientIP (getenv : Str → Str) (r : ForwardedRequest) : Str :=
  let cfg := loadTrustedProxies getenv
  let peerIP := parseIP (trimSpace (peerHost r))
  if ¬ cfg.trusts peerIP then peerHost r
  else
    match scanLines cfg r.forwardedFor.reverse with
    | some candidate => candidate
    | none => peerHost r

/-! ### The entries of a header -/

/-- The entries of the header, from the right. -/
def entries (r : ForwardedRequest) : List Str :=
  (r.forwardedFor.reverse.flatMap fun line => (line.splitOn ','.toUInt8).reverse).map trimSpace

section

variable (cfg : TrustedProxyConfig)

/-- The address the walk returns for an entry: one that is not trusted. -/
def untrusted (entry : Str) : Bool := (parseIP entry).any fun ip => !cfg.trusts (some ip)

theorem scanParts_append (parts parts' : List Str) :
  scanParts cfg (parts ++ parts') = (scanParts cfg parts).or (scanParts cfg parts')
  := by
  induction parts with
  | nil => rfl
  | cons entry parts ih =>
      rw [List.cons_append, scanParts, scanParts]
      split_ifs
      · exact ih
      · split
        · exact ih
        · split_ifs
          · exact ih
          · rfl

/-- The two loops are one, through all entries. -/
theorem scanLines_eq (lines : List Str) :
  scanLines cfg lines =
    scanParts cfg (lines.flatMap fun line => (line.splitOn ','.toUInt8).reverse)
  := by
  induction lines with
  | nil => rfl
  | cons line lines ih =>
      rw [scanLines, List.flatMap_cons, scanParts_append, ← ih]
      cases scanParts cfg (line.splitOn ','.toUInt8).reverse with
      | none => rfl
      | some candidate => rfl

theorem not_untrusted_nil :
  untrusted cfg [] = false
  := rfl

/-- The walk returns the first entry that is an address and not trusted. -/
theorem scanParts_eq (parts : List Str) :
  scanParts cfg parts = (parts.map trimSpace).find? (untrusted cfg)
  := by
  induction parts with
  | nil => rfl
  | cons entry parts ih =>
      rw [List.map_cons, List.find?_cons, scanParts, ← ih]
      split_ifs with hblank
      · rw [hblank, not_untrusted_nil]
      · rw [untrusted]
        cases parseIP (trimSpace entry) with
        | none => rfl
        | some ip =>
            dsimp only [Option.any_some]
            cases cfg.trusts (some ip) with
            | true => rfl
            | false => rfl

/-- The entry the walk ought to end at: it is not blank, and not the address of a trusted
proxy. -/
def outside (entry : Str) : Bool := entry ≠ [] && !cfg.trusts (parseIP entry)

/-- The entries of a list up to and including the first outside one. -/
def upTo : List Str → List Str
  | [] => []
  | entry :: rest => if outside cfg entry then [entry] else entry :: upTo rest

end

theorem scanLines_entries (cfg : TrustedProxyConfig) (r : ForwardedRequest) :
  scanLines cfg r.forwardedFor.reverse = (entries r).find? (untrusted cfg)
  := by
  rw [scanLines_eq, scanParts_eq, entries]

/-- An address that is not trusted is outside. -/
theorem outside_of_untrusted {cfg : TrustedProxyConfig} {entry : Str} (h : untrusted cfg entry) :
  outside cfg entry
  := by
  rw [outside, Bool.and_eq_true, decide_eq_true_iff]
  constructor
  · rintro rfl
    cases h
  · rw [untrusted] at h
    cases hip : parseIP entry with
    | none => rfl
    | some ip => simpa [hip] using h

/-- What is outside and an address is an address that is not trusted. -/
theorem untrusted_of_outside {cfg : TrustedProxyConfig} {entry : Str} (h : outside cfg entry)
    (haddress : (parseIP entry).isSome) :
  untrusted cfg entry
  := by
  rw [outside, Bool.and_eq_true] at h
  obtain ⟨ip, hip⟩ := Option.isSome_iff_exists.mp haddress
  rw [untrusted, hip]
  simpa [hip] using h.2

theorem find?_upTo (cfg : TrustedProxyConfig) (l : List Str) :
  (upTo cfg l).find? (outside cfg) = l.find? (outside cfg)
  := by
  induction l with
  | nil => rfl
  | cons entry l ih =>
      rw [upTo]
      split_ifs with h
      · simp [h]
      · simp [h, ih]

/-- Nothing to the left of the first outside entry counts. -/
theorem upTo_append {cfg : TrustedProxyConfig} {front : List Str} {entry : Str}
    (hfront : ∀ e ∈ front, outside cfg e = false) (hentry : outside cfg entry) (rest : List Str) :
  upTo cfg (front ++ entry :: rest) = front ++ [entry]
  := by
  induction front with
  | nil => rw [List.nil_append, upTo, if_pos hentry, List.nil_append]
  | cons e front ih =>
      rw [List.forall_mem_cons] at hfront
      rw [List.cons_append, upTo, if_neg (by simp [hfront.1]), ih hfront.2, List.cons_append]

/-- A text that can be an entry: without white space around it, and without a comma. -/
structure Listable (s : Str) : Prop where
  trimmed : trimSpace s = s
  comma : ','.toUInt8 ∉ s

theorem listable_of_mem {r : ForwardedRequest} {entry : Str} (h : entry ∈ entries r) :
  Listable entry
  := by
  obtain ⟨part, hpart, rfl⟩ := List.mem_map.mp h
  obtain ⟨line, -, hpart⟩ := List.mem_flatMap.mp hpart
  rw [List.mem_reverse] at hpart
  refine ⟨trimSpace_trimSpace part, ?_⟩
  intro hcomma
  apply notMem_of_mem_splitOn hpart
  apply mem_of_mem_trimSpace hcomma

/-- A request with a line for each entry has these entries. -/
theorem entries_of_lines (remoteAddr : Str) {es : List Str} (h : ∀ e ∈ es, Listable e) :
  entries ⟨remoteAddr, es.reverse⟩ = es
  := by
  rw [entries, List.reverse_reverse]
  induction es with
  | nil => rfl
  | cons e es ih =>
      rw [List.forall_mem_cons] at h
      rw [List.flatMap_cons, List.splitOn_eq_singleton h.1.comma, List.map_append, ih h.2]
      simp [h.1.trimmed]

/-! ### Forged entries -/

section

variable (getenv : Str → Str)

/-- The header of a request is believed. -/
def Believed (r : ForwardedRequest) : Prop :=
  (loadTrustedProxies getenv).trusts (parseIP (trimSpace (peerHost r)))

/-- Two requests whose entries agree from the right, up to and including the first one that is not
blank and not the address of a trusted proxy. -/
def Agree (a b : ForwardedRequest) : Prop :=
  upTo (loadTrustedProxies getenv) (entries a) = upTo (loadTrustedProxies getenv) (entries b)

/-- What makes the walk end where it ought to: the entry it ought to end at is an address, where
there is one; or no entry could end it further left. -/
def Ends (r : ForwardedRequest) : Prop :=
  (∀ entry ∈ (entries r).find? (outside (loadTrustedProxies getenv)), (parseIP entry).isSome) ∨
    ∀ entry, Listable entry → untrusted (loadTrustedProxies getenv) entry = false

variable {getenv} {a b : ForwardedRequest}

theorem peerHost_congr (h : b.remoteAddr = a.remoteAddr) :
  peerHost b = peerHost a
  := by
  rw [peerHost, peerHost, h]

theorem believed_congr (h : b.remoteAddr = a.remoteAddr) :
  Believed getenv b ↔ Believed getenv a
  := by
  rw [Believed, Believed, peerHost_congr h]

theorem clientIP_of_believed (h : Believed getenv a) :
  clientIP getenv a = ((entries a).find? (untrusted (loadTrustedProxies getenv))).getD (peerHost a)
  := by
  rw [Believed] at h
  rw [clientIP, if_neg (not_not.mpr h), scanLines_entries]
  cases (entries a).find? (untrusted (loadTrustedProxies getenv)) with
  | none => rfl
  | some candidate => rfl

/-- Where the walk ends as it ought to, it ends alike on requests that agree. -/
theorem find?_eq_of_agree (hends : Ends getenv a) (h : Agree getenv a b) :
  (entries a).find? (untrusted (loadTrustedProxies getenv)) =
    (entries b).find? (untrusted (loadTrustedProxies getenv))
  := by
  have hout : (entries a).find? (outside (loadTrustedProxies getenv)) =
      (entries b).find? (outside (loadTrustedProxies getenv)) := by
    rw [← find?_upTo, h, find?_upTo]
  have himp : ∀ r : ForwardedRequest, ∀ e ∈ entries r,
      untrusted (loadTrustedProxies getenv) e = true → outside (loadTrustedProxies getenv) e = true :=
    fun _ _ _ => outside_of_untrusted
  rcases hends with haddress | htrusts
  · cases ha : (entries a).find? (outside (loadTrustedProxies getenv)) with
    | none =>
        rw [FirstMatch.find?_none_of_imp (himp a) ha,
          FirstMatch.find?_none_of_imp (himp b) (hout ▸ ha)]
    | some entry =>
        have hentry := untrusted_of_outside (List.find?_some ha) (haddress entry ha)
        rw [FirstMatch.find?_of_imp (himp a) ha hentry,
          FirstMatch.find?_of_imp (himp b) (hout ▸ ha) hentry]
  · have hnone : ∀ r : ForwardedRequest,
        (entries r).find? (untrusted (loadTrustedProxies getenv)) = none := by
      intro r
      rw [List.find?_eq_none]
      intro entry hentry
      simp [htrusts entry (listable_of_mem hentry)]
    rw [hnone a, hnone b]

/-- The address of the peer is not one that the walk returns. -/
theorem ne_peerHost (h : Believed getenv a) {entry : Str} (hentry : Listable entry)
    (huntrusted : untrusted (loadTrustedProxies getenv) entry) :
  entry ≠ peerHost a
  := by
  rintro rfl
  rw [Believed, hentry.trimmed] at h
  rw [untrusted] at huntrusted
  cases hip : parseIP (peerHost a) with
  | none => simp [hip] at huntrusted
  | some ip => simp [hip] at huntrusted h; simp [h] at huntrusted

/-- Where it does not, what stands further left is returned, and can be anything. -/
theorem forged (h : Believed getenv a) (hends : ¬ Ends getenv a) :
  ∃ b c : ForwardedRequest, b.remoteAddr = a.remoteAddr ∧ c.remoteAddr = a.remoteAddr ∧
    Agree getenv a b ∧ Agree getenv a c ∧ clientIP getenv b ≠ clientIP getenv c
  := by
  rw [Ends, not_or] at hends
  push Not at hends
  obtain ⟨⟨entry, hfind, hno⟩, forgery, hlistable, hforgery⟩ := hends
  rw [Option.mem_def, List.find?_eq_some_iff_append] at hfind
  obtain ⟨hout, front, rest, hentries, hfront⟩ := hfind
  rw [ne_eq, Bool.not_eq_true, Option.isSome_eq_false_iff, Option.isNone_iff_eq_none] at hno
  rw [ne_eq, Bool.not_eq_false] at hforgery
  have hfront' : ∀ e ∈ front, outside (loadTrustedProxies getenv) e = false := by
    simpa using hfront
  have hall : ∀ e ∈ front ++ [entry], Listable e := by
    intro e he
    have hmem : e ∈ entries a := by
      rw [hentries]
      simp only [List.mem_append, List.mem_cons] at he ⊢
      tauto
    exact listable_of_mem hmem
  have hskip : (front ++ [entry]).find? (untrusted (loadTrustedProxies getenv)) = none := by
    rw [List.find?_eq_none]
    intro e he hu
    rw [List.mem_append, List.mem_singleton] at he
    rcases he with he | rfl
    · have hcontra := hfront' e he
      rw [outside_of_untrusted hu] at hcontra
      cases hcontra
    · rw [untrusted, hno] at hu
      cases hu
  -- the header with nothing further left, and the one with the forged entry there
  have hb : entries ⟨a.remoteAddr, (front ++ [entry]).reverse⟩ = front ++ [entry] :=
    entries_of_lines a.remoteAddr hall
  have hc : entries ⟨a.remoteAddr, (front ++ [entry] ++ [forgery]).reverse⟩ =
      front ++ [entry] ++ [forgery] := by
    apply entries_of_lines
    rw [List.forall_mem_append, List.forall_mem_singleton]
    exact ⟨hall, hlistable⟩
  refine ⟨⟨a.remoteAddr, (front ++ [entry]).reverse⟩,
    ⟨a.remoteAddr, (front ++ [entry] ++ [forgery]).reverse⟩, rfl, rfl, ?_, ?_, ?_⟩
  · rw [Agree, hb, hentries, upTo_append hfront' hout, upTo_append hfront' hout]
  · rw [Agree, hc, hentries, List.append_assoc, List.singleton_append, upTo_append hfront' hout,
      upTo_append hfront' hout]
  · have hpeer : ∀ lines, Believed getenv ⟨a.remoteAddr, lines⟩ := fun lines =>
      (believed_congr rfl).mpr h
    rw [clientIP_of_believed (hpeer _), clientIP_of_believed (hpeer _), hb, hc, hskip,
      List.find?_append, hskip]
    simpa [hforgery, peerHost] using (ne_peerHost h hlistable hforgery).symm

/-- The address computed for a request is that of every request from the same peer whose header
agrees with it, or from a peer that is not believed, exactly when the peer is not believed or the
walk ends where it ought to. -/
theorem client_address_iff (getenv : Str → Str) (a : ForwardedRequest) :
  (∀ b : ForwardedRequest, b.remoteAddr = a.remoteAddr → ¬ Believed getenv a ∨ Agree getenv a b →
    clientIP getenv a = clientIP getenv b) ↔ (Believed getenv a → Ends getenv a)
  := by
  constructor
  · intro hall hbelieved
    by_contra hends
    obtain ⟨b, c, hb, hc, hab, hac, hne⟩ := forged hbelieved hends
    apply hne
    rw [← hall b hb (.inr hab), hall c hc (.inr hac)]
  · intro hends b hpeer hcase
    have hhost := peerHost_congr hpeer
    by_cases hbelieved : Believed getenv a
    · have hbelieved' := (believed_congr hpeer).mpr hbelieved
      have hagree := hcase.resolve_left (not_not.mpr hbelieved)
      rw [clientIP_of_believed hbelieved, clientIP_of_believed hbelieved', hhost,
        find?_eq_of_agree (hends hbelieved) hagree]
    · have hbelieved' := mt (believed_congr hpeer).mp hbelieved
      rw [Believed] at hbelieved hbelieved'
      rw [clientIP, clientIP, if_pos hbelieved, if_pos hbelieved', hhost]

end

/-! ### An address with a port -/

/-- The proxy is trusted. -/
def proxyEnv : Str → Str := fun _ => str "10.0.0.1/32"

/-- Two requests through the proxy, which names its client with a port; one of them came with a
forged header. -/
theorem port_lets_forgery_through :
  Agree proxyEnv ⟨str "10.0.0.1:443", [str "203.0.113.20:5000"]⟩
      ⟨str "10.0.0.1:443", [str "198.51.100.99, 203.0.113.20:5000"]⟩ ∧
    clientIP proxyEnv ⟨str "10.0.0.1:443", [str "203.0.113.20:5000"]⟩ = str "10.0.0.1" ∧
    clientIP proxyEnv ⟨str "10.0.0.1:443", [str "198.51.100.99, 203.0.113.20:5000"]⟩ =
      str "198.51.100.99"
  := by
  rw [Agree]
  decide +kernel

end Api
