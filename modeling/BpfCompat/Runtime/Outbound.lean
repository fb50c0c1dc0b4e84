import BpfCompat.Go.Collections
import BpfCompat.Go.Net
import BpfCompat.Go.Url
import BpfCompat.Go.Glob

/-!
# Where a download connects to

A record says from where its artifact is downloaded, and whoever wrote the record chose the
address.  The server must not be made to connect to addresses inside of its own network that way.
`fetchHTTPArtifact` resolves the host of the address and refuses it when it is inside; it does so
again at every redirect; and it does so once more when it connects, because the resolver may by
then answer differently.  Only the last of these counts: `dialValidatedHost` connects to the
addresses it has itself resolved and checked, and to no others.

The outside is a parameter: what the resolver answers at each lookup, which addresses accept a
connection, and what each request is answered.  Whatever these are, no address that the download
connects to is an internal one, and it ends after at most five redirects (`download_stays_outside`).
-/

namespace Runtime

open Go

/-! ### The source -/

/-- An address as the resolver gives it. -/
structure IPAddr where
  ip : IP
  length_ip : ip.length = 4 ∨ ip.length = 16

def isInternalIP (ip : IP) : Bool :=
  ip = [] || ip.isLoopback || ip.isLinkLocalUnicast || ip.isLinkLocalMulticast || ip.isMulticast ||
    ip.isUnspecified || ip.isPrivate || ip.isInterfaceLocalMulticast ||
    (match to4 ip with
      | some (a :: b :: _) => a = 169 && b = 254 || (a = 100 && 64 ≤ b && b ≤ 127)
      | _ => false)

inductive OutboundError where
  | unsupportedScheme (scheme : Str)
  | missingHost
  | unresolved (host reason : Str)
  | noAddresses (host : Str)
  | internalAddress (host : Str) (ip : IP)
  | badAddress (address : Str)
  | tooManyRedirects
  | badLocation (location : Str)
  | badURL
  | refused

def validateResolvedIPs (host : Str) (addrs : List IPAddr) (allowInternal : Bool) :
    Except OutboundError Unit :=
  if allowInternal then .ok ()
  else if addrs.length = 0 then .error (.noAddresses host)
  else
    match addrs.find? fun addr => isInternalIP addr.ip with
    | some addr => .error (.internalAddress host addr.ip)
    | none => .ok ()

/-- What the resolver answers to one lookup. -/
abbrev Lookup : Type := Str → Except Str (List IPAddr)

def validateOutboundHost [UnicodeTables] (u : Destination) (allowInternal : Bool) (lookup : Lookup) :
    Except OutboundError Unit :=
  let scheme := toLower (trimSpace u.scheme)
  let host := hostname u.host
  if scheme ≠ str "http" ∧ scheme ≠ str "https" then .error (.unsupportedScheme scheme)
  else if host = [] then .error .missingHost
  else if allowInternal then .ok ()
  else
    match lookup host with
    | .error reason => .error (.unresolved host reason)
    | .ok addrs => validateResolvedIPs host addrs allowInternal

/-- The addresses that are tried, up to the first that accepts. -/
def tried (accepts : IP → Bool) : List IPAddr → List IP
  | [] => []
  | addr :: addrs => addr.ip :: if accepts addr.ip then [] else tried accepts addrs

/-- Connecting to an address: the addresses that are tried, and whether one of them accepted.  The
text of an address from the resolver, which is what the dialer is given, stands for the address
itself. -/
def dialValidatedHost (address : Str) (allowInternal : Bool) (lookup : Lookup) (accepts : IP → Bool) :
    List IP × Except OutboundError Unit :=
  match netSplitHostPort address with
  | none => ([], .error (.badAddress address))
  | some (host, _) =>
    match lookup host with
    | .error reason => ([], .error (.unresolved host reason))
    | .ok addrs =>
      match validateResolvedIPs host addrs allowInternal with
      | .error err => ([], .error err)
      | .ok _ =>
        (tried accepts addrs,
          if addrs.any fun addr => accepts addr.ip then .ok () else .error .refused)

def fetchMaxRedirects : Nat := 5

/-- What is outside: the answer of the resolver when a redirect is checked and when a connection is
made, hop by hop, the addresses that accept a connection, the text that net/http dials for a
destination, and the place a response redirects to, where it does. -/
structure Outside where
  checkLookup : Nat → Lookup
  dialLookup : Nat → Lookup
  accepts : Nat → IP → Bool
  address : Destination → Str
  location : Nat → Option Str

/-- What became of a download: the addresses connected to, in order, how many redirects were
followed, and how it ended. -/
structure Download where
  dialed : List IP
  followed : Nat
  outcome : Except OutboundError Unit

/-- The check of a redirect, after `via` requests. -/
def checkRedirect [UnicodeTables] (o : Outside) (u : Destination) (via : Nat) (allowInternal : Bool) :
    Except OutboundError Unit :=
  if fetchMaxRedirects ≤ via then .error .tooManyRedirects
  else validateOutboundHost u allowInternal (o.checkLookup via)

/-- The requests of a download from the one to `u` on, when `via` were sent before it. -/
def send [UnicodeTables] (o : Outside) (allowInternal : Bool) (via : Nat) (u : Destination) : Download :=
  match dialValidatedHost (o.address u) allowInternal (o.dialLookup via) (o.accepts via) with
  | (dialed, .error err) => ⟨dialed, 0, .error err⟩
  | (dialed, .ok _) =>
    match o.location via with
    | none => ⟨dialed, 0, .ok ()⟩
    | some location =>
      match parseUrl location with
      | none => ⟨dialed, 0, .error (.badLocation location)⟩
      | some ref =>
        match h : checkRedirect o (resolve u ref) (via + 1) allowInternal with
        | .error err => ⟨dialed, 0, .error err⟩
        | .ok _ =>
          let rest := send o allowInternal (via + 1) (resolve u ref)
          ⟨dialed ++ rest.dialed, rest.followed + 1, rest.outcome⟩
termination_by fetchMaxRedirects - via
decreasing_by
  rw [checkRedirect] at h
  split_ifs at h with hvia
  omega

def fetchAllowInternalHostsEnabled [UnicodeTables] (getenv : Str → Str) : Bool :=
  let raw := trimSpace (toLower (getenv (str "BPFCOMPAT_FETCH_ALLOW_INTERNAL_HOSTS")))
  raw ∈ [str "1", str "true", str "yes", str "on"]

/-- The part of a download that goes over the network.  The address is checked without the white
space around it and requested as it is. -/
def fetchHTTPArtifact [UnicodeTables] (getenv : Str → Str) (o : Outside) (sourceURI : Str) : Download :=
  let allowInternal := fetchAllowInternalHostsEnabled getenv
  match parseUrl (trimSpace sourceURI) with
  | none => ⟨[], 0, .error .badURL⟩
  | some parsed =>
    match validateOutboundHost parsed.destination allowInternal (o.checkLookup 0) with
    | .error err => ⟨[], 0, .error err⟩
    | .ok _ =>
      match parseUrl sourceURI with
      | none => ⟨[], 0, .error .badURL⟩
      | some u => send o allowInternal 0 u.destination

/-! ### Internal addresses -/

/-- The networks inside: loopback, link-local, private, multicast, the unspecified address, and
what carriers translate. -/
def internalNetworks : List String :=
  ["127.0.0.0/8", "::1/128", "169.254.0.0/16", "fe80::/10", "10.0.0.0/8", "172.16.0.0/12",
    "192.168.0.0/16", "fc00::/7", "224.0.0.0/4", "ff00::/8", "0.0.0.0/32", "::/128",
    "100.64.0.0/10"]

/-- An address of one of these networks, with four bytes or with sixteen. -/
def Internal (ip : IP) : Prop :=
  ∃ name ∈ internalNetworks, ∃ n, parseCIDR (str name) = some n ∧ n.contains ip

/-- The networks with four bytes, by number and mask. -/
def networks4 : List IPNet :=
  [⟨[127, 0, 0, 0], [255, 0, 0, 0]⟩, ⟨[169, 254, 0, 0], [255, 255, 0, 0]⟩,
    ⟨[10, 0, 0, 0], [255, 0, 0, 0]⟩, ⟨[172, 16, 0, 0], [255, 240, 0, 0]⟩,
    ⟨[192, 168, 0, 0], [255, 255, 0, 0]⟩, ⟨[224, 0, 0, 0], [240, 0, 0, 0]⟩,
    ⟨[0, 0, 0, 0], [255, 255, 255, 255]⟩, ⟨[100, 64, 0, 0], [255, 192, 0, 0]⟩]

/-- The networks with sixteen. -/
def networks6 : List IPNet :=
  [⟨List.replicate 15 0 ++ [1], List.replicate 16 255⟩,
    ⟨[254, 128] ++ List.replicate 14 0, [255, 192] ++ List.replicate 14 0⟩,
    ⟨[252] ++ List.replicate 15 0, [254] ++ List.replicate 15 0⟩,
    ⟨[255] ++ List.replicate 15 0, [255] ++ List.replicate 15 0⟩,
    ⟨List.replicate 16 0, List.replicate 16 255⟩]

theorem mem_networks {name : String} {n : IPNet} (hname : name ∈ internalNetworks)
    (hn : parseCIDR (str name) = some n) :
  n ∈ networks4 ∨ n ∈ networks6
  := by
  have hall : ∀ name ∈ internalNetworks, ∃ n ∈ networks4 ++ networks6,
      parseCIDR (str name) = some n := by
    decide +kernel
  obtain ⟨n', hmem, hn'⟩ := hall name hname
  rw [hn] at hn'
  cases hn'
  exact List.mem_append.mp hmem

theorem forall_uint8 {p : UInt8 → Prop} (h : ∀ n : Fin 256, p (UInt8.ofNat n)) (b : UInt8) :
  p b
  := by
  have hb := h ⟨b.toNat, b.toNat_lt⟩
  rwa [UInt8.ofNat_toNat] at hb

theorem and_full (b : UInt8) :
  b &&& 255 = b
  := by
  revert b
  apply forall_uint8
  decide +kernel

theorem shared_range {b : UInt8} (h : 64 = b &&& 192) :
  64 ≤ b ∧ b ≤ 127
  := by
  revert b
  apply forall_uint8
  decide +kernel

/-- An address of four bytes in one of the networks is internal to the source. -/
theorem isInternalIP_v4 {n : IPNet} {ip : IP} {a b c d : UInt8} (hip : to4 ip = some [a, b, c, d])
    (hn : n ∈ networks4) (h : n.contains ip) :
  isInternalIP ip
  := by
  rw [n.contains_to4 hip] at h
  simp only [networks4, List.mem_cons, List.not_mem_nil, or_false] at hn
  rcases hn with rfl | rfl | rfl | rfl | rfl | rfl | rfl | rfl <;>
    simp [IPNet.contains, IPNet.numberAndMask, to4, maskBytes, and_full] at h
  · simp [isInternalIP, IP.isLoopback, hip, ← h]
  · simp [isInternalIP, IP.isLinkLocalUnicast, hip, ← h.1, ← h.2]
  · simp [isInternalIP, IP.isPrivate, hip, ← h]
  · have hb : b &&& 240 = 16 := h.2.symm
    simp [isInternalIP, IP.isPrivate, hip, ← h.1, hb]
  · simp [isInternalIP, IP.isPrivate, hip, ← h.1, ← h.2]
  · have ha : a &&& 240 = 224 := h.symm
    simp [isInternalIP, IP.isMulticast, hip, ha]
  · obtain ⟨rfl, rfl, rfl, rfl⟩ := h
    obtain ⟨-, rfl | rfl⟩ := eq_or_eq_of_to4 hip
    · rfl
    · rfl
  · obtain ⟨hlow, hhigh⟩ := shared_range h.2
    simp [isInternalIP, hip, ← h.1, hlow, hhigh]

theorem maskBytes_full {m : Nat} {ip : IP} (h : ip.length = m) :
  maskBytes ip (List.replicate m 255) = ip
  := by
  induction ip generalizing m with
  | nil => simp [maskBytes]
  | cons a ip ih =>
      obtain ⟨m, rfl⟩ : ∃ k, m = k + 1 := ⟨ip.length, h.symm⟩
      have hrest := ih (Nat.succ.inj h)
      rw [maskBytes] at hrest
      rw [List.replicate_succ, maskBytes, List.zipWith_cons_cons, hrest, and_full]

/-- An address of sixteen bytes in one of the networks is internal to the source. -/
theorem isInternalIP_v6 {n : IPNet} {a b : UInt8} {rest : List UInt8}
    (hip : to4 (a :: b :: rest) = none) (hlength : (a :: b :: rest).length = 16)
    (hn : n ∈ networks6) (h : n.contains (a :: b :: rest)) :
  isInternalIP (a :: b :: rest)
  := by
  have hnone : ∀ n ∈ networks6, to4 n.ip = none := by decide
  have hrest : rest.length = 14 := Nat.succ.inj (Nat.succ.inj hlength)
  obtain ⟨-, hmask⟩ := (IPNet.contains_of_to4_none (hnone n hn) hip).mp h
  simp only [networks6, List.mem_cons, List.not_mem_nil, or_false] at hn
  rcases hn with rfl | rfl | rfl | rfl | rfl
  · dsimp only at hmask
    rw [maskBytes_full hlength] at hmask
    rw [← hmask]
    rfl
  · simp only [maskBytes, List.cons_append, List.zipWith_cons_cons, List.cons.injEq, and_full] at hmask
    obtain ⟨rfl, hb, -⟩ := hmask
    have hb' : b &&& 192 = 128 := hb.symm
    simp [isInternalIP, IP.isLinkLocalUnicast, hip, hrest, hb']
  · simp only [maskBytes, List.cons_append, List.zipWith_cons_cons, List.cons.injEq] at hmask
    have ha : a &&& 254 = 252 := hmask.1.symm
    simp [isInternalIP, IP.isPrivate, hip, hrest, ha]
  · simp only [maskBytes, List.cons_append, List.zipWith_cons_cons, List.cons.injEq, and_full] at hmask
    obtain ⟨rfl, -⟩ := hmask
    simp [isInternalIP, IP.isMulticast, hip, hrest]
  · dsimp only at hmask
    rw [maskBytes_full hlength] at hmask
    rw [← hmask]
    rfl

/-- A network with sixteen bytes has no address of four. -/
theorem contains_networks6 {n : IPNet} (hn : n ∈ networks6) {a b c d : UInt8} :
  n.contains [a, b, c, d] = false
  := by
  simp only [networks6, List.mem_cons, List.not_mem_nil, or_false] at hn
  rcases hn with rfl | rfl | rfl | rfl | rfl
  all_goals rfl

theorem contains_networks4 {n : IPNet} (hn : n ∈ networks4) {ip : IP} (hip : to4 ip = none)
    (hlength : ip.length = 16) :
  n.contains ip = false
  := by
  have hnumber : ∀ n ∈ networks4, n.numberAndMask.1.length = 4 := by decide
  rw [IPNet.contains, hip]
  simp [hlength, hnumber n hn]

/-- Every internal address is refused. -/
theorem isInternalIP_of_internal {ip : IP} (hlength : ip.length = 4 ∨ ip.length = 16)
    (h : Internal ip) :
  isInternalIP ip
  := by
  obtain ⟨name, hname, n, hn, hcontains⟩ := h
  cases hip : to4 ip with
  | some ip4 =>
      obtain ⟨a, b, c, d, rfl⟩ := List.length_eq_four.mp (eq_or_eq_of_to4 hip).1
      rcases mem_networks hname hn with hmem | hmem
      · apply isInternalIP_v4 hip hmem hcontains
      · rw [n.contains_to4 hip, contains_networks6 hmem] at hcontains
        cases hcontains
  | none =>
      have h16 : ip.length = 16 := by
        apply hlength.resolve_left
        intro h4
        rw [to4, if_pos h4] at hip
        cases hip
      rcases mem_networks hname hn with hmem | hmem
      · rw [contains_networks4 hmem hip h16] at hcontains
        cases hcontains
      · rcases ip with _ | ⟨a, _ | ⟨b, rest⟩⟩
        · cases h16
        · cases h16
        · apply isInternalIP_v6 hip h16 hmem hcontains

/-! ### Downloads -/

/-- Addresses that passed the check are outside. -/
theorem not_internal_of_validate {host : Str} {addrs : List IPAddr}
    (h : validateResolvedIPs host addrs false = .ok ()) :
  ∀ addr ∈ addrs, ¬ Internal addr.ip
  := by
  intro addr haddr hinternal
  rw [validateResolvedIPs, if_neg Bool.false_ne_true] at h
  split_ifs at h
  split at h
  · cases h
  · next hnone =>
      rw [List.find?_eq_none] at hnone
      exact hnone addr haddr (isInternalIP_of_internal addr.length_ip hinternal)

theorem mem_of_mem_tried {accepts : IP → Bool} {addrs : List IPAddr} {ip : IP}
    (h : ip ∈ tried accepts addrs) :
  ∃ addr ∈ addrs, addr.ip = ip
  := by
  induction addrs with
  | nil => cases h
  | cons addr addrs ih =>
      rw [tried, List.mem_cons] at h
      rcases h with rfl | h
      · exact ⟨addr, List.mem_cons_self, rfl⟩
      · split_ifs at h
        · cases h
        · obtain ⟨addr', hmem, hip⟩ := ih h
          exact ⟨addr', List.mem_cons_of_mem addr hmem, hip⟩

/-- One connection: what is dialed was resolved and checked in the same call. -/
theorem not_internal_of_dial {address : Str} {lookup : Lookup} {accepts : IP → Bool}
    {dialed : List IP} {outcome : Except OutboundError Unit}
    (h : dialValidatedHost address false lookup accepts = (dialed, outcome)) :
  ∀ ip ∈ dialed, ¬ Internal ip
  := by
  intro ip hip
  rw [dialValidatedHost] at h
  split at h
  · cases h
    cases hip
  · split at h
    · cases h
      cases hip
    · split at h
      · cases h
        cases hip
      · next hok =>
          cases h
          obtain ⟨addr, haddr, rfl⟩ := mem_of_mem_tried hip
          exact not_internal_of_validate hok addr haddr

theorem lt_of_checkRedirect [UnicodeTables] {o : Outside} {u : Destination} {via : Nat}
    {allowInternal : Bool} (h : checkRedirect o u via allowInternal = .ok ()) :
  via < fetchMaxRedirects
  := by
  rw [checkRedirect, refuse_if_eq_ok_iff] at h
  omega

section

variable [UnicodeTables]

/-- A download from some request on: nothing internal is dialed, and no more redirects are
followed than are left. -/
theorem send_outside (o : Outside) (via : Nat) (u : Destination) :
  (∀ ip ∈ (send o false via u).dialed, ¬ Internal ip) ∧
    (send o false via u).followed ≤ fetchMaxRedirects - 1 - via
  := by
  fun_induction send o false via u with
  | case1 via u dialed err hdial => exact ⟨not_internal_of_dial hdial, Nat.zero_le _⟩
  | case2 via u dialed _ hdial _ => exact ⟨not_internal_of_dial hdial, Nat.zero_le _⟩
  | case3 via u dialed _ hdial _ _ _ => exact ⟨not_internal_of_dial hdial, Nat.zero_le _⟩
  | case4 via u dialed _ hdial _ _ _ _ _ _ => exact ⟨not_internal_of_dial hdial, Nat.zero_le _⟩
  | case5 via u dialed _ hdial _ _ ref _ _ hcheck rest ih =>
      have hvia := lt_of_checkRedirect hcheck
      obtain ⟨hrest, hfollowed⟩ := ih
      constructor
      · rw [List.forall_mem_append]
        exact ⟨not_internal_of_dial hdial, hrest⟩
      · have hstep : rest.followed ≤ fetchMaxRedirects - 1 - (via + 1) := hfollowed
        dsimp only
        omega

/-- With internal hosts not allowed, no address a download connects to is internal, whatever the
resolver answers, whatever accepts a connection and wherever the responses redirect to; and no more
than the redirects allowed are followed. -/
theorem download_stays_outside (getenv : Str → Str)
    (henv : fetchAllowInternalHostsEnabled getenv = false) (o : Outside) (sourceURI : Str) :
  (∀ ip ∈ (fetchHTTPArtifact getenv o sourceURI).dialed, ¬ Internal ip) ∧
    (fetchHTTPArtifact getenv o sourceURI).followed ≤ fetchMaxRedirects
  := by
  have hnone : ∀ ip ∈ ([] : List IP), ¬ Internal ip := by simp
  rw [fetchHTTPArtifact, henv]
  split
  · exact ⟨hnone, Nat.zero_le _⟩
  · split
    · exact ⟨hnone, Nat.zero_le _⟩
    · split
      · exact ⟨hnone, Nat.zero_le _⟩
      · next u _ =>
          obtain ⟨hdialed, hfollowed⟩ := send_outside o 0 u.destination
          exact ⟨hdialed, hfollowed.trans (by omega)⟩

end

/-! ### A resolver that changes its mind -/

section

attribute [local instance] asciiTables

/-- A host that answers with a public address when it is checked, and with the one of the metadata
service when it is dialed. -/
def rebinding : Outside where
  checkLookup _ _ := .ok [⟨[93, 184, 216, 34], .inl rfl⟩]
  dialLookup via _ := .ok [if via = 0 then ⟨[93, 184, 216, 34], .inl rfl⟩ else ⟨[169, 254, 169, 254], .inl rfl⟩]
  accepts _ _ := true
  address u := u.host ++ str ":80"
  location _ := some (str "http://other.example/")

/-- The internal address is not dialed, although it was never looked up before. -/
theorem rebinding_stays_outside :
  fetchAllowInternalHostsEnabled (fun _ => []) = false ∧ Internal [169, 254, 169, 254] ∧
    [169, 254, 169, 254] ∉ (fetchHTTPArtifact (fun _ => []) rebinding (str "http://a.example/x")).dialed
  := by
  have henv : fetchAllowInternalHostsEnabled (fun _ => []) = false := by decide
  have hinternal : Internal [169, 254, 169, 254] := by
    refine ⟨"169.254.0.0/16", by decide, ⟨[169, 254, 0, 0], [255, 255, 0, 0]⟩, ?_, ?_⟩
    · decide
    · decide
  refine ⟨henv, hinternal, ?_⟩
  intro hmem
  exact (download_stays_outside (fun _ => []) henv rebinding _).1 _ hmem hinternal

/-- The public one is. -/
example : (dialValidatedHost (str "a.example:80") false (rebinding.dialLookup 0)
    (rebinding.accepts 0)).1 = [[93, 184, 216, 34]] := by decide

end

end Runtime
