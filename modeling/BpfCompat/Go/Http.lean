import BpfCompat.Go.Url

/-!
# Requests and redirects

The client of `net/http` follows redirects, ten requests at most.  Every request of a chain has the
headers of the first one, except that the sensitive ones are dropped for good once a redirect leads
to a host that is neither the first one nor below it.

So a header that is not sensitive goes wherever the chain goes (`carriers_of_plain`), and a
sensitive one goes as far as the hosts of the chain are trusted (`carriers_of_sensitive`): the port
and the scheme do not matter.  The headers that describe a body, which a redirect may drop as well,
are left out.
-/

namespace Go

/-- A request as it is sent: where it goes, and its headers by their canonical names. -/
structure HttpRequest where
  destination : Destination
  header : List (Str × Str)

/-- The bytes the name of a header is made of. -/
def isTokenByte (b : UInt8) : Bool :=
  isLetter b || isDecimal b || (str "!#$%&'*+-.^_`|~").contains b

/-- A name whose words begin with a capital letter and go on in small ones. -/
def capitalize : Bool → Str → Str
  | _, [] => []
  | upper, b :: s =>
    (if upper && (97 ≤ b && b ≤ 122) then b - 32
      else if !upper && (65 ≤ b && b ≤ 90) then b + 32 else b) :: capitalize (b = 45) s

def canonicalHeaderKey (key : Str) : Str := if key.all isTokenByte then capitalize true key else key

/-- The headers with one of them set. -/
def setHeader (header : List (Str × Str)) (key value : Str) : List (Str × Str) :=
  header.filter (·.1 ≠ canonicalHeaderKey key) ++ [(canonicalHeaderKey key, value)]

example : canonicalHeaderKey (str "X-API-Identity-Token") = str "X-Api-Identity-Token" := by decide

/-- The answer to a request, as far as redirects are concerned. -/
structure HttpResponse where
  status : Nat
  location : Str := []

/-- A header is among others. -/
def hasHeader (header : List (Str × Str)) (name : Str) : Bool := header.any fun h => h.1 = name

/-- A request has a header. -/
def HttpRequest.carries (r : HttpRequest) (name : Str) : Bool := hasHeader r.header name

def isRedirect (status : Nat) : Bool := [301, 302, 303, 307, 308].contains status

def isSensitiveHeader (name : Str) : Bool :=
  [str "Authorization", str "Www-Authenticate", str "Cookie", str "Cookie2",
    str "Proxy-Authorization", str "Proxy-Authenticate"].contains name

/-- Where the answer to a request leads. -/
def redirectTarget (current : Destination) (resp : HttpResponse) : Option Destination :=
  if !isRedirect resp.status || resp.location = [] then none
  else (parseUrl resp.location).map (resolve current)

/-- Where a chain goes on, and the answers that are left. -/
def nextHop (current : Destination) : List HttpResponse → Option (Destination × List HttpResponse)
  | [] => none
  | resp :: responses => (redirectTarget current resp).map fun next => (next, responses)

/-- The headers of a request that follows a redirect. -/
def copyHeaders (header : List (Str × Str)) (stripSensitive : Bool) : List (Str × Str) :=
  header.filter fun h => !(isSensitiveHeader h.1 && stripSensitive)

def isDomainOrSubdomain (sub parent : Str) : Bool :=
  sub = parent || (!sub.any (fun b => b = 58 || b = 37) && (46 :: parent).isSuffixOf sub)

section

-- the name in ASCII of a host that is spelled otherwise, where it has one
variable (toASCII : Str → Option Str)

def idnaASCII (host : Str) : Str :=
  if host.all (· < 128) then host else (toASCII host).getD host

def shouldCopyHeaderOnRedirect (initial dest : Destination) : Bool :=
  isDomainOrSubdomain (idnaASCII toASCII (hostname dest.host))
    (idnaASCII toASCII (hostname initial.host))

/-- The sensitive headers of a request may be sent to a destination. -/
def trusts (initial dest : Destination) : Bool :=
  initial.host = dest.host || shouldCopyHeaderOnRedirect toASCII initial dest

/-- The requests of a chain that goes on at a destination: how many may still be sent, and whether
the sensitive headers are stripped already. -/
def follow (initial : HttpRequest) : Nat → Bool → Destination → List HttpResponse →
    List HttpRequest
  | 0, _, _, _ => []
  | n + 1, stripped, current, responses =>
    if ¬ current.Reachable then []
    else
      ⟨current, copyHeaders initial.header stripped⟩ ::
        match nextHop current responses with
        | none => []
        | some (next, responses) =>
          follow initial n (stripped || !trusts toASCII initial.destination next) next responses

/-- The requests the client sends for a request, given the answers it gets. -/
def clientDo (req : HttpRequest) (responses : List HttpResponse) : List HttpRequest :=
  follow toASCII req 10 false req.destination responses

end

/-- Where the requests of a chain go. -/
def visited : Nat → Destination → List HttpResponse → List Destination
  | 0, _, _ => []
  | n + 1, current, responses =>
    if ¬ current.Reachable then []
    else
      current ::
        match nextHop current responses with
        | none => []
        | some (next, responses) => visited n next responses

/-! ### How far a header goes -/

section

variable {toASCII : Str → Option Str} {initial : HttpRequest} {name : Str}

theorem hasHeader_copyHeaders (header : List (Str × Str)) (stripped : Bool) :
  hasHeader (copyHeaders header stripped) name
    = (hasHeader header name && !(isSensitiveHeader name && stripped))
  := by
  rw [Bool.eq_iff_iff]
  simp only [hasHeader, copyHeaders, List.any_eq_true, List.mem_filter, Bool.and_eq_true,
    decide_eq_true_eq]
  constructor
  · rintro ⟨h, ⟨hmem, hkept⟩, rfl⟩
    exact ⟨⟨h, hmem, rfl⟩, hkept⟩
  · rintro ⟨⟨h, hmem, rfl⟩, hkept⟩
    exact ⟨h, ⟨hmem, hkept⟩, rfl⟩

/-- A request of a chain has no headers that the first one does not have. -/
theorem carries_of_mem_follow {n : Nat} {stripped : Bool} {current : Destination}
    {responses : List HttpResponse} {r : HttpRequest}
    (hr : r ∈ follow toASCII initial n stripped current responses)
    (hname : r.carries name = true) :
  initial.carries name = true
  := by
  induction n generalizing stripped current responses with
  | zero => cases hr
  | succ n ih =>
      rw [follow] at hr
      by_cases hreach : current.Reachable
      · rw [if_neg (not_not.mpr hreach), List.mem_cons] at hr
        rcases hr with rfl | hr
        · rw [HttpRequest.carries, hasHeader_copyHeaders, Bool.and_eq_true] at hname
          exact hname.1
        · cases hnext : nextHop current responses with
          | none =>
              rw [hnext] at hr
              cases hr
          | some hop =>
              rw [hnext] at hr
              exact ih hr
      · rw [if_pos hreach] at hr
        cases hr

/-- A header that is not sensitive goes wherever a chain goes. -/
theorem carriers_of_plain (hname : initial.carries name = true)
    (hplain : isSensitiveHeader name = false) (n : Nat) (stripped : Bool) (current : Destination)
    (responses : List HttpResponse) :
  ((follow toASCII initial n stripped current responses).filter (·.carries name)).map
      (·.destination)
    = visited n current responses
  := by
  induction n generalizing stripped current responses with
  | zero => rfl
  | succ n ih =>
      rw [follow, visited]
      by_cases hreach : current.Reachable
      · have hcarries : HttpRequest.carries ⟨current, copyHeaders initial.header stripped⟩ name
            = true := by
          rw [HttpRequest.carries, hasHeader_copyHeaders, hplain, Bool.false_and, Bool.not_false,
            Bool.and_true]
          exact hname
        rw [if_neg (not_not.mpr hreach), if_neg (not_not.mpr hreach),
          List.filter_cons_of_pos (p := fun r => HttpRequest.carries r name) hcarries,
          List.map_cons]
        congr 1
        cases nextHop current responses with
        | none => rfl
        | some hop => exact ih _ hop.1 hop.2
      · rw [if_pos hreach, if_pos hreach]
        rfl

/-- Once the sensitive headers are stripped, no request has one. -/
theorem carriers_of_stripped (hsensitive : isSensitiveHeader name = true) (n : Nat)
    (current : Destination) (responses : List HttpResponse) :
  (follow toASCII initial n true current responses).filter (·.carries name) = []
  := by
  induction n generalizing current responses with
  | zero => rfl
  | succ n ih =>
      rw [follow]
      by_cases hreach : current.Reachable
      · have hcarries : ¬ HttpRequest.carries ⟨current, copyHeaders initial.header true⟩ name
            = true := by
          rw [HttpRequest.carries, hasHeader_copyHeaders, hsensitive]
          simp
        rw [if_neg (not_not.mpr hreach),
          List.filter_cons_of_neg (p := fun r => HttpRequest.carries r name) hcarries]
        cases nextHop current responses with
        | none => rfl
        | some hop => exact ih hop.1 hop.2
      · rw [if_pos hreach]
        rfl

/-- A sensitive header goes as far as the destinations of a chain are trusted. -/
theorem carriers_of_sensitive (hname : initial.carries name = true)
    (hsensitive : isSensitiveHeader name = true) (n : Nat) {current : Destination}
    (hcurrent : trusts toASCII initial.destination current = true)
    (responses : List HttpResponse) :
  ((follow toASCII initial n false current responses).filter (·.carries name)).map (·.destination)
    = (visited n current responses).takeWhile (trusts toASCII initial.destination)
  := by
  induction n generalizing current responses with
  | zero => rfl
  | succ n ih =>
      rw [follow, visited]
      by_cases hreach : current.Reachable
      · have hcarries : HttpRequest.carries ⟨current, copyHeaders initial.header false⟩ name
            = true := by
          rw [HttpRequest.carries, hasHeader_copyHeaders, Bool.and_false, Bool.not_false,
            Bool.and_true]
          exact hname
        rw [if_neg (not_not.mpr hreach), if_neg (not_not.mpr hreach),
          List.filter_cons_of_pos (p := fun r => HttpRequest.carries r name) hcarries,
          List.map_cons, List.takeWhile_cons_of_pos hcurrent]
        congr 1
        cases nextHop current responses with
        | none => rfl
        | some hop =>
            obtain ⟨next, responses⟩ := hop
            dsimp only
            cases hnext : trusts toASCII initial.destination next with
            | true => exact ih hnext responses
            | false =>
                -- the headers are stripped here, and the chain is cut here as well
                rw [Bool.not_false, Bool.or_true, carriers_of_stripped hsensitive]
                cases n with
                | zero => rfl
                | succ n =>
                    rw [visited]
                    by_cases hreachable : next.Reachable
                    · rw [if_neg (not_not.mpr hreachable),
                        List.takeWhile_cons_of_neg (by simp [hnext])]
                      rfl
                    · rw [if_pos hreachable]
                      rfl
      · rw [if_pos hreach, if_pos hreach]
        rfl

theorem trusts_self (initial : Destination) :
  trusts toASCII initial initial = true
  := by
  simp [trusts]

end

end Go
