-- SUMMARY: The headers of a tunneled request: which of the client's survive, and whom the forwarding headers name.
import Hooshix.Gateway.Authority

/-! # Forwarding headers

`cloneRequestForTunnel` and what it calls. A header maps canonical names to values. Addresses are read
and written by Go's `net` package, which is a parameter; `trusted` is `ipInAny` for the configured
networks. The fields of a request that the clone copies are left out.
-/

namespace Hooshix.Gateway

open Authority

/-! ## Headers -/

def validHeaderFieldByte (c : Char) : Bool := c.isAlphanum || c ∈ "!#$%&'*+-.^_`|~".toList

/-- The loop of `CanonicalMIMEHeaderKey`; `upper` at the start and after each hyphen. -/
def canonicalLetters : Bool → List Char → List Char
  | _, [] => []
  | upper, c :: rest =>
    (if upper then c.toUpper else c.toLower) :: canonicalLetters (c = '-') rest

/-- `textproto.CanonicalMIMEHeaderKey` -/
def canonicalMIMEHeaderKey (name : String) : String :=
  if name.toList.all validHeaderFieldByte then String.ofList (canonicalLetters true name.toList) else name

abbrev Header := String → List String

namespace Header

def values (header : Header) (name : String) : List String := header (canonicalMIMEHeaderKey name)

def del (header : Header) (name : String) : Header :=
  Function.update header (canonicalMIMEHeaderKey name) []

def set (header : Header) (name value : String) : Header :=
  Function.update header (canonicalMIMEHeaderKey name) [value]

theorem foldl_del (header : Header) (names : List String) (key : String) :
    names.foldl del header key = if key ∈ names.map canonicalMIMEHeaderKey then [] else header key := by
  induction names generalizing header with
  | nil => rfl
  | cons name names ih =>
    rw [List.foldl_cons, ih, del, Function.update_apply]
    by_cases hname : key = canonicalMIMEHeaderKey name <;> simp [hname]

end Header

def hopByHopHeaders : List String :=
  ["Connection", "Keep-Alive", "Proxy-Authenticate", "Proxy-Authorization", "Proxy-Connection", "Te",
    "Trailer", "Transfer-Encoding", "Upgrade"]

/-- The tokens of the `Connection` values. -/
def connectionTokens (header : Header) : List String :=
  ((header.values "Connection").flatMap fun value =>
    (value.toList.splitOn ',').map fun token => String.ofList (trimSpace token)).filter (· ≠ "")

def removeHopByHopHeaders (header : Header) : Header :=
  hopByHopHeaders.foldl Header.del ((connectionTokens header).foldl Header.del header)

def forwardingHeaders : List String :=
  ["Forwarded", "X-Forwarded-For", "X-Forwarded-Host", "X-Forwarded-Proto", "X-Forwarded-Port", "X-Real-Ip"]

/-! ## The peer -/

/-- What is used of the package `net`. -/
structure NetPackage (IP : Type) where
  /-- the host of `SplitHostPort`, if there is no error -/
  splitHost : String → Option String
  parseIP : String → Option IP
  text : IP → String

structure PublicRequest where
  header : Header
  host : String
  remoteAddr : String
  close : Bool
  transferEncoding : List String
  trailer : Header

section

variable {IP : Type} (net : NetPackage IP) (trusted : IP → Bool) (table : Char → Char)

def remoteIP (remoteAddr : String) : Option IP :=
  if remoteAddr = "" then none
  else
    match net.splitHost remoteAddr with
    | some host => net.parseIP host
    | none => net.parseIP remoteAddr

def lastForwardedFor (header : Header) : Option IP :=
  match header.values "X-Forwarded-For" with
  | [] => none
  | values =>
    let parts := (",".intercalate values).toList.splitOn ','
    net.parseIP (String.ofList (trimSpace (parts.getLast?.getD [])))

def peerAddressOf (request : PublicRequest) : String :=
  match remoteIP net request.remoteAddr with
  | none => "unknown"
  | some peer =>
    if trusted peer then
      match lastForwardedFor net request.header with
      | some client => net.text client
      | none => net.text peer
    else net.text peer

def cloneRequestForTunnel (request : PublicRequest) (publicHostname : String) : PublicRequest :=
  let header := forwardingHeaders.foldl Header.del (removeHopByHopHeaders request.header)
  let host := canonicalHostname table publicHostname
  let host := if host = "" then canonicalHostname table request.host else host
  let clientAddress := peerAddressOf net trusted request
  let header := header.set "X-Forwarded-For" clientAddress
  let header := header.set "X-Real-IP" clientAddress
  let header := header.set "X-Forwarded-Proto" "https"
  let header := header.set "X-Forwarded-Host" host
  let header := header.set "X-Forwarded-Port" "443"
  let header := header.set "Forwarded" s!"for={clientAddress};proto=https;host={host}"
  { request with header, host, close := false, transferEncoding := [], trailer := fun _ => [] }

end

/-! ## What survives -/

/-- The headers a client may forge its identity with. -/
def isForwarding (name : String) : Bool :=
  name = "Forwarded" || name = "X-Real-Ip" || "X-Forwarded-".toList.isPrefixOf name.toList

/-- The forwarding headers that name `address` and `host` alone. -/
def forwarded (address host : String) (name : String) : List String :=
  if name = "X-Forwarded-For" ∨ name = "X-Real-Ip" then [address]
  else if name = "X-Forwarded-Proto" then ["https"]
  else if name = "X-Forwarded-Host" then [host]
  else if name = "X-Forwarded-Port" then ["443"]
  else if name = "Forwarded" then [s!"for={address};proto=https;host={host}"]
  else []

/-- The canonical names that the request's `Connection` values nominate. -/
def nominated (request : PublicRequest) : List String :=
  (connectionTokens request.header).map canonicalMIMEHeaderKey

theorem canonical_names : hopByHopHeaders.map canonicalMIMEHeaderKey = hopByHopHeaders ∧
    forwardingHeaders.map canonicalMIMEHeaderKey = forwardingHeaders ∧
    canonicalMIMEHeaderKey "X-Real-IP" = "X-Real-Ip" := by
  decide

variable {IP : Type} (net : NetPackage IP) (trusted : IP → Bool) {table : Char → Char}
  {publicHostname : String} {name : String}

/-- Each header of the clone: set by the Gateway, removed, or the client's. -/
theorem clone_header (request : PublicRequest) (name : String) :
    (cloneRequestForTunnel net trusted table request publicHostname).header name =
      if name ∈ forwardingHeaders then
        forwarded (peerAddressOf net trusted request)
          (cloneRequestForTunnel net trusted table request publicHostname).host name
      else if name ∈ hopByHopHeaders ∨ name ∈ nominated request then []
      else request.header name := by
  obtain ⟨hhop, hforwarding, hreal⟩ := canonical_names
  simp only [forwardingHeaders, List.map_cons, List.map_nil, List.cons.injEq, and_true] at hforwarding
  simp only [cloneRequestForTunnel, Header.set, hforwarding, hreal, Function.update_apply]
  by_cases hname : name ∈ forwardingHeaders
  · rw [if_pos hname]
    simp only [forwardingHeaders, List.mem_cons, List.not_mem_nil, or_false] at hname
    rcases hname with rfl | rfl | rfl | rfl | rfl | rfl <;> simp [forwarded]
  · rw [if_neg hname, Header.foldl_del, canonical_names.2.1, if_neg hname, removeHopByHopHeaders,
      Header.foldl_del, hhop, Header.foldl_del]
    simp only [forwardingHeaders, List.mem_cons, List.not_mem_nil, or_false, not_or] at hname
    simp only [hname, if_false, nominated]
    by_cases hop : name ∈ hopByHopHeaders
    · simp [hop]
    · simp [hop]

/-! ## Identity -/

/-- The peer itself; a trusted peer may name its client as the last hop, and is believed if that is an
    address. -/
def namedPeer (request : PublicRequest) : String :=
  match remoteIP net request.remoteAddr with
  | none => "unknown"
  | some peer =>
    net.text (if trusted peer then (lastForwardedFor net request.header).getD peer else peer)

/-- The clone names the peer and the canonical hostname of the route alone, and no value of a hop-by-hop
    or nominated header is left. -/
structure Identified (table : Char → Char) (request : PublicRequest) (publicHostname : String) : Prop where
  host : (cloneRequestForTunnel net trusted table request publicHostname).host =
    canonicalHostname table publicHostname
  forwarding : ∀ name, isForwarding name = true →
    (cloneRequestForTunnel net trusted table request publicHostname).header name =
      forwarded (namedPeer net trusted request) (canonicalHostname table publicHostname) name
  removed : ∀ name, name ∈ hopByHopHeaders ∨ name ∈ nominated request → name ∉ forwardingHeaders →
    (cloneRequestForTunnel net trusted table request publicHostname).header name = []

/-- The request has no forwarding header that the Gateway does not set, unless it nominates it, and the
    route has a hostname. -/
def Plain (table : Char → Char) (request : PublicRequest) (publicHostname : String) : Prop :=
  (∀ name, isForwarding name = true → name ∉ forwardingHeaders →
      request.header name = [] ∨ name ∈ nominated request) ∧
    (canonicalHostname table publicHostname ≠ "" ∨ canonicalHostname table request.host = "")

theorem peerAddressOf_eq (request : PublicRequest) :
    peerAddressOf net trusted request = namedPeer net trusted request := by
  unfold peerAddressOf namedPeer
  split
  · rfl
  next peer hpeer =>
    cases lastForwardedFor net request.header <;> split <;> rfl

theorem clone_host (request : PublicRequest) :
    (cloneRequestForTunnel net trusted table request publicHostname).host =
        canonicalHostname table publicHostname ↔
      canonicalHostname table publicHostname ≠ "" ∨ canonicalHostname table request.host = "" := by
  simp only [cloneRequestForTunnel]
  by_cases hempty : canonicalHostname table publicHostname = "" <;> simp [hempty]

theorem forwarded_of_not_mem (hname : name ∉ forwardingHeaders) (address host : String) :
    forwarded address host name = [] := by
  simp only [forwardingHeaders, List.mem_cons, List.not_mem_nil, or_false, not_or] at hname
  simp [forwarded, hname]

theorem identified_iff (request : PublicRequest) :
    Identified net trusted table request publicHostname ↔ Plain table request publicHostname := by
  have hdisjoint : ∀ name ∈ hopByHopHeaders, isForwarding name = false := by decide
  constructor
  · intro h
    refine ⟨fun name hforwarding hname => ?_, (clone_host net trusted request).mp h.host⟩
    have hheader := h.forwarding name hforwarding
    rw [clone_header, if_neg hname, forwarded_of_not_mem hname] at hheader
    split at hheader
    next hremoved =>
      refine .inr (hremoved.resolve_left fun hop => ?_)
      rw [hdisjoint name hop] at hforwarding
      cases hforwarding
    next => exact .inl hheader
  · rintro ⟨hheaders, hhost⟩
    have hhost := (clone_host net trusted request).mpr hhost
    refine ⟨hhost, fun name hforwarding => ?_, fun name hremoved hname => ?_⟩
    · rw [clone_header, hhost, peerAddressOf_eq]
      split
      · rfl
      next hname =>
        rw [forwarded_of_not_mem hname]
        split
        · rfl
        next hkept =>
          exact (hheaders name hforwarding hname).resolve_right fun hnominated => hkept (.inr hnominated)
    · rw [clone_header, if_neg hname, if_pos hremoved]

/-- Clients do not influence the identity: for two requests of one peer, which agree on the last hop if
    the peer is trusted, the clones are identified by the peer and the route, and alike, if and only if
    both requests are plain. -/
theorem forwarding_identity (table : Char → Char) (publicHostname : String) (first second : PublicRequest)
    (hremote : first.remoteAddr = second.remoteAddr)
    (hlast : ∀ peer, remoteIP net first.remoteAddr = some peer → trusted peer = true →
      lastForwardedFor net first.header = lastForwardedFor net second.header) :
    (Identified net trusted table first publicHostname ∧
        Identified net trusted table second publicHostname ∧
        (cloneRequestForTunnel net trusted table first publicHostname).host =
          (cloneRequestForTunnel net trusted table second publicHostname).host ∧
        ∀ name, isForwarding name = true →
          (cloneRequestForTunnel net trusted table first publicHostname).header name =
            (cloneRequestForTunnel net trusted table second publicHostname).header name) ↔
      Plain table first publicHostname ∧ Plain table second publicHostname := by
  have hpeer : namedPeer net trusted first = namedPeer net trusted second := by
    unfold namedPeer
    rw [← hremote]
    split
    · rfl
    next peer hpeer =>
      split
      next htrusted => rw [hlast peer hpeer htrusted]
      · rfl
  rw [← identified_iff net trusted, ← identified_iff net trusted]
  constructor
  · exact fun h => ⟨h.1, h.2.1⟩
  · rintro ⟨hfirst, hsecond⟩
    refine ⟨hfirst, hsecond, hfirst.host.trans hsecond.host.symm, fun name hname => ?_⟩
    rw [hfirst.forwarding name hname, hsecond.forwarding name hname, hpeer]

/-- A package that takes every text for an address. -/
def anyAddress : NetPackage String := ⟨fun _ => none, some, id⟩

/-- A request that carries one header. -/
def oneHeader (name value : String) : PublicRequest :=
  ⟨fun key => if key = name then [value] else [], "a.example", "203.0.113.7", false, [], fun _ => []⟩

theorem plain_oneHeader (h : isForwarding name = true → name ∈ forwardingHeaders)
    (value : String) : Plain id (oneHeader name value) "a.example" := by
  refine ⟨fun key hkey hnot => .inl (if_neg ?_), .inl (by decide)⟩
  rintro rfl
  exact hnot (h hkey)

theorem forwarding_identity_spoofed :
    (cloneRequestForTunnel anyAddress (fun _ => false) id
        (oneHeader "X-Forwarded-For" "10.0.0.1") "a.example").header "Forwarded" =
      (cloneRequestForTunnel anyAddress (fun _ => false) id
        (oneHeader "Accept" "*/*") "a.example").header "Forwarded" :=
  ((forwarding_identity anyAddress (fun _ => false) id "a.example"
    (oneHeader "X-Forwarded-For" "10.0.0.1") (oneHeader "Accept" "*/*") rfl
    fun _ _ htrusted => Bool.noConfusion htrusted).mpr
      ⟨plain_oneHeader (by decide) _, plain_oneHeader (by decide) _⟩).2.2.2 _ (by decide)

/-- A prefix that the client claims to be served under reaches the local service. -/
theorem forwarded_prefix_survives :
    isForwarding "X-Forwarded-Prefix" = true ∧
      (cloneRequestForTunnel anyAddress (fun _ => false) id
        (oneHeader "X-Forwarded-Prefix" "/admin") "a.example").header "X-Forwarded-Prefix" = ["/admin"] ∧
      (cloneRequestForTunnel anyAddress (fun _ => false) id
        (oneHeader "X-Forwarded-Prefix" "/") "a.example").header "X-Forwarded-Prefix" = ["/"] := by
  decide

end Hooshix.Gateway
