import NocIq.Webhook.Operations

/-!
# NocIq — validating the URLs of webhooks

`validate_webhook_url` of `app/services/webhook_service.py`, and what `httpx` sends when it follows
the redirects of a receiver. The validation looks at the name and at what it resolves to now; it is
called for the stored URL alone.

* **`validateWebhookUrl_accepted_iff`** — the URLs that are accepted.
-/

namespace NocIq

/-- The `WEBHOOK_SSRF_*` settings, split at their commas. -/
structure SsrfSettings where
  blockedCidrs : List String :=
    ["127.0.0.0/8", "10.0.0.0/8", "172.16.0.0/12", "192.168.0.0/16", "169.254.0.0/16", "::1/128",
      "fd00::/8", "fe80::/10"]
  blockedHostnames : List String :=
    ["localhost", "localhost.localdomain", "localhost6", "localhost6.localdomain6",
      "metadata.google.internal", "metadata.aws.internal", "169.254.169.254"]
  allowPrivate : Bool := false
  allowLoopback : Bool := false
  allowLinkLocal : Bool := false
  maxRedirects : Nat := 3
  deriving DecidableEq, Repr

/-- What `socket.getaddrinfo` answers for a name: the addresses, a `gaierror`, or another
exception. -/
inductive Resolution where
  | addresses (ips : List String)
  | gaierror
  | raises
  deriving DecidableEq, Repr

/-- What the validation takes from `urllib`, `ipaddress` and `str`; `none` where they raise a
`ValueError`. -/
structure UrlLibrary (ip : Type) where
  /-- the `hostname` of the parsed URL, which may be missing -/
  urlparse : String → Option (Option String)
  lower : String → String
  ipAddress : String → Option ip
  inNetwork : ip → String → Option Bool
  isLoopback : ip → Bool
  isLinkLocal : ip → Bool
  isPrivate : ip → Bool

/-- The result of a validation. -/
inductive UrlCheck where
  | accepted
  | refused (reason : String)
  | raised
  deriving DecidableEq, Repr

def UrlCheck.verdict : UrlCheck → UrlVerdict
  | .accepted => .valid
  | .refused _ => .invalid
  | .raised => .raises

section

variable {ip : Type} (settings : SsrfSettings) (lib : UrlLibrary ip)

/-- The loop body of `_resolve_and_check_ip`: the reason to block the address, if there is one. -/
def blockedReason (ipStr : String) : Option String :=
  match lib.ipAddress ipStr with
  | none => none
  | some ip =>
    match settings.blockedCidrs.find? fun cidr => lib.inNetwork ip cidr = some true with
    | some cidr => some s!"IP {ipStr} is in blocked range {cidr}"
    | none =>
      if lib.isLoopback ip && !settings.allowLoopback then some s!"IP {ipStr} is loopback"
      else if lib.isLinkLocal ip && !settings.allowLinkLocal then some s!"IP {ipStr} is link-local"
      else if lib.isPrivate ip && !settings.allowPrivate then some s!"IP {ipStr} is private"
      else none

/-- `_resolve_and_check_ip`, with the answer of the name resolution. -/
def checkResolution (hostname : String) : Resolution → UrlCheck
  | .gaierror => .refused s!"DNS resolution failed for {hostname}"
  | .raises => .raised
  | .addresses ips =>
    match ips.findSome? (blockedReason settings lib) with
    | some reason => .refused reason
    | none => .accepted

def validateWebhookUrl (dns : String → Resolution) (url : String) : UrlCheck :=
  match lib.urlparse url with
  | none => .refused "Malformed URL"
  | some parsed =>
    let hostname := parsed.getD ""
    if lib.lower hostname ∈ settings.blockedHostnames then
      .refused s!"Hostname '{hostname}' is in the SSRF denylist"
    else checkResolution settings lib hostname (dns hostname)

/-- **The URLs that are accepted**: the name is not on the list and resolves now, to addresses none
of which is blocked. -/
theorem validateWebhookUrl_accepted_iff (dns : String → Resolution) (url : String) :
    validateWebhookUrl settings lib dns url = .accepted ↔
      ∃ parsed ips, lib.urlparse url = some parsed ∧
        lib.lower (parsed.getD "") ∉ settings.blockedHostnames ∧
        dns (parsed.getD "") = .addresses ips ∧ ∀ x ∈ ips, blockedReason settings lib x = none := by
  unfold validateWebhookUrl
  cases lib.urlparse url with
  | none => simp
  | some parsed =>
    dsimp only
    by_cases hblocked : lib.lower (parsed.getD "") ∈ settings.blockedHostnames
    · simp [hblocked]
    · rw [if_neg hblocked]
      unfold checkResolution
      cases hdns : dns (parsed.getD "") with
      | gaierror => simp [hdns]
      | raises => simp [hdns]
      | addresses ips =>
        dsimp only
        cases hfound : ips.findSome? (blockedReason settings lib) with
        | some reason =>
          obtain ⟨x, hx, hreason⟩ := List.exists_of_findSome?_eq_some hfound
          refine iff_of_false nofun ?_
          rintro ⟨parsed', ips', hparsed, -, hips, hall⟩
          obtain rfl := Option.some.inj hparsed
          rw [hdns] at hips
          obtain rfl := Resolution.addresses.inj hips
          rw [hall x hx] at hreason
          cases hreason
        | none =>
          rw [List.findSome?_eq_none_iff] at hfound
          exact iff_of_true rfl ⟨parsed, ips, rfl, hblocked, hdns, hfound⟩

end

/-! ## Redirects -/

/-- An answer with a location, made absolute. -/
structure Redirect where
  statusCode : Nat
  location : String
  deriving DecidableEq, Repr

/-- The other redirects are followed by a GET without the payload. -/
def Redirect.keepsPayload (r : Redirect) : Bool := r.statusCode = 307 ∨ r.statusCode = 308

/-- The redirect targets that get the payload: at most so many redirects are followed. -/
def payloadTargets : Nat → List Redirect → List String
  | 0, _ => []
  | _, [] => []
  | n + 1, r :: redirects =>
    if r.keepsPayload then r.location :: payloadTargets n redirects else []

def payloadUrls (settings : SsrfSettings) (url : String) (redirects : List Redirect) :
    List String :=
  url :: payloadTargets settings.maxRedirects redirects

end NocIq
