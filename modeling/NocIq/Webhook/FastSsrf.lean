import NocIq.Job.Operations
import NocIq.Webhook.Ssrf

/-!
# NocIq — the check of a URL without name resolution

`_init_ssrf_config` and `validate_webhook_url_fast` of `app/services/webhook_service.py`. The
validators of the endpoints call the fast check, `trigger_sla_violation_webhooks` the full one,
which asks for the same things in another order.

* **`literalReason_eq_none_iff`**, **`blockedReason_eq_none_iff`** — both checks refuse the blocked
  addresses.
* **`fast_check_refines`** — the full check refuses what the fast one does.
-/

namespace NocIq

/-! ## The configuration -/

/-- The `WEBHOOK_SSRF_*` settings as they are written. -/
structure SsrfConfig where
  blockedCidrs : String :=
    "127.0.0.0/8,10.0.0.0/8,172.16.0.0/12,192.168.0.0/16," ++
      "169.254.0.0/16,::1/128,fd00::/8,fe80::/10"
  blockedHostnames : String :=
    "localhost,localhost.localdomain,localhost6,localhost6.localdomain6," ++
      "metadata.google.internal,metadata.aws.internal,169.254.169.254"
  allowPrivate : Bool := false
  allowLoopback : Bool := false
  allowLinkLocal : Bool := false
  maxRedirects : Nat := 3
  deriving DecidableEq, Repr

/-- `_PRIVATE_RANGES` and `_BLOCKED_HOSTNAMES` of a process. -/
structure SsrfGlobals where
  privateRanges : List String := []
  blockedHostnames : List String := []
  deriving DecidableEq, Repr

/-- `[r.strip() for r in text.split(",") if r.strip()]`. -/
def splitSetting (text : String) : List String :=
  ((text.toList.splitOn ',').map fun part => strip (String.ofList part)).filter (· ≠ "")

variable {ip : Type}

def initSsrfConfig (lib : UrlLibrary ip) (c : SsrfConfig) : SsrfGlobals where
  privateRanges := splitSetting c.blockedCidrs
  blockedHostnames := (splitSetting c.blockedHostnames).map lib.lower

/-- What both checks begin with. -/
def SsrfGlobals.ensure (lib : UrlLibrary ip) (c : SsrfConfig) (g : SsrfGlobals) : SsrfGlobals :=
  if g.privateRanges = [] then initSsrfConfig lib c else g

/-- The globals before the first check of a process, or after one. -/
def SsrfGlobals.Reached (lib : UrlLibrary ip) (c : SsrfConfig) (g : SsrfGlobals) : Prop :=
  g = {} ∨ g = initSsrfConfig lib c

theorem SsrfGlobals.Reached.ensure_eq {lib : UrlLibrary ip} {c : SsrfConfig} {g : SsrfGlobals}
    (h : g.Reached lib c) : g.ensure lib c = initSsrfConfig lib c := by
  unfold SsrfGlobals.ensure
  rcases h with rfl | rfl
  · exact if_pos rfl
  · exact ite_self _

/-- The settings as the checks read them. -/
def SsrfConfig.settings (c : SsrfConfig) (g : SsrfGlobals) : SsrfSettings where
  blockedCidrs := g.privateRanges
  blockedHostnames := g.blockedHostnames
  allowPrivate := c.allowPrivate
  allowLoopback := c.allowLoopback
  allowLinkLocal := c.allowLinkLocal
  maxRedirects := c.maxRedirects

/-! ## The fast check -/

section

variable (settings : SsrfSettings) (lib : UrlLibrary ip)

/-- The reason to refuse a host name that is an address, if there is one. -/
def literalReason (hostname : String) : Option String :=
  match lib.ipAddress hostname with
  | none => none
  | some ip =>
    if lib.isLoopback ip && !settings.allowLoopback then some s!"IP {hostname} is loopback"
    else if lib.isPrivate ip && !settings.allowPrivate then some s!"IP {hostname} is private"
    else if lib.isLinkLocal ip && !settings.allowLinkLocal then some s!"IP {hostname} is link-local"
    else
      (settings.blockedCidrs.find? fun cidr => lib.inNetwork ip cidr = some true).map fun cidr =>
        s!"IP {hostname} is in blocked range {cidr}"

def validateWebhookUrlFast (url : String) : UrlCheck :=
  match lib.urlparse url with
  | none => .raised
  | some parsed =>
    let hostname := parsed.getD ""
    if lib.lower hostname ∈ settings.blockedHostnames then
      .refused s!"Hostname '{hostname}' is in the SSRF denylist"
    else
      match literalReason settings lib hostname with
      | some reason => .refused reason
      | none => .accepted

/-! ## Blocked addresses -/

/-- The policy for addresses. -/
structure Permitted (address : ip) : Prop where
  cidr : ∀ cidr ∈ settings.blockedCidrs, lib.inNetwork address cidr ≠ some true
  loopback : lib.isLoopback address = true → settings.allowLoopback = true
  linkLocal : lib.isLinkLocal address = true → settings.allowLinkLocal = true
  priv : lib.isPrivate address = true → settings.allowPrivate = true

variable {settings lib}

theorem find_cidr_eq_none_iff (address : ip) :
    (settings.blockedCidrs.find? fun cidr => lib.inNetwork address cidr = some true) = none ↔
      ∀ cidr ∈ settings.blockedCidrs, lib.inNetwork address cidr ≠ some true := by
  rw [List.find?_eq_none]
  simp

theorem guard_eq_false_iff {kind allowed : Bool} :
    (kind && !allowed) = false ↔ (kind = true → allowed = true) := by
  cases kind <;> simp

theorem blockedReason_eq_none_iff (text : String) :
    blockedReason settings lib text = none ↔
      ∀ address ∈ lib.ipAddress text, Permitted settings lib address := by
  unfold blockedReason
  cases lib.ipAddress text with
  | none => simp
  | some address =>
    dsimp only
    constructor
    · intro hnone a ha
      obtain rfl := Option.some.inj ha
      split at hnone
      · cases hnone
      · rename_i hcidr
        split_ifs at hnone with hloopback hlink hprivate
        simp only [Bool.not_eq_true, guard_eq_false_iff] at hloopback hlink hprivate
        exact ⟨(find_cidr_eq_none_iff address).mp hcidr, hloopback, hlink, hprivate⟩
    · intro hall
      have hpermitted := hall address rfl
      rw [(find_cidr_eq_none_iff address).mpr hpermitted.cidr]
      simp only [guard_eq_false_iff.mpr hpermitted.loopback,
        guard_eq_false_iff.mpr hpermitted.linkLocal, guard_eq_false_iff.mpr hpermitted.priv]
      rfl

theorem literalReason_eq_none_iff (hostname : String) :
    literalReason settings lib hostname = none ↔
      ∀ address ∈ lib.ipAddress hostname, Permitted settings lib address := by
  unfold literalReason
  cases lib.ipAddress hostname with
  | none => simp
  | some address =>
    dsimp only
    constructor
    · intro hnone a ha
      obtain rfl := Option.some.inj ha
      split_ifs at hnone with hloopback hprivate hlink
      rw [Option.map_eq_none_iff, find_cidr_eq_none_iff] at hnone
      simp only [Bool.not_eq_true, guard_eq_false_iff] at hloopback hlink hprivate
      exact ⟨hnone, hloopback, hlink, hprivate⟩
    · intro hall
      have hpermitted := hall address rfl
      simp only [guard_eq_false_iff.mpr hpermitted.loopback,
        guard_eq_false_iff.mpr hpermitted.linkLocal, guard_eq_false_iff.mpr hpermitted.priv,
        (find_cidr_eq_none_iff address).mpr hpermitted.cidr]
      rfl

/-! ## Refinement -/

/-- An address resolves to itself only. -/
def ResolvesLiterals (lib : UrlLibrary ip) (dns : String → Resolution) : Prop :=
  ∀ hostname, ∀ address ∈ lib.ipAddress hostname, ∃ ips, dns hostname = .addresses ips ∧
    ips ≠ [] ∧ ∀ x ∈ ips, lib.ipAddress x = some address

theorem validateWebhookUrl_refused {dns : String → Resolution} {url : String}
    {parsed : Option String} (hparsed : lib.urlparse url = some parsed) {ips : List String}
    (hdns : dns (parsed.getD "") = .addresses ips)
    (hblocked : ∃ x ∈ ips, blockedReason settings lib x ≠ none) :
    ∃ reason, validateWebhookUrl settings lib dns url = .refused reason := by
  obtain ⟨x, hx, hreason⟩ := hblocked
  unfold validateWebhookUrl
  rw [hparsed]
  dsimp only
  split
  · exact ⟨_, rfl⟩
  · rw [hdns]
    unfold checkResolution
    dsimp only
    cases hfound : ips.findSome? (blockedReason settings lib) with
    | some reason => exact ⟨reason, rfl⟩
    | none => exact absurd (List.findSome?_eq_none_iff.mp hfound x hx) hreason

theorem refused_of_fast {dns : String → Resolution} (hdns : ResolvesLiterals lib dns) {url : String}
    (hfast : validateWebhookUrlFast settings lib url ≠ .accepted) :
    ∃ reason, validateWebhookUrl settings lib dns url = .refused reason := by
  unfold validateWebhookUrlFast at hfast
  cases hparsed : lib.urlparse url with
  | none =>
    unfold validateWebhookUrl
    rw [hparsed]
    exact ⟨_, rfl⟩
  | some parsed =>
    rw [hparsed] at hfast
    dsimp only at hfast
    split at hfast
    · rename_i hdenied
      unfold validateWebhookUrl
      rw [hparsed]
      dsimp only
      rw [if_pos hdenied]
      exact ⟨_, rfl⟩
    · have hliteral : literalReason settings lib (parsed.getD "") ≠ none := by
        intro hnone
        rw [hnone] at hfast
        exact hfast rfl
      rw [Ne, literalReason_eq_none_iff] at hliteral
      push Not at hliteral
      obtain ⟨address, haddress, hblocked⟩ := hliteral
      obtain ⟨ips, hips, hne, hself⟩ := hdns _ address haddress
      refine validateWebhookUrl_refused hparsed hips ?_
      -- the answer has an address, and it is the one of the literal
      obtain ⟨x, hx⟩ := List.exists_mem_of_ne_nil ips hne
      refine ⟨x, hx, ?_⟩
      rw [Ne, blockedReason_eq_none_iff, hself x hx]
      exact fun hall => hblocked (hall address rfl)

end

/-- The two checks, in processes that have set up their globals or not. -/
def SsrfConfig.validateUrl (c : SsrfConfig) (lib : UrlLibrary ip) (g : SsrfGlobals)
    (dns : String → Resolution) (url : String) : UrlCheck :=
  validateWebhookUrl (c.settings (g.ensure lib c)) lib dns url

def SsrfConfig.validateUrlFast (c : SsrfConfig) (lib : UrlLibrary ip) (g : SsrfGlobals)
    (url : String) : UrlCheck :=
  validateWebhookUrlFast (c.settings (g.ensure lib c)) lib url

/-- **The fast check refines the full one**: what it does not accept, the full one refuses; and what
that accepts has a host that is not on the list, and only addresses that are permitted. -/
theorem fast_check_refines (lib : UrlLibrary ip) (c : SsrfConfig) {g g' : SsrfGlobals}
    (hg : g.Reached lib c) (hg' : g'.Reached lib c) {dns : String → Resolution}
    (hdns : ResolvesLiterals lib dns) (url : String) :
    (c.validateUrlFast lib g url ≠ .accepted →
        ∃ reason, c.validateUrl lib g' dns url = .refused reason) ∧
      (c.validateUrl lib g' dns url = .accepted → ∃ parsed ips, lib.urlparse url = some parsed ∧
        lib.lower (parsed.getD "") ∉ (splitSetting c.blockedHostnames).map lib.lower ∧
        dns (parsed.getD "") = .addresses ips ∧
        ∀ x ∈ ips, ∀ address ∈ lib.ipAddress x,
          (∀ cidr ∈ splitSetting c.blockedCidrs, lib.inNetwork address cidr ≠ some true) ∧
          (lib.isLoopback address = true → c.allowLoopback = true) ∧
          (lib.isLinkLocal address = true → c.allowLinkLocal = true) ∧
          (lib.isPrivate address = true → c.allowPrivate = true)) := by
  unfold SsrfConfig.validateUrlFast SsrfConfig.validateUrl
  rw [hg.ensure_eq, hg'.ensure_eq]
  refine ⟨refused_of_fast hdns, ?_⟩
  intro haccepted
  obtain ⟨parsed, ips, hparsed, hhost, hips, hall⟩ :=
    (validateWebhookUrl_accepted_iff _ lib dns url).mp haccepted
  refine ⟨parsed, ips, hparsed, hhost, hips, ?_⟩
  intro x hx address haddress
  have hpermitted := (blockedReason_eq_none_iff x).mp (hall x hx) address haddress
  exact ⟨hpermitted.cidr, hpermitted.loopback, hpermitted.linkLocal, hpermitted.priv⟩

def internalLibrary : UrlLibrary String where
  urlparse url := if url = "http://10.0.0.5/hook" then some (some "10.0.0.5") else none
  lower name := name
  ipAddress text := if text = "10.0.0.5" then some text else none
  inNetwork _ cidr := some (decide (cidr = "10.0.0.0/8"))
  isLoopback _ := false
  isLinkLocal _ := false
  isPrivate _ := true

/-- A webhook at an internal address, which the API refuses, is refused at the dispatch. -/
theorem internal_address_refused :
    ∃ reason, ({ } : SsrfConfig).validateUrl internalLibrary {} (fun name => .addresses [name])
      "http://10.0.0.5/hook" = .refused reason := by
  refine (fast_check_refines internalLibrary {} (.inl rfl) (.inl rfl) ?_ _).1 ?_
  · intro hostname address haddress
    refine ⟨[hostname], rfl, List.cons_ne_nil _ _, ?_⟩
    intro x hx
    rw [List.mem_singleton.mp hx]
    exact haddress
  · decide +kernel

end NocIq
