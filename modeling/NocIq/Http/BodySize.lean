import NocIq.Lib.IntegerText
import NocIq.Lib.PrefixClasses

/-!
# NocIq — limits on the size of a body

`BodySizeLimitMiddleware` of `app/middleware/body_size_limiter.py`. It compares the number in the
`Content-Length` header with the limit of the first prefix in its table that the path starts with.

* **`limit_of_underApi`** — the API is below a version prefix, so `/bulk` and `/webhook` never fit.
* **`enforced_iff`** — the limits are enforced when the header is there, is a number, and is on the
  same side of this limit as the body is of the documented one.
-/

namespace NocIq

namespace BodySizeLimit

/-! ## The middleware -/

/-- The value of a header: its bytes, decoded as Latin-1. -/
structure HeaderValue where
  text : List Char
  latin1 : ∀ c ∈ text, c.toNat < 256

/-- A request, with the body that is yet to be received. -/
structure Request where
  method : String
  path : String
  contentLength : Option HeaderValue
  body : List UInt8

def authLimit : Nat := 1 * 1024
def crudLimit : Nat := 10 * 1024
def bulkLimit : Nat := 10 * 1024 * 1024
def webhookLimit : Nat := 1 * 1024 * 1024

def routeLimits : List (String × Nat) :=
  [("/bulk", bulkLimit), ("/webhook", webhookLimit), ("/api/v1/auth", authLimit),
    ("/api/v1/outages", crudLimit), ("/api/v1/payments", crudLimit),
    ("/api/v1/wallets", crudLimit), ("/api/v1/sla", crudLimit)]

def defaultLimit : Nat := crudLimit

/-- `_SIZE_LABELS.get(limit, f"{limit} bytes")`. -/
def sizeLabel (limit : Nat) : String :=
  match limit with
  | 1024 => "1 KB"
  | 10240 => "10 KB"
  | 1048576 => "1 MB"
  | 10485760 => "10 MB"
  | limit => s!"{limit} bytes"

def getLimit (path : String) : Nat × String :=
  match PrefixClasses.firstMatch (fun entry => entry.1.toList) routeLimits path.toList with
  | some (_, limit) => (limit, sizeLabel limit)
  | none => (defaultLimit, sizeLabel defaultLimit)

/-- What `int(…)` takes for a blank. -/
def isBlank (c : Char) : Bool :=
  decide (c.toNat ∈ [0x09, 0x0a, 0x0b, 0x0c, 0x0d, 0x20, 0x85, 0xa0])

structure ValueError where
  deriving DecidableEq, Repr

/-- `int(text)`. No more than 4300 digits are read. -/
def int (value : HeaderValue) : Except ValueError Int :=
  match IntegerText.read isBlank 4300 value.text with
  | some n => .ok n
  | none => .error {}

structure TooLarge where
  detail : String
  maxSizeBytes : Nat
  receivedSizeBytes : Int
  path : String
  deriving DecidableEq, Repr

inductive Answer where
  /-- what comes after the middleware is called, and its answer returned -/
  | callNext
  | json (statusCode : Nat) (content : TooLarge)
  deriving DecidableEq, Repr

def dispatch (request : Request) : Except ValueError Answer :=
  if request.method ∈ ["GET", "DELETE", "OPTIONS", "HEAD"] then return .callNext
  else
    match request.contentLength with
    | none => return .callNext
    | some contentLength => do
      let (limit, label) := getLimit request.path
      let bodySize ← int contentLength
      if bodySize > limit then
        return .json 413
          { detail := "Request body too large. Maximum allowed size for this endpoint is " ++
              s!"{label}."
            maxSizeBytes := limit, receivedSizeBytes := bodySize, path := request.path }
      else return .callNext

/-! ## What is documented -/

inductive RouteClass where
  | auth
  | crud
  | bulk
  | webhook
  deriving DecidableEq, Repr

/-- The class of a path. The segments of bulk and webhook routes are below the version prefix. -/
def routeClass (path : String) : RouteClass :=
  let segments := path.toList.splitOn '/'
  if "bulk".toList ∈ segments ∨ "import".toList ∈ segments then .bulk
  else if "webhook".toList ∈ segments ∨ "webhooks".toList ∈ segments then .webhook
  else if "/api/v1/auth".toList <+: path.toList then .auth
  else .crud

def RouteClass.limit : RouteClass → Nat
  | .auth => 1024
  | .crud => 10240
  | .bulk => 10485760
  | .webhook => 1048576

def documentedLimit (path : String) : Nat := (routeClass path).limit

/-- A request is answered with 413, and goes no further, just when its body is too large. -/
structure Enforced (request : Request) : Prop where
  larger : documentedLimit request.path < request.body.length →
    ∃ content, dispatch request = .ok (.json 413 content)
  fitting : request.body.length ≤ documentedLimit request.path →
    ∀ content, dispatch request ≠ .ok (.json 413 content)
  noRaise : ∀ e, dispatch request ≠ .error e

def UnderApi (path : String) : Prop := "/api/".toList <+: path.toList

instance (path : String) : Decidable (UnderApi path) := inferInstanceAs (Decidable (_ <+: _))

/-- The limit of the prefixes below `/api/`. -/
def versionedLimit (path : String) : Nat :=
  if "/api/v1/auth".toList <+: path.toList then 1024 else 10240

/-- The header tells on which side of the limit the body is. -/
def Measured (request : Request) : Prop :=
  match request.contentLength with
  | none => request.body.length ≤ documentedLimit request.path
  | some contentLength =>
    ∃ n, int contentLength = .ok n ∧
      ((versionedLimit request.path : Int) < n ↔
        documentedLimit request.path < request.body.length)

variable {request : Request} {path : String}

/-! ## The table below a version prefix -/

theorem not_prefix_of_underApi (h : UnderApi path) {pre : List Char}
    (hleft : ¬ pre <+: "/api/".toList) (hright : ¬ "/api/".toList <+: pre) :
    ¬ pre <+: path.toList := fun hpre =>
  (List.prefix_or_prefix_of_prefix hpre h).elim hleft hright

/-- **Bulk and webhook paths of the API** get the limit of what they are part of. -/
theorem limit_of_underApi (h : UnderApi path) : (getLimit path).1 = versionedLimit path := by
  have hbulk : ¬ "/bulk".toList <+: path.toList :=
    not_prefix_of_underApi h (by decide) (by decide)
  have hwebhook : ¬ "/webhook".toList <+: path.toList :=
    not_prefix_of_underApi h (by decide) (by decide)
  unfold getLimit versionedLimit PrefixClasses.firstMatch routeLimits
  rw [List.find?_cons_of_neg (by rwa [PrefixClasses.fits_iff]),
    List.find?_cons_of_neg (by rwa [PrefixClasses.fits_iff])]
  split_ifs with hauth
  · rw [List.find?_cons_of_pos (by rwa [PrefixClasses.fits_iff])]
    rfl
  · -- all that is left of the table has one limit, which is the default
    rw [List.find?_cons_of_neg (by rwa [PrefixClasses.fits_iff])]
    split
    case h_1 pre limit hfound =>
      have hall : ∀ entry ∈ [("/api/v1/outages", crudLimit), ("/api/v1/payments", crudLimit),
          ("/api/v1/wallets", crudLimit), ("/api/v1/sla", crudLimit)], entry.2 = 10240 := by
        decide
      exact hall _ (List.mem_of_find?_eq_some hfound)
    case h_2 => rfl

/-! ## What is enforced -/

theorem enforced_iff_of_dispatch {refused : Prop} [Decidable refused] {content : TooLarge}
    (h : dispatch request = if refused then .ok (.json 413 content) else .ok .callNext) :
    Enforced request ↔ (refused ↔ documentedLimit request.path < request.body.length) := by
  by_cases hrefused : refused
  · rw [if_pos hrefused] at h
    rw [iff_true_left hrefused]
    constructor
    · intro henforced
      by_contra hfits
      exact henforced.fitting (not_lt.mp hfits) content h
    · intro hlarge
      refine ⟨fun _ => ⟨content, h⟩, fun hfits => absurd hlarge hfits.not_gt, fun e => ?_⟩
      rw [h]
      exact nofun
  · rw [if_neg hrefused] at h
    rw [iff_false_left hrefused]
    constructor
    · intro henforced hlarge
      obtain ⟨content', hcontent⟩ := henforced.larger hlarge
      rw [h] at hcontent
      cases hcontent
    · intro hfits
      refine ⟨fun hlarge => absurd hlarge hfits, fun _ content' => ?_, fun e => ?_⟩
      · rw [h]
        exact nofun
      · rw [h]
        exact nofun

theorem toNat_of_isDigit {c : Char} (h : c.isDigit = true) : 48 ≤ c.toNat ∧ c.toNat ≤ 57 :=
  Char.isDigit_iff_toNat.mp h

theorem isBlank_of_isDigit {c : Char} (h : c.isDigit = true) : isBlank c = false := by
  obtain ⟨hle, hge⟩ := toNat_of_isDigit h
  refine decide_eq_false fun hmem => ?_
  simp only [List.mem_cons, List.not_mem_nil, or_false] at hmem
  omega

def HeaderValue.ofNat (n : Nat) : HeaderValue where
  text := (toString n).toList
  latin1 c hc := by
    have hrange := toNat_of_isDigit (Text.isDigit_of_mem_toString hc)
    omega

theorem int_ofNat {n : Nat} (hdigits : (toString n).toList.length ≤ 4300) :
    int (.ofNat n) = .ok n := by
  have hread : IntegerText.read isBlank 4300 (HeaderValue.ofNat n).text = some (n : Int) :=
    IntegerText.read_toString (fun _ => isBlank_of_isDigit) hdigits
  rw [int, hread]

section Dispatch

variable (hmethod : request.method ∉ ["GET", "DELETE", "OPTIONS", "HEAD"])
include hmethod

theorem dispatch_absent (hheader : request.contentLength = none) :
    dispatch request = .ok .callNext := by
  unfold dispatch
  rw [if_neg hmethod, hheader]
  rfl

variable {contentLength : HeaderValue}

theorem dispatch_unread {e : ValueError} (hheader : request.contentLength = some contentLength)
    (hint : int contentLength = .error e) : dispatch request = .error e := by
  unfold dispatch
  rw [if_neg hmethod, hheader]
  dsimp only
  rw [hint]
  rfl

theorem dispatch_read {n : Int} (hheader : request.contentLength = some contentLength)
    (hint : int contentLength = .ok n) :
    dispatch request =
      if ((getLimit request.path).1 : Int) < n then
        .ok (.json 413
          { detail := "Request body too large. Maximum allowed size for this endpoint is " ++
              s!"{(getLimit request.path).2}."
            maxSizeBytes := (getLimit request.path).1, receivedSizeBytes := n
            path := request.path })
      else .ok .callNext := by
  unfold dispatch
  rw [if_neg hmethod, hheader]
  dsimp only
  rw [hint]
  rfl

theorem enforced_of_read_iff (hpath : UnderApi request.path) {n : Int}
    (hheader : request.contentLength = some contentLength) (hint : int contentLength = .ok n) :
    Enforced request ↔ ((versionedLimit request.path : Int) < n ↔
      documentedLimit request.path < request.body.length) := by
  have hdispatch := dispatch_read hmethod hheader hint
  rw [limit_of_underApi hpath] at hdispatch
  exact enforced_iff_of_dispatch hdispatch

/-- **Body size limits** are enforced just when the header tells the side the body is on. A body
without a header is let through, and a header that is not a number is an exception. -/
theorem enforced_iff (hpath : UnderApi request.path) : Enforced request ↔ Measured request := by
  unfold Measured
  cases hheader : request.contentLength with
  | none =>
    -- such a request is refused in no case
    have hdispatch : dispatch request =
        if False then .ok (.json 413 ⟨"", 0, 0, request.path⟩) else .ok .callNext := by
      rw [if_neg not_false]
      exact dispatch_absent hmethod hheader
    rw [enforced_iff_of_dispatch hdispatch, iff_false_left not_false, not_lt]
  | some contentLength =>
    -- the body itself is never looked at
    cases hint : int contentLength with
    | error e =>
      refine iff_of_false (fun henforced => ?_) ?_
      · exact henforced.noRaise e (dispatch_unread hmethod hheader hint)
      · rintro ⟨n, hn, -⟩
        rw [hint] at hn
        cases hn
    | ok n =>
      rw [enforced_of_read_iff hmethod hpath hheader hint]
      constructor
      · exact fun hside => ⟨n, hint, hside⟩
      · rintro ⟨m, hm, hside⟩
        rw [hint] at hm
        rwa [Except.ok.inj hm]

end Dispatch

def newOutage : Request where
  method := "POST"
  path := "/api/v1/outages/"
  contentLength := some (.ofNat 3)
  body := [1, 2, 3]

theorem enforced_iff_newOutage : Enforced newOutage ↔ Measured newOutage :=
  enforced_iff (by decide) (by decide)

def bulkImport : Request where
  method := "POST"
  path := "/api/v1/outages/bulk"
  contentLength := some (.ofNat 20000)
  body := List.replicate 20000 0

/-- A body of 20000 bytes that is sent in chunks. -/
def chunkedLogin : Request where
  method := "POST"
  path := "/api/v1/auth/login"
  contentLength := none
  body := List.replicate 20000 0

def malformedHeader : Request :=
  { newOutage with
    contentLength := some ⟨['a', 'b', 'c'], List.forall_iff_forall_mem.mp (by decide)⟩ }

/-- A bulk request within its limit is refused, a login above its own is let through, and a header
that is not a number raises. -/
theorem limits_not_enforced :
    (bulkImport.body.length ≤ documentedLimit bulkImport.path ∧ ¬ Enforced bulkImport) ∧
    (documentedLimit chunkedLogin.path < chunkedLogin.body.length ∧
      dispatch chunkedLogin = .ok .callNext) ∧
    dispatch malformedHeader = .error {} := by
  have hbulk : bulkImport.body.length = 20000 := List.length_replicate
  have hchunked : chunkedLogin.body.length = 20000 := List.length_replicate
  have hlimit : documentedLimit bulkImport.path = 10485760 := by decide
  refine ⟨⟨?_, ?_⟩, ⟨?_, ?_⟩, ?_⟩
  · rw [hbulk, hlimit]
    decide
  · rw [enforced_of_read_iff (by decide) (by decide) rfl (int_ofNat (by decide)), hbulk, hlimit]
    decide
  · rw [hchunked]
    decide
  · exact dispatch_absent (by decide) rfl
  · exact dispatch_unread (by decide) rfl (by decide)

end BodySizeLimit

end NocIq
