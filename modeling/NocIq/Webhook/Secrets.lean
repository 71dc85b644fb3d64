import NocIq.Webhook.Dispatch

/-!
# NocIq — rotating the secret of a webhook

`create_webhook` and `rotate_webhook_secret` of `app/api/v1/endpoints/webhooks.py`, as far as they
write secrets, and `verify_with_grace_window` of `app/services/webhook_signing.py`. One previous
secret is stored, with the time until which it is to be valid; the verification is not told that
time.

* **`row_secrets`** — the two secrets on the row, from the history.
* **`verifyWithGraceWindow_iff`** — the signatures that are accepted.
* **`graceWindow_iff`** — hence the histories and times at which the grace window holds.
-/

namespace NocIq

/-! ## The endpoints -/

/-- The secret columns of a row of `webhooks`. -/
structure WebhookSecrets where
  secret : Option String
  lastSecretRotationAt : Option Time := none
  secretVersion : Int := 1
  previousSecret : Option String := none
  rotationGraceExpiresAt : Option Time := none
  deriving DecidableEq, Repr

structure GraceSettings where
  secretGraceWindowSeconds : Int := 3600
  deriving DecidableEq, Repr

def GraceSettings.window (settings : GraceSettings) : Int :=
  settings.secretGraceWindowSeconds * 1000000

structure WebhookSecretRotateResponse where
  newSecret : String
  graceExpiresAt : Option Time
  message : String
  deriving DecidableEq, Repr

def createWebhook (secret : Option String) : WebhookSecrets := { secret }

/-- A call of `rotate_webhook_secret`, with what `secrets.token_hex(32)` gives. -/
structure Rotation where
  now : Time
  newSecret : String
  deriving DecidableEq, Repr

def rotateWebhookSecret (settings : GraceSettings) (r : Rotation) (webhook : WebhookSecrets) :
    WebhookSecretRotateResponse × WebhookSecrets :=
  let expiresAt : Time := r.now + settings.window
  ({ newSecret := r.newSecret
     graceExpiresAt := some expiresAt
     message :=
      s!"Secret rotated. Previous secret valid for {settings.secretGraceWindowSeconds}s grace " ++
        "window. Update your consumer before the grace window expires." },
    { previousSecret := webhook.secret
      rotationGraceExpiresAt := some expiresAt
      secret := some r.newSecret
      secretVersion := webhook.secretVersion + 1
      lastSecretRotationAt := some r.now })

/-! ## The verification -/

/-- `verify_signature`. -/
def verifySignature (env : WebhookEnv) (secret payload signature : String) (version : Int) : Bool :=
  if version = 1 then decide (env.hmacSha256 secret payload = signature) else false

/-- `secret and verify_signature(…)`. -/
def verifiesWith (env : WebhookEnv) (payload signature : String) (version : Int) :
    Option String → Bool
  | none => false
  | some secret => decide (secret ≠ "") && verifySignature env secret payload signature version

def verifyWithGraceWindow (env : WebhookEnv) (currentSecret previousSecret : Option String)
    (payload signature : String) (version : Int) : Bool :=
  if verifiesWith env payload signature version currentSecret then true
  else if verifiesWith env payload signature version previousSecret then true
  else false

/-- Distinct secrets give distinct signatures. -/
def WebhookEnv.SignaturesDiffer (env : WebhookEnv) : Prop :=
  ∀ secret secret' payload, env.hmacSha256 secret payload = env.hmacSha256 secret' payload →
    secret = secret'

variable {env : WebhookEnv} {settings : GraceSettings} {t : Time}

theorem verifiesWith_iff (henv : env.SignaturesDiffer) (payload secret : String)
    (stored : Option String) :
    verifiesWith env payload (env.hmacSha256 secret payload) 1 stored = true ↔
      secret ≠ "" ∧ stored = some secret := by
  cases stored with
  | none => simp [verifiesWith]
  | some s =>
    have hsame : env.hmacSha256 s payload = env.hmacSha256 secret payload ↔ s = secret :=
      ⟨henv s secret payload, fun h => by rw [h]⟩
    unfold verifiesWith verifySignature
    dsimp only
    rw [if_pos rfl, Bool.and_eq_true, decide_eq_true_eq, decide_eq_true_eq, hsame,
      Option.some.injEq]
    constructor
    · rintro ⟨hne, rfl⟩
      exact ⟨hne, rfl⟩
    · rintro ⟨hne, rfl⟩
      exact ⟨hne, rfl⟩

/-- **The signatures that are accepted** are those made with one of the two secrets. -/
theorem verifyWithGraceWindow_iff (henv : env.SignaturesDiffer)
    (currentSecret previousSecret : Option String) (payload secret : String) :
    verifyWithGraceWindow env currentSecret previousSecret payload
        (env.hmacSha256 secret payload) 1 = true ↔
      secret ≠ "" ∧ (currentSecret = some secret ∨ previousSecret = some secret) := by
  have hcurrent := verifiesWith_iff henv payload secret currentSecret
  have hprevious := verifiesWith_iff henv payload secret previousSecret
  rw [and_or_left, ← hcurrent, ← hprevious]
  unfold verifyWithGraceWindow
  split
  · rename_i h
    exact iff_of_true rfl (.inl h)
  · rename_i h
    rw [or_iff_right h]
    split
    · rename_i h'
      exact iff_of_true rfl h'
    · rename_i h'
      exact iff_of_false Bool.false_ne_true h'

/-! ## Histories -/

/-- The secret that a webhook is created with, and its rotations, the oldest first. -/
structure SecretHistory where
  secret : Option String
  rotations : List Rotation

namespace SecretHistory

def row (settings : GraceSettings) (h : SecretHistory) : WebhookSecrets :=
  h.rotations.foldl (fun webhook r => (rotateWebhookSecret settings r webhook).2)
    (createWebhook h.secret)

def currentAfter (secret : Option String) : List Rotation → Option String
  | [] => secret
  | r :: rotations => currentAfter (some r.newSecret) rotations

/-- The secrets that have been replaced, and when. -/
def replacedBy (secret : Option String) : List Rotation → List (Option String × Time)
  | [] => []
  | r :: rotations => (secret, r.now) :: replacedBy (some r.newSecret) rotations

def current (h : SecretHistory) : Option String := currentAfter h.secret h.rotations

def replaced (h : SecretHistory) : List (Option String × Time) := replacedBy h.secret h.rotations

def previous (h : SecretHistory) : Option String := h.replaced.getLast?.bind Prod.fst

/-- The secret is the current one, or was replaced less than the grace window before `t`. -/
def InForce (settings : GraceSettings) (h : SecretHistory) (t : Time) (secret : String) : Prop :=
  h.current = some secret ∨
    ∃ x ∈ h.replaced, x.1 = some secret ∧ t < x.2 + settings.window

/-- The verification at `t` accepts the signatures made with a secret in force, and no others. -/
def GraceWindow (env : WebhookEnv) (settings : GraceSettings) (h : SecretHistory) (t : Time) :
    Prop :=
  ∀ payload secret,
    verifyWithGraceWindow env (h.row settings).secret (h.row settings).previousSecret payload
        (env.hmacSha256 secret payload) 1 = true ↔ h.InForce settings t secret

/-- The last rotation is less than the grace window before `t`, and no earlier one that has replaced
another secret; and the empty string, which counts as no secret, is none in force. -/
structure LastInWindow (settings : GraceSettings) (h : SecretHistory) (t : Time) : Prop where
  last : ∀ x ∈ h.replaced.getLast?, ∀ secret ∈ x.1, secret ≠ "" → h.current ≠ some secret →
    t < x.2 + settings.window
  earlier : ∀ x ∈ h.replaced.dropLast, t < x.2 + settings.window →
    ∀ secret ∈ x.1, h.current = some secret ∨ h.previous = some secret
  nonempty : ¬ h.InForce settings t ""

/-- **The secrets on the row.** Induction on the rotations. -/
theorem row_secrets (settings : GraceSettings) (h : SecretHistory) :
    (h.row settings).secret = h.current ∧ (h.row settings).previousSecret = h.previous := by
  have hfold : ∀ (rotations : List Rotation) (webhook : WebhookSecrets),
      let row := rotations.foldl (fun webhook r => (rotateWebhookSecret settings r webhook).2)
        webhook
      row.secret = currentAfter webhook.secret rotations ∧
        row.previousSecret =
          match (replacedBy webhook.secret rotations).getLast? with
          | none => webhook.previousSecret
          | some x => x.1 := by
    intro rotations
    induction rotations with
    | nil => exact fun _ => ⟨rfl, rfl⟩
    | cons r rotations ih =>
      intro webhook
      obtain ⟨hsecret, hprevious⟩ := ih (rotateWebhookSecret settings r webhook).2
      have hcons : replacedBy webhook.secret (r :: rotations) =
          (webhook.secret, r.now) :: replacedBy (some r.newSecret) rotations := rfl
      refine ⟨hsecret, hprevious.trans ?_⟩
      show (match (replacedBy (some r.newSecret) rotations).getLast? with
        | none => webhook.secret
        | some x => x.1) = _
      rw [hcons, List.getLast?_cons]
      cases (replacedBy (some r.newSecret) rotations).getLast? with
      | none => rfl
      | some x => rfl
  obtain ⟨hsecret, hprevious⟩ := hfold h.rotations (createWebhook h.secret)
  refine ⟨hsecret, hprevious.trans ?_⟩
  unfold previous replaced createWebhook
  cases (replacedBy h.secret h.rotations).getLast? with
  | none => rfl
  | some x => rfl

theorem replaced_times (secret : Option String) (rotations : List Rotation) :
    (replacedBy secret rotations).map Prod.snd = rotations.map Rotation.now := by
  induction rotations generalizing secret with
  | nil => rfl
  | cons r rotations ih => exact congrArg (r.now :: ·) (ih (some r.newSecret))

theorem le_last {h : SecretHistory} (hclock : (h.rotations.map Rotation.now).Pairwise (· ≤ ·))
    {x y : Option String × Time} (hy : y ∈ h.replaced.getLast?) (hx : x ∈ h.replaced) :
    x.2 ≤ y.2 := by
  have hordered : h.replaced.Pairwise fun a b => a.2 ≤ b.2 := by
    rw [← List.pairwise_map (f := Prod.snd) (R := (· ≤ ·))]
    unfold replaced
    rw [replaced_times]
    exact hclock
  obtain ⟨earlier, hsplit⟩ := List.getLast?_eq_some_iff.mp hy
  rw [hsplit] at hx hordered
  rcases List.mem_append.mp hx with hx | hx
  · exact (List.pairwise_append.mp hordered).2.2 x hx y (List.mem_singleton_self y)
  · exact Int.le_of_eq (congrArg Prod.snd (List.mem_singleton.mp hx))

/-- **The grace window at `t`** holds exactly if the last rotation is the only one within it. -/
theorem graceWindow_iff (henv : env.SignaturesDiffer) {h : SecretHistory}
    (hclock : (h.rotations.map Rotation.now).Pairwise (· ≤ ·)) :
    h.GraceWindow env settings t ↔ h.LastInWindow settings t := by
  have haccepts : ∀ payload secret,
      verifyWithGraceWindow env (h.row settings).secret (h.row settings).previousSecret payload
          (env.hmacSha256 secret payload) 1 = true ↔
        secret ≠ "" ∧ (h.current = some secret ∨ h.previous = some secret) := by
    intro payload secret
    obtain ⟨hsecret, hprevious⟩ := row_secrets settings h
    rw [hsecret, hprevious]
    exact verifyWithGraceWindow_iff henv h.current h.previous payload secret
  unfold GraceWindow
  simp only [haccepts]
  constructor
  · intro hall
    constructor
    · intro x hx secret hsecret hne hcurrent
      have hprevious : h.previous = some secret := by
        unfold previous
        rw [Option.mem_def.mp hx]
        exact hsecret
      -- the previous secret verifies, hence a rotation within the window has replaced it
      rcases (hall "" secret).mp ⟨hne, .inr hprevious⟩ with hsame | ⟨y, hy, -, hwithin⟩
      · exact absurd hsame hcurrent
      · exact Int.lt_of_lt_of_le hwithin (Int.add_le_add_right (le_last hclock hx hy) _)
    · intro x hx hwithin secret hsecret
      exact ((hall "" secret).mpr (.inr ⟨x, List.dropLast_subset _ hx, hsecret, hwithin⟩)).2
    · intro hempty
      exact ((hall "" "").mpr hempty).1 rfl
  · intro hlast payload secret
    constructor
    · rintro ⟨hne, hcurrent | hprevious⟩
      · exact .inl hcurrent
      · obtain ⟨x, hx, hsecret⟩ := Option.bind_eq_some_iff.mp hprevious
        by_cases hcurrent : h.current = some secret
        · exact .inl hcurrent
        · have hwithin := hlast.last x hx secret hsecret hne hcurrent
          exact .inr ⟨x, List.mem_of_getLast? hx, hsecret, hwithin⟩
    · intro hforce
      have hne : secret ≠ "" := by
        rintro rfl
        exact hlast.nonempty hforce
      refine ⟨hne, ?_⟩
      rcases hforce with hcurrent | ⟨x, hx, hsecret, hwithin⟩
      · exact .inl hcurrent
      -- a secret that a rotation within the window has replaced
      · rcases List.eq_nil_or_concat h.replaced with hnil | ⟨earlier, y, hsplit⟩
        · rw [hnil] at hx
          cases hx
        · rw [List.concat_eq_append] at hsplit
          rw [hsplit] at hx
          rcases List.mem_append.mp hx with hx | hx
          · have hdrop : x ∈ h.replaced.dropLast := by
              rw [hsplit, List.dropLast_concat]
              exact hx
            exact hlast.earlier x hdrop hwithin secret hsecret
          · -- it is the last one that has been replaced
            right
            unfold previous
            rw [hsplit, List.getLast?_concat, ← List.mem_singleton.mp hx]
            exact hsecret

/-! ### Rotations of one webhook -/

/-- A webhook that is rotated an hour later, and once more after another minute. -/
def twoRotations : SecretHistory where
  secret := some "first"
  rotations := [⟨3600000000, "second"⟩, ⟨3660000000, "third"⟩]

/-- An environment in which the secret is the signature. -/
def transparentEnv : WebhookEnv where
  hmacSha256 secret payload := payload ++ secret
  sha256 text := text
  isoformat t := toString t
  uuidText id := toString id.toNat

theorem transparentEnv_signaturesDiffer : transparentEnv.SignaturesDiffer := by
  intro secret secret' payload h
  have hlists := congrArg String.toList h
  rw [show transparentEnv.hmacSha256 secret payload = payload ++ secret from rfl,
    show transparentEnv.hmacSha256 secret' payload = payload ++ secret' from rfl,
    String.toList_append, String.toList_append] at hlists
  exact String.toList_inj.mp (List.append_cancel_left hlists)

/-- Long after its window has closed, the previous secret is accepted. -/
theorem previous_secret_outlives_window :
    ¬ ∀ (env : WebhookEnv) (settings : GraceSettings) (h : SecretHistory) (t : Time),
      env.SignaturesDiffer → (h.rotations.map Rotation.now).Pairwise (· ≤ ·) →
        (∀ r ∈ h.rotations, r.now ≤ t) → h.GraceWindow env settings t := by
  intro hall
  have hwindow := hall transparentEnv {} twoRotations 86400000000 transparentEnv_signaturesDiffer
    (by decide) (by decide)
  have haccepted := (hwindow "" "second").mp (by decide)
  rcases haccepted with hcurrent | hreplaced
  · revert hcurrent
    decide
  · revert hreplaced
    decide

/-- Half an hour after its one rotation, a webhook accepts both secrets. -/
theorem graceWindow_halfHour :
    SecretHistory.GraceWindow transparentEnv {} ⟨some "first", [⟨3600000000, "second"⟩]⟩
      5400000000 := by
  refine (graceWindow_iff transparentEnv_signaturesDiffer (by decide)).mpr ?_
  constructor
  · decide
  · decide
  · rintro (hcurrent | hreplaced)
    · revert hcurrent
      decide
    · revert hreplaced
      decide

end SecretHistory

end NocIq
