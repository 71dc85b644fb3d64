import Mathlib.Logic.Equiv.List
import NocIq.Lib.Text
import NocIq.Payment.Endpoints

/-!
# NocIq — what a callback signature covers

`_verify_callback_signature` signs the transaction id, the status and the nonce of a callback,
joined by colons. A colon inside a field reads like the one between two fields, and a missing nonce
like an empty one.

* **`message_eq_iff`** — two callbacks are signed as one message exactly if their fields have the
  same pieces.
* **`signed_messages_injective_iff`** — so the messages, and the signatures, are of one callback
  each exactly where the pieces are.
-/

namespace NocIq

/-! ## The signed message -/

/-- What the signature is to stand for. -/
structure SignedTriple where
  transactionId : String
  status : String
  nonce : Option String
  deriving DecidableEq, Repr

def CallbackRequest.signedTriple (req : CallbackRequest) : SignedTriple where
  transactionId := req.payload.transactionId
  status := req.payload.status
  nonce := effectiveNonce req

namespace SignedTriple

/-- The message of `_verify_callback_signature`. -/
def message (t : SignedTriple) : String :=
  let nonceText := t.nonce.getD ""
  s!"{t.transactionId}:{t.status}:{nonceText}"

/-- `_verify_callback_signature` returns true. -/
def Accepts (d : Deployment) (t : SignedTriple) (signature : String) : Prop :=
  verifyCallbackSignature d t.transactionId t.status t.nonce signature = .ok true

def fields (t : SignedTriple) : List (List Char) :=
  [t.transactionId.toList, t.status.toList, (t.nonce.getD "").toList]

/-- The pieces of the fields, each field cut at its colons. -/
def pieces (t : SignedTriple) : List (List Char) := t.fields.flatMap fun field => field.splitOn ':'

theorem toList_message (t : SignedTriple) : t.message.toList = [':'].intercalate t.fields := by
  show (t.transactionId ++ ":" ++ t.status ++ ":" ++ t.nonce.getD "").toList = _
  unfold fields
  rw [List.intercalate_cons_cons, List.intercalate_cons_cons, List.intercalate_singleton]
  simp only [String.toList_append, List.append_assoc]
  rfl

variable {t : SignedTriple}

/-- **One message.** -/
theorem message_eq_iff {t' : SignedTriple} : t.message = t'.message ↔ t.pieces = t'.pieces := by
  have hfields : t.fields ≠ [] := List.cons_ne_nil _ _
  have hfields' : t'.fields ≠ [] := List.cons_ne_nil _ _
  have hjoin := Text.join_eq_iff ':' hfields hfields'
  rw [← String.toList_inj, toList_message, toList_message]
  exact hjoin

theorem pieces_ne {t' : SignedTriple} (h : t ≠ t') (hid : ':' ∉ t.transactionId.toList)
    (hid' : ':' ∉ t'.transactionId.toList) (hstatus : ':' ∉ t.status.toList)
    (hstatus' : ':' ∉ t'.status.toList)
    (hnonce : t.nonce.getD "" = t'.nonce.getD "" → t.nonce = t'.nonce) : t.pieces ≠ t'.pieces := by
  intro hpieces
  have hmessage := congrArg String.toList (message_eq_iff.mpr hpieces)
  rw [toList_message, toList_message] at hmessage
  unfold fields at hmessage
  rw [List.intercalate_cons_cons, List.intercalate_cons_cons, List.intercalate_singleton,
    List.intercalate_cons_cons, List.intercalate_cons_cons, List.intercalate_singleton] at hmessage
  simp only [List.append_assoc, List.singleton_append] at hmessage
  obtain ⟨htransaction, hrest⟩ := Text.delimited_inj hid hid' hmessage
  obtain ⟨hst, hn⟩ := Text.delimited_inj hstatus hstatus' hrest
  apply h
  obtain ⟨transactionId, status, nonce⟩ := t
  obtain ⟨transactionId', status', nonce'⟩ := t'
  rw [SignedTriple.mk.injEq]
  exact ⟨String.toList_inj.mp htransaction, String.toList_inj.mp hst,
    hnonce (String.toList_inj.mp hn)⟩

/-! ## Signatures -/

theorem accepts_iff {d : Deployment} {signature : String} :
    t.Accepts d signature ↔
      compareDigest (d.hmacSha256 d.webhookSecret t.message) signature = .ok true := Iff.rfl

theorem Accepts.digest {d : Deployment} {signature : String} (h : t.Accepts d signature) :
    signature = d.hmacSha256 d.webhookSecret t.message := by
  rw [accepts_iff] at h
  unfold compareDigest at h
  split at h
  · exact (of_decide_eq_true (Except.ok.inj h)).symm
  · cases h

theorem accepts_digest {d : Deployment}
    (hascii : ∀ message, isAscii (d.hmacSha256 d.webhookSecret message) = true) :
    t.Accepts d (d.hmacSha256 d.webhookSecret t.message) := by
  rw [accepts_iff]
  unfold compareDigest
  rw [hascii t.message, decide_eq_true rfl]
  rfl

end SignedTriple

open SignedTriple

/-! ## The ids of the system -/

/-- The transaction ids that the system gives out: twelve characters of a UUID or of an outage id
at most. -/
def SystemPaymentId (id : String) : Prop :=
  ∃ source : String, id = "pay_" ++ String.ofList (source.toList.take 12)

/-! ## One callback, one message -/

/-- **The messages of two callbacks** are different exactly if the pieces of their triples are;
and with a digest that collides nowhere, no signature is valid for both exactly then. -/
theorem signed_messages_injective_iff (req req' : CallbackRequest) :
    (req.signedTriple.message ≠ req'.signedTriple.message ↔
        req.signedTriple.pieces ≠ req'.signedTriple.pieces) ∧
      ∀ d : Deployment, Function.Injective (d.hmacSha256 d.webhookSecret) →
        (∀ message, isAscii (d.hmacSha256 d.webhookSecret message) = true) →
        ((∀ signature,
            ¬ (req.signedTriple.Accepts d signature ∧ req'.signedTriple.Accepts d signature)) ↔
          req.signedTriple.pieces ≠ req'.signedTriple.pieces) := by
  refine ⟨not_congr message_eq_iff, ?_⟩
  intro d hinjective hascii
  constructor
  · -- the digest of the common message is a signature of both
    intro hnone hpieces
    have hmessage := message_eq_iff.mpr hpieces
    apply hnone (d.hmacSha256 d.webhookSecret req.signedTriple.message)
    refine ⟨accepts_digest hascii, ?_⟩
    rw [hmessage]
    exact accepts_digest hascii
  · rintro hpieces signature ⟨haccepts, haccepts'⟩
    apply hpieces
    apply message_eq_iff.mp
    exact hinjective (haccepts.digest.symm.trans haccepts'.digest)

/-! ## Two callbacks of one secret -/

def unaryDigest (_ message : String) : String :=
  String.ofList (List.replicate (Encodable.encode (message.toList.map Char.toNat)) 'a')

theorem unaryDigest_injective (key : String) : Function.Injective (unaryDigest key) := by
  intro message message' h
  have hlength := congrArg (fun text : String => text.toList.length) h
  simp only [unaryDigest, String.toList_ofList, List.length_replicate] at hlength
  have htoNat : Function.Injective Char.toNat := fun c c' hc => Char.toNat_inj.mp hc
  have hlist := htoNat.list_map (Encodable.encode_injective hlength)
  exact String.toList_inj.mp hlist

theorem isAscii_unaryDigest (key message : String) : isAscii (unaryDigest key message) = true := by
  unfold isAscii unaryDigest
  rw [String.toList_ofList, List.all_eq_true]
  intro c hc
  rw [List.eq_of_mem_replicate hc]
  rfl

def callbackOf (transactionId status : String) (nonce : Option String) : CallbackRequest where
  payload := { transactionId, status, nonce }

/-- Two nonces, and so two messages. -/
theorem signed_messages_injective_nonces :
    (callbackOf "pay_1" "failed" "n1").signedTriple.message ≠
        (callbackOf "pay_1" "failed" "n2").signedTriple.message ∧
      ∀ signature,
        ¬ ((callbackOf "pay_1" "failed" "n1").signedTriple.Accepts ⟨"whsec", unaryDigest⟩ signature ∧
          (callbackOf "pay_1" "failed" "n2").signedTriple.Accepts ⟨"whsec", unaryDigest⟩
            signature) := by
  obtain ⟨hmessages, hsignatures⟩ := signed_messages_injective_iff
    (callbackOf "pay_1" "failed" "n1") (callbackOf "pay_1" "failed" "n2")
  have hpieces : (callbackOf "pay_1" "failed" "n1").signedTriple.pieces ≠
      (callbackOf "pay_1" "failed" "n2").signedTriple.pieces :=
    pieces_ne (by decide) (by decide) (by decide) (by decide) (by decide) (by decide)
  exact ⟨hmessages.mpr hpieces,
    (hsignatures ⟨"whsec", unaryDigest⟩ (unaryDigest_injective "whsec")
      (isAscii_unaryDigest "whsec")).mpr hpieces⟩

/-- The payment of the outage `db:failed` was confirmed; the same message says that the payment of
the outage `db` has failed. -/
theorem signed_messages_collide :
    let confirmed := callbackOf "pay_db:failed" "confirmed" "n1"
    let failed := callbackOf "pay_db" "failed" "confirmed:n1"
    SystemPaymentId confirmed.payload.transactionId ∧
      SystemPaymentId failed.payload.transactionId ∧
      confirmed.signedTriple ≠ failed.signedTriple ∧
      confirmed.signedTriple.message = "pay_db:failed:confirmed:n1" ∧
      failed.signedTriple.message = "pay_db:failed:confirmed:n1" ∧
      ∀ d signature, confirmed.signedTriple.Accepts d signature →
        failed.signedTriple.Accepts d signature :=
  ⟨⟨"db:failed", by decide +kernel⟩, ⟨"db", by decide +kernel⟩, by decide, by decide +kernel,
    by decide +kernel, fun _ _ haccepts => haccepts⟩

end NocIq
