import NocIq.Job.Operations
import NocIq.Wallet.Links

/-!
# NocIq — creating a wallet

`create_wallet` gives a new row no primary key, and a public key of 33 characters. The first is
refused by a table that supplies none, and the second by `app/utils/wallet_address.py`.

* **`WalletAddress.normalize_buildPublicKey`** — a key that is generated never is.
* **`wallet_never_created`** — no call creates a wallet as it should be, in any state of any run.
-/

namespace NocIq

open Runs

/-! ## Addresses -/

/-- `str.upper` by character; the table of Unicode is ASCII's on ASCII. -/
structure Uppercase where
  upper : Char → List Char
  ascii (c : Char) (h : c.toNat < 128) : upper c = [c.toUpper]

structure NormalizedAddress where
  value : String
  deriving DecidableEq, Repr

structure WalletAddressError where
  raw : String
  reason : String
  deriving DecidableEq, Repr

namespace WalletAddress

def isBase32 (c : Char) : Bool := decide (('A' ≤ c ∧ c ≤ 'Z') ∨ ('2' ≤ c ∧ c ≤ '7'))

/-- `_STELLAR_PUBLIC_KEY_RE.match`; the `$` also matches before a newline at the end. -/
def matchesStellarPublicKey (text : String) : Bool :=
  match text.toList with
  | 'G' :: rest =>
    (decide (rest.length = 55) && rest.all isBase32) ||
      (decide (rest.length = 56 ∧ rest.getLast? = some '\n') && rest.dropLast.all isBase32)
  | _ => false

def keyLen : Nat := 56

def normalize (table : Uppercase) (raw : String) : Except WalletAddressError NormalizedAddress :=
  let stripped := strip raw
  if stripped = "" then .error ⟨raw, "address must not be empty"⟩
  else
    let upper := stripped.toList.flatMap table.upper
    if upper.length ≠ keyLen then
      .error ⟨raw, s!"Stellar public keys must be exactly {keyLen} characters (got {upper.length})"⟩
    else if upper.head? ≠ some 'G' then .error ⟨raw, "Stellar public keys must start with 'G'"⟩
    else if matchesStellarPublicKey (String.ofList upper) = false then
      .error ⟨raw, "Stellar public keys may only contain uppercase letters A-Z and digits 2-7 " ++
        "(base-32 alphabet, no 0/1/8/9)"⟩
    else .ok ⟨String.ofList upper⟩

/-! ## Keys that are generated -/

/-- A character that `normalize` leaves as it is. -/
structure Unchanged (c : Char) : Prop where
  ascii : c.toNat < 128
  upper : c.toUpper = c
  word : isWhitespace c = false

theorem unchanged_hexDigit {m : Nat} (h : m < 16) : Unchanged (Uuid.hexDigit m).toUpper := by
  have hall : ∀ m : Fin 16, (Uuid.hexDigit m).toUpper.toNat < 128 ∧
      (Uuid.hexDigit m).toUpper.toUpper = (Uuid.hexDigit m).toUpper ∧
      isWhitespace (Uuid.hexDigit m).toUpper = false := by decide
  obtain ⟨hascii, hupper, hword⟩ := hall ⟨m, h⟩
  exact ⟨hascii, hupper, hword⟩

theorem unchanged_buildPublicKey (uuid : BitVec 128) :
    ∀ c ∈ (Wallets.buildPublicKey uuid).toList, Unchanged c := by
  intro c hc
  rw [Wallets.buildPublicKey, String.toList_ofList] at hc
  obtain rfl | hc := List.mem_cons.mp hc
  · exact ⟨by decide, by decide, by decide⟩
  · obtain ⟨digit, hdigit, rfl⟩ := List.mem_map.mp hc
    obtain ⟨m, hm, rfl⟩ := Uuid.mem_digits hdigit
    exact unchanged_hexDigit hm

theorem flatMap_upper (table : Uppercase) {cs : List Char} (h : ∀ c ∈ cs, Unchanged c) :
    cs.flatMap table.upper = cs := by
  induction cs with
  | nil => rfl
  | cons c cs ih =>
    have hc := h c List.mem_cons_self
    rw [List.flatMap_cons, table.ascii c hc.ascii, hc.upper,
      ih fun c hc => h c (List.mem_cons_of_mem _ hc)]
    rfl

theorem length_buildPublicKey (uuid : BitVec 128) :
    (Wallets.buildPublicKey uuid).toList.length = 33 := by
  rw [Wallets.buildPublicKey, String.toList_ofList, List.length_cons, List.length_map,
    Uuid.length_digits]

/-- **A key that is generated** is too short. -/
theorem normalize_buildPublicKey (table : Uppercase) (uuid : BitVec 128) :
    normalize table (Wallets.buildPublicKey uuid) =
      .error ⟨Wallets.buildPublicKey uuid,
        "Stellar public keys must be exactly 56 characters (got 33)"⟩ := by
  have hunchanged := unchanged_buildPublicKey uuid
  have hlength := length_buildPublicKey uuid
  have hstrip := strip_of_not_whitespace fun c hc => (hunchanged c hc).word
  unfold normalize
  dsimp only
  rw [hstrip, flatMap_upper table hunchanged, hlength, if_neg, if_pos (by decide)]
  · rfl
  · intro hempty
    rw [hempty] at hlength
    cases hlength

end WalletAddress

/-! ## What creating a wallet means -/

/-- A later call for the user returns the same wallet, and adds no row. -/
def ReturnsAgain (dialect : WalletDialect) (d : WalletDeployment) (process : Nat)
    (wallet : Wallet) : Prop :=
  ∀ uuid now, let later := (d.view process).createWallet dialect wallet.userId uuid now
    (∃ response, later.1 = .ok response ∧ response.wallet.userId = wallet.userId ∧
      response.wallet.publicKey = wallet.publicKey) ∧ later.2.rows = d.rows

/-- **The wallet of a user is created**: one row for it, a key that is accepted unchanged, and the
same wallet from every later call. -/
def CreatesWallet (dialect : WalletDialect) (ttl : Int) (table : Uppercase) (d : WalletDeployment)
    (process : Nat) (userId : String) (uuid : BitVec 128) (now : Time) : Prop :=
  let created := (d.view process).createWallet dialect userId uuid now
  let d' := d.next dialect ttl ⟨process, .createWallet userId uuid now⟩
  ∃ response row, created.1 = .ok response ∧ d'.rows = d.rows ++ [row] ∧ row.userId = userId ∧
    response.wallet = walletOrmToPydantic row ∧
    WalletAddress.normalize table row.publicKey = .ok ⟨row.publicKey⟩ ∧
    ∀ steps d'', Run (WalletDeployment.Step dialect ttl) d' steps d'' →
      ∀ process', ReturnsAgain dialect d'' process' response.wallet

namespace Wallets

variable {dialect : WalletDialect} {s : Wallets} {userId : String}

theorem left_eq_none (hs : ConsistentLinks s) (huser : ∀ row ∈ s.rows, row.userId ≠ userId) :
    s.registry.wallets.left userId = none := by
  cases hcached : s.registry.wallets.left userId with
  | none => rfl
  | some wallet =>
    have hkey := (hs.agrees.left _ _ hcached).1
    obtain ⟨row, hrow, hrowUser, -⟩ := hs.agrees.within _ _ hcached
    exact absurd (hrowUser.trans hkey) (huser row hrow)

theorem createWallet_eq (dialect : WalletDialect) (hs : ConsistentLinks s)
    (huser : ∀ row ∈ s.rows, row.userId ≠ userId)
    (uuid : BitVec 128) (now : Time) :
    (∃ constraint, WalletRepository.createAndLinkWallet dialect userId (buildPublicKey uuid) false
        false now s.rows = .error (.integrityError constraint) ∧
      createWallet dialect userId uuid now s =
        (.error (.valueError s!"Failed to create wallet: {constraint}"), s)) ∨
    ∃ row rows, WalletRepository.createAndLinkWallet dialect userId (buildPublicKey uuid) false
        false now s.rows = .ok (row, rows) ∧
      createWallet dialect userId uuid now s =
        (.ok ⟨walletOrmToPydantic row,
          "Wallet created. Please fund with at least 1 XLM to activate."⟩,
          { s with rows }.remember userId (walletOrmToPydantic row)) := by
  unfold createWallet
  rw [left_eq_none hs huser, WalletRepository.getByUserId_eq_none.mpr huser]
  cases hcreated : WalletRepository.createAndLinkWallet dialect userId (buildPublicKey uuid) false
      false now s.rows with
  | error e =>
    obtain ⟨constraint, rfl⟩ := WalletRepository.createAndLinkWallet_error hcreated
    exact .inl ⟨constraint, rfl, rfl⟩
  | ok created => exact .inr ⟨created.1, created.2, rfl, rfl⟩

theorem createWallet_of_not_suppliesId (hdialect : dialect.suppliesId = false)
    (hs : ConsistentLinks s)
    (huser : ∀ row ∈ s.rows, row.userId ≠ userId) (uuid : BitVec 128) (now : Time) :
    createWallet dialect userId uuid now s =
      (.error (.valueError "Failed to create wallet: NOT NULL constraint failed: wallets.id"),
        s) := by
  have hrefused : WalletRepository.createAndLinkWallet dialect userId (buildPublicKey uuid) false
      false now s.rows = .error (.integrityError "NOT NULL constraint failed: wallets.id") := by
    unfold WalletRepository.createAndLinkWallet WalletDialect.insert
    dsimp only
    rw [if_pos hdialect]
    rfl
  obtain ⟨constraint, hcreated, hresult⟩ | ⟨row, rows, hcreated, -⟩ :=
    createWallet_eq dialect hs huser uuid now
  · rw [hrefused] at hcreated
    obtain rfl := Exc.integrityError.inj (Except.error.inj hcreated)
    rw [hresult]
    rfl
  · rw [hrefused] at hcreated
    cases hcreated

end Wallets

/-- **No wallet is created as it should be**, in any state of any run. A table that supplies no
primary key refuses the row; and one that does has a key then that no address is. -/
theorem wallet_never_created {dialect : WalletDialect} {ttl : Int} (table : Uppercase)
    {rows : List WalletORM} (hrows : UniqueWallets rows)
    {steps : List (WalletDeployment × WalletDeployment.Event)} {d : WalletDeployment}
    (hrun : Run (WalletDeployment.Step dialect ttl) (WalletDeployment.fresh ttl rows) steps d)
    (process : Nat)
    {userId : String} (huser : ∀ row ∈ d.rows, row.userId ≠ userId) (uuid : BitVec 128)
    (now : Time) :
    ¬ CreatesWallet dialect ttl table d process userId uuid now ∧
      (dialect.suppliesId = false →
        (d.view process).createWallet dialect userId uuid now =
          (.error (.valueError "Failed to create wallet: NOT NULL constraint failed: wallets.id"),
            d.view process)) ∧
      ∀ address, WalletAddress.normalize table (Wallets.buildPublicKey uuid) ≠ .ok address := by
  have hconsistent : ConsistentLinks (d.view process) :=
    WalletDeployment.run_consistent hrows hrun process
  have hkey : ∀ address,
      WalletAddress.normalize table (Wallets.buildPublicKey uuid) ≠ .ok address := by
    intro address haddress
    rw [WalletAddress.normalize_buildPublicKey] at haddress
    cases haddress
  refine ⟨?_, fun hdialect => ?_, hkey⟩
  · rintro ⟨response, row, hresponse, -, -, hwallet, haccepted, -⟩
    obtain ⟨constraint, -, hresult⟩ | ⟨row', rows', hcreated, hresult⟩ :=
      Wallets.createWallet_eq dialect hconsistent huser uuid now
    · rw [hresult] at hresponse
      cases hresponse
    · rw [hresult] at hresponse
      obtain rfl := Except.ok.inj hresponse
      have hpublic : row'.publicKey = row.publicKey := congrArg Wallet.publicKey hwallet
      obtain ⟨-, -, hgenerated⟩ := WalletRepository.createAndLinkWallet_ok hcreated
      rw [← hpublic, hgenerated] at haccepted
      exact hkey _ haccepted
  · exact Wallets.createWallet_of_not_suppliesId hdialect hconsistent huser uuid now

/-- ASCII's table, and nothing for the other characters. -/
def asciiUppercase : Uppercase where
  upper c := [c.toUpper]
  ascii _ _ := rfl

/-- A user without a wallet, where the database supplies the primary key. -/
theorem wallet_never_created_alice :
    let dialect : WalletDialect := { WalletDialect.sqlite with suppliesId := true }
    ¬ CreatesWallet dialect 60 asciiUppercase (WalletDeployment.fresh 60 []) 0 "alice" 7 0 := by
  intro dialect
  have hrun : Run (WalletDeployment.Step dialect 60) (WalletDeployment.fresh 60 []) []
      (WalletDeployment.fresh 60 []) := .nil
  exact (wallet_never_created asciiUppercase ⟨by decide, by decide⟩ hrun 0
    (fun _ hrow => absurd hrow List.not_mem_nil) 7 0).1

/-- **The first wallet** of an empty table is refused. -/
theorem first_wallet_refused :
    let d := WalletDeployment.fresh 60 []
    let created := (d.view 0).createWallet .sqlite "alice" 7 0
    created.2.rows = [] ∧
      created.1.map (fun response => response.message) =
        .error (.valueError "Failed to create wallet: NOT NULL constraint failed: wallets.id") ∧
      WalletAddress.normalize asciiUppercase (Wallets.buildPublicKey 7) = .error
        ⟨"G00000000000000000000000000000007",
          "Stellar public keys must be exactly 56 characters (got 33)"⟩ ∧
      ¬ CreatesWallet .sqlite 60 asciiUppercase d 0 "alice" 7 0 := by
  intro d created
  have hrefused : created = (.error (.valueError
      "Failed to create wallet: NOT NULL constraint failed: wallets.id"), d.view 0) :=
    Wallets.createWallet_of_not_suppliesId rfl
      (WalletDeployment.fresh_consistent ⟨by decide, by decide⟩ 0)
      (fun _ hrow => absurd hrow List.not_mem_nil) 7 0
  have hkey : Wallets.buildPublicKey 7 = "G00000000000000000000000000000007" := by decide +kernel
  refine ⟨by rw [hrefused]; rfl, by rw [hrefused]; rfl, ?_, ?_⟩
  · rw [WalletAddress.normalize_buildPublicKey, hkey]
  · rintro ⟨response, row, hresponse, -⟩
    rw [show (d.view 0).createWallet .sqlite "alice" 7 0 = _ from hrefused] at hresponse
    cases hresponse

end NocIq
