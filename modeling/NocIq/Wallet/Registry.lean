import NocIq.Contract.BalanceFetch
import NocIq.Datetime
import NocIq.Lib.Methods
import NocIq.Lib.TwoWayIndex
import NocIq.Lib.Uuid

/-!
# NocIq — the wallet registry

`WalletRegistry` of `app/services/wallet_registry.py` over the table `wallets` and the two
dictionaries of its class, with `app/repositories/wallet_repository.py`. Every method of the
registry opens a session of its own and closes it.

`_build_live_balances` and `_get_cache_ttl_remaining` have a parameter `cls` and no decorator; what
a call through the class passes them is `Method.callError`.
-/

namespace NocIq

open Methods Contract

/-! ## Rows -/

/-- A row of `wallets`. No function reads the primary key; where a new row gets one from is
`WalletDialect.suppliesId`. -/
structure WalletORM where
  userId : String
  publicKey : String
  funded : Bool
  active : Bool
  trustlineReady : Bool
  createdAt : Datetime
  lastUpdated : Datetime
  cachedAt : Option Datetime
  deriving DecidableEq, Repr

/-- What differs between databases. -/
structure WalletDialect where
  /-- a row that is inserted without a primary key gets one -/
  suppliesId : Bool
  /-- a `DateTime(timezone=True)` comes back aware -/
  keepsTzinfo : Bool

/-- The table as the model declares it, in the SQLite file of `app/db/session.py`. -/
def WalletDialect.sqlite : WalletDialect where
  suppliesId := false
  keepsTzinfo := false

namespace WalletDialect

variable (dialect : WalletDialect)

def readBack (d : Datetime) : Datetime := if dialect.keepsTzinfo then d else d.withoutTzinfo

/-- The row as `refresh` loads it after its commit. -/
def refreshed (row : WalletORM) : WalletORM :=
  { row with
    createdAt := dialect.readBack row.createdAt
    lastUpdated := dialect.readBack row.lastUpdated
    cachedAt := row.cachedAt.map dialect.readBack }

/-- The constraints, in the order in which they are checked. -/
def insert (row : WalletORM) (rows : List WalletORM) : Except Exc (List WalletORM) :=
  if dialect.suppliesId = false then
    .error (.integrityError "NOT NULL constraint failed: wallets.id")
  else if ∃ other ∈ rows, other.userId = row.userId then
    .error (.integrityError "UNIQUE constraint failed: wallets.user_id")
  else if ∃ other ∈ rows, other.publicKey = row.publicKey then
    .error (.integrityError "UNIQUE constraint failed: wallets.public_key")
  else .ok (rows ++ [row])

end WalletDialect

/-! ## The repository -/

namespace WalletRepository

def getByUserId (userId : String) (rows : List WalletORM) : Option WalletORM :=
  rows.find? fun row => decide (row.userId = userId)

def getByPublicKey (publicKey : String) (rows : List WalletORM) : Option WalletORM :=
  rows.find? fun row => decide (row.publicKey = publicKey)

variable (dialect : WalletDialect)

/-- The new row, and the table with it. -/
def createAndLinkWallet (userId publicKey : String) (funded trustlineReady : Bool) (now : Time)
    (rows : List WalletORM) : Except Exc (WalletORM × List WalletORM) :=
  let row := dialect.refreshed
    { userId, publicKey, funded
      active := true
      trustlineReady
      createdAt := .now now
      lastUpdated := .now now
      cachedAt := some (.now now) }
  (dialect.insert row rows).map fun rows => (row, rows)

def relinked (funded trustlineReady : Bool) (now : Time) (row : WalletORM) : WalletORM :=
  { row with
    funded
    trustlineReady
    active := true
    lastUpdated := dialect.readBack (.now now)
    cachedAt := some (dialect.readBack (.now now)) }

def linkExistingWallet (userId publicKey : String) (funded trustlineReady : Bool) (now : Time)
    (rows : List WalletORM) : Except Exc (WalletORM × List WalletORM) :=
  let existingByUser := getByUserId userId rows
  match existingByUser.filter fun row => decide (row.publicKey ≠ publicKey) with
  | some existing =>
    .error (.valueError (s!"User '{userId}' is already linked to wallet '{existing.publicKey}'. " ++
      s!"Cannot link to '{publicKey}'."))
  | none =>
    match (getByPublicKey publicKey rows).filter fun row => decide (row.userId ≠ userId) with
    | some existing =>
      .error (.valueError
        (s!"Wallet address '{publicKey}' is already linked to user '{existing.userId}'. " ++
          s!"Cannot link to '{userId}'."))
    | none =>
      match existingByUser.filter fun row => decide (row.publicKey = publicKey) with
      | some existing =>
        let relink := relinked dialect funded trustlineReady now
        .ok (relink existing, rows.map fun row => if row.userId = userId then relink row else row)
      | none => createAndLinkWallet dialect userId publicKey funded trustlineReady now rows

end WalletRepository

/-! ## The registry -/

/-- The text the model's `cache_status` is one of. -/
inductive CacheStatus where
  | fresh
  | stale
  | live
  deriving DecidableEq, Repr

structure Wallet where
  userId : String
  publicKey : String
  createdAt : Datetime
  lastUpdated : Datetime
  funded : Bool
  active : Bool
  trustlineReady : Bool
  cachedAt : Option Datetime
  cacheStatus : CacheStatus
  deriving DecidableEq, Repr

def walletOrmToPydantic (orm : WalletORM) : Wallet where
  userId := orm.userId
  publicKey := orm.publicKey
  createdAt := orm.createdAt
  lastUpdated := orm.lastUpdated
  funded := orm.funded
  active := orm.active
  trustlineReady := orm.trustlineReady
  cachedAt := orm.cachedAt
  cacheStatus := .fresh

/-- The copy that `_refresh_wallet` makes. -/
def Wallet.stamped (wallet : Wallet) (now : Time) : Wallet :=
  { wallet with
    cachedAt := some (.now now)
    lastUpdated := .now now
    cacheStatus := .live }

structure AssetBalance where
  balance : String
  assetType : String
  assetCode : Option String := none
  assetIssuer : Option String := none
  deriving DecidableEq, Repr

/-- The class attributes, and the adapter its process shares. -/
structure WalletRegistry where
  wallets : TwoWayIndex.Index Wallet String String
  linkLocks : String → Option Bool
  adapter : BalanceFetchAdapter AssetBalance

/-- Of a process that has just started. -/
def WalletRegistry.fresh (ttl : Int) : WalletRegistry where
  wallets := .empty
  linkLocks _ := none
  adapter := .new ttl

/-- The table, and the registry of one process. -/
structure Wallets where
  rows : List WalletORM
  registry : WalletRegistry

structure WalletLinkRequest where
  userId : String
  publicKey : String
  funded : Bool := false
  trustlineReady : Bool := false

structure WalletCreateResponse where
  wallet : Wallet
  message : String

/-- The clocks of a call that reads: of `_is_stale`, of `_refresh_wallet`, and of the end. -/
structure ReadClock where
  staleAt : Time
  refreshedAt : Time
  answeredAt : Time

structure WalletBalanceCall where
  address : String
  refresh : Bool
  readAt : ℚ
  now : Time
  storedAt : ℚ
  clock : ReadClock

structure WalletBalanceResponse where
  address : String
  balances : Balances AssetBalance
  lastUpdated : Datetime
  cacheStatus : CacheStatus
  cacheTtlSeconds : Option Int
  cachedAt : Option Time
  source : BalanceSource
  errorCode : Option BalanceErrorCode
  errorDetail : Option String

structure WalletStatusResponse where
  userId : String
  publicKey : String
  funded : Bool
  trustlineReady : Bool
  usable : Bool
  active : Bool
  lastUpdated : Datetime
  cacheStatus : CacheStatus
  cacheTtlSeconds : Option Int
  cachedAt : Option Datetime

/-- Of `get_trustline` and of `get_funding_state`: the flag, and the text if it is not set. -/
structure WalletFlagResponse where
  userId : String
  publicKey : String
  flag : Bool
  error : Option String
  cacheStatus : CacheStatus
  cachedAt : Option Datetime

namespace Wallets

variable (dialect : WalletDialect) (ttl : Int)

/-- `_wallets_by_user[user_id] = wallet` and `_wallets_by_address[wallet.public_key] = wallet`. -/
def remember (userId : String) (wallet : Wallet) (s : Wallets) : Wallets :=
  { s with registry :=
    { s.registry with wallets := s.registry.wallets.put userId wallet.publicKey wallet } }

def refreshWallet (wallet : Wallet) (now : Time) (s : Wallets) : Wallet × Wallets :=
  let refreshed := wallet.stamped now
  (refreshed, s.remember wallet.userId refreshed)

/-- `_is_stale`; an age is in microseconds. -/
def isStale (wallet : Wallet) (now : Time) : Except Exc Bool :=
  match wallet.cachedAt with
  | none => .ok true
  | some cachedAt =>
    (Datetime.sub (.now now) cachedAt).map fun age => decide (timedelta 0 0 ttl < age)

/-! ### Creating and linking -/

def buildPublicKey (uuid : BitVec 128) : String :=
  String.ofList ('G' :: (Uuid.digits 32 uuid.toNat).map Char.toUpper)

def createWallet (userId : String) (uuid : BitVec 128) (now : Time) (s : Wallets) :
    Except Exc WalletCreateResponse × Wallets :=
  match s.registry.wallets.left userId with
  | some existing => (.ok ⟨existing, "Wallet already exists for this user."⟩, s)
  | none =>
    match WalletRepository.getByUserId userId s.rows with
    | some existing =>
      let wallet := walletOrmToPydantic existing
      (.ok ⟨wallet, "Wallet already exists for this user."⟩, s.remember userId wallet)
    | none =>
      match WalletRepository.createAndLinkWallet dialect userId (buildPublicKey uuid) false false
          now s.rows with
      | .ok (row, rows) =>
        let wallet := walletOrmToPydantic row
        (.ok ⟨wallet, "Wallet created. Please fund with at least 1 XLM to activate."⟩,
          { s with rows }.remember userId wallet)
      | .error (.integrityError e) =>
        match WalletRepository.getByUserId userId s.rows with
        | some existing =>
          let wallet := walletOrmToPydantic existing
          (.ok ⟨wallet, "Wallet already exists for this user."⟩, s.remember userId wallet)
        | none => (.error (.valueError s!"Failed to create wallet: {e}"), s)
      | .error e => (.error e, s)

def setLock (key : String) (value : Option Bool) (s : Wallets) : Wallets :=
  { s with registry :=
    { s.registry with linkLocks := Function.update s.registry.linkLocks key value } }

/-- Under the lock of its key. -/
def linkLocked (payload : WalletLinkRequest) (now : Time) (s : Wallets) :
    Except Exc Wallet × Wallets :=
  match WalletRepository.linkExistingWallet dialect payload.userId payload.publicKey payload.funded
      payload.trustlineReady now s.rows with
  | .ok (row, rows) =>
    let wallet := walletOrmToPydantic row
    (.ok wallet, { s with rows }.remember payload.userId wallet)
  | .error (.integrityError e) => (.error (.valueError s!"Failed to link wallet: {e}"), s)
  | .error e => (.error e, s)

def linkWallet (payload : WalletLinkRequest) (now : Time) (s : Wallets) :
    Except Exc Wallet × Wallets :=
  let linkKey := s!"{payload.userId}:{payload.publicKey}"
  if s.registry.linkLocks linkKey = some true then
    (.error (.valueError
      s!"Link operation for user '{payload.userId}' is already in progress."), s)
  else
    let (result, s') := linkLocked dialect payload now (s.setLock linkKey (some true))
    (result, s'.setLock linkKey none)

/-! ### Reading -/

/-- A wallet that was found, refreshed if it is stale. -/
def serveWallet (refresh : Bool) (clock : ReadClock) (wallet : Wallet) (s : Wallets) :
    Except Exc (Option Wallet) × Wallets :=
  if refresh then
    let (wallet, s) := refreshWallet wallet clock.refreshedAt s
    (.ok (some wallet), s)
  else
    match isStale ttl wallet clock.staleAt with
    | .error e => (.error e, s)
    | .ok true =>
      let (wallet, s) := refreshWallet wallet clock.refreshedAt s
      (.ok (some wallet), s)
    | .ok false => (.ok (some { wallet with cacheStatus := .fresh }), s)

def getWallet (userId : String) (refresh : Bool) (clock : ReadClock) (s : Wallets) :
    Except Exc (Option Wallet) × Wallets :=
  match s.registry.wallets.left userId with
  | some wallet => serveWallet ttl refresh clock wallet s
  | none =>
    match WalletRepository.getByUserId userId s.rows with
    | none => (.ok none, s)
    | some row =>
      let wallet := walletOrmToPydantic row
      serveWallet ttl refresh clock wallet (s.remember userId wallet)

/-- A read that goes through `get_wallet`. -/
def readWallet {α : Type} (respond : Wallet → Except Exc α) (userId : String) (refresh : Bool)
    (clock : ReadClock) (s : Wallets) : Except Exc (Option α) × Wallets :=
  match getWallet ttl userId refresh clock s with
  | (.error e, s) => (.error e, s)
  | (.ok none, s) => (.ok none, s)
  | (.ok (some wallet), s) => ((respond wallet).map some, s)

/-- How `_get_cache_ttl_remaining` is declared. -/
def getCacheTtlRemainingMethod : Method where
  qualname := "WalletRegistry._get_cache_ttl_remaining"
  parameters := ["cls", "wallet"]

/-- The body of `_get_cache_ttl_remaining`. -/
def getCacheTtlRemaining (wallet : Wallet) (now : Time) : Except Exc (Option Int) :=
  match wallet.cachedAt with
  | none => .ok none
  | some cachedAt =>
    (Datetime.sub (.now now) cachedAt).map fun age =>
      let remaining := timedelta 0 0 ttl - age
      if 0 < remaining then some (max 0 (remaining / 1000000)) else none

/-- A call through the class with one argument. -/
def callWithOne {α : Type} (method : Method) (body : Except Exc α) : Except Exc α :=
  match method.callError 1 with
  | some message => .error (.typeError message)
  | none => body

def statusOf (clock : ReadClock) (wallet : Wallet) : Except Exc WalletStatusResponse :=
  (callWithOne getCacheTtlRemainingMethod
    (getCacheTtlRemaining ttl wallet clock.answeredAt)).map fun cacheTtl =>
      { userId := wallet.userId
        publicKey := wallet.publicKey
        funded := wallet.funded
        trustlineReady := wallet.trustlineReady
        usable := wallet.funded && wallet.trustlineReady && wallet.active
        active := wallet.active
        lastUpdated := wallet.lastUpdated
        cacheStatus := wallet.cacheStatus
        cacheTtlSeconds := cacheTtl
        cachedAt := wallet.cachedAt }

def getStatus (userId : String) (refresh : Bool) (clock : ReadClock) :
    Wallets → Except Exc (Option WalletStatusResponse) × Wallets :=
  readWallet ttl (statusOf ttl clock) userId refresh clock

def flagOf (flag : Wallet → Bool) (message : String) (wallet : Wallet) :
    Except Exc WalletFlagResponse :=
  .ok
    { userId := wallet.userId
      publicKey := wallet.publicKey
      flag := flag wallet
      error := if flag wallet then none else some message
      cacheStatus := wallet.cacheStatus
      cachedAt := wallet.cachedAt }

def getTrustline (userId : String) (refresh : Bool) (clock : ReadClock) :
    Wallets → Except Exc (Option WalletFlagResponse) × Wallets :=
  readWallet ttl
    (flagOf Wallet.trustlineReady
      "Trustline not established. Fund wallet and set up USDC trustline.")
    userId refresh clock

def getFundingState (userId : String) (refresh : Bool) (clock : ReadClock) :
    Wallets → Except Exc (Option WalletFlagResponse) × Wallets :=
  readWallet ttl
    (flagOf Wallet.funded "Wallet is not funded. Send at least 1 XLM to activate.")
    userId refresh clock

/-! ### Balances -/

def buildLiveBalancesMethod : Method where
  qualname := "WalletRegistry._build_live_balances"
  parameters := ["cls", "address"]

def balancesOf (wallet : Wallet) : Balances AssetBalance :=
  ("XLM",
    { balance := if wallet.funded then "1.0000000" else "0.0000000", assetType := "native" }) ::
  if wallet.trustlineReady then
    [("USDC",
      { balance := "0.0000000"
        assetType := "credit_alphanum4"
        assetCode := some "USDC"
        assetIssuer := some "TEST_ISSUER" })]
  else []

/-- The body of `_build_live_balances`, as the adapter meets it: balances, or the text of what is
raised. -/
def buildLiveBalances (address : String) (now : Time) (s : Wallets) :
    Fetched AssetBalance × Wallets :=
  match s.registry.wallets.right address with
  | some wallet =>
    let (wallet, s) := refreshWallet wallet now s
    (.returns (balancesOf wallet), s)
  | none =>
    match WalletRepository.getByPublicKey address s.rows with
    | none => (.raises s!"Address {address} not found in registry", s)
    | some row =>
      let wallet := walletOrmToPydantic row
      let (wallet, s) := refreshWallet wallet now (s.remember wallet.userId wallet)
      (.returns (balancesOf wallet), s)

/-- `cls._build_live_balances(addr)`. -/
def callBuildLiveBalances (address : String) (now : Time) (s : Wallets) :
    Fetched AssetBalance × Wallets :=
  match buildLiveBalancesMethod.callError 1 with
  | some message => (.raises message, s)
  | none => buildLiveBalances address now s

def legacyCacheStatus : BalanceSource → CacheStatus
  | .live => .live
  | .cache => .fresh
  | .staleFallback => .stale

def balanceResponse (call : WalletBalanceCall) (result : BalanceFetchResult AssetBalance) :
    WalletBalanceResponse where
  address := call.address
  balances := result.balances
  lastUpdated := .now (result.cachedAt.getD call.clock.answeredAt)
  cacheStatus := legacyCacheStatus result.source
  cacheTtlSeconds := result.ttlRemaining
  cachedAt := result.cachedAt
  source := result.source
  errorCode := result.error.map BalanceFetchError.code
  errorDetail := result.error.map BalanceFetchError.detail

/-- A fetcher that is interrupted has no result; this one never is. -/
def getBalance (call : WalletBalanceCall) (s : Wallets) : Option WalletBalanceResponse × Wallets :=
  match s.registry.wallets.right call.address with
  | none => (none, s)
  | some _ =>
    let (fetched, fetchedState) := callBuildLiveBalances call.address call.clock.refreshedAt s
    let (called, result, adapter) := s.registry.adapter.fetch
      { address := call.address
        forceRefresh := call.refresh
        fetched
        readAt := call.readAt
        now := call.now
        storedAt := call.storedAt }
    let s := if called then fetchedState else s
    (result.map (balanceResponse call), { s with registry := { s.registry with adapter } })

/-! ### Calls -/

inductive Call where
  | createWallet (userId : String) (uuid : BitVec 128) (now : Time)
  | linkWallet (payload : WalletLinkRequest) (now : Time)
  | getWallet (userId : String) (refresh : Bool) (clock : ReadClock)
  | getStatus (userId : String) (refresh : Bool) (clock : ReadClock)
  | getTrustline (userId : String) (refresh : Bool) (clock : ReadClock)
  | getFundingState (userId : String) (refresh : Bool) (clock : ReadClock)
  | getBalance (call : WalletBalanceCall)
  /-- the process ends, and another one starts -/
  | restart

def next (s : Wallets) : Call → Wallets
  | .createWallet userId uuid now => (createWallet dialect userId uuid now s).2
  | .linkWallet payload now => (linkWallet dialect payload now s).2
  | .getWallet userId refresh clock => (getWallet ttl userId refresh clock s).2
  | .getStatus userId refresh clock => (getStatus ttl userId refresh clock s).2
  | .getTrustline userId refresh clock => (getTrustline ttl userId refresh clock s).2
  | .getFundingState userId refresh clock => (getFundingState ttl userId refresh clock s).2
  | .getBalance call => (getBalance call s).2
  | .restart => { s with registry := .fresh ttl }

end Wallets

/-! ## Processes over one table -/

structure WalletDeployment where
  rows : List WalletORM
  processes : Nat → WalletRegistry

namespace WalletDeployment

/-- Processes that have just started, over a table. -/
def fresh (ttl : Int) (rows : List WalletORM) : WalletDeployment where
  rows
  processes _ := .fresh ttl

def view (d : WalletDeployment) (process : Nat) : Wallets := ⟨d.rows, d.processes process⟩

structure Event where
  process : Nat
  call : Wallets.Call

def next (dialect : WalletDialect) (ttl : Int) (d : WalletDeployment) (e : Event) :
    WalletDeployment :=
  let s := (d.view e.process).next dialect ttl e.call
  { rows := s.rows, processes := Function.update d.processes e.process s.registry }

/-- One call after the other, each in a process. -/
def Step (dialect : WalletDialect) (ttl : Int) (d : WalletDeployment) (e : Event)
    (d' : WalletDeployment) : Prop :=
  d' = d.next dialect ttl e

end WalletDeployment

end NocIq
