import NocIq.Wallet.Links

/-!
# NocIq — reading a stored wallet

A balance goes through `_build_live_balances` and a status through `_get_cache_ttl_remaining`, and
both calls raise a `TypeError`: the class is not passed to a function without a decorator. The
adapter turns the first one into a degraded result, so its cache stays empty.

* **`Wallets.getBalance_eq`** — a balance is not found, or degraded and empty.
* **`Wallets.getWallet_eq`** — the wallet a read is about, and when reading it raises.
* **`wallet_unreadable`** — no stored wallet is readable, in any process.
-/

namespace NocIq

open Runs TwoWayIndex Methods

/-! ## What reading a wallet means -/

/-- A balance that is not degraded, with the assets of the row. -/
def BalanceReadable (s : Wallets) (row : WalletORM) (call : WalletBalanceCall) : Prop :=
  ∃ response, (s.getBalance call).1 = some response ∧ response.errorCode = none ∧
    "XLM" ∈ response.balances.map Prod.fst ∧
    ("USDC" ∈ response.balances.map Prod.fst ↔ row.trustlineReady = true)

def StatusReadable (ttl : Int) (s : Wallets) (row : WalletORM) (refresh : Bool)
    (clock : ReadClock) : Prop :=
  ∃ status, (s.getStatus ttl row.userId refresh clock).1 = .ok (some status) ∧
    status.userId = row.userId ∧ status.publicKey = row.publicKey ∧ status.funded = row.funded ∧
    status.trustlineReady = row.trustlineReady ∧ status.active = row.active

/-- A response about the row, with the flag it has. -/
def FlagReadable (response : Except Exc (Option WalletFlagResponse)) (row : WalletORM)
    (flag : Bool) : Prop :=
  ∃ r, response = .ok (some r) ∧ r.userId = row.userId ∧ r.publicKey = row.publicKey ∧ r.flag = flag

def TrustlineReadable (ttl : Int) (s : Wallets) (row : WalletORM) (refresh : Bool)
    (clock : ReadClock) : Prop :=
  FlagReadable (s.getTrustline ttl row.userId refresh clock).1 row row.trustlineReady

def FundingStateReadable (ttl : Int) (s : Wallets) (row : WalletORM) (refresh : Bool)
    (clock : ReadClock) : Prop :=
  FlagReadable (s.getFundingState ttl row.userId refresh clock).1 row row.funded

/-- **A readable wallet**: its balance, its status, and its flags. -/
structure ReadableWallet (ttl : Int) (s : Wallets) (row : WalletORM) (call : WalletBalanceCall)
    (refresh : Bool) (clock : ReadClock) : Prop where
  balance : BalanceReadable s row { call with address := row.publicKey }
  status : StatusReadable ttl s row refresh clock
  trustline : TrustlineReadable ttl s row refresh clock
  fundingState : FundingStateReadable ttl s row refresh clock

namespace Wallets

variable {dialect : WalletDialect} {ttl : Int} {s : Wallets}

/-! ## Balances -/

/-- The cache of the adapter is empty. -/
def Unfetched (s : Wallets) : Prop := ∀ address, s.registry.adapter.cache address = none

/-- **The live fetcher raises**, whatever it is called for. -/
theorem callBuildLiveBalances_eq (address : String) (now : Time) (s : Wallets) :
    callBuildLiveBalances address now s =
      (.raises ("WalletRegistry._build_live_balances() missing 1 required positional argument: " ++
        "'address'"), s) := by
  have herror : buildLiveBalancesMethod.callError 1 =
      some ("WalletRegistry._build_live_balances() missing 1 required positional argument: " ++
        "'address'") := by decide +kernel
  unfold callBuildLiveBalances
  rw [herror]

/-- The text of a balance that has no cached one to fall back on. -/
def missingAddress : String :=
  "Balance fetch failed and no cached data is available. Reason: " ++
    ("WalletRegistry._build_live_balances() missing 1 required positional argument: " ++
      "'address'")

/-- **A balance** is not found, or degraded and empty; nothing changes. -/
theorem getBalance_eq (h : s.Unfetched) (call : WalletBalanceCall) :
    (getBalance call s).2 = s ∧
      ((getBalance call s).1 = none ∨ ∃ response, (getBalance call s).1 = some response ∧
        response.balances = [] ∧ response.errorCode = some .fetchFailed ∧
        response.errorDetail = some missingAddress) := by
  unfold getBalance
  split
  · exact ⟨rfl, .inl rfl⟩
  · rw [callBuildLiveBalances_eq]
    dsimp only
    unfold Contract.BalanceFetchAdapter.fetch TtlCache.getWithMeta
    dsimp only
    rw [h call.address]
    exact ⟨rfl, .inr ⟨_, rfl, rfl, rfl, rfl⟩⟩

theorem not_balanceReadable (h : s.Unfetched) (row : WalletORM) (call : WalletBalanceCall) :
    ¬ BalanceReadable s row call := by
  rintro ⟨response, hresponse, herror, -⟩
  obtain ⟨-, hnone | ⟨degraded, hdegraded, -, hcode, -⟩⟩ := getBalance_eq h call
  · rw [hnone] at hresponse
    cases hresponse
  · rw [hdegraded] at hresponse
    obtain rfl := Option.some.inj hresponse
    rw [hcode] at herror
    cases herror

/-! ## What keeps the cache empty -/

theorem createWallet_adapter (userId : String) (uuid : BitVec 128) (now : Time) :
    (createWallet dialect userId uuid now s).2.registry.adapter = s.registry.adapter := by
  unfold createWallet
  split
  · rfl
  · split
    · rfl
    · split <;> rfl

theorem linkWallet_adapter (payload : WalletLinkRequest) (now : Time) :
    (linkWallet dialect payload now s).2.registry.adapter = s.registry.adapter := by
  unfold linkWallet
  dsimp only
  split
  · rfl
  · unfold linkLocked
    split <;> rfl

theorem serveWallet_adapter (refresh : Bool) (clock : ReadClock) (wallet : Wallet) :
    (serveWallet ttl refresh clock wallet s).2.registry.adapter = s.registry.adapter := by
  unfold serveWallet
  split
  · rfl
  · split <;> rfl

theorem getWallet_adapter (userId : String) (refresh : Bool) (clock : ReadClock) :
    (getWallet ttl userId refresh clock s).2.registry.adapter = s.registry.adapter := by
  unfold getWallet
  split
  · exact serveWallet_adapter refresh clock _
  · split
    · rfl
    · exact serveWallet_adapter refresh clock _

theorem readWallet_adapter {α : Type} (respond : Wallet → Except Exc α) (userId : String)
    (refresh : Bool) (clock : ReadClock) :
    (readWallet ttl respond userId refresh clock s).2.registry.adapter = s.registry.adapter := by
  have hadapter : (getWallet ttl userId refresh clock s).2.registry.adapter = s.registry.adapter :=
    getWallet_adapter userId refresh clock
  unfold readWallet
  split
  · next h => rwa [h] at hadapter
  · next h => rwa [h] at hadapter
  · next h => rwa [h] at hadapter

theorem next_unfetched (h : s.Unfetched) (call : Call) : (s.next dialect ttl call).Unfetched := by
  intro address
  cases call with
  | createWallet userId uuid now =>
    rw [next, createWallet_adapter]
    exact h address
  | linkWallet payload now =>
    rw [next, linkWallet_adapter]
    exact h address
  | getWallet userId refresh clock =>
    rw [next, getWallet_adapter]
    exact h address
  | getStatus userId refresh clock =>
    rw [next, getStatus, readWallet_adapter]
    exact h address
  | getTrustline userId refresh clock =>
    rw [next, getTrustline, readWallet_adapter]
    exact h address
  | getFundingState userId refresh clock =>
    rw [next, getFundingState, readWallet_adapter]
    exact h address
  | getBalance call =>
    rw [next, (getBalance_eq h call).1]
    exact h address
  | restart => rfl

/-! ## The wallet of a read -/

/-- The status of a wallet is never told: its last call raises. -/
theorem statusOf_eq (clock : ReadClock) (wallet : Wallet) :
    statusOf ttl clock wallet = .error (.typeError
      ("WalletRegistry._get_cache_ttl_remaining() missing 1 required positional argument: " ++
        "'wallet'")) := by
  have herror : getCacheTtlRemainingMethod.callError 1 =
      some ("WalletRegistry._get_cache_ttl_remaining() missing 1 required positional argument: " ++
        "'wallet'") := by decide +kernel
  unfold statusOf callWithOne
  rw [herror]
  rfl

theorem not_statusReadable (row : WalletORM) (refresh : Bool) (clock : ReadClock) :
    ¬ StatusReadable ttl s row refresh clock := by
  rintro ⟨status, hstatus, -⟩
  unfold getStatus readWallet at hstatus
  split at hstatus
  · cases hstatus
  · cases hstatus
  · rw [statusOf_eq] at hstatus
    cases hstatus

/-- The copy of the row that the process has, or makes. -/
def known (s : Wallets) (row : WalletORM) : Wallet :=
  (s.registry.wallets.left row.userId).getD (walletOrmToPydantic row)

/-- The age of a wallet can be told: it was never cached, or its `cached_at` is aware. -/
def Ageable (wallet : Wallet) : Prop := ∀ cachedAt ∈ wallet.cachedAt, cachedAt.hasTzinfo = true

/-- The other copies of a wallet that is served. -/
def SameWallet (wallet served : Wallet) : Prop :=
  served.userId = wallet.userId ∧ served.publicKey = wallet.publicKey ∧
    served.funded = wallet.funded ∧ served.trustlineReady = wallet.trustlineReady

theorem known_keys (hs : ConsistentLinks s) {row : WalletORM} (hrow : row ∈ s.rows) :
    (known s row).userId = row.userId ∧ (known s row).publicKey = row.publicKey := by
  unfold known
  cases hcached : s.registry.wallets.left row.userId with
  | none => exact ⟨rfl, rfl⟩
  | some wallet =>
    have huser := (hs.agrees.left _ _ hcached).1
    have hlinked := hs.agrees.within _ _ hcached
    rw [huser] at hlinked
    exact ⟨huser, hs.unique.biUnique.2 hlinked ⟨row, hrow, rfl, rfl⟩⟩

theorem getWallet_eq (ttl : Int) (hs : ConsistentLinks s) {row : WalletORM}
    (hrow : row ∈ s.rows) (refresh : Bool)
    (clock : ReadClock) : ∃ s', getWallet ttl row.userId refresh clock s =
      serveWallet ttl refresh clock (known s row) s' := by
  unfold getWallet known
  cases s.registry.wallets.left row.userId with
  | some wallet => exact ⟨s, rfl⟩
  | none =>
    rw [WalletRepository.getByUserId_of_mem hs.unique hrow]
    exact ⟨_, rfl⟩

theorem isStale_cases (ttl : Int) (wallet : Wallet) (now : Time) :
    (Ageable wallet ∧ ∃ stale, isStale ttl wallet now = .ok stale) ∨
      (¬ Ageable wallet ∧ ∃ e, isStale ttl wallet now = .error e) := by
  unfold isStale Ageable
  cases wallet.cachedAt with
  | none => exact .inl ⟨(fun _ hmem => nomatch hmem), true, rfl⟩
  | some cachedAt =>
    dsimp only
    cases hkind : cachedAt.hasTzinfo with
    | true =>
      have hsame : (Datetime.now now).hasTzinfo = cachedAt.hasTzinfo := hkind.symm
      rw [Datetime.sub_instants hsame]
      refine .inl ⟨?_, _, rfl⟩
      intro cachedAt' hmem
      obtain rfl := Option.some.inj hmem
      exact hkind
    | false =>
      have hother : (Datetime.now now).hasTzinfo ≠ cachedAt.hasTzinfo := by
        rw [hkind]
        exact Bool.true_eq_false_eq_False
      rw [Datetime.sub_typeError hother]
      refine .inr ⟨?_, _, rfl⟩
      intro hageable
      have haware := hageable cachedAt rfl
      rw [hkind] at haware
      cases haware

/-- **Serving a wallet** takes a refresh, or an age that can be told. -/
theorem serveWallet_cases (ttl : Int) (refresh : Bool) (clock : ReadClock) (wallet : Wallet)
    (s : Wallets) :
    ((refresh = true ∨ Ageable wallet) ∧ ∃ served,
      (serveWallet ttl refresh clock wallet s).1 = .ok (some served) ∧ SameWallet wallet served) ∨
    (¬ (refresh = true ∨ Ageable wallet) ∧ ∃ e,
      (serveWallet ttl refresh clock wallet s).1 = .error e) := by
  have hstamped (now : Time) : SameWallet wallet (wallet.stamped now) := ⟨rfl, rfl, rfl, rfl⟩
  unfold serveWallet
  cases refresh with
  | true => exact .inl ⟨.inl rfl, _, rfl, hstamped _⟩
  | false =>
    rw [if_neg (by decide)]
    obtain ⟨hageable, stale, hstale⟩ | ⟨hageable, e, herror⟩ :=
      isStale_cases ttl wallet clock.staleAt
    · rw [hstale]
      cases stale with
      | true => exact .inl ⟨.inr hageable, _, rfl, hstamped _⟩
      | false => exact .inl ⟨.inr hageable, _, rfl, rfl, rfl, rfl, rfl⟩
    · rw [herror]
      exact .inr ⟨fun hserved => hserved.elim (fun h => by cases h) hageable, e, rfl⟩

/-- **A flag is read** if the wallet can be served, and the copy of the process has the row's. -/
theorem flagReadable_iff (hs : ConsistentLinks s) {row : WalletORM} (hrow : row ∈ s.rows)
    {flag : Wallet → Bool} (hflag : ∀ wallet served, SameWallet wallet served →
      flag served = flag wallet) (message : String) (refresh : Bool) (clock : ReadClock)
    (expected : Bool) :
    FlagReadable (readWallet ttl (flagOf flag message) row.userId refresh clock s).1 row expected ↔
      (refresh = true ∨ Ageable (known s row)) ∧ flag (known s row) = expected := by
  obtain ⟨s', hget⟩ := getWallet_eq ttl hs hrow refresh clock
  obtain ⟨huser, haddress⟩ := known_keys hs hrow
  have hread : (readWallet ttl (flagOf flag message) row.userId refresh clock s).1 =
      match (serveWallet ttl refresh clock (known s row) s').1 with
      | .error e => .error e
      | .ok none => .ok none
      | .ok (some wallet) => (flagOf flag message wallet).map some := by
    unfold readWallet
    rw [hget]
    generalize serveWallet ttl refresh clock (known s row) s' = served
    obtain ⟨_ | _ | wallet, s''⟩ := served <;> rfl
  rw [hread]
  obtain ⟨hserved, served, heq, hsame⟩ | ⟨hserved, e, heq⟩ :=
    serveWallet_cases ttl refresh clock (known s row) s'
  · rw [heq]
    have hsameUser := hsame.1
    have hsameAddress := hsame.2.1
    constructor
    · rintro ⟨r, hr, -, -, hexpected⟩
      obtain rfl := Option.some.inj (Except.ok.inj hr)
      exact ⟨hserved, (hflag _ _ hsame).symm.trans hexpected⟩
    · rintro ⟨-, hexpected⟩
      exact ⟨_, rfl, hsameUser.trans huser, hsameAddress.trans haddress,
        (hflag _ _ hsame).trans hexpected⟩
  · rw [heq]
    constructor
    · rintro ⟨r, hr, -⟩
      cases hr
    · rintro ⟨hserved', -⟩
      exact absurd hserved' hserved

end Wallets

/-! ## Runs -/

variable {dialect : WalletDialect} {ttl : Int} {rows : List WalletORM}

theorem WalletDeployment.run_unfetched
    {steps : List (WalletDeployment × WalletDeployment.Event)} {d : WalletDeployment}
    (hrun : Run (WalletDeployment.Step dialect ttl) (WalletDeployment.fresh ttl rows) steps d)
    (process : Nat) :
    (d.view process).Unfetched := by
  refine hrun.invariant (I := fun d => ∀ process, (d.view process).Unfetched) (fun _ _ => rfl) ?_
    process
  intro t e u ht hstep process
  rw [hstep]
  by_cases hsame : process = e.process
  · subst hsame
    unfold WalletDeployment.view WalletDeployment.next
    dsimp only
    rw [Function.update_self]
    exact Wallets.next_unfetched (ht e.process) e.call
  · unfold WalletDeployment.view WalletDeployment.next
    dsimp only
    rw [Function.update_of_ne hsame]
    exact ht process

/-- **No stored wallet is readable**: no balance and no status of it is, and a flag of it is only
after a refresh or with an age that can be told. -/
theorem wallet_unreadable (hrows : UniqueWallets rows)
    {steps : List (WalletDeployment × WalletDeployment.Event)} {d : WalletDeployment}
    (hrun : Run (WalletDeployment.Step dialect ttl) (WalletDeployment.fresh ttl rows) steps d)
    (process : Nat)
    {row : WalletORM} (hrow : row ∈ d.rows) (call : WalletBalanceCall) (refresh : Bool)
    (clock : ReadClock) :
    let s := d.view process
    ¬ ReadableWallet ttl s row call refresh clock ∧
      ¬ BalanceReadable s row call ∧
      ¬ StatusReadable ttl s row refresh clock ∧
      (TrustlineReadable ttl s row refresh clock ↔
        (refresh = true ∨ Wallets.Ageable (s.known row)) ∧
          (s.known row).trustlineReady = row.trustlineReady) ∧
      (FundingStateReadable ttl s row refresh clock ↔
        (refresh = true ∨ Wallets.Ageable (s.known row)) ∧ (s.known row).funded = row.funded) := by
  intro s
  have hconsistent : ConsistentLinks s := WalletDeployment.run_consistent hrows hrun process
  have hunfetched : s.Unfetched := WalletDeployment.run_unfetched hrun process
  have hstatus : ¬ StatusReadable ttl s row refresh clock :=
    Wallets.not_statusReadable row refresh clock
  refine ⟨fun h => hstatus h.status, Wallets.not_balanceReadable hunfetched row call, hstatus,
    ?_, ?_⟩
  · exact Wallets.flagReadable_iff hconsistent hrow (fun _ _ hsame => hsame.2.2.2) _ refresh clock _
  · exact Wallets.flagReadable_iff hconsistent hrow (fun _ _ hsame => hsame.2.2.1) _ refresh clock _

def storedWallet : WalletORM where
  userId := "alice"
  publicKey := "GA"
  funded := true
  active := true
  trustlineReady := true
  createdAt := .naive 0
  lastUpdated := .naive 0
  cachedAt := some (.naive 0)

def storedBalanceCall : WalletBalanceCall where
  address := "GA"
  refresh := false
  readAt := 1
  now := 1
  storedAt := 1
  clock := ⟨1, 1, 1⟩

/-- In a process that has just started, the flag is read with a refresh. -/
theorem wallet_unreadable_fresh :
    let s := (WalletDeployment.fresh 60 [storedWallet]).view 0
    ¬ ReadableWallet 60 s storedWallet storedBalanceCall true ⟨1, 1, 1⟩ ∧
      TrustlineReadable 60 s storedWallet true ⟨1, 1, 1⟩ := by
  intro s
  have hrun : Run (WalletDeployment.Step .sqlite 60) (WalletDeployment.fresh 60 [storedWallet]) []
      (WalletDeployment.fresh 60 [storedWallet]) := .nil
  obtain ⟨hreadable, -, -, htrustline, -⟩ := wallet_unreadable ⟨by decide, by decide⟩ hrun 0
    (List.mem_singleton_self _) storedBalanceCall true ⟨1, 1, 1⟩
  exact ⟨hreadable, htrustline.mpr ⟨.inl rfl, rfl⟩⟩

/-- **A funded wallet with a trustline**, read in a process that has just started: its balance is not
found, then degraded and empty; its status and its trustline raise. -/
theorem stored_wallet_not_read :
    let d := WalletDeployment.fresh 60 [storedWallet]
    let s := d.view 0
    let d' := d.next .sqlite 60 ⟨0, .getWallet "alice" true ⟨0, 0, 0⟩⟩
    let s' := d'.view 0
    Run (WalletDeployment.Step .sqlite 60) d
        [(d, ⟨0, .getWallet "alice" true ⟨0, 0, 0⟩⟩)] d' ∧
      (s.getBalance storedBalanceCall).1.isNone = true ∧
      (s'.getBalance storedBalanceCall).1.map WalletBalanceResponse.errorDetail =
        some (some Wallets.missingAddress) ∧
      (s.getTrustline 60 "alice" false ⟨1, 1, 1⟩).1.toOption.isNone = true ∧
      (s'.getStatus 60 "alice" false ⟨1, 1, 1⟩).1.toOption.isNone = true ∧
      ¬ ReadableWallet 60 s' storedWallet storedBalanceCall false ⟨1, 1, 1⟩ := by
  intro d s d' s'
  refine ⟨.snoc .nil rfl, rfl, ?_, ?_, ?_, ?_⟩
  · decide +kernel
  · decide +kernel
  · decide +kernel
  · intro h
    exact Wallets.not_statusReadable storedWallet false ⟨1, 1, 1⟩ h.status

end NocIq
