import NocIq.Lib.Relational
import NocIq.Wallet.Registry

/-!
# NocIq — one wallet a user, one user an address

* **`Wallets.next_consistent`** — a call keeps the dictionaries together, and keeps the pairs of the
  table.
* **`wallet_links_bijective`** — in every state of every run, and a link that conflicts changes
  nothing.
-/

namespace NocIq

open Runs TwoWayIndex

/-! ## The table -/

/-- The unique constraints. -/
structure UniqueWallets (rows : List WalletORM) : Prop where
  userIds : (rows.map WalletORM.userId).Nodup
  publicKeys : (rows.map WalletORM.publicKey).Nodup

/-- The address is the user's in the table. -/
def Linked (rows : List WalletORM) (userId publicKey : String) : Prop :=
  ∃ row ∈ rows, row.userId = userId ∧ row.publicKey = publicKey

variable {rows rows' : List WalletORM} {dialect : WalletDialect} {ttl : Int}

theorem UniqueWallets.biUnique (h : UniqueWallets rows) : Relator.BiUnique (Linked rows) := by
  constructor
  · rintro user user' address ⟨row, hrow, rfl, rfl⟩ ⟨row', hrow', rfl, heq⟩
    rw [List.inj_on_of_nodup_map h.publicKeys hrow hrow' heq.symm]
  · rintro user address address' ⟨row, hrow, rfl, rfl⟩ ⟨row', hrow', heq, rfl⟩
    rw [List.inj_on_of_nodup_map h.userIds hrow hrow' heq.symm]

namespace WalletRepository

theorem mem_of_getByUserId {userId : String} {row : WalletORM}
    (h : getByUserId userId rows = some row) : row ∈ rows ∧ row.userId = userId := by
  unfold getByUserId at h
  exact ⟨List.mem_of_find?_eq_some h, by simpa using List.find?_some h⟩

theorem mem_of_getByPublicKey {publicKey : String} {row : WalletORM}
    (h : getByPublicKey publicKey rows = some row) : row ∈ rows ∧ row.publicKey = publicKey := by
  unfold getByPublicKey at h
  exact ⟨List.mem_of_find?_eq_some h, by simpa using List.find?_some h⟩

theorem getByUserId_eq_none {userId : String} :
    getByUserId userId rows = none ↔ ∀ row ∈ rows, row.userId ≠ userId := by
  simp [getByUserId]

theorem getByPublicKey_eq_none {publicKey : String} :
    getByPublicKey publicKey rows = none ↔ ∀ row ∈ rows, row.publicKey ≠ publicKey := by
  simp [getByPublicKey]

theorem getByUserId_of_mem (h : UniqueWallets rows) {row : WalletORM} (hrow : row ∈ rows) :
    getByUserId row.userId rows = some row := by
  cases hfound : getByUserId row.userId rows with
  | none => exact absurd rfl (getByUserId_eq_none.mp hfound row hrow)
  | some found =>
    obtain ⟨hmem, heq⟩ := mem_of_getByUserId hfound
    rw [List.inj_on_of_nodup_map h.userIds hmem hrow heq]

theorem getByPublicKey_of_mem (h : UniqueWallets rows) {row : WalletORM} (hrow : row ∈ rows) :
    getByPublicKey row.publicKey rows = some row := by
  cases hfound : getByPublicKey row.publicKey rows with
  | none => exact absurd rfl (getByPublicKey_eq_none.mp hfound row hrow)
  | some found =>
    obtain ⟨hmem, heq⟩ := mem_of_getByPublicKey hfound
    rw [List.inj_on_of_nodup_map h.publicKeys hmem hrow heq]

end WalletRepository

theorem WalletDialect.insert_ok {row : WalletORM} (h : dialect.insert row rows = .ok rows') :
    rows' = rows ++ [row] ∧ (∀ other ∈ rows, other.userId ≠ row.userId) ∧
      ∀ other ∈ rows, other.publicKey ≠ row.publicKey := by
  unfold WalletDialect.insert at h
  split at h
  · cases h
  · split at h
    · cases h
    · next huser =>
      split at h
      · cases h
      · next haddress =>
        obtain rfl := Except.ok.inj h
        exact ⟨rfl, fun other hmem heq => huser ⟨other, hmem, heq⟩,
          fun other hmem heq => haddress ⟨other, hmem, heq⟩⟩

theorem WalletDialect.insert_error {row : WalletORM} {e : Exc}
    (h : dialect.insert row rows = .error e) :
    ∃ constraint, e = .integrityError constraint := by
  unfold WalletDialect.insert at h
  split at h
  · exact ⟨_, (Except.error.inj h).symm⟩
  · split at h
    · exact ⟨_, (Except.error.inj h).symm⟩
    · split at h
      · exact ⟨_, (Except.error.inj h).symm⟩
      · cases h

theorem column_append_nodup {column : WalletORM → String} {row : WalletORM}
    (h : (rows.map column).Nodup) (hnew : ∀ other ∈ rows, column other ≠ column row) :
    ((rows ++ [row]).map column).Nodup := by
  rw [List.map_append]
  refine h.append (by simp) ?_
  intro value hvalue hlast
  obtain ⟨other, hother, rfl⟩ := List.mem_map.mp hvalue
  exact hnew other hother (by simpa using hlast)

/-- What a write of the repository keeps of the table, and the row it returns. -/
structure Written (rows rows' : List WalletORM) (row : WalletORM) : Prop where
  unique : UniqueWallets rows → UniqueWallets rows'
  linked : ∀ userId publicKey, Linked rows userId publicKey → Linked rows' userId publicKey
  mem : row ∈ rows'

namespace WalletRepository

variable {userId publicKey : String} {funded trustlineReady : Bool} {now : Time} {row : WalletORM}

theorem createAndLinkWallet_ok
    (h : createAndLinkWallet dialect userId publicKey funded trustlineReady now rows =
      .ok (row, rows')) :
    Written rows rows' row ∧ row.userId = userId ∧ row.publicKey = publicKey := by
  unfold createAndLinkWallet at h
  dsimp only at h
  generalize hrow : dialect.refreshed _ = row' at h
  cases hinsert : dialect.insert row' rows with
  | error e =>
    rw [hinsert] at h
    cases h
  | ok rows'' =>
    rw [hinsert] at h
    cases h
    obtain ⟨rfl, huser, haddress⟩ := WalletDialect.insert_ok hinsert
    refine ⟨⟨?_, ?_, ?_⟩, by rw [← hrow]; rfl, by rw [← hrow]; rfl⟩
    · intro hunique
      exact ⟨column_append_nodup hunique.userIds huser,
        column_append_nodup hunique.publicKeys haddress⟩
    · rintro user address ⟨other, hother, hkeys⟩
      exact ⟨other, List.mem_append_left _ hother, hkeys⟩
    · exact List.mem_append_right _ (List.mem_singleton_self _)

theorem relinked_written (hrow : getByUserId userId rows = some row) :
    Written rows
      (rows.map fun r =>
        if r.userId = userId then relinked dialect funded trustlineReady now r else r)
      (relinked dialect funded trustlineReady now row) := by
  obtain ⟨hmem, huser⟩ := mem_of_getByUserId hrow
  refine ⟨?_, ?_, ?_⟩
  · intro hunique
    constructor
    · rw [Relational.column_map_of_eq (f := relinked dialect funded trustlineReady now)
        fun _ => rfl]
      exact hunique.userIds
    · rw [Relational.column_map_of_eq (f := relinked dialect funded trustlineReady now)
        fun _ => rfl]
      exact hunique.publicKeys
  · rintro user address ⟨other, hother, hkeys⟩
    refine ⟨_, List.mem_map_of_mem hother, ?_⟩
    split
    · exact hkeys
    · exact hkeys
  · refine List.mem_map.mpr ⟨row, hmem, ?_⟩
    rw [if_pos huser]

theorem linkExistingWallet_ok
    (h : linkExistingWallet dialect userId publicKey funded trustlineReady now rows =
      .ok (row, rows')) :
    Written rows rows' row ∧ row.userId = userId ∧ row.publicKey = publicKey := by
  unfold linkExistingWallet at h
  dsimp only at h
  split at h
  · cases h
  · split at h
    · cases h
    · split at h
      · next existing hexisting =>
        obtain ⟨hfound, hkey⟩ := Option.filter_eq_some_iff.mp hexisting
        obtain ⟨hrow, hrows⟩ := Prod.mk.inj (Except.ok.inj h)
        subst hrow hrows
        exact ⟨relinked_written hfound, (mem_of_getByUserId hfound).2, of_decide_eq_true hkey⟩
      · exact createAndLinkWallet_ok h

theorem createAndLinkWallet_error {e : Exc}
    (h : createAndLinkWallet dialect userId publicKey funded trustlineReady now rows = .error e) :
    ∃ constraint, e = .integrityError constraint := by
  unfold createAndLinkWallet at h
  dsimp only at h
  generalize hrow : dialect.refreshed _ = row at h
  cases hinsert : dialect.insert row rows with
  | error e' =>
    obtain ⟨constraint, rfl⟩ := WalletDialect.insert_error hinsert
    rw [hinsert] at h
    exact ⟨constraint, (Except.error.inj h).symm⟩
  | ok rows' =>
    rw [hinsert] at h
    cases h

end WalletRepository

/-! ## What every process keeps -/

/-- The dictionaries are one, its pairs are the table's, and no link is under way. -/
structure ConsistentLinks (s : Wallets) : Prop where
  unique : UniqueWallets s.rows
  agrees : Agrees Wallet.userId Wallet.publicKey (Linked s.rows) s.registry.wallets
  unlocked : ∀ key, s.registry.linkLocks key = none

namespace Wallets

variable {s s' : Wallets}

/-- **What a call may do**: it keeps the process consistent, and every pair of the table. -/
structure Keeps (s s' : Wallets) : Prop where
  consistent : ConsistentLinks s → ConsistentLinks s'
  linked : ∀ userId publicKey, Linked s.rows userId publicKey → Linked s'.rows userId publicKey

theorem Keeps.refl (s : Wallets) : Keeps s s := ⟨id, fun _ _ => id⟩

theorem Keeps.trans {s'' : Wallets} (h : Keeps s s') (h' : Keeps s' s'') : Keeps s s'' :=
  ⟨h'.consistent ∘ h.consistent, fun userId publicKey => h'.linked _ _ ∘ h.linked userId publicKey⟩

theorem remember_keeps (wallet : Wallet) (h : Linked s.rows wallet.userId wallet.publicKey) :
    Keeps s (s.remember wallet.userId wallet) where
  consistent hs := ⟨hs.unique, hs.agrees.put hs.unique.biUnique h, hs.unlocked⟩
  linked _ _ := id

theorem row_remember_keeps {row : WalletORM} {userId : String} (hrow : row ∈ s.rows)
    (huser : row.userId = userId) : Keeps s (s.remember userId (walletOrmToPydantic row)) := by
  subst huser
  have hlinked : Linked s.rows row.userId row.publicKey := ⟨row, hrow, rfl, rfl⟩
  exact remember_keeps (walletOrmToPydantic row) hlinked

theorem written_keeps {row : WalletORM} (h : Written s.rows rows' row) :
    Keeps s { s with rows := rows' } where
  consistent hs := ⟨h.unique hs.unique, hs.agrees.mono h.linked, hs.unlocked⟩
  linked := h.linked

theorem refreshWallet_keeps {wallet : Wallet} {now : Time}
    (h : Linked s.rows wallet.userId wallet.publicKey) : Keeps s (refreshWallet wallet now s).2 :=
  remember_keeps (wallet.stamped now) h

/-! ## Calls -/

theorem createWallet_keeps (userId : String) (uuid : BitVec 128) (now : Time) :
    Keeps s (createWallet dialect userId uuid now s).2 := by
  unfold createWallet
  split
  · exact .refl s
  · split
    · next existing hexisting =>
      obtain ⟨hmem, huser⟩ := WalletRepository.mem_of_getByUserId hexisting
      exact row_remember_keeps hmem huser
    · split
      · next row rows' hcreated =>
        obtain ⟨hwritten, huser, -⟩ := WalletRepository.createAndLinkWallet_ok hcreated
        exact (written_keeps hwritten).trans (row_remember_keeps hwritten.mem huser)
      · exact .refl s
      · exact .refl s

theorem linkLocked_keeps (payload : WalletLinkRequest) (now : Time) :
    Keeps s (linkLocked dialect payload now s).2 := by
  unfold linkLocked
  split
  · next row rows' hlinked =>
    obtain ⟨hwritten, huser, -⟩ := WalletRepository.linkExistingWallet_ok hlinked
    exact (written_keeps hwritten).trans (row_remember_keeps hwritten.mem huser)
  · exact .refl s
  · exact .refl s

theorem setLock_setLock (key : String) (value value' : Option Bool) :
    (s.setLock key value).setLock key value' = s.setLock key value' := by
  unfold setLock
  dsimp only
  rw [Function.update_idem]

theorem setLock_of_none {key : String} (h : s.registry.linkLocks key = none) :
    s.setLock key none = s := by
  unfold setLock
  rw [← h, Function.update_eq_self]

theorem linkLocked_setLock (payload : WalletLinkRequest) (now : Time) (key : String)
    (value : Option Bool) :
    linkLocked dialect payload now (s.setLock key value) =
      ((linkLocked dialect payload now s).1,
        (linkLocked dialect payload now s).2.setLock key value) := by
  have hrows : (s.setLock key value).rows = s.rows := rfl
  unfold linkLocked
  rw [hrows]
  split <;> rfl

theorem linkLocks_linkLocked (payload : WalletLinkRequest) (now : Time) :
    (linkLocked dialect payload now s).2.registry.linkLocks = s.registry.linkLocks := by
  unfold linkLocked
  split <;> rfl

/-- **The lock of a link** is free when it starts, and is free again. -/
theorem linkWallet_eq_linkLocked (h : ∀ key, s.registry.linkLocks key = none)
    (payload : WalletLinkRequest) (now : Time) :
    linkWallet dialect payload now s = linkLocked dialect payload now s := by
  unfold linkWallet
  dsimp only
  generalize s!"{payload.userId}:{payload.publicKey}" = key
  rw [h key, if_neg (by simp), linkLocked_setLock]
  have hlocks : (linkLocked dialect payload now s).2.registry.linkLocks key = none := by
    rw [linkLocks_linkLocked, h key]
  generalize linkLocked dialect payload now s = linked at hlocks ⊢
  show (linked.1, (linked.2.setLock key (some true)).setLock key none) = linked
  rw [setLock_setLock, setLock_of_none hlocks]

theorem linkWallet_keeps (hs : ConsistentLinks s) (payload : WalletLinkRequest) (now : Time) :
    Keeps s (linkWallet dialect payload now s).2 := by
  rw [linkWallet_eq_linkLocked hs.unlocked]
  exact linkLocked_keeps payload now

theorem serveWallet_keeps {wallet : Wallet} (h : Linked s.rows wallet.userId wallet.publicKey)
    (refresh : Bool) (clock : ReadClock) :
    Keeps s (serveWallet ttl refresh clock wallet s).2 := by
  unfold serveWallet
  split
  · exact refreshWallet_keeps h
  · split
    · exact .refl s
    · exact refreshWallet_keeps h
    · exact .refl s

theorem getWallet_keeps (hs : ConsistentLinks s) (userId : String) (refresh : Bool)
    (clock : ReadClock) :
    Keeps s (getWallet ttl userId refresh clock s).2 := by
  unfold getWallet
  split
  · next wallet hcached =>
    exact serveWallet_keeps (hs.agrees.within userId wallet hcached) refresh clock
  · split
    · exact .refl s
    · next row hrow =>
      obtain ⟨hmem, huser⟩ := WalletRepository.mem_of_getByUserId hrow
      refine (row_remember_keeps hmem huser).trans (serveWallet_keeps ?_ refresh clock)
      exact ⟨row, hmem, rfl, rfl⟩

theorem readWallet_keeps {α : Type} (respond : Wallet → Except Exc α) (hs : ConsistentLinks s)
    (userId : String) (refresh : Bool) (clock : ReadClock) :
    Keeps s (readWallet ttl respond userId refresh clock s).2 := by
  have hkeeps : Keeps s (getWallet ttl userId refresh clock s).2 :=
    getWallet_keeps hs userId refresh clock
  unfold readWallet
  split
  · next h => rwa [h] at hkeeps
  · next h => rwa [h] at hkeeps
  · next h => rwa [h] at hkeeps

theorem buildLiveBalances_keeps (hs : ConsistentLinks s) (address : String) (now : Time) :
    Keeps s (buildLiveBalances address now s).2 := by
  unfold buildLiveBalances
  split
  · next wallet hcached => exact refreshWallet_keeps (hs.agrees.within_right hcached)
  · split
    · exact .refl s
    · next row hrow =>
      have hmem := (WalletRepository.mem_of_getByPublicKey hrow).1
      refine (row_remember_keeps hmem rfl).trans (refreshWallet_keeps ?_)
      exact ⟨row, hmem, rfl, rfl⟩

theorem callBuildLiveBalances_keeps (hs : ConsistentLinks s) (address : String) (now : Time) :
    Keeps s (callBuildLiveBalances address now s).2 := by
  unfold callBuildLiveBalances
  split
  · exact .refl s
  · exact buildLiveBalances_keeps hs address now

theorem setAdapter_keeps (adapter : Contract.BalanceFetchAdapter AssetBalance) :
    Keeps s { s with registry := { s.registry with adapter } } where
  consistent hs := ⟨hs.unique, hs.agrees, hs.unlocked⟩
  linked _ _ := id

theorem getBalance_keeps (hs : ConsistentLinks s) (call : WalletBalanceCall) :
    Keeps s (getBalance call s).2 := by
  unfold getBalance
  split
  · exact .refl s
  · have hlive := callBuildLiveBalances_keeps hs call.address call.clock.refreshedAt
    generalize callBuildLiveBalances call.address call.clock.refreshedAt s = live at hlive ⊢
    obtain ⟨fetched, fetchedState⟩ := live
    dsimp only
    generalize s.registry.adapter.fetch _ = fetch
    obtain ⟨called, result, adapter⟩ := fetch
    dsimp only
    cases called with
    | true => exact hlive.trans (setAdapter_keeps adapter)
    | false => exact setAdapter_keeps adapter

/-- **A call keeps** the process consistent, and every pair of the table. -/
theorem next_keeps (hs : ConsistentLinks s) (call : Call) : Keeps s (s.next dialect ttl call) := by
  cases call with
  | createWallet userId uuid now => exact createWallet_keeps userId uuid now
  | linkWallet payload now => exact linkWallet_keeps hs payload now
  | getWallet userId refresh clock => exact getWallet_keeps hs userId refresh clock
  | getStatus userId refresh clock => exact readWallet_keeps _ hs userId refresh clock
  | getTrustline userId refresh clock => exact readWallet_keeps _ hs userId refresh clock
  | getFundingState userId refresh clock => exact readWallet_keeps _ hs userId refresh clock
  | getBalance call => exact getBalance_keeps hs call
  | restart => exact ⟨fun hs => ⟨hs.unique, agrees_empty, fun _ => rfl⟩, fun _ _ => id⟩

/-! ## Conflicts -/

/-- The link would give the user a second address, or the address a second user. -/
def Conflicts (rows : List WalletORM) (payload : WalletLinkRequest) : Prop :=
  (∃ address, Linked rows payload.userId address ∧ address ≠ payload.publicKey) ∨
    ∃ user, Linked rows user payload.publicKey ∧ user ≠ payload.userId

theorem linkExistingWallet_of_conflicts (dialect : WalletDialect) (hunique : UniqueWallets rows)
    {payload : WalletLinkRequest} (h : Conflicts rows payload) (now : Time) :
    ∃ message, WalletRepository.linkExistingWallet dialect payload.userId payload.publicKey
      payload.funded payload.trustlineReady now rows = .error (.valueError message) := by
  unfold WalletRepository.linkExistingWallet
  dsimp only
  split
  · exact ⟨_, rfl⟩
  · next hother =>
    split
    · exact ⟨_, rfl⟩
    · next hother' =>
      exfalso
      obtain ⟨_, ⟨row, hrow, huser, rfl⟩, hne⟩ | ⟨_, ⟨row, hrow, rfl, haddress⟩, hne⟩ := h
      · rw [← huser, WalletRepository.getByUserId_of_mem hunique hrow, Option.filter_eq_none_iff]
          at hother
        simp [hne] at hother
      · rw [← haddress, WalletRepository.getByPublicKey_of_mem hunique hrow,
          Option.filter_eq_none_iff] at hother'
        simp [hne] at hother'

/-- **A link that conflicts** raises, and changes nothing. -/
theorem linkWallet_of_conflicts (hs : ConsistentLinks s) {payload : WalletLinkRequest}
    (h : Conflicts s.rows payload) (now : Time) :
    ∃ message, linkWallet dialect payload now s = (.error (.valueError message), s) := by
  obtain ⟨message, hmessage⟩ := linkExistingWallet_of_conflicts dialect hs.unique h now
  refine ⟨message, ?_⟩
  rw [linkWallet_eq_linkLocked hs.unlocked, linkLocked, hmessage]

end Wallets

/-! ## Runs -/

namespace WalletDeployment

variable {d : WalletDeployment}

theorem fresh_consistent (h : UniqueWallets rows) (process : Nat) :
    ConsistentLinks ((fresh ttl rows).view process) :=
  ⟨h, agrees_empty, fun _ => rfl⟩

theorem next_consistent (h : ∀ process, ConsistentLinks (d.view process)) (e : Event)
    (process : Nat) :
    ConsistentLinks ((d.next dialect ttl e).view process) := by
  have hkeeps : Wallets.Keeps (d.view e.process) ((d.view e.process).next dialect ttl e.call) :=
    Wallets.next_keeps (h e.process) e.call
  have hcalled := hkeeps.consistent (h e.process)
  by_cases hsame : process = e.process
  · subst hsame
    unfold view next
    dsimp only
    rw [Function.update_self]
    exact hcalled
  · have hother := h process
    unfold view next
    dsimp only
    rw [Function.update_of_ne hsame]
    exact ⟨hcalled.unique, hother.agrees.mono hkeeps.linked, hother.unlocked⟩

theorem run_consistent (h : UniqueWallets rows) {steps : List (WalletDeployment × Event)}
    (hrun : Run (Step dialect ttl) (fresh ttl rows) steps d) :
    ∀ process, ConsistentLinks (d.view process) :=
  hrun.invariant (I := fun d => ∀ process, ConsistentLinks (d.view process)) (fresh_consistent h)
    fun _ e _ ht hstep => hstep ▸ next_consistent ht e

end WalletDeployment

/-- **The links are one-to-one** in the table and in the dictionaries of every process, whatever is
called; a link that conflicts raises, and changes nothing. -/
theorem wallet_links_bijective {dialect : WalletDialect} {ttl : Int} {rows : List WalletORM}
    (hrows : UniqueWallets rows) {steps : List (WalletDeployment × WalletDeployment.Event)}
    {d : WalletDeployment}
    (hrun : Run (WalletDeployment.Step dialect ttl) (WalletDeployment.fresh ttl rows) steps d)
    (process : Nat) :
    ConsistentLinks (d.view process) ∧
      ∀ payload now, Wallets.Conflicts d.rows payload →
        ∃ message, (d.view process).linkWallet dialect payload now =
          (.error (.valueError message), d.view process) := by
  have hconsistent := WalletDeployment.run_consistent hrows hrun process
  exact ⟨hconsistent, fun _ now h => Wallets.linkWallet_of_conflicts hconsistent h now⟩

/-- A second user links the address of a first one. -/
theorem wallet_links_second_user :
    let dialect : WalletDialect := { WalletDialect.sqlite with suppliesId := true }
    let link : WalletDeployment.Event := ⟨0, .linkWallet ⟨"alice", "GA", true, false⟩ 0⟩
    let d := (WalletDeployment.fresh 60 []).next dialect 60 link
    ConsistentLinks (d.view 0) ∧ ∃ message,
      (d.view 0).linkWallet dialect ⟨"bob", "GA", false, false⟩ 1 =
        (.error (.valueError message), d.view 0) := by
  intro dialect link d
  have hrun : Run (WalletDeployment.Step dialect 60) (WalletDeployment.fresh 60 [])
      [(WalletDeployment.fresh 60 [], link)] d := .snoc .nil rfl
  obtain ⟨hconsistent, hconflicts⟩ := wallet_links_bijective ⟨by decide, by decide⟩ hrun 0
  refine ⟨hconsistent, hconflicts _ _ (.inr ⟨"alice", ?_, by decide⟩)⟩
  exact ⟨_, List.mem_singleton_self _, rfl, rfl⟩

end NocIq
