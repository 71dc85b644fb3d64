import NocIq.Job.Operations

/-!
# NocIq — the address of a client

`_get_client_ip` of `app/api/v1/endpoints/auth.py`. Behind `TRUSTED_PROXY_COUNT` proxies it counts
from the right end of `X-Forwarded-For`, where each proxy has put the address it was called from;
what the client has sent is further left.

* **`forwarded_parts`** — the parts of the header behind the proxies.
* **`clientIp_not_spoofed`** — the address is the one the first proxy saw, whatever the client sent.
-/

namespace NocIq

/-! ## `_get_client_ip` -/

/-- What the function reads of a request: the header, and `request.client.host`. -/
structure AddressedRequest where
  forwardedFor : Option String
  client : Option String
  deriving DecidableEq, Repr

/-- `[p.strip() for p in forwarded.split(",")]`. -/
def forwardedParts (forwarded : String) : List String :=
  (forwarded.toList.splitOn ',').map fun part => strip (String.ofList part)

def getClientIp (trustedProxyCount : Int) (request : AddressedRequest) : String :=
  let direct := request.client.getD "unknown"
  if trustedProxyCount > 0 then
    let forwarded := request.forwardedFor.getD ""
    if forwarded ≠ "" then
      let parts := forwardedParts forwarded
      let idx := max ((parts.length : Int) - trustedProxyCount) 0
      -- in range, as there is always a part
      parts.getD idx.toNat ""
    else direct
  else direct

/-! ## The proxies -/

/-- An address, as a proxy writes it. -/
structure PeerAddress where
  text : String
  nonempty : text ≠ ""
  noComma : ',' ∉ text.toList
  noWhitespace : ∀ c ∈ text.toList, isWhitespace c = false

/-- A proxy that is called from `peer`; it may put blanks after its comma. -/
structure Proxy where
  peer : PeerAddress
  blanks : Nat := 0

def Proxy.entry (p : Proxy) : List Char := List.replicate p.blanks ' ' ++ p.peer.text.toList

def Proxy.pass (header : Option String) (p : Proxy) : Option String :=
  match header with
  | none => some p.peer.text
  | some value => some (String.ofList (value.toList ++ ',' :: p.entry))

theorem Proxy.comma_entry (p : Proxy) : ',' ∉ p.entry := by
  intro hmem
  rcases List.mem_append.mp hmem with hblank | htext
  · have hc := List.eq_of_mem_replicate hblank
    exact absurd hc (by decide)
  · exact p.peer.noComma htext

theorem Proxy.strip_entry (p : Proxy) : strip (String.ofList p.entry) = p.peer.text := by
  have hblanks : ∀ c ∈ List.replicate p.blanks ' ', isWhitespace c = true := by
    intro c hc
    rw [List.eq_of_mem_replicate hc]
    decide
  unfold Proxy.entry
  rw [strip_blanks hblanks p.peer.noWhitespace, String.ofList_toList]

theorem forwardedParts_peer (p : Proxy) : forwardedParts p.peer.text = [p.peer.text] := by
  unfold forwardedParts
  rw [List.splitOn_eq_singleton p.peer.noComma, List.map_singleton, String.ofList_toList,
    strip_of_not_whitespace p.peer.noWhitespace]

theorem forwardedParts_pass (value : String) (p : Proxy) :
    forwardedParts (String.ofList (value.toList ++ ',' :: p.entry)) =
      forwardedParts value ++ [p.peer.text] := by
  unfold forwardedParts
  rw [String.toList_ofList, List.splitOn_append_cons_self, List.splitOn_eq_singleton p.comma_entry,
    List.map_append, List.map_singleton, p.strip_entry]

/-- **The header behind the proxies**: its parts are those it had, and then one for each proxy.
Induction on the proxies. -/
theorem forwarded_parts (value : String) (proxies : List Proxy) :
    ∃ value', proxies.foldl Proxy.pass (some value) = some value' ∧
      forwardedParts value' = forwardedParts value ++ proxies.map fun p => p.peer.text := by
  induction proxies generalizing value with
  | nil => exact ⟨value, rfl, (List.append_nil _).symm⟩
  | cons p proxies ih =>
    obtain ⟨value', hfold, hparts⟩ := ih (String.ofList (value.toList ++ ',' :: p.entry))
    refine ⟨value', hfold, ?_⟩
    rw [hparts, forwardedParts_pass, List.map_cons, List.append_assoc, List.singleton_append]

/-- Behind at least one proxy there is a header; it starts with what the client sent, if anything. -/
theorem forwarded_parts_supplied (supplied : Option String) (first : Proxy) (rest : List Proxy) :
    ∃ value before, (first :: rest).foldl Proxy.pass supplied = some value ∧
      forwardedParts value = before ++ first.peer.text :: rest.map fun p => p.peer.text := by
  cases supplied with
  | none =>
    obtain ⟨value, hfold, hparts⟩ := forwarded_parts first.peer.text rest
    refine ⟨value, [], hfold, ?_⟩
    rw [hparts, forwardedParts_peer]
    rfl
  | some sent =>
    obtain ⟨value, hfold, hparts⟩ := forwarded_parts sent (first :: rest)
    exact ⟨value, forwardedParts sent, hfold, hparts⟩

/-- A text with an address among its parts is not empty: the parts of the empty text are empty. -/
theorem ne_empty_of_parts {value : String} {before after : List String} {p : PeerAddress}
    (h : forwardedParts value = before ++ p.text :: after) : value ≠ "" := by
  rintro rfl
  have hmem : p.text ∈ forwardedParts "" := by
    rw [h]
    exact List.mem_append_right _ List.mem_cons_self
  have hempty : p.text ∈ [""] := hmem
  exact p.nonempty (List.mem_singleton.mp hempty)

/-- **No spoofing.** Behind as many proxies as are trusted the address is the one that the first of
them was called from, whatever header the client has sent; and without trusted proxies the header
makes no difference. -/
theorem clientIp_not_spoofed :
    (∀ (first : Proxy) (rest : List Proxy) (supplied client : Option String),
        getClientIp ((first :: rest).length : Int)
          ⟨(first :: rest).foldl Proxy.pass supplied, client⟩ = first.peer.text) ∧
      ∀ header header' client : Option String,
        getClientIp 0 ⟨header, client⟩ = getClientIp 0 ⟨header', client⟩ := by
  refine ⟨?_, fun _ _ _ => rfl⟩
  intro first rest supplied client
  obtain ⟨value, before, hfold, hparts⟩ := forwarded_parts_supplied supplied first rest
  have htrusted : ((first :: rest).length : Int) > 0 := by
    rw [List.length_cons]
    omega
  -- the parts of the proxies are the last ones, so the count ends at the first of them
  have hidx : (max (((forwardedParts value).length : Int) - (first :: rest).length) 0).toNat =
      before.length := by
    rw [hparts, List.length_append, List.length_cons, List.length_cons, List.length_map]
    omega
  unfold getClientIp
  dsimp only
  rw [if_pos htrusted, hfold, Option.getD_some, if_pos (ne_empty_of_parts hparts), hidx, hparts]
  simp

theorem noWhitespace_of_all {cs : List Char} (h : cs.all (fun c => !isWhitespace c) = true) :
    ∀ c ∈ cs, isWhitespace c = false := by
  intro c hc
  simpa using List.all_eq_true.mp h c hc

/-- The address of a client that sends another one. -/
def spoofer : PeerAddress :=
  ⟨"203.0.113.7", by decide, by decide, noWhitespace_of_all (by decide)⟩

def loadBalancer : PeerAddress :=
  ⟨"10.0.0.5", by decide, by decide, noWhitespace_of_all (by decide)⟩

example :
    let header := [⟨spoofer, 0⟩, ⟨loadBalancer, 1⟩].foldl Proxy.pass (some "127.0.0.1")
    header = some "127.0.0.1,203.0.113.7, 10.0.0.5" ∧
      getClientIp 2 ⟨header, some "10.0.0.6"⟩ = spoofer.text := by
  decide +kernel

end NocIq
