import NocIq.Lib.SerialRuns
import NocIq.Sla.Effective

/-!
# NocIq — concurrent calls of `SLARepository.create`

Any number of calls for one outage, each in a transaction of its own, in any interleaving.

* **`exec_createTxn`** — on its own, the transaction does what `SLARepository.create` does.
* **`allCreated_of_serial`** — so calls whose transactions do not overlap all succeed.
* **`Doomed.step`** — a call whose SELECT was taken before another call committed cannot succeed:
  the re-check drops the row that was demoted, the new effective row is not seen, and the insert
  violates the unique index.
* **`concurrent_create_iff`** — so the calls all succeed exactly if their transactions do not
  overlap.
-/

namespace NocIq

open SLARepository ReadCommitted

/-! ## The transaction -/

/-- The unique indexes of `sla_results`: two rows share the id, or both are the effective row of
one outage. -/
def sharesSlaKey (a b : SLAResultORM) : Bool :=
  decide (a.id = b.id) || (a.latestKey.isSome && decide (a.latestKey = b.latestKey))

def slaResultsTable : Table SLAResultORM Nat where
  id := SLAResultORM.id
  conflict := sharesSlaKey
  pkey a b h := by simp [sharesSlaKey, h]

/-- The arguments of one call. -/
structure CreateCall where
  payload : SLAResult
  started : Time
  deriving DecidableEq, Repr

namespace CreateCall

variable (c : CreateCall)

def row (id : Nat) (isLatest : Bool) : SLAResultORM := newRow c.payload id isLatest c.started

def effective : SLAResultORM → Bool := isEffective c.payload.outageId

/-- `self.db.add(orm); self.db.commit()` with the id drawn. The `refresh` after the commit reads
columns that no other call writes. -/
def insertNumbered (id : Nat) : Prog slaResultsTable SLAResult :=
  .insert (c.row id true) (.commit (ormToPydantic (c.row id true)))

def insertLatest : Prog slaResultsTable SLAResult := .nextval c.insertNumbered

def clearFlag (r : SLAResultORM) : SLAResultORM := { r with isLatest := false }

def afterSelect (existingLatest : Option SLAResultORM) : Prog slaResultsTable SLAResult :=
  if existingLatest.isSome then
    .update c.effective clearFlag (fun _ => rfl) c.insertLatest
  else c.insertLatest

theorem afterSelect_some (e : SLAResultORM) :
    c.afterSelect (some e) = .update c.effective clearFlag (fun _ => rfl) c.insertLatest := rfl

theorem afterSelect_none : c.afterSelect none = c.insertLatest := rfl

/-- The statements of `SLARepository.create`. -/
def createTxn : Prog slaResultsTable SLAResult := .selectForUpdate c.effective c.afterSelect

end CreateCall

open CreateCall

def creations {τ : Type} (db : Db) (call : τ → CreateCall) : State τ slaResultsTable SLAResult where
  committed := db.slaResults
  seq := db.slaResultsSeq
  session t := { control := .running (call t).createTxn }

theorem no_conflict_demoted {rows : List SLAResultORM} {o : String} {row : SLAResultORM}
    (hout : row.outageId = o) (hid : ∀ r ∈ rows, r.id ≠ row.id) :
    (rows.map (demote o)).any (sharesSlaKey row) = false := by
  rw [List.any_eq_false]
  intro x hx
  obtain ⟨r, hr, rfl⟩ := List.mem_map.mp hx
  have hne : row.id ≠ r.id := (hid r hr).symm
  have hkey : ¬ (row.latestKey.isSome = true ∧ row.latestKey = (demote o r).latestKey) := by
    intro hboth
    obtain ⟨hsome, heq⟩ := hboth
    obtain ⟨k, hk⟩ := Option.isSome_iff_exists.mp hsome
    have hrow := (isEffective_iff.mp (latestKey_eq_some.mp hk)).1
    have hdem := latestKey_eq_some.mp (heq.symm.trans hk)
    rw [isEffective_demote] at hdem
    simp [← hrow, hout] at hdem
  simp [sharesSlaKey, hne, hkey]

/-- **The transaction on its own** does what `SLARepository.create` does. -/
theorem exec_createTxn {db : Db} (h : db.WellFormed) {c : CreateCall}
    (hout : c.payload.outageId ∈ db.outageIds) :
    exec c.createTxn db.slaResults db.slaResults db.slaResultsSeq =
      (((create c.payload c.started db).1).toOption, (create c.payload c.started db).2.slaResults,
        (create c.payload c.started db).2.slaResultsSeq) := by
  rw [create_eq h hout]
  -- after the demotion the new row is the only one flagged for its outage
  have hfree : (db.slaResults.map (demote c.payload.outageId)).any
      (slaResultsTable.conflict (c.row (db.slaResultsSeq + 1) true)) = false := by
    refine no_conflict_demoted rfl ?_
    intro r hr
    have hle := (h.seq r hr).2
    show r.id ≠ db.slaResultsSeq + 1
    omega
  have hinsert : exec c.insertLatest db.slaResults (db.slaResults.map (demote c.payload.outageId))
      db.slaResultsSeq = (some (ormToPydantic (c.row (db.slaResultsSeq + 1) true)),
        db.slaResults.map (demote c.payload.outageId) ++ [c.row (db.slaResultsSeq + 1) true],
        db.slaResultsSeq + 1) := by
    simp only [insertLatest, insertNumbered, exec, hfree]
    rfl
  unfold createTxn
  rw [exec]
  cases hfind : db.slaResults.find? c.effective with
  | some e =>
    rw [afterSelect_some]
    show exec c.insertLatest db.slaResults (db.slaResults.map (demote c.payload.outageId))
      db.slaResultsSeq = _
    rw [hinsert]
    rfl
  | none =>
    have hnone : ∀ r ∈ db.slaResults, isEffective c.payload.outageId r = false := by
      intro r hr
      exact Bool.eq_false_iff.mpr (List.find?_eq_none.mp hfind r hr)
    rw [demote_none hnone] at hinsert
    rw [afterSelect_none, hinsert]
    unfold created
    rw [demote_none hnone]
    rfl

/-! ## Calls that do not overlap -/

section Calls

set_option linter.unusedSectionVars false

variable {τ : Type} [DecidableEq τ] [Fintype τ] {call : τ → CreateCall} {o : String}

/-- The call has returned the row with the id `i`. -/
def ReturnedRow (call : τ → CreateCall) (s : State τ slaResultsTable SLAResult) (t : τ) (i : Nat) :
    Prop :=
  (s.session t).control = .ended (some (ormToPydantic ((call t).row i true)))

/-- All calls have returned, their rows are stored, and exactly one row of the outage is
effective. -/
structure AllCreated (call : τ → CreateCall) (o : String)
    (s : State τ slaResultsTable SLAResult) : Prop where
  stored : ∀ t, ∃ i isLatest, ReturnedRow call s t i ∧ (call t).row i isLatest ∈ s.committed
  distinct : ∀ t u i, ReturnedRow call s t i → ReturnedRow call s u i → t = u
  effective : (s.committed.filter (isEffective o)).length = 1

/-- What holds between whole calls: the table is that of a well-formed database, and every call
that has ended has stored a row of its own. -/
structure BetweenCalls (call : τ → CreateCall) (o : String)
    (s : State τ slaResultsTable SLAResult) (db : Db) : Prop where
  wellFormed : db.WellFormed
  outage : o ∈ db.outageIds
  rows : s.committed = db.slaResults
  seq : s.seq = db.slaResultsSeq
  stored : ∀ t result, (s.session t).control = .ended result →
    ∃ i isLatest, ReturnedRow call s t i ∧ (call t).row i isLatest ∈ s.committed
  distinct : ∀ t u i, ReturnedRow call s t i → ReturnedRow call s u i → t = u
  effective : ∀ t result, (s.session t).control = .ended result → (effectiveId db o).isSome

variable {s : State τ slaResultsTable SLAResult} {t : τ} {i : Nat}

theorem returned_id {j : Nat} (hi : ReturnedRow call s t i) (hj : ReturnedRow call s t j) :
    i = j := by
  unfold ReturnedRow at hi hj
  rw [hi] at hj
  have hrows := Option.some.inj (Control.ended.inj hj)
  exact Option.some.inj (congrArg SLAResult.id hrows)

theorem demote_row (c : CreateCall) (i : Nat) (isLatest : Bool) :
    ∃ flag, demote o (c.row i isLatest) = c.row i flag := by
  unfold demote
  split
  · exact ⟨false, rfl⟩
  · exact ⟨isLatest, rfl⟩

theorem BetweenCalls.next (hcall : ∀ t, (call t).payload.outageId = o) {db : Db}
    (h : BetweenCalls call o s db) (t : τ) :
    ∃ db', BetweenCalls call o (executed (fun t => (call t).createTxn) s t) db' := by
  have hout : (call t).payload.outageId ∈ db.outageIds := by
    rw [hcall]
    exact h.outage
  have hexec := exec_createTxn h.wellFormed hout
  rw [create_eq h.wellFormed hout] at hexec
  let s' := executed (fun t => (call t).createTxn) s t
  let db' := created (call t).payload (call t).started db
  -- the call appends its row under the next id, and ends
  have hrows : s'.committed = db'.slaResults := by
    show (exec (call t).createTxn s.committed s.committed s.seq).2.1 = _
    rw [h.rows, h.seq, hexec]
  have hseq : s'.seq = db'.slaResultsSeq := by
    show (exec (call t).createTxn s.committed s.committed s.seq).2.2 = _
    rw [h.rows, h.seq, hexec]
  have hreturned : ReturnedRow call s' t (db.slaResultsSeq + 1) := by
    show (State.set _ t _ |>.session t).control = _
    rw [set_session_self, h.rows, h.seq, hexec]
    rfl
  have hother : ∀ u, u ≠ t → s'.session u = s.session u := fun u hu => set_session_other _ hu
  have hold : ∀ u i, u ≠ t → ReturnedRow call s' u i → ReturnedRow call s u i := by
    intro u i hu hret
    unfold ReturnedRow at hret ⊢
    rw [← hother u hu]
    exact hret
  have hfresh : ∀ u, u ≠ t → ¬ ReturnedRow call s' u (db.slaResultsSeq + 1) := by
    intro u hu hret
    obtain ⟨i, isLatest, hret', hmem⟩ := h.stored u _ (hold u _ hu hret)
    rw [h.rows] at hmem
    have hle : i ≤ db.slaResultsSeq := (h.wellFormed.seq _ hmem).2
    have hid := returned_id (hold u _ hu hret) hret'
    omega
  refine ⟨db', created_wellFormed h.wellFormed _ hout, h.outage, hrows, hseq, ?_, ?_, ?_⟩
  · intro u result hended
    by_cases hu : u = t
    · rw [hu]
      refine ⟨db.slaResultsSeq + 1, true, hreturned, ?_⟩
      rw [hrows]
      exact List.mem_append_right _ (List.mem_singleton_self _)
    · have hsame := hother u hu
      change ((s'.session u).control = _) at hended
      rw [hsame] at hended
      obtain ⟨i, isLatest, hret, hmem⟩ := h.stored u result hended
      obtain ⟨flag, hflag⟩ := demote_row (o := (call t).payload.outageId) (call u) i isLatest
      refine ⟨i, flag, ?_, ?_⟩
      · unfold ReturnedRow
        rw [show (executed _ s t).session u = s.session u from hsame]
        exact hret
      · rw [show (executed _ s t).committed = db'.slaResults from hrows, ← hflag]
        rw [h.rows] at hmem
        exact List.mem_append_left _ (List.mem_map_of_mem hmem)
  · intro u v i hu hv
    by_cases hut : u = t
    · by_cases hvt : v = t
      · rw [hut, hvt]
      · rw [hut] at hu
        rw [← returned_id hreturned hu] at hv
        exact absurd hv (hfresh v hvt)
    · by_cases hvt : v = t
      · rw [hvt] at hv
        rw [← returned_id hreturned hv] at hu
        exact absurd hu (hfresh u hut)
      · exact h.distinct u v i (hold u i hut hu) (hold v i hvt hv)
  · intro u result hended
    rw [effectiveId_created h.wellFormed (call t).started hout, hcall, Function.update_self]
    rfl

theorem betweenCalls_execInvariant (hcall : ∀ t, (call t).payload.outageId = o) :
    ExecInvariant (fun t => (call t).createTxn) fun s => ∃ db, BetweenCalls call o s db where
  ids s hs := by
    obtain ⟨db, hs⟩ := hs
    have hids := hs.wellFormed.sla.pkey
    rw [hs.rows]
    rwa [List.filterMap_eq_map'] at hids
  exec s t _ hs _ := by
    obtain ⟨db, hs⟩ := hs
    exact hs.next hcall t

theorem serialState_creations {db : Db} (h : db.WellFormed) (hout : o ∈ db.outageIds) :
    SerialState (fun t => (call t).createTxn) (fun s => ∃ db, BetweenCalls call o s db)
      (creations db call) := by
  refine .inl ⟨fun t => .inl rfl, db, h, hout, rfl, rfl, ?_, ?_, ?_⟩
  · intro t result hended
    cases hended
  · intro t u i hret
    cases hret
  · intro t result hended
    cases hended

/-- **Calls that do not overlap** all succeed. -/
theorem allCreated_of_serial [Nonempty τ] {db : Db} (h : db.WellFormed) (hout : o ∈ db.outageIds)
    (hcall : ∀ t, (call t).payload.outageId = o)
    {steps : List (State τ slaResultsTable SLAResult × τ)}
    (hrun : ReadCommitted.Run τ slaResultsTable SLAResult (creations db call) steps s)
    (hserial : Serial steps) (hstuck : Stuck s) : AllCreated call o s := by
  obtain ⟨⟨db', hend⟩, hall⟩ := serial_stuck (betweenCalls_execInvariant hcall)
    (serialState_creations h hout) hrun hserial hstuck
  refine ⟨?_, hend.distinct, ?_⟩
  · intro t
    obtain ⟨result, hended⟩ := hall t
    exact hend.stored t result (by rw [hended])
  · obtain ⟨t⟩ := (inferInstance : Nonempty τ)
    obtain ⟨result, hended⟩ := hall t
    rw [hend.rows]
    exact effectiveRows_length_eq_one hend.wellFormed (hend.effective t result (by rw [hended]))

/-! ## Any interleaving -/

theorem effective_eq (hcall : ∀ t, (call t).payload.outageId = o) (t : τ) :
    (call t).effective = isEffective o := by
  unfold effective
  rw [hcall]

/-- What a call that has selected the effective row holds: its lock, and later its new version. -/
def heldLocks (held : Option SLAResultORM) : Finset Nat := held.elim ∅ fun e => {e.id}

theorem heldLocks_eq_empty {held : Option SLAResultORM} (h : heldLocks held = ∅) : held = none := by
  cases held with
  | none => rfl
  | some e => exact absurd h (Finset.singleton_ne_empty e.id)

def heldVersions (held : Option SLAResultORM) : List SLAResultORM := held.toList.map clearFlag

/-- Where a call stands, over the committed rows. A row it holds is committed and effective; a row
it has inserted is new, and the outage has no effective row unless the call holds it. -/
inductive Stage (c : CreateCall) (rows : List SLAResultORM) :
    Session slaResultsTable SLAResult → Prop where
  | idle : Stage c rows { control := .running c.createTxn }
  | selecting (cs : List SLAResultORM) (hseen : ∀ k ∈ cs, ∃ r ∈ rows, r.id = k.id) :
      Stage c rows { control := .locking c.effective cs c.afterSelect, isOpen := true }
  | found (e : SLAResultORM) (he : e ∈ rows) (heff : c.effective e = true) :
      Stage c rows { control := .running (c.afterSelect (some e)), isOpen := true,
                     locked := {e.id} }
  | ready (held : Option SLAResultORM) (hheld : ∀ e ∈ held, e ∈ rows ∧ c.effective e = true) :
      Stage c rows { control := .running c.insertLatest, isOpen := true,
                     locked := heldLocks held, updated := heldVersions held }
  | numbered (held : Option SLAResultORM) (hheld : ∀ e ∈ held, e ∈ rows ∧ c.effective e = true)
      (i : Nat) :
      Stage c rows { control := .running (c.insertNumbered i), isOpen := true,
                     locked := heldLocks held, updated := heldVersions held }
  | inserted (held : Option SLAResultORM) (hheld : ∀ e ∈ held, e ∈ rows ∧ c.effective e = true)
      (i : Nat) (hnew : ∀ r ∈ rows, r.id ≠ i)
      (hnone : held = none → ∀ r ∈ rows, c.effective r = false) :
      Stage c rows { control := .running (.commit (ormToPydantic (c.row i true))), isOpen := true,
                     locked := heldLocks held, updated := heldVersions held,
                     inserted := [c.row i true] }
  | ended (result : Option SLAResult) : Stage c rows { control := .ended result }

def Locks (x : Session slaResultsTable SLAResult) : Prop := x.locked ≠ ∅

def Inserts (x : Session slaResultsTable SLAResult) : Prop := x.inserted ≠ []

/-- The invariant of every interleaving: one call at a time locks, and one inserts. -/
structure CreateInvariant (call : τ → CreateCall) (o : String)
    (s : State τ slaResultsTable SLAResult) : Prop where
  stage : ∀ t, Stage (call t) s.committed (s.session t)
  ids : (s.committed.map (·.id)).Nodup
  unique : ∀ a ∈ s.committed, ∀ b ∈ s.committed, isEffective o a = true →
    isEffective o b = true → a = b
  exclusive : AtMostOne Locks s
  sole : AtMostOne Inserts s

variable {x : Session slaResultsTable SLAResult}

theorem Stage.held {c : CreateCall} {rows : List SLAResultORM} (h : Stage c rows x)
    (hlocked : x.locked ≠ ∅) : ∃ e ∈ rows, c.effective e = true ∧ x.locked = {e.id} := by
  have hheld : ∀ held : Option SLAResultORM, (∀ e ∈ held, e ∈ rows ∧ c.effective e = true) →
      heldLocks held ≠ ∅ → ∃ e ∈ rows, c.effective e = true ∧ heldLocks held = {e.id} := by
    intro held hall hne
    cases held with
    | none => exact absurd rfl hne
    | some e => exact ⟨e, (hall e rfl).1, (hall e rfl).2, rfl⟩
  cases h with
  | idle => exact absurd rfl hlocked
  | selecting => exact absurd rfl hlocked
  | found e he heff => exact ⟨e, he, heff, rfl⟩
  | ready held hall => exact hheld held hall hlocked
  | numbered held hall => exact hheld held hall hlocked
  | inserted held hall => exact hheld held hall hlocked
  | ended => exact absurd rfl hlocked

theorem CreateInvariant.set (h : CreateInvariant call o s) (s₀ : State τ slaResultsTable SLAResult)
    (hsession : s₀.session = s.session) (hcommitted : s₀.committed = s.committed)
    (hstage : Stage (call t) s.committed x) (hlocks : Locks x → ∀ u, u ≠ t → ¬ Locks (s.session u))
    (hinserts : Inserts x → ∀ u, u ≠ t → ¬ Inserts (s.session u)) :
    CreateInvariant call o (s₀.set t x) := by
  refine ⟨?_, ?_, ?_, h.exclusive.set hsession hlocks, h.sole.set hsession hinserts⟩
  · intro u
    rw [set_committed, hcommitted]
    by_cases hu : u = t
    · rw [hu, set_session_self]
      exact hstage
    · rw [set_session_other x hu, hsession]
      exact h.stage u
  · rw [set_committed, hcommitted]
    exact h.ids
  · rw [set_committed, hcommitted]
    exact h.unique

theorem Stage.rows {c : CreateCall} {rows rows' : List SLAResultORM} (h : Stage c rows x)
    (hlocks : ¬ Locks x) (hinserts : ¬ Inserts x) (hids : ∀ r ∈ rows, ∃ r' ∈ rows', r'.id = r.id) :
    Stage c rows' x := by
  cases h with
  | idle => exact .idle
  | selecting cs hseen =>
    refine .selecting cs fun k hk => ?_
    obtain ⟨r, hr, hrk⟩ := hseen k hk
    obtain ⟨r', hr', hr'k⟩ := hids r hr
    exact ⟨r', hr', hr'k.trans hrk⟩
  | found e => exact absurd (Finset.singleton_ne_empty e.id) hlocks
  | ready held =>
    obtain rfl := heldLocks_eq_empty (not_not.mp hlocks)
    exact .ready none (by simp)
  | numbered held _ i =>
    obtain rfl := heldLocks_eq_empty (not_not.mp hlocks)
    exact .numbered none (by simp) i
  | inserted held _ i => exact absurd (List.cons_ne_nil _ _) hinserts
  | ended result => exact .ended result

theorem CreateInvariant.filter_effective (h : CreateInvariant call o s) {e : SLAResultORM}
    (he : e ∈ s.committed) (heff : isEffective o e = true) :
    s.committed.filter (isEffective o) = [e] := by
  have hall : ∀ r ∈ s.committed.filter (isEffective o), r = e := by
    intro r hr
    obtain ⟨hr, hreff⟩ := List.mem_filter.mp hr
    exact h.unique r hr e he hreff heff
  have hnodup := (List.Nodup.of_map _ h.ids).filter (isEffective o)
  have hmem : e ∈ s.committed.filter (isEffective o) := List.mem_filter.mpr ⟨he, heff⟩
  rw [List.eq_replicate_of_mem hall] at hnodup
  have hle := List.nodup_replicate.mp hnodup
  have hpos := List.length_pos_of_mem hmem
  have hone : (s.committed.filter (isEffective o)).length = 1 := by omega
  have hrep := List.eq_replicate_of_mem hall
  rw [hone] at hrep
  exact hrep

theorem CreateInvariant.alone (h : CreateInvariant call o s)
    (hcall : ∀ t, (call t).payload.outageId = o) (hinserts : Inserts (s.session t)) :
    ∀ u, u ≠ t → ¬ Locks (s.session u) ∧ ¬ Inserts (s.session u) := by
  intro u hu
  refine ⟨?_, h.sole.others hinserts u hu⟩
  intro hlocks
  obtain ⟨e, he, heff, -⟩ := (h.stage u).held hlocks
  have hstage := h.stage t
  have hno : ¬ Locks (s.session t) := fun ht => hu (h.exclusive u t hlocks ht)
  generalize s.session t = x at hstage hinserts hno
  cases hstage with
  | inserted held hheld i hnew hnone =>
    -- without a held row nothing was effective; with one it would hold its lock
    cases held with
    | none =>
      have hfalse := hnone rfl e he
      rw [effective_eq hcall] at heff hfalse
      rw [heff] at hfalse
      cases hfalse
    | some e' => exact hno (Finset.singleton_ne_empty e'.id)
  | idle => exact hinserts rfl
  | selecting => exact hinserts rfl
  | found => exact hinserts rfl
  | ready => exact hinserts rfl
  | numbered => exact hinserts rfl
  | ended => exact hinserts rfl

theorem CreateInvariant.view_inserted (h : CreateInvariant call o s)
    (hcall : ∀ t, (call t).payload.outageId = o) {held : Option SLAResultORM}
    (hheld : ∀ e ∈ held, e ∈ s.committed ∧ (call t).effective e = true)
    (hnone : held = none → ∀ r ∈ s.committed, (call t).effective r = false)
    (hupdated : (s.session t).updated = heldVersions held)
    (hinserted : (s.session t).inserted = [(call t).row i true]) :
    s.view t = s.committed.map (demote o) ++ [(call t).row i true] := by
  unfold State.view
  rw [hinserted]
  congr 1
  apply List.map_congr_left
  intro r hr
  rw [effective_eq hcall] at hheld hnone
  unfold Session.version
  rw [hupdated]
  cases held with
  | none =>
    have hfalse := hnone rfl r hr
    unfold demote
    rw [hfalse]
    rfl
  | some e =>
    obtain ⟨he, heff⟩ := hheld e rfl
    by_cases hid : e.id = r.id
    · have hre : r = e := List.inj_on_of_nodup_map h.ids hr he hid.symm
      rw [hre]
      unfold demote
      rw [if_pos heff]
      simp [heldVersions, slaResultsTable, clearFlag]
    · -- another row is not effective
      have hfalse : isEffective o r = false := by
        rw [Bool.eq_false_iff]
        intro hr'
        rw [h.unique r hr e he hr' heff] at hid
        exact hid rfl
      unfold demote
      rw [hfalse]
      simp [heldVersions, slaResultsTable, clearFlag, hid]

theorem CreateInvariant.commit (h : CreateInvariant call o s)
    (hcall : ∀ t, (call t).payload.outageId = o) (hinserts : Inserts (s.session t))
    (hnew : ∀ r ∈ s.committed, r.id ≠ i)
    (hview : s.view t = s.committed.map (demote o) ++ [(call t).row i true])
    (result : Option SLAResult) :
    CreateInvariant call o
      (State.set { s with committed := s.view t } t { control := .ended result }) := by
  have hidle : ∀ x : Session slaResultsTable SLAResult, x = { control := .ended result } →
      ¬ Locks x ∧ ¬ Inserts x := by
    intro x hx
    rw [hx]
    exact ⟨fun hlocks => hlocks rfl, fun hinserts => hinserts rfl⟩
  refine ⟨?_, ?_, ?_, h.exclusive.set rfl fun hx => absurd hx (hidle _ rfl).1,
    h.sole.set rfl fun hx => absurd hx (hidle _ rfl).2⟩
  · intro u
    show Stage (call u) (s.view t) _
    by_cases hu : u = t
    · rw [hu, set_session_self]
      exact .ended result
    · rw [set_session_other _ hu]
      obtain ⟨hlocks, hinserts'⟩ := h.alone hcall hinserts u hu
      refine (h.stage u).rows hlocks hinserts' fun r hr => ⟨demote o r, ?_, demote_id o r⟩
      rw [hview]
      exact List.mem_append_left _ (List.mem_map_of_mem hr)
  · show ((s.view t).map (·.id)).Nodup
    have hids : (s.committed.map (demote o)).map (·.id) = s.committed.map (·.id) := by
      rw [List.map_map]
      exact List.map_congr_left fun r _ => demote_id o r
    rw [hview, List.map_append, hids, List.nodup_append]
    refine ⟨h.ids, List.nodup_singleton _, ?_⟩
    intro a ha b hb hab
    obtain ⟨r, hr, rfl⟩ := List.mem_map.mp ha
    exact hnew r hr (hab.trans (List.mem_singleton.mp hb))
  · show ∀ a ∈ s.view t, ∀ b ∈ s.view t, _
    -- only the new row is effective
    have hlast : ∀ a ∈ s.view t, isEffective o a = true → a = (call t).row i true := by
      intro a ha heff
      rw [hview] at ha
      rcases List.mem_append.mp ha with ha | ha
      · obtain ⟨r, -, rfl⟩ := List.mem_map.mp ha
        rw [isEffective_demote] at heff
        simp at heff
      · exact List.mem_singleton.mp ha
    intro a ha b hb haeff hbeff
    rw [hlast a ha haeff, hlast b hb hbeff]

theorem sharesSlaKey_row (hcall : ∀ t, (call t).payload.outageId = o) {r : SLAResultORM}
    (hr : isEffective o r = true ∨ r.id = i) : sharesSlaKey ((call t).row i true) r = true := by
  rcases hr with heff | hid
  · have hkey : ((call t).row i true).latestKey = some o := by
      rw [latestKey_eq_some]
      exact isEffective_iff.mpr ⟨hcall t, rfl⟩
    simp [sharesSlaKey, hkey, latestKey_eq_some.mpr heff]
  · have hrow : ((call t).row i true).id = r.id := hid.symm
    simp [sharesSlaKey, hrow]

variable {u : τ}

theorem mustWait_of_inserts (h : CreateInvariant call o s)
    (hcall : ∀ t, (call t).payload.outageId = o) (hu : u ≠ t) (hinserts : Inserts (s.session u))
    (i : Nat) : s.mustWait t ((call t).row i true) = true := by
  have hrow : ∃ x ∈ (s.session u).inserted, isEffective o x = true := by
    have hstage := h.stage u
    generalize s.session u = x at hstage hinserts
    cases hstage with
    | inserted held _ j =>
      exact ⟨(call u).row j true, List.mem_singleton_self _, isEffective_iff.mpr ⟨hcall u, rfl⟩⟩
    | idle => exact absurd rfl hinserts
    | selecting => exact absurd rfl hinserts
    | found => exact absurd rfl hinserts
    | ready => exact absurd rfl hinserts
    | numbered => exact absurd rfl hinserts
    | ended => exact absurd rfl hinserts
  obtain ⟨x, hx, heff⟩ := hrow
  unfold State.mustWait
  rw [decide_eq_true_eq]
  exact ⟨u, hu, .inl ⟨x, List.mem_append_left _ hx, sharesSlaKey_row hcall (.inl heff)⟩⟩

theorem lockedByOther_of_locks (h : CreateInvariant call o s)
    (hcall : ∀ t, (call t).payload.outageId = o) (hu : u ≠ t) (hlocks : Locks (s.session u))
    {r : SLAResultORM} (hr : r ∈ s.committed) (heff : isEffective o r = true) :
    s.lockedByOther t r.id = true := by
  obtain ⟨e, he, heeff, hlocked⟩ := (h.stage u).held hlocks
  rw [effective_eq hcall] at heeff
  unfold State.lockedByOther
  rw [decide_eq_true_eq]
  refine ⟨u, hu, ?_⟩
  rw [hlocked, h.unique r hr e he heff heeff]
  exact Finset.mem_singleton_self e.id

variable {s' : State τ slaResultsTable SLAResult}

theorem CreateInvariant.lock (h : CreateInvariant call o s)
    (hcall : ∀ t, (call t).payload.outageId = o) {cs : List SLAResultORM}
    (hseen : ∀ k ∈ cs, ∃ r ∈ s.committed, r.id = k.id)
    (hx : s.session t =
      { control := .locking (call t).effective cs (call t).afterSelect, isOpen := true })
    (hstep : step s t = some s') : CreateInvariant call o s' := by
  have hview : s.view t = s.committed := view_eq_committed (by rw [hx]) (by rw [hx])
  cases cs with
  | nil =>
    rw [step_locking_nil (by rw [hx]), hx] at hstep
    obtain rfl := Option.some.inj hstep
    exact h.set s rfl rfl (.ready none (by simp)) (fun hl => absurd rfl hl)
      (fun hi => absurd rfl hi)
  | cons c cs =>
    obtain ⟨hfree, ⟨r, hr, hid, heff, rfl⟩ | ⟨-, rfl⟩⟩ := locking_inv (by rw [hx]) hstep
    · rw [hview] at hr
      have hlocked : insert (slaResultsTable.id c) (∅ : Finset Nat) = {r.id} := by
        rw [← hid, insert_empty_eq]
        rfl
      simp only [hx, hlocked]
      refine h.set s rfl rfl (.found r hr heff) ?_ (fun hi => absurd rfl hi)
      -- a lock of another call would be one of this row
      intro _ u hu hlocks
      rw [effective_eq hcall] at heff
      have hheld := lockedByOther_of_locks h hcall hu hlocks hr heff
      rw [← hid] at hfree
      exact Bool.noConfusion (hheld.symm.trans hfree)
    · simp only [hx]
      exact h.set s rfl rfl (.selecting cs fun k hk => hseen k (List.mem_cons_of_mem _ hk))
        (fun hl => absurd rfl hl) (fun hi => absurd rfl hi)

theorem CreateInvariant.demotes (h : CreateInvariant call o s)
    (hcall : ∀ t, (call t).payload.outageId = o) {e : SLAResultORM} (he : e ∈ s.committed)
    (heff : (call t).effective e = true)
    (hx : s.session t =
      { control := .running ((call t).afterSelect (some e)), isOpen := true, locked := {e.id} })
    (hstep : step s t = some s') : CreateInvariant call o s' := by
  have hview : s.committed.map (s.session t).version = s.committed := by
    have hview := view_eq_committed (s := s) (t := t) (by rw [hx]) (by rw [hx])
    rwa [State.view, show (s.session t).inserted = [] by rw [hx], List.append_nil] at hview
  -- the partial index leaves one row to match
  have hmatched : s.committed.filter (call t).effective = [e] := by
    rw [effective_eq hcall] at heff ⊢
    exact h.filter_effective he heff
  have hc : (s.session t).control = .running
      (.update (call t).effective clearFlag (fun _ => rfl) (call t).insertLatest) := by
    rw [hx]
    rfl
  rw [step_update hc, hview] at hstep
  simp only [hmatched, hx] at hstep
  split at hstep
  · cases hstep
  · obtain rfl := Option.some.inj hstep
    have hready : Stage (call t) s.committed
        { control := .running (call t).insertLatest, isOpen := true,
          locked := heldLocks (some e), updated := heldVersions (some e) } := by
      refine .ready (some e) ?_
      intro e' he'
      obtain rfl := Option.some.inj he'
      exact ⟨he, heff⟩
    have hlocked : ({e.id} : Finset Nat) ∪ ([e].map slaResultsTable.id).toFinset
        = heldLocks (some e) := by
      show ({e.id} : Finset Nat) ∪ [e.id].toFinset = {e.id}
      simp
    simp only [hlocked]
    refine h.set s rfl rfl hready ?_ (fun hi => absurd rfl hi)
    intro _
    refine h.exclusive.others ?_
    rw [hx]
    exact Finset.singleton_ne_empty e.id

theorem CreateInvariant.inserts (h : CreateInvariant call o s)
    (hcall : ∀ t, (call t).payload.outageId = o) {held : Option SLAResultORM}
    (hheld : ∀ e ∈ held, e ∈ s.committed ∧ (call t).effective e = true)
    (hx : s.session t =
      { control := .running ((call t).insertNumbered i), isOpen := true,
        locked := heldLocks held, updated := heldVersions held })
    (hstep : step s t = some s') : CreateInvariant call o s' := by
  obtain ⟨hwait, ⟨-, rfl⟩ | ⟨hany, rfl⟩⟩ := insert_inv (by rw [hx]; rfl) hstep
  · exact h.set s rfl rfl (.ended none) (fun hl => absurd rfl hl) (fun hi => absurd rfl hi)
  · have hfree : ∀ r ∈ s.view t, sharesSlaKey ((call t).row i true) r ≠ true :=
      List.any_eq_false.mp hany
    simp only [hx, List.nil_append]
    -- the id is new, as its index is free, and without a held row nothing is flagged
    refine h.set s rfl rfl (.inserted held hheld i ?_ ?_) ?_ ?_
    · intro r hr hid
      have hseen : (s.session t).version r ∈ s.view t :=
        List.mem_append_left _ (List.mem_map_of_mem hr)
      have hkeep : slaResultsTable.id ((s.session t).version r) = slaResultsTable.id r :=
        id_version (s.session t) r
      exact hfree _ hseen (sharesSlaKey_row hcall (.inr (hkeep.trans hid)))
    · intro hnone r hr
      have hview : s.view t = s.committed :=
        view_eq_committed (by rw [hx, hnone]; rfl) (by rw [hx])
      rw [effective_eq hcall, Bool.eq_false_iff]
      intro heff
      rw [← hview] at hr
      exact hfree r hr (sharesSlaKey_row hcall (.inl heff))
    · intro hlocks
      refine h.exclusive.others ?_
      rw [hx]
      exact hlocks
    · -- another row that is not committed would have made it wait
      intro _ u hu hinserts
      exact Bool.noConfusion ((mustWait_of_inserts h hcall hu hinserts i).symm.trans hwait)

/-- **Every interleaving keeps the invariant.** One case per stage of the call that steps. -/
theorem CreateInvariant.step (h : CreateInvariant call o s)
    (hcall : ∀ t, (call t).payload.outageId = o) (hstep : step s t = some s') :
    CreateInvariant call o s' := by
  have hstage := h.stage t
  generalize hx : s.session t = x at hstage
  cases hstage with
  | idle =>
    have hview : s.view t = s.committed := view_eq_committed (by rw [hx]) (by rw [hx])
    rw [step_select (by rw [hx]; rfl), hx, hview] at hstep
    obtain rfl := Option.some.inj hstep
    refine h.set s rfl rfl (.selecting _ ?_) (fun hl => absurd rfl hl) (fun hi => absurd rfl hi)
    intro k hk
    exact ⟨k, (List.mem_filter.mp hk).1, rfl⟩
  | selecting cs hseen => exact h.lock hcall hseen hx hstep
  | found e he heff => exact h.demotes hcall he heff hx hstep
  | ready held hheld =>
    rw [step_nextval (by rw [hx]; rfl), hx] at hstep
    obtain rfl := Option.some.inj hstep
    refine h.set { s with seq := s.seq + 1 } rfl rfl (.numbered held hheld _) ?_
      (fun hi => absurd rfl hi)
    intro hlocks
    refine h.exclusive.others ?_
    rw [hx]
    exact hlocks
  | numbered held hheld i => exact h.inserts hcall hheld hx hstep
  | inserted held hheld i hnew hnone =>
    rw [step_commit (by rw [hx])] at hstep
    obtain rfl := Option.some.inj hstep
    have hself : Inserts (s.session t) := by
      rw [hx]
      exact List.cons_ne_nil _ _
    have hview := h.view_inserted hcall hheld hnone (by rw [hx]) (by rw [hx])
    exact h.commit hcall hself hnew hview _
  | ended result =>
    rw [step_ended (by rw [hx])] at hstep
    cases hstep

/-! ## Outdated calls -/

/-- A call that will not find the effective row: it has no candidate left that is still one. -/
inductive Stale (c : CreateCall) (rows : List SLAResultORM) :
    Session slaResultsTable SLAResult → Prop where
  | selecting (cs : List SLAResultORM)
      (hstale : ∀ k ∈ cs, ∀ r ∈ rows, r.id = k.id → c.effective r = false) :
      Stale c rows { control := .locking c.effective cs c.afterSelect, isOpen := true }
  | ready : Stale c rows { control := .running c.insertLatest, isOpen := true }
  | numbered (i : Nat) : Stale c rows { control := .running (c.insertNumbered i), isOpen := true }

/-- The call has failed, or will: the outage has an effective row, and the call is stale. -/
def Doomed (call : τ → CreateCall) (o : String) (s : State τ slaResultsTable SLAResult) (t : τ) :
    Prop :=
  s.session t = { control := .ended none } ∨
    ((∃ r ∈ s.committed, isEffective o r = true) ∧ Stale (call t) s.committed (s.session t))

theorem create_effect (h : CreateInvariant call o s) (hcall : ∀ t, (call t).payload.outageId = o)
    (hstep : step s t = some s') :
    (s'.committed = s.committed ∧
        ((s'.session t).isOpen = true ∨ s'.session t = { control := .ended none })) ∨
      (Inserts (s.session t) ∧ ∃ i, (∀ r ∈ s.committed, r.id ≠ i) ∧
        s'.committed = s.committed.map (demote o) ++ [(call t).row i true]) := by
  have hstage := h.stage t
  cases step_effect hstep with
  | goesOn s₀ x hsession hcommitted hx =>
    refine .inl ⟨hcommitted, .inl ?_⟩
    rw [set_session_self]
    exact hx.isOpen
  | fails => exact .inl ⟨rfl, .inr (set_session_self _)⟩
  | commits result hc =>
    refine .inr ?_
    -- only a call that has inserted its row commits
    generalize hx : s.session t = x at hstage hc
    cases hstage with
    | inserted held hheld i hnew hnone =>
      refine ⟨List.cons_ne_nil _ _, i, hnew, ?_⟩
      exact h.view_inserted hcall hheld hnone (by rw [hx]) (by rw [hx])
    | idle => cases hc
    | selecting => cases hc
    | found => cases hc
    | ready => cases hc
    | numbered => cases hc
    | ended => cases hc
  | closes result hc =>
    generalize s.session t = x at hstage hc
    cases hstage with
    | idle => cases hc
    | selecting => cases hc
    | found => cases hc
    | ready => cases hc
    | numbered => cases hc
    | inserted => cases hc
    | ended => cases hc

/-- **A commit outdates every other open call.** Its candidates are demoted, and the row that is
effective now has a new id. -/
theorem doomed_of_commit (h : CreateInvariant call o s) (hcall : ∀ t, (call t).payload.outageId = o)
    (hinserts : Inserts (s.session t)) (hnew : ∀ r ∈ s.committed, r.id ≠ i)
    (hrows : s'.committed = s.committed.map (demote o) ++ [(call t).row i true]) (hu : u ≠ t)
    (hsame : s'.session u = s.session u) (hopen : (s.session u).isOpen = true) :
    Doomed call o s' u := by
  have heffective := effective_eq hcall u
  refine .inr ⟨⟨(call t).row i true, ?_, isEffective_iff.mpr ⟨hcall t, rfl⟩⟩, ?_⟩
  · rw [hrows]
    exact List.mem_append_right _ (List.mem_singleton_self _)
  · rw [hsame]
    obtain ⟨hlocks, hnot⟩ := h.alone hcall hinserts u hu
    have hstage := h.stage u
    generalize s.session u = x at hstage hlocks hnot hopen
    cases hstage with
    | selecting cs hseen =>
      refine .selecting cs ?_
      intro k hk r hr hid
      rw [heffective]
      rw [hrows] at hr
      rcases List.mem_append.mp hr with hr | hr
      · obtain ⟨y, -, rfl⟩ := List.mem_map.mp hr
        simp [isEffective_demote]
      · obtain ⟨y, hy, hyk⟩ := hseen k hk
        rw [List.mem_singleton.mp hr] at hid
        exact absurd (hyk.trans hid.symm) (hnew y hy)
    | ready held =>
      -- without a lock it has found nothing, and demotes nothing
      obtain rfl := heldLocks_eq_empty (not_not.mp hlocks)
      exact .ready
    | numbered held _ j =>
      obtain rfl := heldLocks_eq_empty (not_not.mp hlocks)
      exact .numbered j
    | found e => exact absurd (Finset.singleton_ne_empty e.id) hlocks
    | inserted => exact absurd (List.cons_ne_nil _ _) hnot
    | idle => cases hopen
    | ended => cases hopen

theorem Stale.isOpen {c : CreateCall} {rows : List SLAResultORM} (h : Stale c rows x) :
    x.isOpen = true := by
  cases h <;> rfl

/-- The step of a stale call: it stays stale, or its insert violates the unique index. -/
theorem doomed_self (hcall : ∀ t, (call t).payload.outageId = o)
    (heffective : ∃ r ∈ s.committed, isEffective o r = true)
    (hstale : Stale (call t) s.committed (s.session t)) (hstep : step s t = some s') :
    Doomed call o s' t := by
  generalize hx : s.session t = x at hstale
  cases hstale with
  | selecting cs hstale =>
    have hview : s.view t = s.committed := view_eq_committed (by rw [hx]) (by rw [hx])
    cases cs with
    | nil =>
      rw [step_locking_nil (by rw [hx]), hx] at hstep
      obtain rfl := Option.some.inj hstep
      refine .inr ⟨heffective, ?_⟩
      rw [set_session_self]
      exact .ready
    | cons c cs =>
      rcases (locking_inv (by rw [hx]) hstep).2 with ⟨r, hr, hid, heff, -⟩ | ⟨-, rfl⟩
      · -- the candidate is not effective any more
        rw [hview] at hr
        rw [hstale c List.mem_cons_self r hr hid] at heff
        cases heff
      · refine .inr ⟨heffective, ?_⟩
        rw [set_session_self, hx]
        exact .selecting cs fun k hk => hstale k (List.mem_cons_of_mem _ hk)
  | ready =>
    rw [step_nextval (by rw [hx]; rfl), hx] at hstep
    obtain rfl := Option.some.inj hstep
    refine .inr ⟨heffective, ?_⟩
    rw [set_session_self]
    exact .numbered _
  | numbered i =>
    have hview : s.view t = s.committed := view_eq_committed (by rw [hx]) (by rw [hx])
    obtain ⟨r, hr, heff⟩ := heffective
    have hany : (s.view t).any (slaResultsTable.conflict ((call t).row i true)) = true := by
      rw [hview]
      exact List.any_eq_true.mpr ⟨r, hr, sharesSlaKey_row hcall (.inl heff)⟩
    rcases (insert_inv (by rw [hx]; rfl) hstep).2 with ⟨-, rfl⟩ | ⟨hnone, -⟩
    · exact .inl (set_session_self _)
    · rw [hany] at hnone
      cases hnone

theorem Doomed.step (h : CreateInvariant call o s) (hcall : ∀ t, (call t).payload.outageId = o)
    (hstep : step s t = some s') (hu : Doomed call o s u) : Doomed call o s' u := by
  by_cases hut : u = t
  · rw [hut] at hu ⊢
    rcases hu with hended | ⟨heffective, hstale⟩
    · rw [step_ended (by rw [hended])] at hstep
      cases hstep
    · exact doomed_self hcall heffective hstale hstep
  · have hsame := step_other hstep hut
    rcases hu with hended | ⟨heffective, hstale⟩
    · exact .inl (hsame.trans hended)
    · rcases create_effect h hcall hstep with ⟨hrows, -⟩ | ⟨hinserts, i, hnew, hrows⟩
      · refine .inr ?_
        rw [hrows, hsame]
        exact ⟨heffective, hstale⟩
      · exact doomed_of_commit h hcall hinserts hnew hrows hut hsame hstale.isOpen

/-- Two calls that cannot both succeed: both are open, or one is doomed. -/
def Clash (call : τ → CreateCall) (o : String) (t u : τ)
    (s : State τ slaResultsTable SLAResult) : Prop :=
  ((s.session t).isOpen = true ∧ (s.session u).isOpen = true) ∨ Doomed call o s t ∨
    Doomed call o s u

/-- The step of one of two open calls: both stay open, or one is doomed. -/
theorem clash_of_open (h : CreateInvariant call o s) (hcall : ∀ t, (call t).payload.outageId = o)
    (htu : u ≠ t) (hopen : (s.session u).isOpen = true) (hstep : step s t = some s') :
    Clash call o t u s' := by
  have hsame := step_other hstep htu
  rcases create_effect h hcall hstep with ⟨-, hself⟩ | ⟨hinserts, i, hnew, hrows⟩
  · rcases hself with hself | hfailed
    · exact .inl ⟨hself, by rw [hsame]; exact hopen⟩
    · exact .inr (.inl (.inl hfailed))
  · exact .inr (.inr (doomed_of_commit h hcall hinserts hnew hrows htu hsame hopen))

theorem Clash.step (h : CreateInvariant call o s) (hcall : ∀ t, (call t).payload.outageId = o)
    {v : τ} (htu : u ≠ t) (hstep : step s v = some s') (hclash : Clash call o t u s) :
    Clash call o t u s' := by
  rcases hclash with ⟨ht, hu⟩ | ht | hu
  · by_cases hvt : v = t
    · rw [hvt] at hstep
      exact clash_of_open h hcall htu hu hstep
    · by_cases hvu : v = u
      · rw [hvu] at hstep
        rcases clash_of_open h hcall htu.symm ht hstep with hboth | hd | hd
        · exact .inl hboth.symm
        · exact .inr (.inr hd)
        · exact .inr (.inl hd)
      · -- a third call: its commit dooms both
        have htsame := step_other hstep (Ne.symm hvt)
        have husame := step_other hstep (Ne.symm hvu)
        rcases create_effect h hcall hstep with - | ⟨hinserts, i, hnew, hrows⟩
        · refine .inl ?_
          rw [htsame, husame]
          exact ⟨ht, hu⟩
        · exact .inr (.inl
            (doomed_of_commit h hcall hinserts hnew hrows (Ne.symm hvt) htsame ht))
  · exact .inr (.inl (ht.step h hcall hstep))
  · exact .inr (.inr (hu.step h hcall hstep))

theorem Clash.not_allCreated (h : CreateInvariant call o s) (hclash : Clash call o t u s) :
    ¬ AllCreated call o s := by
  intro hall
  have hreturned : ∀ v, ∃ result, s.session v = { control := .ended (some result) } := by
    intro v
    obtain ⟨i, -, hret, -⟩ := hall.stored v
    unfold ReturnedRow at hret
    have hstage := h.stage v
    generalize s.session v = x at hstage hret
    cases hstage with
    | ended result =>
      rw [show result = some _ from Control.ended.inj hret]
      exact ⟨_, rfl⟩
    | idle => cases hret
    | selecting => cases hret
    | found => cases hret
    | ready => cases hret
    | numbered => cases hret
    | inserted => cases hret
  -- a stale call is open, a failed one has returned nothing
  have hnotDoomed : ∀ v, ¬ Doomed call o s v := by
    intro v hdoomed
    obtain ⟨result, hv⟩ := hreturned v
    rcases hdoomed with hended | ⟨-, hstale⟩
    · rw [hv] at hended
      cases hended
    · have hopen := hstale.isOpen
      rw [hv] at hopen
      cases hopen
  rcases hclash with ⟨ht, -⟩ | ht | hu
  · obtain ⟨result, hv⟩ := hreturned t
    rw [hv] at ht
    cases ht
  · exact hnotDoomed t ht
  · exact hnotDoomed u hu

/-! ## What a run obeys -/

theorem CreateInvariant.init {db : Db} (h : db.WellFormed) :
    CreateInvariant call o (creations db call) where
  stage t := .idle
  ids := by
    have hids := h.sla.pkey
    rwa [List.filterMap_eq_map'] at hids
  unique a ha b hb haeff hbeff := effective_unique h.sla ha hb haeff hbeff
  exclusive t u ht := absurd rfl ht
  sole t u ht := absurd rfl ht

/-- **Concurrent calls for one outage.** When no call can go on, all of them have returned, their
rows are stored and one of these is effective, exactly if no transaction was opened while another
one was open. -/
theorem concurrent_create_iff [Nonempty τ] {db : Db} (h : db.WellFormed)
    (hout : o ∈ db.outageIds) (hcall : ∀ t, (call t).payload.outageId = o)
    {steps : List (State τ slaResultsTable SLAResult × τ)} {s : State τ slaResultsTable SLAResult}
    (hrun : ReadCommitted.Run τ slaResultsTable SLAResult (creations db call) steps s)
    (hstuck : Stuck s) : AllCreated call o s ↔ Serial steps := by
  refine ⟨?_, fun hserial => allCreated_of_serial h hout hcall hrun hserial hstuck⟩
  intro hall x hx hbegins u
  have hinv : ∀ s steps, ReadCommitted.Run τ slaResultsTable SLAResult (creations db call) steps s →
      CreateInvariant call o s := fun s steps hrun =>
    Runs.Run.invariant (.init h) (fun _ _ _ hs hstep => hs.step hcall hstep) hrun
  rw [← Bool.not_eq_true]
  intro hopen
  obtain ⟨before, t⟩ := x
  have hut : u ≠ t := by
    intro hut
    rw [hut, show (before.session t).isOpen = false from hbegins] at hopen
    cases hopen
  -- the run goes on from the step at which `t` opens its transaction, with `u`'s open
  obtain ⟨l₁, l₂, rfl⟩ := List.append_of_mem hx
  obtain ⟨after, hpre, hstep, hpost⟩ := Runs.Run.split hrun
  have hbefore := hinv before l₁ hpre
  have hclash : CreateInvariant call o s ∧ Clash call o t u s := by
    refine Runs.Run.invariant (I := fun s => CreateInvariant call o s ∧ Clash call o t u s)
      ⟨hbefore.step hcall hstep, clash_of_open hbefore hcall hut hopen hstep⟩ ?_ hpost
    intro s₁ v s₂ hs hv
    exact ⟨hs.1.step hcall hv, hs.2.step hs.1 hcall hut hv⟩
  exact hclash.2.not_allCreated hclash.1 hall

end Calls

/-! ## Two calls -/

def storedOutage1 : Db := (storeOutage outage1 {}).2

def settledOnce1 : Db := (create lateResult 0 storedOutage1).2

theorem storedOutage1_wellFormed : storedOutage1.WellFormed := by
  obtain ⟨outages, heq, -, hwf⟩ := storeOutage_eq SlaInvariant.empty.wellFormed outage1
  unfold storedOutage1
  rw [heq]
  exact hwf

def twoCalls : Bool → CreateCall := fun _ => ⟨lateResult, 0⟩

def oneAfterTheOther : List Bool :=
  List.replicate 5 false ++ List.replicate 6 true

theorem concurrent_create_one_after_the_other :
    ∃ steps s, ReadCommitted.Run Bool slaResultsTable SLAResult (creations storedOutage1 twoCalls)
      steps s ∧ Stuck s ∧ AllCreated twoCalls "outage-1" s := by
  have hfollow : ((follow (creations storedOutage1 twoCalls) oneAfterTheOther).any
      fun rest => decide (Serial rest.1 ∧ Stuck rest.2)) = true := by
    decide +kernel
  obtain ⟨rest, hrest, hboth⟩ := (Option.any_eq_true _ _).mp hfollow
  obtain ⟨hserial, hstuck⟩ := of_decide_eq_true hboth
  exact ⟨rest.1, rest.2, follow_run hrest, hstuck,
    (concurrent_create_iff storedOutage1_wellFormed (by decide +kernel) (fun _ => rfl)
      (follow_run hrest) hstuck).mpr hserial⟩

def bothSelect : List Bool :=
  [false, true] ++ List.replicate 4 false ++ List.replicate 3 true

/-- With an effective row: the second call waits for its lock. -/
def bothSelectEffective : List Bool :=
  [false, true] ++ List.replicate 5 false ++ List.replicate 4 true

/-- On a table without an effective row, and on one with one, the second call fails. -/
theorem concurrent_create_overlapping :
    (∃ steps s, ReadCommitted.Run Bool slaResultsTable SLAResult (creations storedOutage1 twoCalls)
        steps s ∧ Stuck s ∧ ¬ AllCreated twoCalls "outage-1" s) ∧
      ∃ steps s, ReadCommitted.Run Bool slaResultsTable SLAResult (creations settledOnce1 twoCalls)
        steps s ∧ Stuck s ∧ ¬ AllCreated twoCalls "outage-1" s := by
  have hfails : ∀ s : State Bool slaResultsTable SLAResult, (s.session true).failed = true →
      ¬ AllCreated twoCalls "outage-1" s := by
    intro s hfailed hall
    obtain ⟨i, -, hret, -⟩ := hall.stored true
    unfold Session.failed at hfailed
    rw [show (s.session true).control = _ from hret] at hfailed
    cases hfailed
  have hempty : ((follow (creations storedOutage1 twoCalls) bothSelect).any
      fun rest => decide (Stuck rest.2 ∧ (rest.2.session true).failed = true)) = true := by
    decide +kernel
  have heffective : ((follow (creations settledOnce1 twoCalls) bothSelectEffective).any
      fun rest => decide (Stuck rest.2 ∧ (rest.2.session true).failed = true)) = true := by
    decide +kernel
  obtain ⟨rest, hrest, hboth⟩ := (Option.any_eq_true _ _).mp hempty
  obtain ⟨rest', hrest', hboth'⟩ := (Option.any_eq_true _ _).mp heffective
  obtain ⟨hstuck, hfailed⟩ := of_decide_eq_true hboth
  obtain ⟨hstuck', hfailed'⟩ := of_decide_eq_true hboth'
  exact ⟨⟨rest.1, rest.2, follow_run hrest, hstuck, hfails _ hfailed⟩,
    ⟨rest'.1, rest'.2, follow_run hrest', hstuck', hfails _ hfailed'⟩⟩

end NocIq
