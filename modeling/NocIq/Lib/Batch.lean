import Mathlib.Data.List.Nodup

/-!
# Batch — work on the rows of a table, one after another

A job goes through some keys of a table and puts a new row in the place of each row it finds, until
it is done or one of the rows stops it (`forEach`). On the way it gives output.

* **`lookup_forEach_cases`** — a row is as it was, or what the work has made of it.
* **`forEach_forall_iff`** — a property of the rows that the row which stops it does not have.
* **`exists_of_mem_output`** — all output comes from rows that were there.
-/

namespace Batch

variable {κ ρ ω : Type} [DecidableEq κ] {key : ρ → κ}

/-! ## Rows by their keys -/

def lookup (key : ρ → κ) (rows : List ρ) (k : κ) : Option ρ := rows.find? fun r => decide (key r = k)

def put (key : ρ → κ) (row : ρ) (rows : List ρ) : List ρ :=
  rows.map fun r => if key r = key row then row else r

variable {r : ρ}

theorem lookup_eq_some {rows : List ρ} {k : κ} (h : lookup key rows k = some r) :
    r ∈ rows ∧ key r = k :=
  ⟨List.mem_of_find?_eq_some h, by simpa using List.find?_some h⟩

theorem lookup_of_mem {rows : List ρ} (h : (rows.map key).Nodup) (hr : r ∈ rows) :
    lookup key rows (key r) = some r := by
  induction rows with
  | nil => cases hr
  | cons a rows ih =>
    rw [List.map_cons, List.nodup_cons] at h
    unfold lookup
    rw [List.find?_cons]
    rcases List.mem_cons.mp hr with rfl | hr
    · simp
    · have hne : key a ≠ key r := by
        intro heq
        exact h.1 (heq ▸ List.mem_map_of_mem hr)
      simp only [hne, decide_false]
      exact ih h.2 hr

theorem keys_put (row : ρ) (rows : List ρ) : (put key row rows).map key = rows.map key := by
  unfold put
  rw [List.map_map]
  apply List.map_congr_left
  intro r _
  show key (if key r = key row then row else r) = key r
  split
  · rename_i h
    exact h.symm
  · rfl

theorem put_self {rows : List ρ} (h : (rows.map key).Nodup) {row : ρ} (hrow : row ∈ rows) :
    put key row rows = rows := by
  have hsame : ∀ r ∈ rows, (if key r = key row then row else r) = r := by
    intro r hr
    split
    · rename_i heq
      exact List.inj_on_of_nodup_map h hrow hr heq.symm
    · rfl
  exact (List.map_congr_left hsame).trans (List.map_id' rows)

theorem put_put {row row' : ρ} (h : key row = key row') (rows : List ρ) :
    put key row' (put key row rows) = put key row' rows := by
  unfold put
  rw [List.map_map]
  apply List.map_congr_left
  intro r _
  show (if key (if key r = key row then row else r) = key row' then row' else _) = _
  by_cases hr : key r = key row
  · simp [hr, h]
  · simp [hr]

theorem put_of_notMem {row : ρ} {rows : List ρ} (h : key row ∉ rows.map key) :
    put key row rows = rows := by
  have hsame : ∀ r ∈ rows, (if key r = key row then row else r) = r := by
    intro r hr
    refine if_neg ?_
    intro heq
    exact h (heq ▸ List.mem_map_of_mem hr)
  exact (List.map_congr_left hsame).trans (List.map_id' rows)

theorem countP_put {rows : List ρ} (h : (rows.map key).Nodup) {row row' : ρ} (hrow : row ∈ rows)
    (hkey : key row' = key row) (f : ρ → Bool) :
    (put key row' rows).countP f + (if f row then 1 else 0) =
      rows.countP f + (if f row' then 1 else 0) := by
  induction rows with
  | nil => cases hrow
  | cons a rows ih =>
    rw [List.map_cons, List.nodup_cons] at h
    have hcons : put key row' (a :: rows) =
        (if key a = key row' then row' else a) :: put key row' rows := rfl
    rw [hcons, List.countP_cons, List.countP_cons]
    rcases List.mem_cons.mp hrow with rfl | hrow
    · rw [if_pos hkey.symm, put_of_notMem (hkey ▸ h.1)]
      omega
    · have hne : key a ≠ key row' := by
        intro heq
        exact h.1 (heq.trans hkey ▸ List.mem_map_of_mem hrow)
      rw [if_neg hne]
      have hrest := ih h.2 hrow
      omega

theorem lookup_put (row : ρ) (rows : List ρ) (k : κ) :
    lookup key (put key row rows) k =
      if k = key row then (lookup key rows k).map fun _ => row else lookup key rows k := by
  unfold lookup put
  induction rows with
  | nil => split <;> rfl
  | cons r rows ih =>
    rw [List.map_cons, List.find?_cons, List.find?_cons]
    by_cases hr : key r = key row
    · simp only [hr, if_true]
      by_cases hk : k = key row
      · simp [hk]
      · have hne : ¬ key row = k := fun h => hk h.symm
        simp only [hne, decide_false]
        rw [ih, if_neg hk]
    · simp only [hr, if_false]
      by_cases hk : key r = k
      · have hne : ¬ k = key row := by
          intro h
          exact hr (hk.trans h)
        simp [hk, hne]
      · simp only [hk, decide_false]
        exact ih

/-! ## The job -/

/-- What the work on a row comes to: the new row, the output, and whether the job goes on. -/
structure Effect (ρ ω : Type) where
  row : ρ
  output : List ω := []
  goesOn : Bool := true

structure Outcome (ρ ω : Type) where
  rows : List ρ
  output : List ω
  goesOn : Bool

/-- The work on the rows of the keys, in their order. A key without a row is passed over. -/
def forEach (key : ρ → κ) (work : ρ → Effect ρ ω) : List κ → List ρ → Outcome ρ ω
  | [], rows => ⟨rows, [], true⟩
  | k :: ks, rows =>
    match lookup key rows k with
    | none => forEach key work ks rows
    | some r =>
      if (work r).goesOn then
        let rest := forEach key work ks (put key (work r).row rows)
        { rest with output := (work r).output ++ rest.output }
      else ⟨put key (work r).row rows, (work r).output, false⟩

variable {work : ρ → Effect ρ ω} {ks : List κ} {rows : List ρ} {k : κ}

theorem forEach_none (h : lookup key rows k = none) :
    forEach key work (k :: ks) rows = forEach key work ks rows := by
  rw [forEach, h]

theorem forEach_goesOn (h : lookup key rows k = some r) (hgo : (work r).goesOn = true) :
    forEach key work (k :: ks) rows =
      { forEach key work ks (put key (work r).row rows) with
        output := (work r).output ++ (forEach key work ks (put key (work r).row rows)).output } := by
  rw [forEach, h]
  exact if_pos hgo

theorem forEach_stops (h : lookup key rows k = some r) (hstop : (work r).goesOn = false) :
    forEach key work (k :: ks) rows = ⟨put key (work r).row rows, (work r).output, false⟩ := by
  rw [forEach, h]
  exact if_neg (Bool.eq_false_iff.mp hstop)

theorem forEach_singleton (h : lookup key rows k = some r) :
    forEach key work [k] rows =
      ⟨put key (work r).row rows, (work r).output, (work r).goesOn⟩ := by
  cases hgo : (work r).goesOn with
  | true =>
    rw [forEach_goesOn h hgo]
    simp [forEach]
  | false => exact forEach_stops h hgo

theorem keys_forEach : (forEach key work ks rows).rows.map key = rows.map key := by
  induction ks generalizing rows with
  | nil => rfl
  | cons k ks ih =>
    cases h : lookup key rows k with
    | none =>
      rw [forEach_none h]
      exact ih
    | some r =>
      cases hgo : (work r).goesOn with
      | true =>
        rw [forEach_goesOn h hgo]
        exact ih.trans (keys_put _ _)
      | false =>
        rw [forEach_stops h hgo]
        exact keys_put _ _

theorem lookup_forEach_of_notMem (hkey : ∀ r, key (work r).row = key r) (hk : k ∉ ks) :
    lookup key (forEach key work ks rows).rows k = lookup key rows k := by
  induction ks generalizing rows with
  | nil => rfl
  | cons k' ks ih =>
    rw [List.mem_cons, not_or] at hk
    cases h : lookup key rows k' with
    | none =>
      rw [forEach_none h]
      exact ih hk.2
    | some r =>
      have hne : ¬ k = key (work r).row := by
        rw [hkey, (lookup_eq_some h).2]
        exact hk.1
      have hput : lookup key (put key (work r).row rows) k = lookup key rows k := by
        rw [lookup_put, if_neg hne]
      cases hgo : (work r).goesOn with
      | true =>
        rw [forEach_goesOn h hgo]
        exact (ih hk.2).trans hput
      | false =>
        rw [forEach_stops h hgo]
        exact hput

theorem lookup_put_work (hkey : ∀ r, key (work r).row = key r) (h : lookup key rows k = some r) :
    lookup key (put key (work r).row rows) k = some (work r).row := by
  rw [lookup_put, if_pos, h]
  · rfl
  · rw [hkey, (lookup_eq_some h).2]

theorem lookup_put_other (hkey : ∀ r, key (work r).row = key r) (h : lookup key rows k = some r)
    {k' : κ} (hne : k' ≠ k) : lookup key (put key (work r).row rows) k' = lookup key rows k' := by
  rw [lookup_put, if_neg]
  rw [hkey, (lookup_eq_some h).2]
  exact hne

theorem forEach_filterMap {ω' : Type} (f : ω → Option ω') :
    forEach key
        (fun r => ⟨(work r).row, (work r).output.filterMap f, (work r).goesOn⟩) ks rows =
      { rows := (forEach key work ks rows).rows
        output := (forEach key work ks rows).output.filterMap f
        goesOn := (forEach key work ks rows).goesOn } := by
  induction ks generalizing rows with
  | nil => rfl
  | cons k ks ih =>
    cases h : lookup key rows k with
    | none => rw [forEach_none h, forEach_none h, ih]
    | some r =>
      cases hgo : (work r).goesOn with
      | true => simp [forEach, h, hgo, ih]
      | false => simp [forEach, h, hgo]

/-- **A row and its output.** A row is as it was and nothing of the output is its own, or its key
has come up, it is what the work has made of it, and its own part of the output is what that work
gave. -/
theorem lookup_forEach_output (hkey : ∀ r, key (work r).row = key r) (hnodup : ks.Nodup)
    {owner : ω → κ} (howner : ∀ r, ∀ o ∈ (work r).output, owner o = key r) (k : κ) :
    (lookup key (forEach key work ks rows).rows k = lookup key rows k ∧
        (forEach key work ks rows).output.filter (fun o => decide (owner o = k)) = []) ∨
      k ∈ ks ∧ ∃ r, lookup key rows k = some r ∧
        lookup key (forEach key work ks rows).rows k = some (work r).row ∧
        (forEach key work ks rows).output.filter (fun o => decide (owner o = k)) =
          (work r).output := by
  induction ks generalizing rows with
  | nil => exact .inl ⟨rfl, rfl⟩
  | cons k' ks ih =>
    obtain ⟨hk', hks⟩ := List.nodup_cons.mp hnodup
    cases h : lookup key rows k' with
    | none =>
      rw [forEach_none h]
      rcases ih hks with hsame | ⟨hmem, hwork⟩
      · exact .inl hsame
      · exact .inr ⟨List.mem_cons_of_mem _ hmem, hwork⟩
    | some r =>
      have howned : ∀ o ∈ (work r).output, owner o = k' := fun o ho =>
        (howner r o ho).trans (lookup_eq_some h).2
      by_cases hk : k = k'
      · subst hk
        have hall : (work r).output.filter (fun o => decide (owner o = k)) = (work r).output :=
          List.filter_eq_self.mpr fun o ho => decide_eq_true (howned o ho)
        refine .inr ⟨List.mem_cons_self, r, h, ?_⟩
        cases hgo : (work r).goesOn with
        | false =>
          rw [forEach_stops h hgo]
          exact ⟨lookup_put_work hkey h, hall⟩
        | true =>
          rw [forEach_goesOn h hgo]
          -- the key does not come up again
          rcases ih hks with ⟨hsame, hnone⟩ | ⟨hmem, -⟩
          · refine ⟨hsame.trans (lookup_put_work hkey h), ?_⟩
            dsimp only
            rw [List.filter_append, hall, hnone, List.append_nil]
          · exact absurd hmem hk'
      · have hput := lookup_put_other hkey h hk
        have hnone : (work r).output.filter (fun o => decide (owner o = k)) = [] := by
          rw [List.filter_eq_nil_iff]
          intro o ho
          have hne : owner o ≠ k := fun heq => hk (heq.symm.trans (howned o ho))
          simpa using hne
        cases hgo : (work r).goesOn with
        | false =>
          rw [forEach_stops h hgo]
          exact .inl ⟨hput, hnone⟩
        | true =>
          rw [forEach_goesOn h hgo]
          dsimp only
          rw [List.filter_append, hnone, List.nil_append]
          rcases ih hks with ⟨hsame, hrest⟩ | ⟨hmem, r', hr', hwork⟩
          · exact .inl ⟨hsame.trans hput, hrest⟩
          · exact .inr ⟨List.mem_cons_of_mem _ hmem, r', hput ▸ hr', hwork⟩

/-- **A row is as it was**, or its key has come up and it is what the work has made of it. -/
theorem lookup_forEach_cases (hkey : ∀ r, key (work r).row = key r) (hnodup : ks.Nodup) (k : κ) :
    lookup key (forEach key work ks rows).rows k = lookup key rows k ∨
      k ∈ ks ∧ ∃ r, lookup key rows k = some r ∧
        lookup key (forEach key work ks rows).rows k = some (work r).row := by
  -- the same work without its output, which then has no owner to be known
  let silent : ρ → Effect ρ Empty := fun r =>
    ⟨(work r).row, (work r).output.filterMap fun _ => none, (work r).goesOn⟩
  have hrows : (forEach key silent ks rows).rows = (forEach key work ks rows).rows := by
    show (forEach key (fun r => ⟨_, _, _⟩) ks rows).rows = _
    rw [forEach_filterMap]
  rw [← hrows]
  rcases @lookup_forEach_output κ ρ Empty _ key silent ks rows hkey hnodup Empty.elim
    (fun _ o => o.elim) k with ⟨hsame, -⟩ | ⟨hmem, r, hr, hmade, -⟩
  · exact .inl hsame
  · exact .inr ⟨hmem, r, hr, hmade⟩

theorem lookup_forEach_of_goesOn (hkey : ∀ r, key (work r).row = key r) (hnodup : ks.Nodup)
    (hgoes : (forEach key work ks rows).goesOn = true) {k : κ} (hk : k ∈ ks)
    (hr : lookup key rows k = some r) :
    lookup key (forEach key work ks rows).rows k = some (work r).row := by
  induction ks generalizing rows with
  | nil => cases hk
  | cons k' ks ih =>
    obtain ⟨hk', hks⟩ := List.nodup_cons.mp hnodup
    cases h : lookup key rows k' with
    | none =>
      rw [forEach_none h] at hgoes ⊢
      refine ih hks hgoes ?_ hr
      refine List.mem_of_ne_of_mem ?_ hk
      intro heq
      rw [heq, h] at hr
      cases hr
    | some r' =>
      cases hgo : (work r').goesOn with
      | true =>
        rw [forEach_goesOn h hgo] at hgoes ⊢
        rcases List.mem_cons.mp hk with rfl | hmem
        · obtain rfl := Option.some.inj (h.symm.trans hr)
          exact (lookup_forEach_of_notMem hkey hk').trans (lookup_put_work hkey h)
        · have hne : k ≠ k' := fun heq => hk' (heq ▸ hmem)
          exact ih hks hgoes hmem ((lookup_put_other hkey h hne).trans hr)
      | false =>
        rw [forEach_stops h hgo] at hgoes
        cases hgoes

theorem exists_stopped (hkey : ∀ r, key (work r).row = key r) (hnodup : ks.Nodup)
    (hstop : (forEach key work ks rows).goesOn = false) :
    ∃ k ∈ ks, ∃ r, lookup key rows k = some r ∧ (work r).goesOn = false ∧
      lookup key (forEach key work ks rows).rows k = some (work r).row := by
  induction ks generalizing rows with
  | nil => cases hstop
  | cons k ks ih =>
    obtain ⟨hk, hks⟩ := List.nodup_cons.mp hnodup
    cases h : lookup key rows k with
    | none =>
      rw [forEach_none h] at hstop ⊢
      obtain ⟨k', hk', hr'⟩ := ih hks hstop
      exact ⟨k', List.mem_cons_of_mem _ hk', hr'⟩
    | some r =>
      cases hgo : (work r).goesOn with
      | true =>
        rw [forEach_goesOn h hgo] at hstop ⊢
        obtain ⟨k', hk', r', hr', hstopped, hlast⟩ := ih hks hstop
        have hne : k' ≠ k := by
          intro heq
          exact hk (heq ▸ hk')
        refine ⟨k', List.mem_cons_of_mem _ hk', r', ?_, hstopped, hlast⟩
        rwa [lookup_put_other hkey h hne] at hr'
      | false =>
        rw [forEach_stops h hgo]
        exact ⟨k, List.mem_cons_self, r, h, hgo, lookup_put_work hkey h⟩

/-! ### Properties of the rows -/

theorem forEach_forall {P : ρ → Prop} (hkey : ∀ r, key (work r).row = key r) (hnodup : ks.Nodup)
    (hbefore : ∀ k r, lookup key rows k = some r → P r)
    (hwork : ∀ k ∈ ks, ∀ r, lookup key rows k = some r → P (work r).row) :
    ∀ k r, lookup key (forEach key work ks rows).rows k = some r → P r := by
  intro k r hr
  rcases lookup_forEach_cases hkey hnodup k with hsame | ⟨hk, r', hr', hmade⟩
  · exact hbefore k r (hsame.symm.trans hr)
  · obtain rfl := Option.some.inj (hmade.symm.trans hr)
    exact hwork k hk r' hr'

/-- **A property that stopping breaks**: it holds of all rows afterwards exactly if the work gives
it to every row. -/
theorem forEach_forall_iff {P : ρ → Prop} (hkey : ∀ r, key (work r).row = key r)
    (hnodup : ks.Nodup) (hbefore : ∀ k r, lookup key rows k = some r → P r)
    (hstops : ∀ k ∈ ks, ∀ r, lookup key rows k = some r → P (work r).row →
      (work r).goesOn = true) :
    (∀ k r, lookup key (forEach key work ks rows).rows k = some r → P r) ↔
      ∀ k ∈ ks, ∀ r, lookup key rows k = some r → P (work r).row := by
  refine ⟨?_, forEach_forall hkey hnodup hbefore⟩
  intro hafter k hk r hr
  have hgoes : (forEach key work ks rows).goesOn = true := by
    by_contra hnot
    obtain ⟨k', hk', r', hr', hstopped, hmade⟩ :=
      exists_stopped hkey hnodup (Bool.eq_false_iff.mpr hnot)
    rw [hstops k' hk' r' hr' (hafter k' _ hmade)] at hstopped
    cases hstopped
  exact hafter k _ (lookup_forEach_of_goesOn hkey hnodup hgoes hk hr)

/-! ### Output -/

theorem forEach_goesOn_iff (hkey : ∀ r, key (work r).row = key r) (hnodup : ks.Nodup) :
    (forEach key work ks rows).goesOn = true ↔
      ∀ k ∈ ks, ∀ r, lookup key rows k = some r → (work r).goesOn = true := by
  induction ks generalizing rows with
  | nil => simp [forEach]
  | cons k ks ih =>
    obtain ⟨hk, hks⟩ := List.nodup_cons.mp hnodup
    rw [List.forall_mem_cons]
    cases h : lookup key rows k with
    | none =>
      rw [forEach_none h, ih hks]
      simp
    | some r =>
      cases hgo : (work r).goesOn with
      | true =>
        have hothers : ∀ k' ∈ ks, lookup key (put key (work r).row rows) k' = lookup key rows k' := by
          intro k' hk'
          exact lookup_put_other hkey h fun heq => hk (heq ▸ hk')
        rw [forEach_goesOn h hgo, ih hks]
        refine Iff.trans ?_ (and_iff_right (by simpa using hgo)).symm
        refine forall₂_congr ?_
        intro k' hk'
        rw [hothers k' hk']
      | false =>
        rw [forEach_stops h hgo]
        simp [hgo]

/-- **All output of work that goes through**: that of the rows as they were before, in order. -/
theorem output_forEach (hkey : ∀ r, key (work r).row = key r) (hnodup : ks.Nodup)
    (hgoes : (forEach key work ks rows).goesOn = true) :
    (forEach key work ks rows).output =
      ks.flatMap fun k => ((lookup key rows k).map fun r => (work r).output).getD [] := by
  induction ks generalizing rows with
  | nil => rfl
  | cons k ks ih =>
    obtain ⟨hk, hks⟩ := List.nodup_cons.mp hnodup
    rw [List.flatMap_cons]
    cases h : lookup key rows k with
    | none =>
      rw [forEach_none h] at hgoes ⊢
      exact ih hks hgoes
    | some r =>
      have hgo : (work r).goesOn = true :=
        (forEach_goesOn_iff hkey hnodup).mp hgoes k List.mem_cons_self r h
      rw [forEach_goesOn h hgo] at hgoes ⊢
      have hrest := ih hks hgoes
      show (work r).output ++ (forEach key work ks (put key (work r).row rows)).output =
        (work r).output ++ _
      rw [hrest]
      congr 1
      apply List.flatMap_congr
      intro k' hk'
      rw [lookup_put_other hkey h fun heq => hk (heq ▸ hk')]

/-- **All output comes from rows that were there.** -/
theorem exists_of_mem_output (hkey : ∀ r, key (work r).row = key r) (hnodup : ks.Nodup) {o : ω}
    (ho : o ∈ (forEach key work ks rows).output) :
    ∃ k ∈ ks, ∃ r, lookup key rows k = some r ∧ o ∈ (work r).output := by
  induction ks generalizing rows with
  | nil => cases ho
  | cons k ks ih =>
    obtain ⟨hk, hks⟩ := List.nodup_cons.mp hnodup
    cases h : lookup key rows k with
    | none =>
      rw [forEach_none h] at ho
      obtain ⟨k', hk', hr'⟩ := ih hks ho
      exact ⟨k', List.mem_cons_of_mem _ hk', hr'⟩
    | some r =>
      cases hgo : (work r).goesOn with
      | true =>
        rw [forEach_goesOn h hgo] at ho
        rcases List.mem_append.mp ho with ho | ho
        · exact ⟨k, List.mem_cons_self, r, h, ho⟩
        · obtain ⟨k', hk', r', hr', ho'⟩ := ih hks ho
          have hne : k' ≠ k := by
            intro heq
            exact hk (heq ▸ hk')
          rw [lookup_put_other hkey h hne] at hr'
          exact ⟨k', List.mem_cons_of_mem _ hk', r', hr', ho'⟩
      | false =>
        rw [forEach_stops h hgo] at ho
        exact ⟨k, List.mem_cons_self, r, h, ho⟩

end Batch
