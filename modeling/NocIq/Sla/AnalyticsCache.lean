import NocIq.Sla.CachedAnalytics

/-!
# NocIq — the analytics cache over runs

Settlements, disputes and analytics requests, one after the other. A settlement invalidates the
cache; the dispute requests do not, though `create_proposed_sla` inserts a row that the aggregations
count.

* **`AnalyticsWorld.step_invariant`** — the cache is what its record says, and what a key was given
  is the aggregate of the request that stored it, before the rows inserted since.
* **`analytics_served_live`** — so an answer from the cache whose entry was stored for the same
  filters is the live aggregate exactly if none of its rows was inserted since.
-/

namespace NocIq

open SLARepository

/-! ## What the aggregations see of the database -/

def Db.unflagged (db : Db) : Db where
  outages := db.outages
  slaResults := db.slaResults.map unflag

def Db.grow (db : Db) (inserted : List SLAResultORM) : Db :=
  { db with slaResults := db.slaResults ++ inserted.map unflag }

theorem Db.foldl_grow (db : Db) (changes : List (List SLAResultORM)) :
    changes.foldl Db.grow db
      = { db with slaResults := db.slaResults ++ changes.flatten.map unflag } := by
  induction changes generalizing db with
  | nil =>
    show db = { db with slaResults := db.slaResults ++ [] }
    rw [List.append_nil]
  | cons inserted changes ih =>
    rw [List.foldl_cons, ih, List.flatten_cons, List.map_append, ← List.append_assoc]
    rfl

namespace AnalyticsRequest

variable {env : AnalyticsEnv} {req : AnalyticsRequest} {db : Db} {value : Analytics}

theorem filteredRows_unflagged (req : AnalyticsRequest) (db : Db) :
    req.filteredRows db.unflagged = (req.filteredRows db).map unflag := by
  have hrows : ∀ severity siteId : Option String,
      kpiRows severity siteId db.unflagged = (kpiRows severity siteId db).map unflag := by
    intro severity siteId
    exact kpiRows_map severity siteId db fun _ => rfl
  cases req with
  | dashboard severity siteId site => exact hrows _ _
  | trends query => exact hrows _ _

theorem live_unflagged (env : AnalyticsEnv) (req : AnalyticsRequest) (db : Db) :
    req.live env db.unflagged = req.live env db := by
  have hrows := filteredRows_unflagged req db
  cases req with
  | dashboard severity siteId site =>
    have hkpi : kpiRows severity (resolvedSite siteId site) db.unflagged
        = (kpiRows severity (resolvedSite siteId site) db).map unflag := hrows
    unfold live aggregateDashboardKpis
    dsimp only
    rw [hkpi, dashboardOf_unflag]
  | trends query =>
    have hkpi : kpiRows query.severity (resolvedSite query.siteId query.site) db.unflagged
        = (kpiRows query.severity (resolvedSite query.siteId query.site) db).map unflag := hrows
    unfold live aggregateTrends
    dsimp only
    rw [hkpi, trendsOf_unflag]

theorem countedRows_unflagged (env : AnalyticsEnv) (req : AnalyticsRequest) (db : Db) :
    req.countedRows env db.unflagged = (req.countedRows env db).map unflag := by
  have hrows := filteredRows_unflagged req db
  cases req with
  | dashboard severity siteId site => exact hrows
  | trends query =>
    have hbucket : ∀ r, bucketOf env query.bucket query.tz (unflag r)
        = bucketOf env query.bucket query.tz r := fun _ => rfl
    show Groups.selected query.days _ ((trends query).filteredRows db.unflagged)
      = (Groups.selected query.days _ ((trends query).filteredRows db)).map unflag
    rw [hrows]
    unfold Groups.selected
    rw [Groups.newest_map hbucket, List.filter_map]
    rfl

end AnalyticsRequest

/-! ## Runs -/

inductive AnalyticsCall where
  | settle (env : SettleEnv) (outageId : String) (sla : SLAResult)
  | dispute (req : DisputeRequest)
  | get (req : AnalyticsRequest)

/-- What is settled has just been calculated, so it has no id. -/
def AnalyticsCall.Calculated : AnalyticsCall → Prop
  | .settle _ _ sla => sla.id = none
  | .dispute _ => True
  | .get _ => True

instance (call : AnalyticsCall) : Decidable call.Calculated := by
  cases call <;> unfold AnalyticsCall.Calculated <;> infer_instance

/-- A request, and the clock when it starts and when it has completed. -/
structure AnalyticsEvent where
  call : AnalyticsCall
  startedAt : ℚ
  finishedAt : ℚ

/-- A request that has completed, the database it left, and whether it changed SLA rows. -/
structure Completed where
  time : ℚ
  db : Db
  changed : Bool

/-- The server, what has completed, and the record of the cache, both newest first. -/
structure AnalyticsWorld where
  initial : Db
  clock : ℚ
  server : AnalyticsServer
  completed : List Completed
  events : List (ReadThrough.Event AnalyticsRequest String Analytics (List SLAResultORM) ℚ)

namespace AnalyticsWorld

def start (db : Db) (clock : ℚ) : AnalyticsWorld where
  initial := db
  clock
  server := { db, cache := fun _ => none }
  completed := []
  events := []

def dbAt (w : AnalyticsWorld) (t : ℚ) : Db :=
  match w.completed.find? fun c => decide (c.time ≤ t) with
  | some c => c.db
  | none => w.initial

def record (w : AnalyticsWorld) (time : ℚ) (server : AnalyticsServer)
    (events : List (ReadThrough.Event AnalyticsRequest String Analytics (List SLAResultORM) ℚ)) :
    AnalyticsWorld :=
  let changed := decide (server.db.slaResults ≠ w.server.db.slaResults)
  { w with
    clock := time
    server
    completed := { time, db := server.db, changed } :: w.completed
    events := events ++ w.events }

def next (env : AnalyticsEnv) (w : AnalyticsWorld) (e : AnalyticsEvent) : AnalyticsWorld :=
  match e.call with
  | .settle settleEnv outageId sla =>
    let server := (settleInvalidating settleEnv outageId sla w.server).2
    match (createIfChanged sla settleEnv.started w.server.db).1 with
    | .error _ => w.record e.finishedAt server []
    | .ok _ => w.record e.finishedAt server [.invalidated analyticsKey]
  | .dispute req =>
    let db := disputeStep w.server.db req
    let inserted := db.slaResults.drop w.server.db.slaResults.length
    w.record e.finishedAt { w.server with db } [.changed inserted]
  | .get req =>
    let (response, server) := req.serve env e.startedAt e.finishedAt w.server
    w.record e.finishedAt server (ReadThrough.note req e.finishedAt response)

/-- One request after the other. -/
structure Step (env : AnalyticsEnv) (w : AnalyticsWorld) (e : AnalyticsEvent)
    (w' : AnalyticsWorld) : Prop where
  starts : w.clock ≤ e.startedAt
  finishes : e.startedAt ≤ e.finishedAt
  calculated : e.call.Calculated
  eq : w.next env e = w'

abbrev Run (env : AnalyticsEnv) := Runs.Run (Step env)

/-- The value is the live aggregate of the request at some moment of the last 30 seconds, and not
before the last request that changed SLA rows had completed. -/
def LiveRecently (env : AnalyticsEnv) (w : AnalyticsWorld) (now : ℚ) (req : AnalyticsRequest)
    (value : Analytics) : Prop :=
  ∃ t, now - 30 ≤ t ∧ t ≤ now ∧ (∀ c ∈ w.completed, c.changed = true → c.time ≤ t) ∧
    req.live env (w.dbAt t) = .ok value

/-- What the request answers from the cache was live recently. -/
def Transparent (env : AnalyticsEnv) (w : AnalyticsWorld) (req : AnalyticsRequest)
    (readAt storedAt : ℚ) : Prop :=
  ∀ response, (req.serve env readAt storedAt w.server).1 = .ok response → response.xCache = "HIT" →
    w.LiveRecently env readAt req response.value

/-- An entry of the request's key that has not expired was stored for the same filters. -/
def StoredForSame (w : AnalyticsWorld) (req : AnalyticsRequest) (readAt : ℚ) : Prop :=
  ∀ stored ∈ ReadThrough.lastStored AnalyticsRequest.key req.key w.events,
    readAt < stored.time + cacheTtl → stored.req.SameFilters req

/-- No row that is in the requested numbers was inserted, without the cache being told, since the
entry was stored. -/
def NoneInserted (env : AnalyticsEnv) (w : AnalyticsWorld) (req : AnalyticsRequest) (readAt : ℚ) :
    Prop :=
  ∀ stored ∈ ReadThrough.lastStored AnalyticsRequest.key req.key w.events,
    readAt < stored.time + cacheTtl →
      ∀ row ∈ stored.changes.flatten, ∀ counted ∈ req.countedRows env w.server.db,
        counted.id ≠ row.id

end AnalyticsWorld

/-! ## What the requests do -/

theorem disputeStep_unflagged {db : Db} (h : db.WellFormed) (req : DisputeRequest) :
    (disputeStep db req).unflagged
      = db.unflagged.grow ((disputeStep db req).slaResults.drop db.slaResults.length) := by
  have heffect := (disputeStep_effect h req).1
  generalize disputeStep db req = db' at heffect
  have hsame : ∀ db' : Db, db'.outages = db.outages →
      db'.slaResults.map unflag = db.slaResults.map unflag →
      db'.unflagged = db.unflagged.grow (db'.slaResults.drop db.slaResults.length) := by
    intro db' houtages hrows
    have hlength : db'.slaResults.length = db.slaResults.length := by
      have := congrArg List.length hrows
      simpa using this
    unfold Db.unflagged Db.grow
    rw [houtages, hrows, ← hlength, List.drop_length]
    simp
  cases heffect with
  | refused => exact hsame _ rfl rfl
  | flagged => exact hsame _ rfl rfl
  | closed => exact hsame _ rfl rfl
  | proposed log hprop =>
    unfold Db.unflagged Db.grow withProposal
    simp
  | applied log hprop hnewest =>
    refine hsame (withApplied _ _ log db) rfl ?_
    show (db.slaResults.map (promote _ _)).map unflag = _
    rw [List.map_map]
    apply List.map_congr_left
    intro r _
    show unflag (promote _ _ r) = unflag r
    unfold promote demote
    split
    · rfl
    · split
      · rfl
      · rfl

theorem disputeStep_outages {db : Db} (h : db.WellFormed) (req : DisputeRequest) :
    (disputeStep db req).outages = db.outages := by
  have heffect := (disputeStep_effect h req).1
  generalize disputeStep db req = db' at heffect
  cases heffect with
  | refused => rfl
  | flagged => rfl
  | closed => rfl
  | proposed => rfl
  | applied => rfl

theorem settleInvalidating_server (env : SettleEnv) (outageId : String) (sla : SLAResult)
    (s : AnalyticsServer) :
    (settleInvalidating env outageId sla s).2 =
      { db := (settle env outageId sla s.db).2
        cache :=
          match (createIfChanged sla env.started s.db).1 with
          | .error _ => s.cache
          | .ok _ => invalidateAnalyticsCache s.cache } := by
  unfold settleInvalidating settle
  rcases createIfChanged sla env.started s.db with ⟨e | storedSla, db⟩
  · rfl
  · dsimp only
    rcases PaymentRepository.createForSlaResult env.settings env.uuidHex env.now outageId storedSla
      db with ⟨e | payment, db'⟩
    · rfl
    · rfl

theorem settle_of_error {db : Db} (h : db.WellFormed) {env : SettleEnv} {outageId : String}
    {sla : SLAResult} (hid : sla.id = none) {e : Exc}
    (herror : (createIfChanged sla env.started db).1 = .error e) :
    (settle env outageId sla db).2 = { db with slaResultsSeq := db.slaResultsSeq + 1 } := by
  rw [createIfChanged_of_new hid] at herror
  by_cases hout : sla.outageId ∈ db.outageIds
  · rw [create_eq h hout] at herror
    cases herror
  · obtain ⟨name, hname⟩ := settle_unknown_outage h env outageId hid hout
    rw [hname]

theorem settle_outages {db : Db} (h : db.WellFormed) (env : SettleEnv) (outageId : String)
    {sla : SLAResult} (hid : sla.id = none) :
    (settle env outageId sla db).2.outages = db.outages := by
  have houtcome := settle_outcome h env outageId hid
  generalize settle env outageId sla db = outcome at houtcome
  cases houtcome with
  | unknownOutage => rfl
  | unpaid => rfl
  | paid => rfl

namespace AnalyticsWorld

variable {env : AnalyticsEnv} {w w' : AnalyticsWorld} {e : AnalyticsEvent}

/-- What holds between requests. -/
structure Invariant (env : AnalyticsEnv) (w : AnalyticsWorld) : Prop where
  wellFormed : w.server.db.WellFormed
  agrees : ReadThrough.Agrees cacheTtl AnalyticsRequest.key w.server.cache w.events
  traces : ReadThrough.Traces (AnalyticsRequest.live env) Db.grow AnalyticsRequest.key
    w.server.db.unflagged w.events
  completed : ∀ c ∈ w.completed, c.time ≤ w.clock
  outages : ∀ t, (w.dbAt t).outages = w.server.db.outages
  /-- the database of now -/
  present : ∀ t, w.clock ≤ t → w.dbAt t = w.server.db
  /-- no SLA row has changed since the last request that changed one -/
  unchanged : ∀ t, (∀ c ∈ w.completed, c.changed = true → c.time ≤ t) →
    (w.dbAt t).slaResults = w.server.db.slaResults

theorem start_invariant {db : Db} (h : db.WellFormed) (clock : ℚ) :
    (start db clock).Invariant env where
  wellFormed := h
  agrees _ := rfl
  traces := ReadThrough.Traces.nil
  completed c hc := by cases hc
  outages _ := rfl
  present _ _ := rfl
  unchanged _ _ := rfl

theorem dbAt_record (w : AnalyticsWorld) (time : ℚ) (server : AnalyticsServer)
    (events : List (ReadThrough.Event AnalyticsRequest String Analytics (List SLAResultORM) ℚ))
    (t : ℚ) :
    (w.record time server events).dbAt t = if time ≤ t then server.db else w.dbAt t := by
  unfold dbAt record
  dsimp only
  rw [List.find?_cons]
  by_cases ht : time ≤ t
  · rw [if_pos ht, decide_eq_true ht]
  · rw [if_neg ht, decide_eq_false ht]

theorem Invariant.record (h : w.Invariant env) {time : ℚ} (htime : w.clock ≤ time)
    {server : AnalyticsServer}
    {events : List (ReadThrough.Event AnalyticsRequest String Analytics (List SLAResultORM) ℚ)}
    (hwf : server.db.WellFormed) (houtages : server.db.outages = w.server.db.outages)
    (hagrees : ReadThrough.Agrees cacheTtl AnalyticsRequest.key server.cache (events ++ w.events))
    (htraces : ReadThrough.Traces (AnalyticsRequest.live env) Db.grow AnalyticsRequest.key
      server.db.unflagged (events ++ w.events)) :
    (w.record time server events).Invariant env where
  wellFormed := hwf
  agrees := hagrees
  traces := htraces
  completed c hc := by
    rcases List.mem_cons.mp hc with rfl | hc
    · exact le_refl time
    · exact (h.completed c hc).trans htime
  outages t := by
    rw [dbAt_record]
    split
    · rfl
    · rw [h.outages t]
      exact houtages.symm
  present t ht := by
    rw [dbAt_record]
    exact if_pos ht
  unchanged t ht := by
    rw [dbAt_record]
    split
    · rfl
    · rename_i hlater
      -- the request ended after `t`, so it has not changed a row
      have hsame : server.db.slaResults = w.server.db.slaResults := by
        by_contra hne
        exact hlater (ht _ List.mem_cons_self (decide_eq_true hne))
      rw [h.unchanged t fun c hc => ht c (List.mem_cons_of_mem _ hc)]
      exact hsame.symm

theorem Invariant.settle (h : w.Invariant env) {time : ℚ} (htime : w.clock ≤ time)
    (settleEnv : SettleEnv) (outageId : String) {sla : SLAResult} (hid : sla.id = none)
    {startedAt : ℚ} :
    (w.next env ⟨.settle settleEnv outageId sla, startedAt, time⟩).Invariant env := by
  have hwf := (settle_outcome h.wellFormed settleEnv outageId hid).wellFormed h.wellFormed
  have houtages := settle_outages h.wellFormed settleEnv outageId hid
  unfold next
  dsimp only
  rw [settleInvalidating_server]
  cases hcreate : (createIfChanged sla settleEnv.started w.server.db).1 with
  | error e =>
    -- nothing is stored, and nothing invalidated
    refine h.record htime hwf houtages h.agrees ?_
    rw [settle_of_error h.wellFormed hid hcreate]
    exact h.traces
  | ok storedSla =>
    refine h.record htime hwf houtages ?_ ?_
    · rw [invalidateAnalyticsCache_eq]
      exact h.agrees.invalidated analyticsKey
    · exact ReadThrough.Traces.invalidated AnalyticsRequest.analyticsKey_key _ _

theorem Invariant.dispute (h : w.Invariant env) {time : ℚ} (htime : w.clock ≤ time)
    (req : DisputeRequest) {startedAt : ℚ} :
    (w.next env ⟨.dispute req, startedAt, time⟩).Invariant env := by
  refine h.record htime (disputeStep_effect h.wellFormed req).2
    (disputeStep_outages h.wellFormed req) (h.agrees.changed _) ?_
  show ReadThrough.Traces _ _ _ (disputeStep w.server.db req).unflagged (.changed _ :: w.events)
  rw [disputeStep_unflagged h.wellFormed req]
  exact h.traces.changed _

theorem Invariant.get (h : w.Invariant env) (req : AnalyticsRequest) {startedAt finishedAt : ℚ}
    (hfinished : w.clock ≤ finishedAt) :
    (w.next env ⟨.get req, startedAt, finishedAt⟩).Invariant env := by
  unfold next
  dsimp only
  rcases req.serve_eq env startedAt finishedAt w.server with ⟨⟨e, hserve⟩, -⟩ | hserve
  · rw [hserve]
    exact h.record hfinished h.wellFormed rfl h.agrees h.traces
  · rw [hserve]
    refine h.record hfinished h.wellFormed rfl (h.agrees.serve req startedAt finishedAt _) ?_
    apply h.traces.note
    intro value hvalue
    rw [AnalyticsRequest.live_unflagged]
    exact ReadThrough.serve_computed hvalue

/-- **One request.** -/
theorem step_invariant (h : w.Invariant env) (hstep : Step env w e w') : w'.Invariant env := by
  obtain ⟨call, startedAt, finishedAt⟩ := e
  obtain ⟨hstarts, hfinishes, hcalculated, rfl⟩ := hstep
  have hclock : w.clock ≤ finishedAt := hstarts.trans hfinishes
  cases call with
  | settle settleEnv outageId sla => exact h.settle hclock settleEnv outageId hcalculated
  | dispute req => exact h.dispute hclock req
  | get req => exact h.get req hclock

/-! ## What is answered -/

theorem Invariant.liveRecently_iff (h : w.Invariant env) {now : ℚ} (hnow : w.clock ≤ now)
    {req : AnalyticsRequest} {value : Analytics} :
    w.LiveRecently env now req value ↔ req.live env w.server.db = .ok value := by
  constructor
  · rintro ⟨t, -, -, hchanged, hlive⟩
    have hsame : (w.dbAt t).unflagged = w.server.db.unflagged := by
      unfold Db.unflagged
      rw [h.outages t, h.unchanged t hchanged]
    rw [← AnalyticsRequest.live_unflagged, hsame, AnalyticsRequest.live_unflagged] at hlive
    exact hlive
  · intro hlive
    refine ⟨now, by linarith, le_refl now, ?_, ?_⟩
    · intro c hc _
      exact (h.completed c hc).trans hnow
    · rw [h.present now hnow]
      exact hlive

/-- An answer from the cache is what would be computed now. -/
def HitIsLive (env : AnalyticsEnv) (w : AnalyticsWorld) (req : AnalyticsRequest)
    (readAt storedAt : ℚ) : Prop :=
  match (req.serve env readAt storedAt w.server).1 with
  | .ok (.cached found) => req.live env w.server.db = .ok found.value
  | .ok (.computed _) => True
  | .error _ => True

theorem Invariant.transparent_iff_hitIsLive (h : w.Invariant env) {req : AnalyticsRequest}
    {readAt storedAt : ℚ} (hnow : w.clock ≤ readAt) :
    w.Transparent env req readAt storedAt ↔ w.HitIsLive env req readAt storedAt := by
  unfold Transparent HitIsLive
  simp only [h.liveRecently_iff hnow]
  split
  · rename_i found hserve
    constructor
    · intro htransparent
      exact htransparent _ hserve rfl
    · intro hlive response hresponse _
      rw [hserve] at hresponse
      rw [← Except.ok.inj hresponse]
      exact hlive
  · rename_i value hserve
    refine iff_of_true ?_ trivial
    intro response hresponse hhit
    rw [hserve] at hresponse
    rw [← Except.ok.inj hresponse] at hhit
    have hmiss : "MISS" = "HIT" := hhit
    exact absurd hmiss (by decide)
  · rename_i e hserve
    refine iff_of_true ?_ trivial
    intro response hresponse _
    rw [hserve] at hresponse
    cases hresponse

/-- An entry for the same filters is the live aggregate exactly if none of the rows inserted since
is in it. -/
theorem Invariant.entry_live_iff (h : w.Invariant env) {req : AnalyticsRequest}
    {stored : ReadThrough.Stored AnalyticsRequest Analytics (List SLAResultORM) ℚ}
    (hstored : ReadThrough.lastStored AnalyticsRequest.key req.key w.events = some stored)
    (hsame : stored.req.SameFilters req) :
    req.live env w.server.db = .ok stored.value ↔
      ∀ row ∈ stored.changes.flatten, ∀ counted ∈ req.countedRows env w.server.db,
        counted.id ≠ row.id := by
  obtain ⟨before, hlive, hnow⟩ := h.traces _ stored hstored
  rw [hsame.live_eq] at hlive
  -- the rows of now are those of then, and the ones inserted since
  rw [Db.foldl_grow] at hnow
  have hids : ((before.slaResults ++ stored.changes.flatten.map unflag).map (·.id)).Nodup := by
    have hunique : (w.server.db.unflagged.slaResults.map (·.id)).Nodup := by
      have hpkey := h.wellFormed.sla.pkey
      simpa [Db.unflagged, unflag, Function.comp_def] using hpkey
    rw [hnow] at hunique
    exact hunique
  rw [← AnalyticsRequest.live_unflagged, hnow, AnalyticsRequest.live_append_iff hids hlive, ← hnow,
    AnalyticsRequest.countedRows_unflagged]
  -- flags are not in the ids
  simp only [List.forall_mem_map]
  exact Iff.rfl

/-- **One answer.** -/
theorem Invariant.transparent_iff (h : w.Invariant env) {req : AnalyticsRequest}
    {readAt storedAt : ℚ} (hnow : w.clock ≤ readAt) (hsame : w.StoredForSame req readAt) :
    w.Transparent env req readAt storedAt ↔ w.NoneInserted env req readAt := by
  rw [h.transparent_iff_hitIsLive hnow]
  constructor
  · intro hlive stored hstored htime
    apply (h.entry_live_iff hstored (hsame stored hstored htime)).mp
    obtain ⟨before, hbefore, -⟩ := h.traces _ stored hstored
    rw [(hsame stored hstored htime).live_eq] at hbefore
    rcases req.serve_eq env readAt storedAt w.server with ⟨-, hrefused⟩ | hserve
    · exact absurd hbefore (hrefused before stored.value)
    · -- the entry is what is answered
      have hcached : (req.serve env readAt storedAt w.server).1 = .ok (.cached
          { value := stored.value, age := readAt - stored.time,
            remaining := max 0 (stored.time + cacheTtl - readAt) }) := by
        rw [hserve]
        exact (ReadThrough.serve_cached h.agrees).mpr ⟨stored, hstored, htime, rfl⟩
      unfold HitIsLive at hlive
      rw [hcached] at hlive
      exact hlive
  · intro hnone
    unfold HitIsLive
    split
    · rename_i found hfound
      rcases req.serve_eq env readAt storedAt w.server with ⟨⟨e, hrefused⟩, -⟩ | hserve
      · rw [hrefused] at hfound
        cases hfound
      · rw [hserve] at hfound
        obtain ⟨stored, hstored, htime, rfl⟩ := (ReadThrough.serve_cached h.agrees).mp hfound
        exact (h.entry_live_iff hstored (hsame stored hstored htime)).mpr
          (hnone stored hstored htime)
    · trivial
    · trivial

/-! ## Runs of given requests -/

def Ordered (clock : ℚ) : List AnalyticsEvent → Prop
  | [] => True
  | e :: events => clock ≤ e.startedAt ∧ e.startedAt ≤ e.finishedAt ∧ e.call.Calculated ∧
      Ordered e.finishedAt events

theorem next_clock (env : AnalyticsEnv) (w : AnalyticsWorld) (e : AnalyticsEvent) :
    (w.next env e).clock = e.finishedAt := by
  unfold next
  split
  · dsimp only
    split
    · rfl
    · rfl
  · rfl
  · rfl

theorem run_of_ordered (env : AnalyticsEnv) {w : AnalyticsWorld} {events : List AnalyticsEvent}
    (h : Ordered w.clock events) :
    Run env w (Runs.replay (next env) w events) (events.foldl (next env) w) := by
  induction events generalizing w with
  | nil => exact .nil
  | cons e events ih =>
    obtain ⟨hstarts, hfinishes, hcalculated, hrest⟩ := h
    rw [← next_clock env w e] at hrest
    have hfirst : Run env w [(w, e)] (w.next env e) :=
      .snoc .nil ⟨hstarts, hfinishes, hcalculated, rfl⟩
    exact hfirst.trans (ih hrest)

end AnalyticsWorld

open AnalyticsWorld

/-! ## A rack -/

def signedText (t : Int) : String :=
  String.ofList ((if t < 0 then '-' else '+') :: Nat.toDigits 10 t.natAbs)

theorem signedText_injective : Function.Injective signedText := by
  intro a b hab
  obtain ⟨hsign, hdigits⟩ := List.cons.inj (String.ofList_injective hab)
  have hnat : a.natAbs = b.natAbs := by
    have hread := congrArg (fun digits => Nat.ofDigitChars 10 digits 0) hdigits
    simpa only [Nat.ofDigitChars_ten_toDigits] using hread
  split at hsign
  · split at hsign
    · omega
    · exact absurd hsign (by decide)
  · split at hsign
    · exact absurd hsign (by decide)
    · omega

def utcDays : AnalyticsEnv where
  zoneInfo tz := if tz = "UTC" then .found else .notFound
  dateTrunc _ _ t := t - t % 86400000000
  bucketText := signedText
  bucketText_injective := signedText_injective
  validationText fields := String.intercalate ", " fields

/-- A settled outage on a rack, its result disputed. -/
def rackEvents : List SlaEvent :=
  [.storeOutage ⟨"outage-1", "high", some "rack_1"⟩, .create lateResult 0,
    .dispute (.flag "dispute-1" 1 flagRequest 10)]

def rackDb : Db := rackEvents.foldl slaStep {}

theorem rackDb_wellFormed : rackDb.WellFormed :=
  (SlaRun.invariant (Runs.replay_run slaStep {} rackEvents)).wellFormed

def askedBy (severity siteId : Option String) (startedAt : ℚ) : AnalyticsEvent :=
  ⟨.get (.dashboard severity siteId none), startedAt, startedAt + 1⟩

def proposedAt (startedAt : ℚ) : AnalyticsEvent :=
  ⟨.dispute (.propose slaConfig 1 proposalRequest 0 20), startedAt, startedAt + 1⟩

instance (req req' : AnalyticsRequest) : Decidable (req.SameFilters req') := by
  cases req <;> cases req' <;> unfold AnalyticsRequest.SameFilters <;> infer_instance

instance (w : AnalyticsWorld) (req : AnalyticsRequest) (readAt : ℚ) :
    Decidable (w.StoredForSame req readAt) := by
  unfold StoredForSame
  infer_instance

instance (env : AnalyticsEnv) (w : AnalyticsWorld) (req : AnalyticsRequest) (readAt : ℚ) :
    Decidable (w.NoneInserted env req readAt) := by
  unfold NoneInserted
  infer_instance

instance (env : AnalyticsEnv) (w : AnalyticsWorld) (req : AnalyticsRequest) (readAt storedAt : ℚ) :
    Decidable (w.HitIsLive env req readAt storedAt) := by
  unfold HitIsLive
  split <;> infer_instance

instance (clock : ℚ) (events : List AnalyticsEvent) : Decidable (Ordered clock events) := by
  induction events generalizing clock with
  | nil => exact isTrue trivial
  | cons e events ih =>
    unfold Ordered
    infer_instance

/-! ## Answers over runs -/

/-- **Answers from the cache over runs.** An answer whose entry was stored for the same filters is
the live aggregate exactly if none of the rows it would count was inserted, without an
invalidation, since the entry was stored. -/
theorem analytics_served_live {env : AnalyticsEnv} {db : Db} (h : db.WellFormed) {clock : ℚ}
    {steps : List (AnalyticsWorld × AnalyticsEvent)} {w : AnalyticsWorld}
    (hrun : Run env (start db clock) steps w) :
    ∀ x ∈ steps, ∀ req, x.2.call = .get req → x.1.StoredForSame req x.2.startedAt →
      (x.1.Transparent env req x.2.startedAt x.2.finishedAt ↔
        x.1.NoneInserted env req x.2.startedAt) := by
  rintro ⟨v, e⟩ hx req - hsame
  have hinvariant : v.Invariant env :=
    hrun.invariant_steps (start_invariant h clock) (fun _ _ _ => step_invariant) _ hx
  obtain ⟨before, after, rfl⟩ := List.append_of_mem hx
  obtain ⟨u, -, hstep, -⟩ := hrun.split
  exact hinvariant.transparent_iff hstep.starts hsame

/-- A proposal for an outage of severity `high` between two requests for the critical ones. -/
def criticalEvents : List AnalyticsEvent :=
  [askedBy (some "critical") none 0, proposedAt 2, askedBy (some "critical") none 4]

theorem analytics_served_live_critical :
    let w := (criticalEvents.take 2).foldl (next utcDays) (start rackDb 0)
    let req : AnalyticsRequest := .dashboard (some "critical") none none
    (req.serve utcDays 4 (4 + 1) w.server).1.map AnalyticsResponse.xCache = .ok "HIT" ∧
      w.Transparent utcDays req 4 (4 + 1) := by
  intro w req
  refine ⟨by decide +kernel, ?_⟩
  have hrun := run_of_ordered utcDays (w := start rackDb 0)
    (show Ordered 0 criticalEvents by decide +kernel)
  have hlast : (w, askedBy (some "critical") none 4)
      ∈ Runs.replay (next utcDays) (start rackDb 0) criticalEvents :=
    List.mem_cons_of_mem _ (List.mem_cons_of_mem _ List.mem_cons_self)
  exact (analytics_served_live rackDb_wellFormed hrun _ hlast req rfl (by decide +kernel)).mpr
    (by decide +kernel)

/-- Between two requests for the dashboard a result is proposed. -/
def proposedEvents : List AnalyticsEvent := [askedBy none none 0, proposedAt 2, askedBy none none 4]

/-- Two requests with one key: severity `high` on the site `rack_1`, and `high_rack` on `1`. -/
def sharedKeyEvents : List AnalyticsEvent :=
  [askedBy (some "high") (some "rack_1") 0, askedBy (some "high_rack") (some "1") 2]

/-- All answers of a run from the cache were live recently. -/
def AllTransparent (env : AnalyticsEnv) (steps : List (AnalyticsWorld × AnalyticsEvent)) : Prop :=
  ∀ x ∈ steps, ∀ req, x.2.call = .get req →
    x.1.Transparent env req x.2.startedAt x.2.finishedAt

theorem invariant_of_ordered (env : AnalyticsEnv) {db : Db} (h : db.WellFormed) {clock : ℚ}
    {events : List AnalyticsEvent} (hordered : Ordered clock events) :
    (events.foldl (next env) (start db clock)).Invariant env :=
  (run_of_ordered env hordered).invariant (start_invariant h clock) fun _ _ _ => step_invariant

/-- **Two stale dashboards.** After a proposal the first one lacks a row that is stored; the second
one shows the numbers of other filters. -/
theorem dashboards_served_stale :
    (∃ steps w, Run utcDays (start rackDb 0) steps w ∧ steps.map Prod.snd = proposedEvents ∧
      ¬ AllTransparent utcDays steps) ∧
    ∃ steps w, Run utcDays (start rackDb 0) steps w ∧ steps.map Prod.snd = sharedKeyEvents ∧
      ¬ AllTransparent utcDays steps := by
  constructor
  · -- the third request misses the proposed row
    refine ⟨_, _, run_of_ordered utcDays (show Ordered 0 proposedEvents by decide +kernel), rfl, ?_⟩
    intro hall
    have hlast := hall (_, askedBy none none 4)
      (List.mem_cons_of_mem _ (List.mem_cons_of_mem _ List.mem_cons_self)) _ rfl
    have hinvariant := invariant_of_ordered utcDays rackDb_wellFormed
      (show Ordered 0 (proposedEvents.take 2) by decide +kernel)
    exact absurd ((hinvariant.transparent_iff_hitIsLive (by decide +kernel)).mp hlast)
      (by decide +kernel)
  · -- the second request is answered with the rack of the first
    refine ⟨_, _, run_of_ordered utcDays (show Ordered 0 sharedKeyEvents by decide +kernel), rfl,
      ?_⟩
    intro hall
    have hlast := hall (_, askedBy (some "high_rack") (some "1") 2)
      (List.mem_cons_of_mem _ List.mem_cons_self) _ rfl
    have hinvariant := invariant_of_ordered utcDays rackDb_wellFormed
      (show Ordered 0 (sharedKeyEvents.take 1) by decide +kernel)
    exact absurd ((hinvariant.transparent_iff_hitIsLive (by decide +kernel)).mp hlast)
      (by decide +kernel)

end NocIq
