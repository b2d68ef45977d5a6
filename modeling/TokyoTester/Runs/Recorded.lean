import TokyoTester.Runs.Totals

set_option autoImplicit false

/-! # What a scenario records

When a scenario has responded, its row and those of its results say what it responded. At any point
before, a row that says that the scenario has ended agrees with the rows of its results. A scenario
that had come to its end can then be recovered any number of times, with the same response. -/

namespace TokyoTester

open Program Handler

/-- The row of a scenario's session says how it ended. -/
structure ScenarioRecord (names : List String) (R : ScenarioResponse) (rows : List TestResult)
    (s : Session) : Prop where
  listed : s.isDeleted = false
  status : s.status = Execution.scenarioStatus R
  phase : Execution.finalPhase (Execution.scenarioStatus R) = some s.phase
  reported : Reported names R rows

/-- Recoveries of a scenario one after another, each by a runner of its own, and their responses. -/
inductive Recoveries (request : Request) (bundle : Bundle) (scenario : RunScenario) :
    Database → List ScenarioResponse → Database → Prop where
  | none (db : Database) : Recoveries request bundle scenario db [] db
  | recover {h : Handler} {db db' db₁ db₂ : Database} {events : List (Event Reply)}
      {R : ScenarioResponse} {responses : List ScenarioResponse}
      (others : SameRows scenario.scenarioRunId db db')
      (run : (scenarioRuns bundle scenario).Run db' (scenarioTask h request bundle scenario) events
        db₁ (.done R))
      (rest : Recoveries request bundle scenario db₁ responses db₂) :
      Recoveries request bundle scenario db (R :: responses) db₂

section Records

variable {h : Handler} {request : Request} {bundle : Bundle} {scenario : RunScenario}
  {db db₁ mid : Database} {before after events : List (Event Reply)} {p : Task ScenarioResponse}
  {R : ScenarioResponse} {responses : List ScenarioResponse} {id : String} {names : List String}

/-- **A scenario records what it reports**, and is consistent at any point before. -/
theorem scenario_recorded {r : Request} (hrequest : r.validate = .ok request)
    (hbundle : request.bundle = .ok bundle) (hscenario : scenario ∈ request.scenarios)
    (hdb : db.Awaits bundle scenario)
    (hbefore : (scenarioRuns bundle scenario).Run db (scenarioTask h request bundle scenario)
      before mid p)
    (hafter : (scenarioRuns bundle scenario).Run mid p after db₁ (.done R)) :
    (mid.HasRow scenario.scenarioRunId fun s => s.isDeleted = false ∧
        Consistent (bundle.testNames (Request.bundleScenario scenario)) s.progress
          (mid.resultsOf scenario.scenarioRunId)) ∧
      db₁.HasRow scenario.scenarioRunId (ScenarioRecord
        (bundle.testNames (Request.bundleScenario scenario)) R
        (db₁.resultsOf scenario.scenarioRunId)) := by
  have hvalid := valid_of_request hrequest hbundle scenario hscenario
  obtain ⟨hproceeds, hsafe⟩ := along_persisting (safe_scenarioTask hvalid hdb) hbefore
  obtain ⟨-, hend⟩ := along_persisting hsafe hafter
  refine ⟨hproceeds.sound hdb.sound, Database.HasRow.mono (hend db₁ (SameRows.refl _ db₁)) fun s hs => ?_⟩
  obtain ⟨hlisted, -, -, hreported, hstatus, hphase⟩ := hs
  exact ⟨hlisted, hstatus, hphase, hreported⟩

theorem SameRows.finished {db' : Database} {tests : Nat} (h : SameRows id db db')
    (hdb : db.Finished id tests) : db'.Finished id tests :=
  hdb.imp (h.hasRow fun _ q => q.terminal = true).2
    (h.hasRow fun _ q => q.interrupted tests = true).2

theorem Stage.recovered_finished {stored : List TestResult}
    (hdb : db.At id names (.recovered names stored R)) :
    db.Finished id names.length ∧ db.resultsOf id = stored := by
  obtain ⟨q, rows, -⟩ := hdb.exists
  refine ⟨?_, ?_⟩
  · cases hcleanup : R.cleanupFailed with
    | true =>
        refine .inr (Database.HasRow.mono hdb fun s hs => ?_)
        have hclaim := hs.2.claim.2
        rwa [hcleanup, if_pos rfl] at hclaim
    | false =>
        refine .inl (Database.HasRow.mono hdb fun s hs => ?_)
        have hclaim := hs.2.claim.2
        rwa [hcleanup, if_neg Bool.false_ne_true] at hclaim
  · obtain ⟨⟨s, hs, hid⟩, hall⟩ := hdb
    exact (hall s hs hid).2.claim.1

/-- One recovery leaves a scenario that can be recovered again. -/
theorem recovery_finished (hvalid : scenario.Valid bundle)
    (hsound : db.Sound scenario.scenarioRunId (bundle.testNames (Request.bundleScenario scenario)))
    (hfinished : db.Finished scenario.scenarioRunId
      (bundle.testNames (Request.bundleScenario scenario)).length)
    (hrun : (scenarioRuns bundle scenario).Run db (scenarioTask h request bundle scenario) events
      db₁ (.done R)) :
    Recovered (bundle.testNames (Request.bundleScenario scenario))
        (db.resultsOf scenario.scenarioRunId) R ∧
      db₁.Sound scenario.scenarioRunId (bundle.testNames (Request.bundleScenario scenario)) ∧
      db₁.Finished scenario.scenarioRunId
        (bundle.testNames (Request.bundleScenario scenario)).length ∧
      db₁.resultsOf scenario.scenarioRunId = db.resultsOf scenario.scenarioRunId := by
  obtain ⟨S, hS, hat⟩ := hfinished.at hsound
  obtain ⟨translated, htranslated, -, hnames⟩ := hvalid.translated
  have hperm := hvalid.perm
  unfold scenarioRuns at hrun
  rw [← hnames] at hperm hS hat hrun ⊢
  have hleads : (persisting scenario.scenarioRunId (translated.tests.map (·.name))).Safe _
      (scenarioTask h request bundle scenario) db :=
    leads_executeScenario_finished hvalid.id htranslated hperm hS db hat
  obtain ⟨-, hend⟩ := along_persisting hleads hrun
  obtain ⟨hrecovered, hdb₁⟩ := (hend db₁ (SameRows.refl _ db₁)).of_given
  exact ⟨hrecovered, hdb₁.sound, Stage.recovered_finished hdb₁⟩

/-- **Recovery can be repeated**: the results of a scenario that had come to its end stay as they
    are, and every recovery that removes what was left behind responds alike. -/
theorem recoveries_agree {r : Request} {db' : Database} (hrequest : r.validate = .ok request)
    (hbundle : request.bundle = .ok bundle) (hscenario : scenario ∈ request.scenarios)
    (hsound : db.Sound scenario.scenarioRunId (bundle.testNames (Request.bundleScenario scenario)))
    (hfinished : db.Finished scenario.scenarioRunId
      (bundle.testNames (Request.bundleScenario scenario)).length)
    (hrecoveries : Recoveries request bundle scenario db responses db') :
    (∀ R ∈ responses, R.cleanupFailed = false →
        Restored (bundle.testNames (Request.bundleScenario scenario))
          (db.resultsOf scenario.scenarioRunId) R) ∧
      db'.Finished scenario.scenarioRunId
        (bundle.testNames (Request.bundleScenario scenario)).length ∧
      db'.resultsOf scenario.scenarioRunId = db.resultsOf scenario.scenarioRunId := by
  have hvalid := valid_of_request hrequest hbundle scenario hscenario
  induction hrecoveries with
  | none db => exact ⟨by simp, hfinished, rfl⟩
  | recover others run rest ih =>
      -- the others leave the rows of the scenario as they are
      obtain ⟨hR, hsound₁, hfinished₁, hrows⟩ :=
        recovery_finished hvalid (others.proceeds.sound hsound) (others.finished hfinished) run
      obtain ⟨hrest, hfinished', hrows'⟩ := ih hsound₁ hfinished₁
      rw [others.results] at hR hrows
      rw [hrows] at hrest hrows'
      refine ⟨fun R hmem hremoved => ?_, hfinished', hrows'⟩
      rcases List.mem_cons.1 hmem with rfl | hmem
      · exact hR.resolve_left fun hcleanup => absurd (hcleanup.symm.trans hremoved) (by decide)
      · exact hrest R hmem hremoved

end Records

/-! ## A scenario that is recovered twice -/

/-- The scenario runs to its end, and is recovered twice. -/
def recoveredTwice (request : Request) (bundle : Bundle) :
    Option (ScenarioResponse × List ScenarioResponse) :=
  (retriedRun 2 request bundle submittedDb).bind fun r =>
    (retriedRun 2 request bundle r.2).bind fun r' =>
      (retriedRun 2 request bundle r'.2).bind fun r'' =>
        if endedRow r.2 then some (r.1, [r'.1, r''.1]) else none

theorem exists_recoveries {request : Request} {bundle : Bundle}
    {r : ScenarioResponse × List ScenarioResponse} (h : recoveredTwice request bundle = some r) :
    ∃ events mid db, (scenarioRuns bundle retriedScenario).Run submittedDb
        (scenarioTask {} request bundle retriedScenario) events mid (.done r.1) ∧
      mid.Finished "run-scenario" 1 ∧ Recoveries request bundle retriedScenario mid r.2 db := by
  obtain ⟨⟨R, mid⟩, hrun, h⟩ := Option.bind_eq_some_iff.1 h
  obtain ⟨⟨R₁, db₁⟩, hfirst, h⟩ := Option.bind_eq_some_iff.1 h
  obtain ⟨⟨R₂, db₂⟩, hsecond, h⟩ := Option.bind_eq_some_iff.1 h
  dsimp only at h
  split_ifs at h with hended
  obtain rfl := Option.some.inj h
  obtain ⟨events, hrun⟩ := exists_retriedRun hrun
  obtain ⟨events₁, hfirst⟩ := exists_retriedRun hfirst
  obtain ⟨events₂, hsecond⟩ := exists_retriedRun hsecond
  exact ⟨events, mid, db₂, hrun, finished_of_endedRow hended,
    .recover (SameRows.refl _ _) hfirst (.recover (SameRows.refl _ _) hsecond (.none _))⟩

/-- The request and the bundle of the run, with what the three runs respond. -/
theorem exists_recoveredTwice :
    ∃ request bundle r, retriedRequest.validate = .ok request ∧ request.bundle = .ok bundle ∧
      retriedScenario ∈ request.scenarios ∧ recoveredTwice request bundle = some r ∧
      r.1.success = true ∧ r.2.map (fun R => (R.success, R.cleanupFailed))
        = [(true, false), (true, false)] := by
  have hruns : (retriedRequest.validate.toOption.bind fun request =>
      request.bundle.toOption.bind fun bundle => (recoveredTwice request bundle).map fun r =>
        (r.1.success, r.2.map fun R => (R.success, R.cleanupFailed)))
      = some (true, [(true, false), (true, false)]) := by
    decide +kernel
  obtain ⟨request, hrequest, h⟩ := Option.bind_eq_some_iff.1 hruns
  obtain ⟨bundle, hbundle, h⟩ := Option.bind_eq_some_iff.1 h
  obtain ⟨r, hr, heq⟩ := Option.map_eq_some_iff.1 h
  obtain ⟨hfirst, hrest⟩ := Prod.mk.inj heq
  have hrequest := toOption_eq_some hrequest
  refine ⟨request, bundle, r, hrequest, toOption_eq_some hbundle, ?_, hr, hfirst, hrest⟩
  rw [(validate_scenarios hrequest).1]
  exact List.mem_singleton_self _

/-- A scenario whose test passes at its second attempt is recorded as completed. -/
theorem scenario_recorded_retried :
    ∃ request bundle, ∃ db : Database, ∃ R : ScenarioResponse,
      retriedRequest.validate = .ok request ∧ request.bundle = .ok bundle ∧
      R.success = true ∧ db.HasRow "run-scenario" (ScenarioRecord
        (bundle.testNames (Request.bundleScenario retriedScenario)) R
        (db.resultsOf "run-scenario")) := by
  obtain ⟨request, bundle, r, hrequest, hbundle, hscenario, hr, hsuccess, -⟩ :=
    exists_recoveredTwice
  obtain ⟨events, mid, db, hrun, -⟩ := exists_recoveries hr
  exact ⟨request, bundle, mid, r.1, hrequest, hbundle, hsuccess,
    (scenario_recorded hrequest hbundle hscenario (awaits_submittedDb bundle) hrun
      (.stop _ _)).2⟩

/-- Both recoveries of the scenario restore it. -/
theorem recoveries_agree_retried :
    ∃ names rows R₁ R₂, Restored names rows R₁ ∧ Restored names rows R₂ ∧
      R₁.success = true ∧ R₂.success = true := by
  obtain ⟨request, bundle, r, hrequest, hbundle, hscenario, hr, -, hrest⟩ := exists_recoveredTwice
  obtain ⟨events, mid, db, hrun, hfinished, hrecoveries⟩ := exists_recoveries hr
  have hvalid := valid_of_request hrequest hbundle _ hscenario
  obtain ⟨hproceeds, -⟩ :=
    along_persisting (safe_scenarioTask hvalid (awaits_submittedDb bundle)) hrun
  have hlength : (bundle.testNames (Request.bundleScenario retriedScenario)).length = 1 :=
    hvalid.perm.length_eq.symm
  rw [← hlength] at hfinished
  obtain ⟨hrestored, -⟩ := recoveries_agree hrequest hbundle hscenario
    (hproceeds.sound (awaits_submittedDb bundle).sound) hfinished hrecoveries
  obtain ⟨R₁, tail, hresponses, hfirst, htail⟩ := List.map_eq_cons_iff.1 hrest
  obtain ⟨R₂, rfl, hsecond⟩ := List.map_eq_singleton_iff.1 htail
  rw [hresponses] at hrestored
  obtain ⟨hsuccess₁, hremoved₁⟩ := Prod.mk.inj hfirst
  obtain ⟨hsuccess₂, hremoved₂⟩ := Prod.mk.inj hsecond
  exact ⟨_, _, R₁, R₂, hrestored R₁ (by simp) hremoved₁, hrestored R₂ (by simp) hremoved₂,
    hsuccess₁, hsuccess₂⟩

end TokyoTester
