/-
Which open incidents a cycle gets to.

Step 4 of a cycle goes over what `list_incidents` returns, and that is a page: the fifty
newest.  So what becomes of an open incident under a name that does not fire is decided by
its place in the listing, and the listing is made after the firings were reconciled, with the
incidents the cycle has opened itself among the newest.

Reconciling changes the rows it finds only where the listing does not look, and appends one
row for every name that fires with nothing open under it (`Growth`).  The place of an incident
is then a count over the tables the cycle began with (`mem_listed_iff`).
-/
import GaiaOS.Lib.StableSort
import GaiaOS.Proofs.AlertWork

namespace GaiaOS

namespace AlertJob

open Alerting AlertRepository

/-! ### What a cycle opens itself -/

/-- The cycle's own names: those that fire with nothing open under them. -/
def newlyFiring (setup : Setup) (cycle : Cycle) (db : AlertDb) : List String :=
  ((ruleFirings setup cycle db ++ sloFirings setup cycle).map (·.ruleName)).dedup.filter
    fun name => (openIncidents db name).isEmpty

/-- After steps 3a and 3b the tables have grown by a row for each of the cycle's own names. -/
theorem reconcile_growth {setup : Setup} {cycle : Cycle} {run run' : Run}
    (hrun : reconcile setup cycle run = .ok run') :
    ∃ new, Growth cycle.clock (seedRules run.db) run' new ∧
      new.length = (newlyFiring setup cycle run.db).length := by
  obtain ⟨new, hgrowth, honly, hall⟩ := reconcile_opened hrun
  have hperm : (new.map (·.ruleName)).Perm (newlyFiring setup cycle run.db) := by
    refine (List.perm_ext_iff_of_nodup hgrowth.names ((List.nodup_dedup _).filter _)).mpr
      fun name => ?_
    rw [List.mem_filter, List.mem_dedup, List.isEmpty_iff, ← openIncidents_seedRules run.db,
      List.mem_map (l := ruleFirings setup cycle run.db ++ sloFirings setup cycle)]
    show _ ↔ Fires setup cycle run.db name ∧ _
    rw [← exists_works_iff]
    constructor
    · intro hname
      obtain ⟨row, hmem, rfl⟩ := List.mem_map.mp hname
      obtain ⟨work, hfind, hopened⟩ := honly row hmem
      exact ⟨⟨work, List.mem_of_find?_eq_some hfind, hopened.ruleName.symm⟩,
        hgrowth.fresh row hmem⟩
    · rintro ⟨⟨work, hwork, rfl⟩, hnone⟩
      exact (hall work hwork).resolve_right (not_not_intro hnone)
  refine ⟨new, hgrowth, ?_⟩
  rw [← hperm.length_eq, List.length_map]

/-! ### The place of an incident -/

/-- The open incidents of the table that are listed before this one: the newer ones, and those
of the same time that come before it in the table. -/
def listedAhead (db : AlertDb) (incident : AlertIncident) : Nat :=
  ((db.incidents.takeWhile fun row => row.id ≠ incident.id).countP fun row =>
      row.status = "firing" ∧ incident.firedAt ≤ row.firedAt) +
    (db.incidents.dropWhile fun row => row.id ≠ incident.id).countP fun row =>
      row.status = "firing" ∧ incident.firedAt < row.firedAt

/-- The incidents a cycle opens and lists before this one. -/
def openedAhead (setup : Setup) (cycle : Cycle) (db : AlertDb) (incident : AlertIncident) : Nat :=
  (List.range (newlyFiring setup cycle db).length).countP fun i =>
    incident.firedAt < cycle.clock.created ((seedRules db).nextId + i)

section Place

variable {db : AlertDb} {incident : AlertIncident} {before after : List AlertIncident}

/-- The table around an incident. -/
theorem listedAhead_of_split (hsplit : db.incidents = before ++ incident :: after) :
    listedAhead db incident =
      (before.countP fun row => row.status = "firing" ∧ incident.firedAt ≤ row.firedAt) +
        after.countP fun row => row.status = "firing" ∧ incident.firedAt < row.firedAt := by
  have hunique := db.incidentsUnique
  rw [hsplit, List.map_append, List.nodup_append] at hunique
  have hbefore : ∀ row ∈ before, decide (row.id ≠ incident.id) = true := by
    intro row hrow
    rw [decide_eq_true_eq]
    exact hunique.2.2 row.id (List.mem_map_of_mem hrow) incident.id (by simp)
  unfold listedAhead
  rw [hsplit, List.takeWhile_append_of_pos hbefore, List.dropWhile_append_of_pos hbefore,
    List.takeWhile_cons_of_neg (by simp), List.dropWhile_cons_of_neg (by simp),
    List.append_nil, List.countP_cons_of_neg (by simp)]

/-- Newest first. -/
def Newer (row other : AlertIncident) : Prop := other.firedAt ≤ row.firedAt

instance : DecidableRel Newer :=
  fun row other => inferInstanceAs (Decidable (other.firedAt ≤ row.firedAt))

instance : IsTrans AlertIncident Newer := ⟨fun _ _ _ h h' => Int.le_trans h' h⟩

instance : Std.Total Newer := ⟨fun row other => Int.le_total other.firedAt row.firedAt⟩

/-- The page of open incidents. -/
theorem listIncidents_eq (db : AlertDb) (limit : Nat) :
    listIncidents db (some "firing") limit 0 =
      ((db.incidents.filter fun row => row.status = "firing").insertionSort Newer).take limit := by
  unfold listIncidents
  have hfilter : (fun row : AlertIncident => decide ("firing" = "" ∨ row.status = "firing")) =
      fun row => decide (row.status = "firing") := by
    funext row
    simp
  simp only [hfilter, List.drop_zero]
  rfl

/-- Which rows of a table that has grown are on the page. -/
theorem Growth.mem_listed_iff {clock : Clock} {run : Run} {new : List AlertIncident}
    (h : Growth clock db run new) (hmem : incident ∈ db.incidents)
    (hopen : incident.status = "firing") :
    ∃ row ∈ run.db.incidents, SameIncident incident row ∧
      (row ∈ listIncidents run.db (some "firing") 50 0 ↔
        listedAhead db incident + (new.countP fun row => incident.firedAt < row.firedAt) < 50) := by
  obtain ⟨before, after, hsplit⟩ := List.append_of_mem hmem
  obtain ⟨keep, hkeep, hrows⟩ := h.rows
  have hrow : keep incident ∈ run.db.incidents := by
    rw [hrows]
    exact List.mem_append_left _ (List.mem_map_of_mem hmem)
  refine ⟨keep incident, hrow, hkeep incident, ?_⟩
  have hfiltered : run.db.incidents.filter (fun row => row.status = "firing") =
      (before.map keep).filter (fun row => row.status = "firing") ++
        keep incident :: ((after.map keep).filter (fun row => row.status = "firing") ++ new) := by
    have hnew : new.filter (fun row => row.status = "firing") = new :=
      List.filter_eq_self.mpr fun row hmem => by simpa using h.firing row hmem
    have hkept : (keep incident).status = "firing" := (hkeep incident).status.trans hopen
    rw [hrows, hsplit, List.filter_append, List.map_append, List.map_cons, List.filter_append,
      List.filter_cons_of_pos (by simpa using hkept), hnew, List.append_assoc, List.cons_append]
  have hnodup : (run.db.incidents.filter fun row => row.status = "firing").Nodup :=
    (List.Nodup.of_map _ run.db.incidentsUnique).filter _
  rw [listIncidents_eq, hfiltered,
    StableSort.mem_take_insertionSort (by rw [← hfiltered]; exact hnodup),
    listedAhead_of_split hsplit, List.countP_append, List.countP_filter, List.countP_map,
    List.countP_filter, List.countP_map]
  have hbefore : before.countP ((fun row => decide (Newer row (keep incident)) &&
      decide (row.status = "firing")) ∘ keep) =
      before.countP fun row => row.status = "firing" ∧ incident.firedAt ≤ row.firedAt := by
    refine List.countP_congr fun row _ => ?_
    simp [Newer, (hkeep row).firedAt, (hkeep row).status, (hkeep incident).firedAt, and_comm]
  have hafter : after.countP ((fun row => decide (¬ Newer (keep incident) row) &&
      decide (row.status = "firing")) ∘ keep) =
      after.countP fun row => row.status = "firing" ∧ incident.firedAt < row.firedAt := by
    refine List.countP_congr fun row _ => ?_
    simp [Newer, (hkeep row).firedAt, (hkeep row).status, (hkeep incident).firedAt, and_comm]
  have hnew : new.countP (fun row => decide (¬ Newer (keep incident) row)) =
      new.countP fun row => incident.firedAt < row.firedAt := by
    refine List.countP_congr fun row _ => ?_
    simp [Newer, (hkeep incident).firedAt]
  rw [hbefore, hafter, hnew]
  omega

end Place

/-! ### A cycle -/

/-- A rule or an objective of the name was evaluated on data, and is not violated. -/
def FoundClear (setup : Setup) (cycle : Cycle) (db : AlertDb) (name : String) : Prop :=
  (∃ rule ∈ activeRules db, rule.name = name ∧ rule.metric ∈ supportedMetrics ∧
    ∃ row value,
      cycle.queries.windowSnapshot ((windowInterval rule.window).getD 15) = .ok row ∧
      measured cycle.queries ((windowInterval rule.window).getD 15) row rule.metric = some value ∧
      isThresholdViolated value (effectiveThreshold setup.workerPoolSize rule) rule.comparison =
        false) ∨
    ∃ slo ∈ setup.slos, slo.name = name ∧ fetchSloActuals cycle.queries slo ≠ [] ∧
      (evaluateSloBurnRate slo (fetchSloActuals cycle.queries slo)).alertSeverity = none

/-- What was open and is found clear has been resolved. -/
def NoStaleIncident (setup : Setup) (cycle : Cycle) (run run' : Run) : Prop :=
  ∀ incident ∈ run.db.incidents, incident.status = "firing" →
    FoundClear setup cycle run.db incident.ruleName →
    ∃ row ∈ run'.db.incidents, row.id = incident.id ∧ row.status = "resolved"

section Cycle

variable {setup : Setup} {cycle : Cycle} {run run' : Run} {incident : AlertIncident}

/-- The rows a cycle has added, counted by the clock. -/
theorem Growth.countP_new {new : List AlertIncident}
    (h : Growth cycle.clock (seedRules run.db) run' new)
    (hlength : new.length = (newlyFiring setup cycle run.db).length) (incident : AlertIncident) :
    (new.countP fun row => incident.firedAt < row.firedAt) =
      openedAhead setup cycle run.db incident := by
  have hmap : (new.countP fun row => incident.firedAt < row.firedAt) =
      (new.map (·.firedAt)).countP fun t => incident.firedAt < t := by
    rw [List.countP_map]
    rfl
  unfold openedAhead
  rw [hmap, h.times, hlength, List.countP_map]
  rfl

/-- An open incident is resolved exactly if nothing fires under its name and it is on the page. -/
theorem resolved_iff (henabled : setup.alertingEnabled = true) (hready : setup.sessionReady = true)
    (hrun : runAlertEvaluation setup cycle run = .ok run') (hmem : incident ∈ run.db.incidents)
    (hopen : incident.status = "firing") :
    (∃ row ∈ run'.db.incidents, row.id = incident.id ∧ row.status = "resolved") ↔
      ¬ FoundViolated setup cycle run.db incident.ruleName ∧
        listedAhead run.db incident + openedAhead setup cycle run.db incident < 50 := by
  unfold runAlertEvaluation at hrun
  rw [henabled, hready] at hrun
  obtain ⟨reconciled, hreconcile, hlast⟩ := ok_of_bind hrun
  cases hlast
  obtain ⟨new, hgrowth, hlength⟩ := reconcile_growth hreconcile
  have hmem' : incident ∈ (seedRules run.db).incidents := by
    rw [(seedRules_incidents run.db).1]
    exact hmem
  have hahead : listedAhead (seedRules run.db) incident = listedAhead run.db incident := by
    unfold listedAhead
    rw [(seedRules_incidents run.db).1]
  obtain ⟨row, hrow, hsame, hlisted⟩ := hgrowth.mem_listed_iff hmem' hopen
  rw [hahead, hgrowth.countP_new hlength] at hlisted
  have hfires : (byName (ruleFirings setup cycle run.db ++ sloFirings setup cycle)).contains
      row.ruleName = false ↔ ¬ FoundViolated setup cycle run.db incident.ruleName := by
    rw [← Bool.not_eq_true, contains_byName, hsame.ruleName]
    exact not_congr fires_iff
  have hsettles := foldl_resolveCleared_settles cycle.clock
    (ruleFirings setup cycle run.db ++ sloFirings setup cycle)
    (listIncidents reconciled.db (some "firing") 50 0) reconciled
    (fun _ hmem => listed_open hmem) listIncidents_nodup row hrow
  unfold Settles at hsettles
  rw [← hlisted, ← hfires]
  split at hsettles
  · rename_i hcleared
    refine ⟨fun _ => hcleared.symm, fun _ => ⟨_, hsettles.1, hsame.id, rfl⟩⟩
  · rename_i hkept
    constructor
    · rintro ⟨other, hother, hid, hresolved⟩
      have hrowEq : other = row := eq_of_id hother hsettles.1 (hid.trans hsame.id.symm)
      rw [hrowEq, hsame.status, hopen] at hresolved
      exact absurd hresolved (by decide)
    · exact fun hcleared => absurd hcleared.symm hkept

/-- **No open incident goes stale exactly if all that are found clear are on the page.**  In a
cycle that completes, every open incident with a rule or an objective found clear on data is
resolved if and only if no other one of its name is found violated and fewer than fifty open
incidents come before it in the listing. -/
theorem no_stale_incident_iff (henabled : setup.alertingEnabled = true)
    (hready : setup.sessionReady = true)
    (hrun : runAlertEvaluation setup cycle run = .ok run') :
    NoStaleIncident setup cycle run run' ↔
      ∀ incident ∈ run.db.incidents, incident.status = "firing" →
        FoundClear setup cycle run.db incident.ruleName →
          ¬ FoundViolated setup cycle run.db incident.ruleName ∧
            listedAhead run.db incident + openedAhead setup cycle run.db incident < 50 := by
  unfold NoStaleIncident
  constructor
  · intro h incident hmem hopen hclear
    exact (resolved_iff henabled hready hrun hmem hopen).mp (h incident hmem hopen hclear)
  · intro h incident hmem hopen hclear
    exact (resolved_iff henabled hready hrun hmem hopen).mpr (h incident hmem hopen hclear)

end Cycle

/-- With the latency down again, the one incident is resolved. -/
theorem no_stale_recovered_latency :
    ∃ run', runAlertEvaluation {} (windowCycle (some 400)) busyRun = .ok run' ∧
      NoStaleIncident {} (windowCycle (some 400)) busyRun run' := by
  cases hrun : runAlertEvaluation {} (windowCycle (some 400)) busyRun with
  | error e =>
      have hok : (runAlertEvaluation {} (windowCycle (some 400)) busyRun).isOk = true := by
        decide +kernel
      rw [hrun] at hok
      cases hok
  | ok run' =>
      refine ⟨run', rfl, (no_stale_incident_iff rfl rfl hrun).mpr ?_⟩
      have hquiet : ∀ incident ∈ busyRun.db.incidents,
          (¬ ∃ firing ∈ ruleFirings {} (windowCycle (some 400)) busyRun.db ++
            sloFirings {} (windowCycle (some 400)), firing.ruleName = incident.ruleName) ∧
          listedAhead busyRun.db incident +
            openedAhead {} (windowCycle (some 400)) busyRun.db incident < 50 := by
        decide +kernel
      intro incident hmem _ _
      refine ⟨fun hviolated => (hquiet incident hmem).1 ?_, (hquiet incident hmem).2⟩
      exact fires_iff.mpr hviolated

/-- An open incident, by its number. -/
def openRow (number : Nat) (ruleName : String) : AlertIncident where
  id := number
  ruleId := none
  ruleName
  sloName := none
  severity := "warning"
  status := "firing"
  lastValue := 25000
  threshold := 10000
  consecutiveViolations := 1
  firedAt := number

/-- The latency rule with an open incident, and fifty newer ones of other names. -/
def crowdedDb : AlertDb where
  rules := [newRule 0 highP95Latency]
  incidents := openRow 0 "high_p95_latency" ::
    (List.range 50).map fun i => openRow (i + 1) ("slo_" ++ toString i)
  nextId := 51
  rulesUnique := by decide
  incidentsUnique := by decide
  idsBelow := by decide

/-- With fifty newer incidents open, the one of a latency that is down again stays open. -/
theorem stale_behind_fifty :
    ∃ run', runAlertEvaluation {} (windowCycle (some 400)) { db := crowdedDb } = .ok run' ∧
      ¬ NoStaleIncident {} (windowCycle (some 400)) { db := crowdedDb } run' := by
  cases hrun : runAlertEvaluation {} (windowCycle (some 400)) { db := crowdedDb } with
  | error e =>
      have hok : (runAlertEvaluation {} (windowCycle (some 400)) { db := crowdedDb }).isOk = true := by
        decide +kernel
      rw [hrun] at hok
      cases hok
  | ok run' =>
      refine ⟨run', rfl, fun h => ?_⟩
      obtain ⟨row, hrow, hid, hresolved⟩ := h (openRow 0 "high_p95_latency") List.mem_cons_self rfl
        (Or.inl ⟨newRule 0 highP95Latency, by decide, rfl, by decide, _, 400, rfl, rfl, by decide⟩)
      have hopen : ∀ row ∈ (finalRun (runAlertEvaluation {} (windowCycle (some 400))
          { db := crowdedDb })).db.incidents, row.id = 0 → row.status ≠ "resolved" := by
        decide +kernel
      rw [hrun] at hopen
      exact hopen row hrow hid hresolved

end AlertJob

end GaiaOS
