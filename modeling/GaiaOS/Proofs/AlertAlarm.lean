/-
Seen at one name, the job is an alarm.

The incident open under a name, with the firings sent for it, and the notifications that
carry the name are an alarm (`alarmOf`).  A rule that fires raises the alarm of its name with
its own threshold, an objective that fires raises it with a threshold of one, and a resolution
clears it; each leaves the alarms of all other names alone.  That needs three facts of the
tables: at most one incident is open under a name, so that looking one up does not raise, an
open incident has been counted at least once, and nothing has been sent for an incident yet
to come (`Sound`).

A name that both a rule and an objective fire under has no one threshold; apart from that a
cycle moves every alarm by raising it some number of times or by clearing it
(`runAlertEvaluation_moves`).
-/
import GaiaOS.Lib.Alarm
import GaiaOS.Lib.Machine
import GaiaOS.Workers.AlertEvaluationJob

namespace GaiaOS

namespace AlertJob

open Alerting AlertRepository

/-! ### The alarm of a name -/

/-- The firings sent for an incident. -/
def firingsFor (incidentId : Nat) (sent : List Sent) : Nat :=
  sent.countP fun s => s.incidentId = incidentId ∧ s.notification.isFiring = true

/-- What has been said under a name. -/
def spokenOf (name : String) (sent : List Sent) : List Bool :=
  (sent.filter fun s => s.notification.ruleName = name).map (·.notification.isFiring)

/-- The incident open under a name, and what has been said under it. -/
def alarmOf (name : String) (run : Run) : Alarm where
  episode := (openIncidents run.db name).head?.map fun incident =>
    ⟨incident.consecutiveViolations, firingsFor incident.id run.sent⟩
  spoken := spokenOf name run.sent

/-- What the lookups of the job rely on. -/
structure Sound (run : Run) : Prop where
  one_open : ∀ name, (openIncidents run.db name).length ≤ 1
  counted : ∀ name, ∀ incident ∈ openIncidents run.db name, 1 ≤ incident.consecutiveViolations
  sent_known : ∀ s ∈ run.sent, s.incidentId < run.db.nextId

/-! ### The tables -/

section Tables

variable {db : AlertDb} {name : String} {incident : AlertIncident}

theorem mem_openIncidents : incident ∈ openIncidents db name ↔
    incident ∈ db.incidents ∧ incident.ruleName = name ∧ incident.status = "firing" := by
  simp [openIncidents]

theorem eq_of_id {other : AlertIncident} (hincident : incident ∈ db.incidents)
    (hother : other ∈ db.incidents) (hid : incident.id = other.id) : incident = other :=
  List.inj_on_of_nodup_map db.incidentsUnique hincident hother hid

theorem openIncidents_createIncident (new : NewIncident) (now : Int) :
    openIncidents (createIncident db new now) name =
      openIncidents db name ++ if new.ruleName = name then [new.row db.nextId now] else [] := by
  unfold openIncidents createIncident
  rw [List.filter_append]
  by_cases hname : new.ruleName = name
  · simp [NewIncident.row, hname]
  · simp [NewIncident.row, hname]

/-- A change that keeps the name and the status keeps what is open. -/
theorem openIncidents_modifyIncident {incidentId : Nat} {change : AlertIncident → AlertIncident}
    {hid : ∀ incident, (change incident).id = incident.id}
    (hname : ∀ incident, (change incident).ruleName = incident.ruleName)
    (hstatus : ∀ incident, (change incident).status = incident.status) :
    openIncidents (modifyIncident db incidentId change hid) name =
      (openIncidents db name).map fun incident =>
        if incident.id = incidentId then change incident else incident := by
  unfold openIncidents modifyIncident
  rw [List.filter_map]
  congr 1
  refine List.filter_congr fun incident _ => ?_
  simp only [Function.comp_apply]
  split
  · rw [hname, hstatus]
  · rfl

/-- Resolving takes a row out of what is open. -/
theorem openIncidents_markResolved {incidentId : Nat} {now : Int} :
    openIncidents (markResolved db incidentId now) name =
      (openIncidents db name).filter fun incident => incident.id ≠ incidentId := by
  unfold openIncidents markResolved modifyIncident
  rw [List.filter_map, List.filter_filter]
  have hfilter : ∀ incident : AlertIncident,
      ((fun row : AlertIncident => decide (row.ruleName = name ∧ row.status = "firing")) ∘
        fun row => if row.id = incidentId then resolved now row else row) incident =
      (decide (incident.id ≠ incidentId) &&
        decide (incident.ruleName = name ∧ incident.status = "firing")) := by
    intro incident
    simp only [Function.comp_apply]
    by_cases hsame : incident.id = incidentId
    · simp [hsame, resolved]
    · simp [hsame]
  rw [List.filter_congr fun incident _ => hfilter incident]
  refine (List.map_congr_left fun incident hmem => ?_).trans (List.map_id _)
  have hne : incident.id ≠ incidentId := by
    have := (List.mem_filter.mp hmem).2
    simp only [Bool.and_eq_true, decide_eq_true_eq] at this
    exact this.1
  rw [if_neg hne]
  rfl

/-- What is open under one name has another identifier than what is open under a second. -/
theorem id_ne_of_name_ne {other : AlertIncident} {name' : String}
    (hincident : incident ∈ openIncidents db name) (hother : other ∈ openIncidents db name')
    (hne : name ≠ name') : incident.id ≠ other.id := by
  intro hid
  rw [mem_openIncidents] at hincident hother
  have hsame := eq_of_id hincident.1 hother.1 hid
  exact hne (by rw [← hincident.2.1, ← hother.2.1, hsame])

theorem map_of_id_ne {incidentId : Nat} {change : AlertIncident → AlertIncident}
    {rows : List AlertIncident} (h : ∀ row ∈ rows, row.id ≠ incidentId) :
    (rows.map fun row => if row.id = incidentId then change row else row) = rows := by
  refine (List.map_congr_left fun row hmem => ?_).trans (List.map_id _)
  rw [if_neg (h row hmem)]
  rfl

end Tables

/-! ### One write -/

section Sent

variable {sent : List Sent} {incidentId : Nat} {name : String}

/-- What is added to the notifications by a firing, if it is due. -/
def dueFiring (incidentId : Nat) (firing : AlertFiring) (due : Bool) : List Sent :=
  if due then [⟨incidentId, .firing firing⟩] else []

theorem mem_dueFiring {id : Nat} {firing : AlertFiring} {due : Bool} {s : Sent}
    (hs : s ∈ dueFiring id firing due) : s = ⟨id, .firing firing⟩ := by
  unfold dueFiring at hs
  split at hs
  · exact List.mem_singleton.mp hs
  · cases hs

theorem firingsFor_append (more : List Sent) :
    firingsFor incidentId (sent ++ more) =
      firingsFor incidentId sent + firingsFor incidentId more := List.countP_append

theorem spokenOf_append (more : List Sent) :
    spokenOf name (sent ++ more) = spokenOf name sent ++ spokenOf name more := by
  unfold spokenOf
  rw [List.filter_append, List.map_append]

theorem firingsFor_dueFiring (id : Nat) (firing : AlertFiring) (due : Bool) :
    firingsFor incidentId (dueFiring id firing due) =
      if id = incidentId ∧ due = true then 1 else 0 := by
  cases due with
  | false => simp [dueFiring, firingsFor]
  | true => simp [dueFiring, firingsFor, Notification.isFiring, List.countP_singleton]

theorem spokenOf_dueFiring (id : Nat) (firing : AlertFiring) (due : Bool) :
    spokenOf name (dueFiring id firing due) =
      if firing.ruleName = name then Alarm.say due else [] := by
  cases due with
  | false => simp [dueFiring, spokenOf, Alarm.say]
  | true =>
      by_cases hname : firing.ruleName = name
      · simp [dueFiring, spokenOf, Alarm.say, Notification.isFiring, Notification.ruleName, hname]
      · simp [dueFiring, spokenOf, Notification.ruleName, hname]

theorem firingsFor_eq_zero (h : ∀ s ∈ sent, s.incidentId ≠ incidentId) :
    firingsFor incidentId sent = 0 := by
  unfold firingsFor
  rw [List.countP_eq_zero]
  intro s hs hfor
  rw [decide_eq_true_eq] at hfor
  exact h s hs hfor.1

theorem spokenOf_eq_nil (h : ∀ s ∈ sent, s.notification.ruleName ≠ name) :
    spokenOf name sent = [] := by
  unfold spokenOf
  rw [List.map_eq_nil_iff, List.filter_eq_nil_iff]
  intro s hs hname
  exact h s hs (of_decide_eq_true hname)

end Sent

section Run

variable (run : Run) (incident : AlertIncident) (firing : AlertFiring) (due : Bool)

@[simp] theorem openIncident_db (new : NewIncident) (now : Int) :
    (run.openIncident new now firing due).db = createIncident run.db new now := by
  unfold Run.openIncident
  cases due <;> rfl

@[simp] theorem openIncident_sent (new : NewIncident) (now : Int) :
    (run.openIncident new now firing due).sent =
      run.sent ++ dueFiring run.db.nextId firing due := by
  unfold Run.openIncident dueFiring
  cases due
  · exact (List.append_nil _).symm
  · rfl

@[simp] theorem updateIncident_db :
    (run.updateIncident incident firing due).db =
      updateIncidentLastValue run.db incident.id firing.currentValue
        (incident.consecutiveViolations + 1) := by
  unfold Run.updateIncident
  cases due <;> rfl

@[simp] theorem updateIncident_sent :
    (run.updateIncident incident firing due).sent =
      run.sent ++ dueFiring incident.id firing due := by
  unfold Run.updateIncident dueFiring
  cases due
  · exact (List.append_nil _).symm
  · rfl

end Run

/-- A step that moves the alarm of one name and no other. -/
structure Acts (name : String) (op : Alarm → Alarm) (run run' : Run) : Prop where
  sound : Sound run'
  rules : run'.db.rules = run.db.rules
  at_name : alarmOf name run' = op (alarmOf name run)
  elsewhere : ∀ other, other ≠ name → alarmOf other run' = alarmOf other run
  open_elsewhere : ∀ other, other ≠ name →
    openIncidents run'.db other = openIncidents run.db other

section Writes

variable {run : Run} {name : String} {threshold : Int} {firing : AlertFiring}
  {incident : AlertIncident}

/-- The one incident open under a name. -/
theorem Sound.eq_singleton (h : Sound run) (hopen : incident ∈ openIncidents run.db name) :
    openIncidents run.db name = [incident] := by
  have hone := h.one_open name
  match hrows : openIncidents run.db name with
  | [] =>
      rw [hrows] at hopen
      cases hopen
  | [row] =>
      rw [hrows, List.mem_singleton] at hopen
      rw [hopen]
  | _ :: _ :: _ =>
      rw [hrows] at hone
      simp at hone

theorem alarmOf_of_none (hnone : openIncidents run.db name = []) :
    alarmOf name run = ⟨none, spokenOf name run.sent⟩ := by
  unfold alarmOf
  rw [hnone]
  rfl

theorem alarmOf_of_open (hopen : openIncidents run.db name = [incident]) :
    alarmOf name run =
      ⟨some ⟨incident.consecutiveViolations, firingsFor incident.id run.sent⟩,
        spokenOf name run.sent⟩ := by
  unfold alarmOf
  rw [hopen]
  rfl

/-- An alarm is left alone by what happens to other rows and is sent under other names. -/
theorem alarmOf_congr {run' : Run} {more : List Sent}
    (hopen : openIncidents run'.db name = openIncidents run.db name)
    (hsent : run'.sent = run.sent ++ more)
    (hname : ∀ s ∈ more, s.notification.ruleName ≠ name)
    (hid : ∀ row ∈ openIncidents run.db name, ∀ s ∈ more, s.incidentId ≠ row.id) :
    alarmOf name run' = alarmOf name run := by
  unfold alarmOf
  rw [hopen, hsent, spokenOf_append, spokenOf_eq_nil hname, List.append_nil]
  congr 1
  refine Option.map_congr fun row hrow => ?_
  rw [firingsFor_append, firingsFor_eq_zero (hid row (List.mem_of_mem_head? hrow))]
  rfl

/-- Where nothing is open under the name, the new incident is what is. -/
theorem openIncidents_openIncident {new : NewIncident} (hname : new.ruleName = name)
    (hnone : openIncidents run.db name = []) (now : Int) (due : Bool) (other : String) :
    openIncidents (run.openIncident new now firing due).db other =
      if other = name then [new.row run.db.nextId now] else openIncidents run.db other := by
  rw [openIncident_db, openIncidents_createIncident, hname]
  by_cases hother : other = name
  · rw [hother, hnone, if_pos rfl]
    exact List.nil_append _
  · rw [if_neg (Ne.symm hother), if_neg hother, List.append_nil]

theorem Sound.openIncident (h : Sound run) {new : NewIncident} (hname : new.ruleName = name)
    (hfirst : new.consecutiveViolations = 1) (hnone : openIncidents run.db name = []) (now : Int)
    (due : Bool) : Sound (run.openIncident new now firing due) where
  one_open other := by
    rw [openIncidents_openIncident hname hnone]
    split
    · exact Nat.le_refl 1
    · exact h.one_open other
  counted other row hrow := by
    rw [openIncidents_openIncident hname hnone] at hrow
    split at hrow
    · rw [List.mem_singleton.mp hrow]
      exact Int.le_of_eq hfirst.symm
    · exact h.counted other row hrow
  sent_known s hs := by
    rw [openIncident_sent] at hs
    rw [openIncident_db]
    rcases List.mem_append.mp hs with hold | hdueMem
    · exact Nat.lt_succ_of_lt (h.sent_known s hold)
    · rw [mem_dueFiring hdueMem]
      exact Nat.lt_succ_self _

/-- Opening an incident raises the alarm. -/
theorem openIncident_acts (h : Sound run) {new : NewIncident} {now : Int} {due : Bool}
    (hname : new.ruleName = name) (hfirst : new.consecutiveViolations = 1)
    (hfiring : firing.ruleName = name) (hnone : openIncidents run.db name = [])
    (hdue : due = decide (threshold ≤ 1)) :
    Acts name (Alarm.raise threshold) run (run.openIncident new now firing due) := by
  have hnew : ∀ s ∈ run.sent, s.incidentId ≠ run.db.nextId := fun s hs =>
    Nat.ne_of_lt (h.sent_known s hs)
  have helse : ∀ other, other ≠ name →
      openIncidents (run.openIncident new now firing due).db other = openIncidents run.db other := by
    intro other hother
    rw [openIncidents_openIncident hname hnone, if_neg hother]
  refine ⟨h.openIncident hname hfirst hnone now due, ?_, ?_, ?_, helse⟩
  · rw [openIncident_db]
    rfl
  · have hrow : openIncidents (run.openIncident new now firing due).db name =
        [new.row run.db.nextId now] := by
      rw [openIncidents_openIncident hname hnone, if_pos rfl]
    rw [alarmOf_of_open hrow, alarmOf_of_none hnone, openIncident_sent, firingsFor_append,
      spokenOf_append, firingsFor_dueFiring, spokenOf_dueFiring, if_pos hfiring]
    simp [Alarm.raise, NewIncident.row, hfirst, hdue, firingsFor_eq_zero hnew]
  · intro other hother
    refine alarmOf_congr (helse other hother) (openIncident_sent ..) (fun s hs => ?_)
      fun row hrow s hs => ?_
    · rw [mem_dueFiring hs]
      exact fun heq => hother (heq.symm.trans hfiring)
    · rw [mem_dueFiring hs]
      exact Nat.ne_of_gt (run.db.idsBelow row (mem_openIncidents.mp hrow).1)

/-- Counting on changes the one row it is about. -/
theorem openIncidents_updateIncident (due : Bool) (other : String) :
    openIncidents (run.updateIncident incident firing due).db other =
      (openIncidents run.db other).map fun row =>
        if row.id = incident.id then
          { row with
            lastValue := firing.currentValue
            consecutiveViolations := incident.consecutiveViolations + 1 }
        else row := by
  rw [updateIncident_db]
  exact openIncidents_modifyIncident (fun _ => rfl) (fun _ => rfl)

theorem Sound.updateIncident (h : Sound run) (hmem : incident ∈ openIncidents run.db name)
    (due : Bool) : Sound (run.updateIncident incident firing due) where
  one_open other := by
    rw [openIncidents_updateIncident, List.length_map]
    exact h.one_open other
  counted other row hrow := by
    have hcount := h.counted name incident hmem
    rw [openIncidents_updateIncident] at hrow
    obtain ⟨old, hold, rfl⟩ := List.mem_map.mp hrow
    split
    · show 1 ≤ incident.consecutiveViolations + 1
      omega
    · exact h.counted other old hold
  sent_known s hs := by
    rw [updateIncident_sent] at hs
    rw [updateIncident_db]
    rcases List.mem_append.mp hs with hold | hdueMem
    · exact h.sent_known s hold
    · rw [mem_dueFiring hdueMem]
      exact run.db.idsBelow incident (mem_openIncidents.mp hmem).1

/-- Counting on raises it too. -/
theorem updateIncident_acts (h : Sound run) {due : Bool} (hfiring : firing.ruleName = name)
    (hopen : openIncidents run.db name = [incident])
    (hdue : due = decide (incident.consecutiveViolations + 1 = threshold)) :
    Acts name (Alarm.raise threshold) run (run.updateIncident incident firing due) := by
  have hmem : incident ∈ openIncidents run.db name := by
    rw [hopen]
    exact List.mem_singleton_self _
  have helse : ∀ other, other ≠ name →
      openIncidents (run.updateIncident incident firing due).db other =
        openIncidents run.db other := by
    intro other hother
    rw [openIncidents_updateIncident]
    exact map_of_id_ne fun row hrow => id_ne_of_name_ne hrow hmem hother
  refine ⟨h.updateIncident hmem due, ?_, ?_, ?_, helse⟩
  · rw [updateIncident_db]
    rfl
  · have hrow : openIncidents (run.updateIncident incident firing due).db name = _ :=
      openIncidents_updateIncident due name
    rw [hopen, List.map_singleton, if_pos rfl] at hrow
    rw [alarmOf_of_open hrow, alarmOf_of_open hopen, updateIncident_sent, firingsFor_append,
      spokenOf_append, firingsFor_dueFiring, spokenOf_dueFiring, if_pos hfiring]
    simp [Alarm.raise, hdue]
  · intro other hother
    refine alarmOf_congr (helse other hother) (updateIncident_sent ..) (fun s hs => ?_)
      fun row hrow s hs => ?_
    · rw [mem_dueFiring hs]
      exact fun heq => hother (heq.symm.trans hfiring)
    · rw [mem_dueFiring hs]
      exact id_ne_of_name_ne hmem hrow (Ne.symm hother)

/-- What is sent when an incident is resolved. -/
def resolutionSent (clock : Clock) (incident : AlertIncident) : Sent where
  incidentId := incident.id
  notification := .resolution
    { ruleName := incident.ruleName
      metric := incident.ruleName
      severity := incident.severity
      resolvedAt := clock.notified incident.id }

/-- The run after an open incident was resolved. -/
def afterResolution (clock : Clock) (run : Run) (incident : AlertIncident) : Run where
  db := markResolved run.db incident.id (clock.resolved incident.id)
  sent := run.sent ++ [resolutionSent clock incident]

theorem incidentById_of_mem (hmem : incident ∈ run.db.incidents) :
    incidentById run.db incident.id = some incident := by
  unfold incidentById
  cases hfind : run.db.incidents.find? fun row => row.id = incident.id with
  | none =>
      have hnot := List.find?_eq_none.mp hfind incident hmem
      simp at hnot
  | some row =>
      have hid : row.id = incident.id := by simpa using List.find?_some hfind
      rw [eq_of_id (List.mem_of_find?_eq_some hfind) hmem hid]

/-- An incident whose name still fires is passed over. -/
theorem resolveCleared_of_firing (clock : Clock) {allFirings : Dict String AlertFiring}
    (hfires : allFirings.contains incident.ruleName = true) :
    resolveCleared clock allFirings run incident = run := by
  unfold resolveCleared
  rw [if_pos hfires]

/-- Whatever the state of an incident, it is left alone or marked as resolved. -/
theorem resolveCleared_db (clock : Clock) (allFirings : Dict String AlertFiring) (run : Run)
    (incident : AlertIncident) :
    (resolveCleared clock allFirings run incident).db = run.db ∨
      (resolveCleared clock allFirings run incident).db =
        markResolved run.db incident.id (clock.resolved incident.id) := by
  have hresolve : (resolveIncident run.db incident.id (clock.resolved incident.id)).1 = run.db ∨
      (resolveIncident run.db incident.id (clock.resolved incident.id)).1 =
        markResolved run.db incident.id (clock.resolved incident.id) := by
    unfold resolveIncident
    split
    · exact .inl rfl
    · split
      · exact .inr rfl
      · exact .inl rfl
  unfold resolveCleared
  split
  · exact .inl rfl
  · dsimp only
    split
    · exact hresolve
    · exact hresolve

theorem resolveCleared_of_open (clock : Clock) {allFirings : Dict String AlertFiring}
    (hmem : incident ∈ run.db.incidents) (hstatus : incident.status = "firing")
    (hquiet : allFirings.contains incident.ruleName = false) :
    resolveCleared clock allFirings run incident = afterResolution clock run incident := by
  simp only [resolveCleared, resolveIncident, hquiet, incidentById_of_mem hmem, hstatus,
    Bool.false_eq_true, if_false, if_true, Option.isSome_some]
  rfl

/-- A resolution clears the alarm. -/
theorem resolveCleared_acts (h : Sound run) (clock : Clock) {allFirings : Dict String AlertFiring}
    (hopen : incident ∈ openIncidents run.db name) (hquiet : allFirings.contains name = false) :
    Acts name Alarm.clear run (resolveCleared clock allFirings run incident) := by
  obtain ⟨hmem, hname, hstatus⟩ := mem_openIncidents.mp hopen
  rw [resolveCleared_of_open clock hmem hstatus (by rw [hname]; exact hquiet)]
  unfold afterResolution
  have hsingle := h.eq_singleton hopen
  have helse : ∀ other, other ≠ name → openIncidents
      (markResolved run.db incident.id (clock.resolved incident.id)) other =
        openIncidents run.db other := by
    intro other hother
    rw [openIncidents_markResolved, List.filter_eq_self]
    intro row hrow
    exact decide_eq_true (id_ne_of_name_ne hrow hopen hother)
  refine ⟨⟨?_, ?_, ?_⟩, rfl, ?_, ?_, helse⟩
  · intro other
    rw [openIncidents_markResolved]
    exact (List.length_filter_le _ _).trans (h.one_open other)
  · intro other row hrow
    rw [openIncidents_markResolved] at hrow
    exact h.counted other row (List.mem_of_mem_filter hrow)
  · intro s hs
    rcases List.mem_append.mp hs with hold | hnew
    · exact h.sent_known s hold
    · rw [List.mem_singleton.mp hnew]
      exact run.db.idsBelow incident hmem
  · have hnone : openIncidents
        (markResolved run.db incident.id (clock.resolved incident.id)) name = [] := by
      rw [openIncidents_markResolved, hsingle]
      simp
    rw [alarmOf_of_none hnone, alarmOf_of_open hsingle, spokenOf_append]
    simp [Alarm.clear, spokenOf, resolutionSent, Notification.ruleName, Notification.isFiring, hname]
  · intro other hother
    refine alarmOf_congr (helse other hother) rfl (fun s hs => ?_) fun row hrow s hs => ?_
    · rw [List.mem_singleton.mp hs]
      exact fun heq => hother (heq.symm.trans hname)
    · rw [List.mem_singleton.mp hs]
      exact id_ne_of_name_ne hopen hrow (Ne.symm hother)

end Writes

/-! ### Firing -/

/-- The threshold of a name: that of its enabled rule, or one for what only objectives fire
under. -/
def thresholdOf (rules : List AlertRule) (name : String) : Int :=
  ((rules.find? fun rule => rule.name = name ∧ rule.isEnabled = true).map
    (·.consecutiveCycles)).getD 1

theorem thresholdOf_of_mem {rules : List AlertRule} {rule : AlertRule}
    (hunique : (rules.map (·.name)).Nodup) (hmem : rule ∈ rules) (henabled : rule.isEnabled = true) :
    thresholdOf rules rule.name = rule.consecutiveCycles := by
  unfold thresholdOf
  cases hfind : rules.find? fun other => other.name = rule.name ∧ other.isEnabled = true with
  | none =>
      have hnot := List.find?_eq_none.mp hfind rule hmem
      simp [henabled] at hnot
  | some other =>
      have hother : other.name = rule.name ∧ other.isEnabled = true := by
        simpa using List.find?_some hfind
      have hsame : other = rule :=
        List.inj_on_of_nodup_map hunique (List.mem_of_find?_eq_some hfind) hmem hother.1
      rw [hsame]
      rfl

theorem thresholdOf_of_not_mem {rules : List AlertRule} {name : String}
    (hnone : ∀ rule ∈ rules, rule.isEnabled = true → rule.name ≠ name) :
    thresholdOf rules name = 1 := by
  unfold thresholdOf
  have hfind : (rules.find? fun rule => rule.name = name ∧ rule.isEnabled = true) = none := by
    rw [List.find?_eq_none]
    intro rule hmem hrule
    rw [decide_eq_true_eq] at hrule
    exact hnone rule hmem hrule.2 hrule.1
  rw [hfind]
  rfl

/-- Some alarms have been raised, at their own thresholds, and only where something fires. -/
structure Raises (threshold : String → Int) (fires : String → Prop) (run run' : Run) : Prop where
  rules : run'.db.rules = run.db.rules
  raised : ∀ name, ∃ k, alarmOf name run' = (Alarm.raise (threshold name))^[k] (alarmOf name run) ∧
    (¬ fires name → k = 0)

section Firing

variable {threshold : String → Int} {fires : String → Prop} {run run' run'' : Run}

theorem Raises.refl (run : Run) : Raises threshold fires run run where
  rules := rfl
  raised _ := ⟨0, rfl, fun _ => rfl⟩

theorem Raises.trans (h : Raises threshold fires run run') (h' : Raises threshold fires run' run'') :
    Raises threshold fires run run'' where
  rules := h'.rules.trans h.rules
  raised name := by
    obtain ⟨k, hk, hzero⟩ := h.raised name
    obtain ⟨k', hk', hzero'⟩ := h'.raised name
    refine ⟨k' + k, ?_, fun hquiet => by rw [hzero hquiet, hzero' hquiet]⟩
    rw [hk', hk, Function.iterate_add_apply]

theorem Acts.raises (name : String) (hfires : fires name)
    (h : Acts name (Alarm.raise (threshold name)) run run') :
    Sound run' ∧ Raises threshold fires run run' := by
  refine ⟨h.sound, h.rules, fun other => ?_⟩
  by_cases hother : other = name
  · subst hother
    exact ⟨1, h.at_name, fun hquiet => absurd hfires hquiet⟩
  · exact ⟨0, h.elsewhere other hother, fun _ => rfl⟩

/-- A lookup that finds at most one does not raise. -/
theorem getOpen_of_one {name : String} (hone : (openIncidents run.db name).length ≤ 1) :
    getOpenIncidentByRuleName run.db name = .ok (openIncidents run.db name).head? := by
  unfold getOpenIncidentByRuleName
  match hrows : openIncidents run.db name with
  | [] => rfl
  | [_] => rfl
  | _ :: _ :: _ =>
      rw [hrows] at hone
      simp at hone

theorem Sound.getOpen (h : Sound run) (name : String) :
    getOpenIncidentByRuleName run.db name = .ok (openIncidents run.db name).head? :=
  getOpen_of_one (h.one_open name)

theorem mem_of_byName {firings : List AlertFiring} {name : String} {firing : AlertFiring}
    (h : (byName firings).get? name = some firing) : firing ∈ firings ∧ firing.ruleName = name := by
  obtain ⟨found, hmem, heq⟩ := List.mem_map.mp (Dict.mem_of_get?_ofPairs h)
  cases heq
  exact ⟨hmem, rfl⟩

theorem contains_byName {firings : List AlertFiring} {name : String} :
    (byName firings).contains name = true ↔ ∃ firing ∈ firings, firing.ruleName = name := by
  unfold Dict.contains
  constructor
  · intro h
    obtain ⟨firing, hget⟩ := Option.isSome_iff_exists.mp h
    exact ⟨firing, mem_of_byName hget⟩
  · rintro ⟨firing, hmem, rfl⟩
    refine Dict.get?_ofPairs_isSome ?_
    rw [List.map_map]
    exact List.mem_map.mpr ⟨firing, hmem, rfl⟩

/-- A rule that fires raises the alarm of its name. -/
theorem reconcileRule_raises (clock : Clock) {firings : List AlertFiring} {rule : AlertRule}
    (hthreshold : threshold rule.name = rule.consecutiveCycles)
    (hfires : ∀ firing ∈ firings, fires firing.ruleName) (h : Sound run) :
    ∃ run', reconcileRule clock (byName firings) run rule = .ok run' ∧ Sound run' ∧
      Raises threshold fires run run' := by
  cases hfiring : (byName firings).get? rule.name with
  | none =>
      refine ⟨run, ?_, h, Raises.refl run⟩
      simp only [reconcileRule, hfiring]
  | some firing =>
      obtain ⟨hmem, hname⟩ := mem_of_byName hfiring
      have hruleFires : fires rule.name := by
        rw [← hname]
        exact hfires firing hmem
      cases hopen : openIncidents run.db rule.name with
      | nil =>
          simp only [reconcileRule, hfiring, h.getOpen, hopen, List.head?_nil]
          refine ⟨_, rfl, Acts.raises rule.name hruleFires ?_⟩
          exact openIncident_acts h rfl rfl hname hopen (by rw [hthreshold])
      | cons incident rest =>
          have hincident : incident ∈ openIncidents run.db rule.name := by
            rw [hopen]
            exact List.mem_cons_self
          simp only [reconcileRule, hfiring, h.getOpen, hopen, List.head?_cons]
          refine ⟨_, rfl, Acts.raises rule.name hruleFires ?_⟩
          exact updateIncident_acts h hname (h.eq_singleton hincident) (by rw [hthreshold])

/-- An objective that fires raises the alarm of its name, at once. -/
theorem reconcileSlo_raises (clock : Clock) {firing : AlertFiring}
    (hthreshold : threshold firing.ruleName = 1) (hfires : fires firing.ruleName) (h : Sound run) :
    ∃ run', reconcileSlo clock run firing = .ok run' ∧ Sound run' ∧
      Raises threshold fires run run' := by
  cases hopen : openIncidents run.db firing.ruleName with
  | nil =>
      simp only [reconcileSlo, h.getOpen, hopen, List.head?_nil]
      refine ⟨_, rfl, Acts.raises firing.ruleName hfires ?_⟩
      exact openIncident_acts h rfl rfl rfl hopen (by rw [hthreshold]; rfl)
  | cons incident rest =>
      have hmem : incident ∈ openIncidents run.db firing.ruleName := by
        rw [hopen]
        exact List.mem_cons_self
      have hcount := h.counted firing.ruleName incident hmem
      simp only [reconcileSlo, h.getOpen, hopen, List.head?_cons]
      refine ⟨_, rfl, Acts.raises firing.ruleName hfires ?_⟩
      refine updateIncident_acts h rfl (h.eq_singleton hmem) ?_
      rw [hthreshold, eq_comm, decide_eq_false_iff_not]
      omega

end Firing

/-! ### Resolving -/

section Resolving

variable {run : Run} {name : String} {incident : AlertIncident}

theorem mem_listIncidents {limit : Nat}
    (h : incident ∈ listIncidents run.db (some "firing") limit 0) :
    incident ∈ openIncidents run.db incident.ruleName := by
  have hrow := List.mem_of_mem_drop (List.mem_of_mem_take h)
  rw [List.mem_insertionSort, List.mem_filter] at hrow
  have hstatus : incident.status = "firing" := by simpa using hrow.2
  exact mem_openIncidents.mpr ⟨hrow.1, rfl, hstatus⟩

theorem listIncidents_nodup {limit : Nat} :
    ((listIncidents run.db (some "firing") limit 0).map (·.id)).Nodup := by
  refine (List.Sublist.map _ ((List.take_sublist _ _).trans (List.drop_sublist _ _))).nodup ?_
  refine ((List.perm_insertionSort _ _).map _).nodup_iff.mpr ?_
  exact (List.Sublist.map _ List.filter_sublist).nodup run.db.incidentsUnique

theorem clear_clear (alarm : Alarm) : alarm.clear.clear = alarm.clear := by
  obtain ⟨episode, spoken⟩ := alarm
  cases episode with
  | none => rfl
  | some episode => rfl

/-- Some alarms have been cleared, and only where nothing fires. -/
structure Clears (fires : String → Prop) (run run' : Run) : Prop where
  rules : run'.db.rules = run.db.rules
  cleared : ∀ name, alarmOf name run' = alarmOf name run ∨
    ¬ fires name ∧ alarmOf name run' = (alarmOf name run).clear

/-- The incidents of the list are open under different names, so that each is found as it was
listed. -/
theorem foldl_resolveCleared_clears (clock : Clock) (firings : List AlertFiring) :
    ∀ (listed : List AlertIncident) {run : Run}, Sound run →
      (∀ incident ∈ listed, incident ∈ openIncidents run.db incident.ruleName) →
      (listed.map (·.id)).Nodup →
      Sound (listed.foldl (resolveCleared clock (byName firings)) run) ∧
        Clears (fun name => ∃ firing ∈ firings, firing.ruleName = name) run
          (listed.foldl (resolveCleared clock (byName firings)) run) := by
  intro listed
  induction listed with
  | nil =>
      intro run h _ _
      exact ⟨h, rfl, fun _ => Or.inl rfl⟩
  | cons incident rest ih =>
      intro run h hopen hnodup
      rw [List.map_cons, List.nodup_cons] at hnodup
      obtain ⟨hfresh, hnodup⟩ := hnodup
      have hincident := hopen incident List.mem_cons_self
      rw [List.foldl_cons]
      by_cases hfires : (byName firings).contains incident.ruleName = true
      · rw [resolveCleared_of_firing clock hfires]
        exact ih h (fun other hother => hopen other (List.mem_cons_of_mem _ hother)) hnodup
      · rw [Bool.not_eq_true] at hfires
        have hacts := resolveCleared_acts h clock hincident hfires
        have hquiet : ¬ ∃ firing ∈ firings, firing.ruleName = incident.ruleName := by
          rw [← contains_byName, hfires]
          exact Bool.false_ne_true
        have hrest : ∀ other ∈ rest, other ∈ openIncidents
            (resolveCleared clock (byName firings) run incident).db other.ruleName := by
          intro other hother
          have hotherOpen := hopen other (List.mem_cons_of_mem _ hother)
          have hne : other.ruleName ≠ incident.ruleName := by
            intro hname
            rw [hname] at hotherOpen
            have hsingle := h.eq_singleton hincident
            rw [hsingle, List.mem_singleton] at hotherOpen
            exact hfresh (List.mem_map.mpr ⟨other, hother, by rw [hotherOpen]⟩)
          rw [hacts.open_elsewhere _ hne]
          exact hotherOpen
        obtain ⟨hsound, hclears⟩ := ih hacts.sound hrest hnodup
        refine ⟨hsound, hclears.rules.trans hacts.rules, fun name => ?_⟩
        by_cases hname : name = incident.ruleName
        · subst hname
          refine Or.inr ⟨hquiet, ?_⟩
          rcases hclears.cleared incident.ruleName with hsame | ⟨-, hagain⟩
          · rw [hsame, hacts.at_name]
          · rw [hagain, hacts.at_name, clear_clear]
        · have hsame := hacts.elsewhere name hname
          rcases hclears.cleared name with hlater | ⟨hnot, hlater⟩
          · exact Or.inl (hlater.trans hsame)
          · exact Or.inr ⟨hnot, by rw [hlater, hsame]⟩

end Resolving

/-! ### A cycle -/

section Cycle

variable {setup : Setup} {cycle : Cycle} {run : Run}

/-- Seeding touches no incident, and hands out identifiers. -/
theorem seedRules_incidents (db : AlertDb) :
    (seedRules db).incidents = db.incidents ∧ db.nextId ≤ (seedRules db).nextId := by
  have hfold : ∀ (schemas : List AlertRuleSchema) (db : AlertDb),
      (schemas.foldl upsertAlertRule db).incidents = db.incidents ∧
        db.nextId ≤ (schemas.foldl upsertAlertRule db).nextId := by
    intro schemas
    induction schemas with
    | nil =>
        intro db
        exact ⟨rfl, Nat.le_refl _⟩
    | cons schema schemas ih =>
        intro db
        obtain ⟨hincidents, hnext⟩ := ih (upsertAlertRule db schema)
        exact ⟨hincidents, (Nat.le_succ _).trans hnext⟩
  unfold seedRules
  split
  · exact hfold _ db
  · exact ⟨rfl, Nat.le_refl _⟩

/-- A change of the rules is not seen by the alarms. -/
theorem alarmOf_of_incidents {db : AlertDb} (hincidents : db.incidents = run.db.incidents)
    (name : String) : alarmOf name { run with db := db } = alarmOf name run := by
  simp only [alarmOf, openIncidents, hincidents]

theorem Sound.of_incidents (h : Sound run) {db : AlertDb}
    (hincidents : db.incidents = run.db.incidents) (hnext : run.db.nextId ≤ db.nextId) :
    Sound { run with db := db } := by
  have hopen : ∀ name, openIncidents db name = openIncidents run.db name := by
    intro name
    simp only [openIncidents, hincidents]
  refine ⟨fun name => ?_, fun name incident hmem => ?_, fun s hs => ?_⟩
  · exact (hopen name ▸ h.one_open name : (openIncidents db name).length ≤ 1)
  · exact h.counted name incident (hopen name ▸ hmem)
  · exact Nat.lt_of_lt_of_le (h.sent_known s hs) hnext

theorem mem_activeRules {db : AlertDb} {rule : AlertRule} :
    rule ∈ activeRules db ↔ rule ∈ (seedRules db).rules ∧ rule.isEnabled = true := by
  unfold activeRules listAlertRules
  rw [List.mem_filter, List.mem_insertionSort]

/-- Something fires under the name in the cycle. -/
def Fires (setup : Setup) (cycle : Cycle) (db : AlertDb) (name : String) : Prop :=
  ∃ firing ∈ ruleFirings setup cycle db ++ sloFirings setup cycle, firing.ruleName = name

/-- No objective fires under the name of an active rule. -/
def NamesApart (setup : Setup) (cycle : Cycle) (db : AlertDb) : Prop :=
  ∀ firing ∈ sloFirings setup cycle, ∀ rule ∈ activeRules db, rule.name ≠ firing.ruleName

/-- What a cycle does to the alarm of a name. -/
def Moves (threshold : Int) (fires : Prop) (alarm alarm' : Alarm) : Prop :=
  (∃ k, alarm' = (Alarm.raise threshold)^[k] alarm) ∨ ¬ fires ∧ alarm' = alarm.clear

theorem reconcile_raises (h : Sound run) (hapart : NamesApart setup cycle run.db) :
    ∃ run', reconcile setup cycle run = .ok run' ∧ Sound run' ∧
      Raises (thresholdOf (seedRules run.db).rules) (Fires setup cycle run.db)
        { run with db := seedRules run.db } run' := by
  obtain ⟨hincidents, hnext⟩ := seedRules_incidents run.db
  have hseeded : Sound { run with db := seedRules run.db } := h.of_incidents hincidents hnext
  have hruleLoop : ∃ run', (activeRules run.db).foldlM
      (reconcileRule cycle.clock (byName (ruleFirings setup cycle run.db)))
      { run with db := seedRules run.db } = .ok run' ∧ Sound run' ∧
      Raises (thresholdOf (seedRules run.db).rules) (Fires setup cycle run.db)
        { run with db := seedRules run.db } run' := by
    refine foldlM_ok Raises.refl Raises.trans (fun rule hrule s hs => ?_) hseeded
    obtain ⟨hmem, henabled⟩ := mem_activeRules.mp hrule
    refine reconcileRule_raises cycle.clock ?_ ?_ hs
    · exact thresholdOf_of_mem (seedRules run.db).rulesUnique hmem henabled
    · exact fun firing hfiring => ⟨firing, List.mem_append_left _ hfiring, rfl⟩
  obtain ⟨run', hrules, hsound, hraises⟩ := hruleLoop
  have hsloLoop : ∃ run'', (sloFirings setup cycle).foldlM (reconcileSlo cycle.clock) run' =
      .ok run'' ∧ Sound run'' ∧
      Raises (thresholdOf (seedRules run.db).rules) (Fires setup cycle run.db) run' run'' := by
    refine foldlM_ok Raises.refl Raises.trans (fun firing hfiring s hs => ?_) hsound
    refine reconcileSlo_raises cycle.clock ?_ ?_ hs
    · refine thresholdOf_of_not_mem fun rule hmem henabled => ?_
      exact hapart firing hfiring rule (mem_activeRules.mpr ⟨hmem, henabled⟩)
    · exact ⟨firing, List.mem_append_right _ hfiring, rfl⟩
  obtain ⟨run'', hslos, hsound', hraises'⟩ := hsloLoop
  refine ⟨run'', ?_, hsound', hraises.trans hraises'⟩
  unfold reconcile
  simp only [hrules]
  exact hslos

theorem resolveListed_clears (cycle : Cycle) (h : Sound run) (firings : List AlertFiring) :
    Sound (resolveListed cycle (byName firings) run) ∧
      Clears (fun name => ∃ firing ∈ firings, firing.ruleName = name) run
        (resolveListed cycle (byName firings) run) :=
  foldl_resolveCleared_clears cycle.clock firings _ h (fun _ hmem => mem_listIncidents hmem)
    listIncidents_nodup

theorem upsertAlertRule_rules_ne_nil (db : AlertDb) (schema : AlertRuleSchema) :
    (upsertAlertRule db schema).rules ≠ [] := by
  intro hnil
  have hnames : ((upsertAlertRule db schema).rules).map (·.name) = [] := by
    rw [hnil]
    rfl
  have hupsert := upsertRules_names schema db.nextId db.rules
  rw [show upsertRules schema db.nextId db.rules = (upsertAlertRule db schema).rules from rfl,
    hnames] at hupsert
  split at hupsert
  · rename_i hmem
    rw [← hupsert] at hmem
    cases hmem
  · exact List.append_ne_nil_of_right_ne_nil _ (List.cons_ne_nil _ _) hupsert.symm

/-- There are rules after seeding. -/
theorem seedRules_rules_ne_nil (db : AlertDb) : (seedRules db).rules ≠ [] := by
  have hfold : ∀ (schemas : List AlertRuleSchema) (db : AlertDb), db.rules ≠ [] →
      (schemas.foldl upsertAlertRule db).rules ≠ [] := by
    intro schemas
    induction schemas with
    | nil =>
        intro db hdb
        exact hdb
    | cons schema schemas ih =>
        intro db _
        exact ih _ (upsertAlertRule_rules_ne_nil db schema)
  unfold seedRules
  split
  · unfold defaultAlertRules
    rw [List.foldl_cons]
    exact hfold _ _ (upsertAlertRule_rules_ne_nil db _)
  · rename_i hsome
    simpa using hsome

theorem seedRules_of_rules {db : AlertDb} (h : db.rules ≠ []) : seedRules db = db := by
  unfold seedRules
  rw [if_neg]
  simpa using h

/-- A cycle goes through, and it moves every alarm by raising it at the threshold of its name
or, if nothing fires there, by clearing it. -/
theorem runAlertEvaluation_moves (h : Sound run) (hapart : NamesApart setup cycle run.db) :
    ∃ run', runAlertEvaluation setup cycle run = .ok run' ∧ Sound run' ∧
      (seedRules run'.db).rules = (seedRules run.db).rules ∧
      ∀ name, Moves (thresholdOf (seedRules run.db).rules name) (Fires setup cycle run.db name)
        (alarmOf name run) (alarmOf name run') := by
  have hidle : Sound run ∧ (seedRules run.db).rules = (seedRules run.db).rules ∧
      ∀ name, Moves (thresholdOf (seedRules run.db).rules name) (Fires setup cycle run.db name)
        (alarmOf name run) (alarmOf name run) := ⟨h, rfl, fun _ => Or.inl ⟨0, rfl⟩⟩
  unfold runAlertEvaluation
  split
  · exact ⟨run, rfl, hidle⟩
  · split
    · exact ⟨run, rfl, hidle⟩
    · obtain ⟨run', hreconcile, hsound, hraises⟩ := reconcile_raises h hapart
      obtain ⟨hsound', hclears⟩ := resolveListed_clears cycle hsound
        (ruleFirings setup cycle run.db ++ sloFirings setup cycle)
      refine ⟨resolveListed cycle
        (byName (ruleFirings setup cycle run.db ++ sloFirings setup cycle)) run', ?_, hsound', ?_,
        fun name => ?_⟩
      · simp only [hreconcile]
        rfl
      · have hsame := hclears.rules.trans hraises.rules
        rw [seedRules_of_rules (by rw [hsame]; exact seedRules_rules_ne_nil _), hsame]
      · obtain ⟨k, hk, hzero⟩ := hraises.raised name
        rw [alarmOf_of_incidents (seedRules_incidents run.db).1] at hk
        rcases hclears.cleared name with hsame | ⟨hquiet, hcleared⟩
        · exact Or.inl ⟨k, hsame.trans hk⟩
        · refine Or.inr ⟨hquiet, ?_⟩
          rw [hcleared, hk, hzero hquiet]
          rfl

end Cycle

end AlertJob

end GaiaOS
