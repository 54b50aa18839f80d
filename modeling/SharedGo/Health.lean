/-
This file models the aggregation of health checks and proves that the overall
status is the worst of the entries. Each check runs in a goroutine of its own,
which calls the check and then, holding a lock, records the entry and lets it
worsen the status. The goroutines return and take the lock in any order: a run is
a list of such events. Where the entry of a name is at any moment, and that the
status is the worst of what is recorded, are invariants of the steps; when no
goroutine is left they say what the response is.
-/

import Mathlib.Data.List.Induction
import SharedGo.Dynamic
import SharedGo.MapRange
import SharedGo.Runs

namespace SharedGo.Health

open SharedGo

/-! ### Checks -/

/-- A status is a text, of which the package names three. -/
structure Status where
  text : String
  deriving DecidableEq, Repr

def Status.healthy : Status := ⟨"Healthy"⟩

def Status.degraded : Status := ⟨"Degraded"⟩

def Status.unhealthy : Status := ⟨"Unhealthy"⟩

/-- The result of a single check. -/
structure Entry where
  status : Status
  description : String
  duration : String
  tags : List String
  data : Dynamic

/-- The aggregated response. -/
structure Response where
  status : Status
  totalDuration : String
  entries : GoMap String Entry

section Checker

variable {Check : Type}

/-- The checks by their names. -/
structure Checker (Check : Type) where
  checks : GoMap String Check

def newChecker : Checker Check := ⟨∅⟩

/-- A check replaces an earlier one of its name. -/
def Checker.register (checker : Checker Check) (name : String) (check : Check) : Checker Check :=
  ⟨checker.checks.insert name check⟩

/-- A checker after a sequence of registrations. -/
def registerAll (registrations : List (String × Check)) : Checker Check :=
  registrations.foldl (fun checker registration =>
    checker.register registration.1 registration.2) newChecker

/-- The check registered last under a name. -/
def lastRegistered (registrations : List (String × Check)) (name : String) : Option Check :=
  (registrations.reverse.find? fun registration => registration.1 = name).map Prod.snd

theorem lookup_registerAll (registrations : List (String × Check)) (name : String) :
    (registerAll registrations).checks.lookup name = lastRegistered registrations name := by
  unfold registerAll lastRegistered
  induction registrations using List.reverseRecOn with
  | nil => rfl
  | append_singleton earlier last inductionHypothesis =>
    rw [List.foldl_concat, Checker.register, GoMap.lookup_insert_eq, inductionHypothesis,
      List.reverse_concat, List.find?_cons]
    by_cases same : last.1 = name
    · simp [same]
    · simp [same, Ne.symm same]

/-! ### A run -/

/-- A run under way: the checks that have not returned, the entries of those that have but are not
recorded, and what is recorded. -/
structure RunState (Check : Type) where
  running : GoMap String Check
  returned : GoMap String Entry
  entries : GoMap String Entry
  overallStatus : Status

inductive RunEvent where
  | returns (name : String)
  | records (name : String)
  deriving DecidableEq, Repr

def Checker.start (checker : Checker Check) : RunState Check where
  running := checker.checks
  returned := ∅
  entries := ∅
  overallStatus := .healthy

/-- The overall status after an entry of the given status. -/
def worsen (overallStatus status : Status) : Status :=
  if status = .unhealthy then .unhealthy
  else if status = .degraded ∧ overallStatus ≠ .unhealthy then .degraded
  else overallStatus

variable (results : String → Check → Entry)

/-- The next event of some goroutine, when every check returns its result. -/
def runStep (state : RunState Check) : RunEvent → Option (RunState Check)
  | .returns name =>
    match state.running.lookup name with
    | none => none
    | some check =>
      some { state with
        running := state.running.erase name
        returned := state.returned.insert name (results name check) }
  | .records name =>
    match state.returned.lookup name with
    | none => none
    | some entry =>
      some { state with
        returned := state.returned.erase name
        entries := state.entries.insert name entry
        overallStatus := worsen state.overallStatus entry.status }

/-- All goroutines are done. -/
def RunState.finished (state : RunState Check) : Bool :=
  state.running.entries.isEmpty && state.returned.entries.isEmpty

/-- The response, with the time that the run took as it is written. -/
def RunState.response (state : RunState Check) (totalDuration : String) : Response where
  status := state.overallStatus
  totalDuration := totalDuration
  entries := state.entries

/-- What a step does. -/
theorem runStep_cases (state next : RunState Check) (event : RunEvent)
    (stepped : runStep results state event = some next) :
    (∃ name check, event = .returns name ∧ state.running.lookup name = some check ∧
        next = { state with
          running := state.running.erase name
          returned := state.returned.insert name (results name check) }) ∨
      ∃ name entry, event = .records name ∧ state.returned.lookup name = some entry ∧
        next = { state with
          returned := state.returned.erase name
          entries := state.entries.insert name entry
          overallStatus := worsen state.overallStatus entry.status } := by
  cases event with
  | returns name =>
    simp only [runStep] at stepped
    split at stepped
    · cases stepped
    · rename_i check found
      exact Or.inl ⟨name, check, rfl, found, (Option.some_inj.mp stepped).symm⟩
  | records name =>
    simp only [runStep] at stepped
    split at stepped
    · cases stepped
    · rename_i entry found
      exact Or.inr ⟨name, entry, rfl, found, (Option.some_inj.mp stepped).symm⟩

/-! ### Where an entry is -/

/-- Where a run has what belongs to a name: its check is running, its result has been returned, or
it is recorded. -/
inductive Located (name : String) :
    Option Check → Option Check × Option Entry × Option Entry → Prop
  | unregistered : Located name none (none, none, none)
  | running (check : Check) : Located name (some check) (some check, none, none)
  | returned (check : Check) : Located name (some check) (none, some (results name check), none)
  | recorded (check : Check) : Located name (some check) (none, none, some (results name check))

/-- Every check is in one place. -/
def EachLocated (checks : GoMap String Check) (state : RunState Check) : Prop :=
  ∀ name, Located results name (checks.lookup name)
    (state.running.lookup name, state.returned.lookup name, state.entries.lookup name)

theorem eachLocated_start (checker : Checker Check) :
    EachLocated results checker.checks checker.start := by
  intro name
  show Located results name _ (checker.checks.lookup name, none, none)
  cases checker.checks.lookup name with
  | none => exact .unregistered
  | some check => exact .running check

theorem eachLocated_step (checks : GoMap String Check) (state next : RunState Check)
    (event : RunEvent) (stepped : runStep results state event = some next)
    (located : EachLocated results checks state) : EachLocated results checks next := by
  intro other
  have before := located other
  obtain ⟨name, check, rfl, found, rfl⟩ | ⟨name, entry, rfl, found, rfl⟩ :=
    runStep_cases results state next event stepped
  · by_cases same : other = name
    · subst same
      simp only [AList.lookup_erase, AList.lookup_insert]
      rw [found] at before
      generalize checks.lookup other = registered at before ⊢
      generalize state.returned.lookup other = returned at before
      generalize state.entries.lookup other = recorded at before ⊢
      cases before with
      | running check => exact .returned check
    · simp only [AList.lookup_erase_ne same, AList.lookup_insert_ne same]
      exact before
  · by_cases same : other = name
    · subst same
      simp only [AList.lookup_erase, AList.lookup_insert]
      rw [found] at before
      generalize checks.lookup other = registered at before ⊢
      generalize state.running.lookup other = running at before ⊢
      generalize state.entries.lookup other = recorded at before
      cases before with
      | returned check => exact .recorded check
    · simp only [AList.lookup_erase_ne same, AList.lookup_insert_ne same]
      exact before

/-- A result that has been returned is not recorded. -/
theorem EachLocated.not_recorded {checks : GoMap String Check} {state : RunState Check}
    (located : EachLocated results checks state) (name : String) (entry : Entry)
    (returned : state.returned.lookup name = some entry) : state.entries.lookup name = none := by
  have place := located name
  rw [returned] at place
  generalize state.entries.lookup name = recorded at place ⊢
  generalize state.running.lookup name = running at place
  generalize checks.lookup name = registered at place
  cases place with
  | returned check => rfl

/-- A check that is running has not been returned. -/
theorem EachLocated.not_returned {checks : GoMap String Check} {state : RunState Check}
    (located : EachLocated results checks state) (name : String) (check : Check)
    (running : state.running.lookup name = some check) : state.returned.lookup name = none := by
  have place := located name
  rw [running] at place
  generalize state.returned.lookup name = returned at place ⊢
  generalize state.entries.lookup name = recorded at place
  generalize checks.lookup name = registered at place
  cases place with
  | running check => rfl

/-! ### The worst entry -/

/-- Some entry has the status. -/
def Has (entries : GoMap String Entry) (status : Status) : Prop :=
  ∃ name entry, entries.lookup name = some entry ∧ entry.status = status

/-- The status is the worst of the entries. -/
def IsWorst (entries : GoMap String Entry) (status : Status) : Prop :=
  (status = .unhealthy ↔ Has entries .unhealthy) ∧
    (status = .degraded ↔ ¬Has entries .unhealthy ∧ Has entries .degraded) ∧
    (status = .healthy ↔ ¬Has entries .unhealthy ∧ ¬Has entries .degraded)

theorem not_has_empty (status : Status) : ¬Has ∅ status := by
  rintro ⟨name, entry, found, _⟩
  rw [AList.lookup_empty] at found
  cases found

theorem has_insert_iff (entries : GoMap String Entry) (name : String) (entry : Entry)
    (fresh : entries.lookup name = none) (status : Status) :
    Has (entries.insert name entry) status ↔ entry.status = status ∨ Has entries status := by
  constructor
  · rintro ⟨other, found, lookup, same⟩
    rcases GoMap.lookup_insert_cases entries name other entry found lookup with
      ⟨rfl, rfl⟩ | earlier
    · exact Or.inl same
    · exact Or.inr ⟨other, found, earlier, same⟩
  · rintro (same | ⟨other, found, lookup, same⟩)
    · exact ⟨name, entry, AList.lookup_insert entries, same⟩
    · refine ⟨other, found, ?_, same⟩
      have different : other ≠ name := by
        rintro rfl
        rw [fresh] at lookup
        cases lookup
      rw [AList.lookup_insert_ne different]
      exact lookup

theorem isWorst_empty : IsWorst ∅ .healthy := by
  simp only [IsWorst, not_has_empty]
  decide

/-- The update keeps the status the worst, whatever the entry's status is. -/
theorem isWorst_insert (entries : GoMap String Entry) (name : String) (entry : Entry)
    (fresh : entries.lookup name = none) (overallStatus : Status)
    (worst : IsWorst entries overallStatus) :
    IsWorst (entries.insert name entry) (worsen overallStatus entry.status) := by
  have apart : Status.unhealthy ≠ .degraded ∧ Status.unhealthy ≠ .healthy ∧
      Status.degraded ≠ .healthy := by decide
  obtain ⟨unhealthy, degraded, healthy⟩ := worst
  simp only [IsWorst, has_insert_iff entries name entry fresh, worsen]
  by_cases isUnhealthy : entry.status = .unhealthy
  · simp [isUnhealthy, apart]
  by_cases isDegraded : entry.status = .degraded
  · by_cases already : overallStatus = .unhealthy
    · simp [isDegraded, already, apart, apart.1.symm, unhealthy.mp already]
    · simp [isDegraded, already, apart, apart.1.symm, mt unhealthy.mpr already]
  · simp [isUnhealthy, isDegraded, unhealthy, degraded, healthy]

/-! ### Runs -/

/-- Every check is in one place and the status is the worst of what is recorded. -/
theorem run_invariant (checker : Checker Check) (events : List RunEvent) (state : RunState Check)
    (run : Runs.exec (runStep results) checker.start events = some state) :
    EachLocated results checker.checks state ∧ IsWorst state.entries state.overallStatus := by
  refine Runs.exec_keeps (runStep results)
    (fun state => EachLocated results checker.checks state ∧
      IsWorst state.entries state.overallStatus) (fun _ => True) ?_ checker.start state events
    (fun _ _ => trivial) run ⟨eachLocated_start results checker, isWorst_empty⟩
  rintro state event next - stepped ⟨located, worst⟩
  refine ⟨eachLocated_step results checker.checks state next event stepped located, ?_⟩
  obtain ⟨name, check, -, -, rfl⟩ | ⟨name, entry, -, returned, rfl⟩ :=
    runStep_cases results state next event stepped
  · exact worst
  · exact isWorst_insert state.entries name entry (located.not_recorded results name entry returned)
      state.overallStatus worst

/-- The events that are left. -/
def RunState.eventsLeft (state : RunState Check) : Nat :=
  2 * state.running.keys.length + state.returned.keys.length

theorem eventsLeft_step (checks : GoMap String Check) (state next : RunState Check)
    (event : RunEvent) (stepped : runStep results state event = some next)
    (located : EachLocated results checks state) : next.eventsLeft + 1 = state.eventsLeft := by
  unfold RunState.eventsLeft
  obtain ⟨name, check, rfl, found, rfl⟩ | ⟨name, entry, rfl, found, rfl⟩ :=
    runStep_cases results state next event stepped
  · have fewer := GoMap.length_keys_erase state.running name check found
    have more := GoMap.length_keys_insert state.returned name (results name check)
      (located.not_returned results name check found)
    simp only
    omega
  · have fewer := GoMap.length_keys_erase state.returned name entry found
    simp only
    omega

/-- A run is as long as the events that it has used up. -/
theorem length_run (checker : Checker Check) (events : List RunEvent) (state : RunState Check)
    (run : Runs.exec (runStep results) checker.start events = some state) :
    events.length + state.eventsLeft = 2 * checker.checks.keys.length := by
  refine Runs.exec_histories (runStep results) checker.start
    (fun events state => events.length + state.eventsLeft = 2 * checker.checks.keys.length)
    ?_ ?_ events state run
  · show 0 + (2 * checker.checks.keys.length + 0) = 2 * checker.checks.keys.length
    omega
  · intro past state event next ran stepped length
    have located := (run_invariant results checker past state ran).1
    have fewer := eventsLeft_step results checker.checks state next event stepped located
    rw [List.length_append, List.length_singleton]
    omega

theorem finished_iff_none_left (state : RunState Check) :
    state.finished = true ↔
      (∀ name, state.running.lookup name = none) ∧ ∀ name, state.returned.lookup name = none := by
  rw [RunState.finished, Bool.and_eq_true, List.isEmpty_iff, List.isEmpty_iff,
    GoMap.entries_eq_nil_iff, GoMap.entries_eq_nil_iff]

/-- Some goroutine can go on unless all are done. -/
theorem finished_iff (state : RunState Check) :
    state.finished = true ↔ ∀ event, runStep results state event = none := by
  rw [finished_iff_none_left]
  constructor
  · rintro ⟨noneRunning, noneReturned⟩ event
    cases event with
    | returns name => rw [runStep, noneRunning]
    | records name => rw [runStep, noneReturned]
  · intro stuck
    refine ⟨fun name => ?_, fun name => ?_⟩
    · have stopped := stuck (.returns name)
      simp only [runStep] at stopped
      split at stopped
      · assumption
      · cases stopped
    · have stopped := stuck (.records name)
      simp only [runStep] at stopped
      split at stopped
      · assumption
      · cases stopped

/-- When all goroutines are done, the entries are the results. -/
theorem EachLocated.entries_of_finished {checks : GoMap String Check} {state : RunState Check}
    (located : EachLocated results checks state) (finished : state.finished = true)
    (name : String) : state.entries.lookup name = (checks.lookup name).map (results name) := by
  obtain ⟨noneRunning, noneReturned⟩ := (finished_iff_none_left state).mp finished
  have place := located name
  rw [noneRunning name, noneReturned name] at place
  generalize state.entries.lookup name = recorded at place ⊢
  generalize checks.lookup name = registered at place ⊢
  cases place with
  | unregistered => rfl
  | recorded check => rfl

/-- In whatever order the checks return and are recorded, a run stops only when all are done, and
does so after a bounded number of events. The response then has the result of the check registered
last under each name, and its status is the worst of them. -/
theorem run_reports_worst (registrations : List (String × Check)) (events : List RunEvent)
    (final : RunState Check) (totalDuration : String)
    (run : Runs.exec (runStep results) (registerAll registrations).start events = some final) :
    (final.finished = true ↔ ∀ event, runStep results final event = none) ∧
      events.length ≤ 2 * (registerAll registrations).checks.keys.length ∧
      (final.finished = true →
        (∀ name, (final.response totalDuration).entries.lookup name =
          (lastRegistered registrations name).map (results name)) ∧
        IsWorst (final.response totalDuration).entries (final.response totalDuration).status) := by
  obtain ⟨located, worst⟩ := run_invariant results (registerAll registrations) events final run
  have length := length_run results (registerAll registrations) events final run
  refine ⟨finished_iff results final, by omega, fun finished => ⟨fun name => ?_, worst⟩⟩
  rw [← lookup_registerAll]
  exact located.entries_of_finished results finished name

end Checker

/-- A check that always returns the same, without details. -/
def staticCheck (status : Status) (description : String) : Entry :=
  ⟨status, description, "", [], .nil⟩

/-- The database was down when it was first registered, and the bus is slow; the bus returns first
and is recorded last. -/
theorem run_reports_slow_bus :
    let registrations := [("database", staticCheck .unhealthy "down"),
      ("bus", staticCheck .degraded "slow"), ("database", staticCheck .healthy "ok")]
    ∃ final, Runs.exec (runStep fun _ check => check) (registerAll registrations).start
        [.returns "bus", .returns "database", .records "database", .records "bus"] = some final ∧
      (final.response "00:00:00.0000000").status = .degraded ∧
      (final.response "00:00:00.0000000").entries.lookup "database" =
        some (staticCheck .healthy "ok") ∧
      IsWorst (final.response "00:00:00.0000000").entries
        (final.response "00:00:00.0000000").status := by
  intro registrations
  obtain ⟨final, run, outcome⟩ := (Option.any_eq_true _ _).mp (show (Runs.exec
    (runStep fun _ check => check) (registerAll registrations).start
    [.returns "bus", .returns "database", .records "database", .records "bus"]).any (fun final =>
      final.finished && final.overallStatus = .degraded) = true by decide +kernel)
  obtain ⟨finished, degraded⟩ := Bool.and_eq_true_iff.mp outcome
  obtain ⟨-, -, reports⟩ := run_reports_worst (fun _ check => check) registrations _ final
    "00:00:00.0000000" run
  obtain ⟨entries, worst⟩ := reports finished
  exact ⟨final, run, of_decide_eq_true degraded, entries "database", worst⟩

end SharedGo.Health
