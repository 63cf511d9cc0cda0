import EdgeHealthd.Library.Throttle
import EdgeHealthd.LoggingCore
import EdgeHealthd.Sections

/-!
What the log holds after any order of log calls. Each limiter of `probe_error` works as a gate
of its own, and the lines of `snapshot_collected` follow the severity of the snapshots.
-/

namespace EdgeHealthd.Log

section Calls

variable {logger : Logger} {now : SteadyTime}

theorem probeErrorLine_field (probe error : String) (suppressed : UInt32) :
    (probeErrorLine probe error suppressed).field "PROBE" = some probe := by
  simp [probeErrorLine, Line.field]

theorem probeErrorLine_severity (probe error : String) (suppressed : UInt32) :
    (probeErrorLine probe error suppressed).field "SEVERITY" = none := by
  simp [probeErrorLine, Line.field, List.lookup]

theorem snapshotLine_field (severity degraded : String) :
    (snapshotLine severity degraded).field "SEVERITY" = some severity := by
  simp [snapshotLine, Line.field]

theorem snapshotLine_probe (severity degraded : String) :
    (snapshotLine severity degraded).field "PROBE" = none := by
  simp [snapshotLine, Line.field]

theorem call_level (call : Call) : (logger.call now call).1.level = logger.level := by
  cases call with
  | write level message => rfl
  | daemonStarting version => rfl
  | snapshotCollected severity degraded =>
      simp only [Logger.call, Logger.snapshotCollected]
      repeat' split
      all_goals rfl
  | probeError probe error =>
      simp only [Logger.call, Logger.probeError]
      split <;> rfl
  | writerError message =>
      simp only [Logger.call, Logger.writerError]
      split <;> rfl

theorem allowRateLimited_eq (limiter : RateLimiter) (interval now : SteadyTime) :
    limiter.allowRateLimited interval now =
      if Spacing.passes interval limiter.last now then
        (some limiter.suppressed, { last := some now, suppressed := 0 })
      else (none, { limiter with suppressed := limiter.suppressed + 1 }) := by
  have same : (limiter.last.all fun last => decide (now - last ≥ interval)) =
      Spacing.passes interval limiter.last now := by
    cases limiter.last with
    | none => rfl
    | some last =>
        simp only [Spacing.passes, Option.all_some, decide_eq_decide, ge_iff_le]
        exact le_sub_iff_add_le'
  rw [RateLimiter.allowRateLimited, same]

end Calls

section ProbeErrors

variable (limiter : ProbeLimiter)

def Call.errorFor : Call → Option (String × String)
  | .probeError probe error => if limiterFor probe = limiter then some (probe, error) else none
  | .write _ _ | .snapshotCollected _ _ | .writerError _ | .daemonStarting _ => none

def errorsFor (calls : List (SteadyTime × Call)) : List (SteadyTime × String × String) :=
  calls.filterMap fun entry => (entry.2.errorFor limiter).map fun error => (entry.1, error)

def linesFor (lines : List (SteadyTime × Line)) : List (SteadyTime × Line) :=
  lines.filter fun entry => (entry.2.field "PROBE").map limiterFor = some limiter

def admittedLine (admitted : Throttle.Admitted SteadyTime (String × String)) :
    SteadyTime × Line :=
  (admitted.time, probeErrorLine admitted.item.1 admitted.item.2 (UInt32.ofNat admitted.held))

variable {limiter}

theorem call_other {logger : Logger} {now : SteadyTime} {call : Call}
    (unrelated : call.errorFor limiter = none) :
    (logger.call now call).1.probes limiter = logger.probes limiter ∧
      ∀ line, (logger.call now call).2 = some line →
        (line.field "PROBE").map limiterFor ≠ some limiter := by
  have plain {level : Level} {message : String} {fields : List (String × String)}
      (silent : fields.lookup "PROBE" = none) :
      ((Line.mk level message fields).field "PROBE").map limiterFor ≠ some limiter := by
    simp [Line.field, silent]
  cases call with
  | write level message =>
      refine ⟨rfl, ?_⟩
      intro line written
      simp only [Logger.call, Option.ite_none_right_eq_some, Option.some.injEq] at written
      exact written.2 ▸ plain rfl
  | daemonStarting version =>
      refine ⟨rfl, ?_⟩
      intro line written
      simp only [Logger.call, Option.ite_none_right_eq_some, Option.some.injEq] at written
      exact written.2 ▸ plain (by simp [List.lookup])
  | snapshotCollected severity degraded =>
      simp only [Logger.call, Logger.snapshotCollected]
      have other (line : Line) (written : some (snapshotLine severity degraded) = some line) :
          (line.field "PROBE").map limiterFor ≠ some limiter := by
        obtain rfl := Option.some.inj written
        simp [snapshotLine_probe]
      repeat' split
      · exact ⟨rfl, nofun⟩
      · exact ⟨rfl, other⟩
      · exact ⟨rfl, other⟩
      · exact ⟨rfl, nofun⟩
  | probeError probe error =>
      have different : limiterFor probe ≠ limiter := by simpa [Call.errorFor] using unrelated
      simp only [Logger.call, Logger.probeError]
      split
      · exact ⟨rfl, nofun⟩
      · refine ⟨if_neg (Ne.symm different), ?_⟩
        intro line written
        obtain ⟨suppressed, _, rfl⟩ := Option.map_eq_some_iff.mp written
        simpa [probeErrorLine_field] using different
  | writerError message =>
      simp only [Logger.call, Logger.writerError]
      split
      · exact ⟨rfl, nofun⟩
      · refine ⟨rfl, ?_⟩
        intro line written
        obtain ⟨suppressed, _, rfl⟩ := Option.map_eq_some_iff.mp written
        exact plain rfl

theorem call_probeError {logger : Logger} (enabled : logger.shouldLog .warn = true)
    (now : SteadyTime) {probe : String} (error : String) (same : limiterFor probe = limiter) :
    (logger.call now (.probeError probe error)).1.probes limiter =
        ((logger.probes limiter).allowRateLimited probeErrorInterval now).2 ∧
      (logger.call now (.probeError probe error)).2 =
        ((logger.probes limiter).allowRateLimited probeErrorInterval now).1.map
          (probeErrorLine probe error) := by
  simp [Logger.call, Logger.probeError, enabled, same]

theorem errorFor_eq_some {call : Call} {probe error : String}
    (found : call.errorFor limiter = some (probe, error)) :
    call = .probeError probe error ∧ limiterFor probe = limiter := by
  cases call with
  | probeError probe error =>
      simp only [Call.errorFor, Option.ite_none_right_eq_some, Option.some.injEq,
        Prod.mk.injEq] at found
      obtain ⟨same, rfl, rfl⟩ := found
      exact ⟨rfl, same⟩
  | write | snapshotCollected | writerError | daemonStarting => cases found

theorem linesFor_run_cons (logger : Logger) (now : SteadyTime) (call : Call)
    (rest : List (SteadyTime × Call)) :
    linesFor limiter (logger.run ((now, call) :: rest)).2 =
      linesFor limiter ((logger.call now call).2.map fun line => (now, line)).toList ++
        linesFor limiter ((logger.call now call).1.run rest).2 :=
  List.filter_append _ _

theorem linesFor_other {now : SteadyTime} {line : Option Line}
    (silent : ∀ shown, line = some shown → (shown.field "PROBE").map limiterFor ≠ some limiter) :
    linesFor limiter (line.map fun shown => (now, shown)).toList = [] := by
  cases line with
  | none => rfl
  | some shown => simpa [linesFor] using silent shown rfl

theorem linesFor_probeErrorLine {probe : String} (same : limiterFor probe = limiter)
    (now : SteadyTime) (error : String) (suppressed : UInt32) :
    linesFor limiter [(now, probeErrorLine probe error suppressed)] =
      [(now, probeErrorLine probe error suppressed)] := by
  simp [linesFor, probeErrorLine_field, same]

/-- One limiter, whatever happens to the others: a gate with an unbounded count. -/
theorem run_linesFor (calls : List (SteadyTime × Call)) : ∀ (logger : Logger) (held : Nat),
    logger.shouldLog .warn = true →
    (logger.probes limiter).suppressed = UInt32.ofNat held →
    linesFor limiter (logger.run calls).2 =
        (Throttle.admitted probeErrorInterval (logger.probes limiter).last held
          (errorsFor limiter calls)).map admittedLine ∧
      ((logger.run calls).1.probes limiter).suppressed =
        UInt32.ofNat (Throttle.pending probeErrorInterval (logger.probes limiter).last held
          (errorsFor limiter calls)) := by
  induction calls with
  | nil =>
      intro logger held _ counted
      exact ⟨rfl, counted⟩
  | cons entry rest ih =>
      intro logger held enabled counted
      obtain ⟨now, call⟩ := entry
      have stays : (logger.call now call).1.shouldLog .warn = true := by
        rw [Logger.shouldLog, call_level]
        exact enabled
      rw [linesFor_run_cons]
      cases found : call.errorFor limiter with
      | none =>
          obtain ⟨kept, silent⟩ : (logger.call now call).1.probes limiter = _ ∧ _ :=
            call_other found
          have skipped : errorsFor limiter ((now, call) :: rest) = errorsFor limiter rest := by
            simp [errorsFor, found]
          have later := ih (logger.call now call).1 held stays (by rw [kept, counted])
          rw [kept] at later
          rw [linesFor_other silent, List.nil_append, skipped]
          exact later
      | some error =>
          obtain ⟨probe, error⟩ := error
          obtain ⟨rfl, same⟩ := errorFor_eq_some found
          obtain ⟨kept, written⟩ := call_probeError enabled now error same
          have counts : errorsFor limiter ((now, .probeError probe error) :: rest) =
              (now, probe, error) :: errorsFor limiter rest := by
            simp [errorsFor, found]
          rw [allowRateLimited_eq] at kept written
          rw [counts, Throttle.admitted, Throttle.pending, written]
          split at kept
          · rename_i through
            have later := ih _ 0 stays (by rw [kept]; rfl)
            rw [kept] at later
            rw [if_pos through, if_pos through, if_pos through]
            refine ⟨?_, later.2⟩
            rw [List.map_cons, ← later.1, counted]
            exact congrArg (· ++ _) (linesFor_probeErrorLine same now error _)
          · rename_i stopped
            have more : (logger.probes limiter).suppressed + 1 = UInt32.ofNat (held + 1) := by
              rw [counted, UInt32.ofNat_add]
              rfl
            have later := ih _ (held + 1) stays (by rw [kept, more])
            rw [kept] at later
            rw [if_neg stopped, if_neg stopped, if_neg stopped]
            exact later

end ProbeErrors

section Snapshots

def Call.collected : Call → Option (String × String)
  | .snapshotCollected severity degraded => some (severity, degraded)
  | .write _ _ | .probeError _ _ | .writerError _ | .daemonStarting _ => none

def collectedIn (calls : List (SteadyTime × Call)) : List (SteadyTime × String × String) :=
  calls.filterMap fun entry => entry.2.collected.map fun item => (entry.1, item)

def severityLines (lines : List (SteadyTime × Line)) : List (SteadyTime × Line) :=
  lines.filter fun entry => (entry.2.field "SEVERITY").isSome

def collectedLine (entry : SteadyTime × String × String) : SteadyTime × Line :=
  (entry.1, snapshotLine entry.2.1 entry.2.2)

theorem severityLines_run_cons (logger : Logger) (now : SteadyTime) (call : Call)
    (rest : List (SteadyTime × Call)) :
    severityLines (logger.run ((now, call) :: rest)).2 =
      severityLines ((logger.call now call).2.map fun line => (now, line)).toList ++
        severityLines ((logger.call now call).1.run rest).2 :=
  List.filter_append _ _

theorem severityLines_other {now : SteadyTime} {line : Option Line}
    (silent : ∀ shown, line = some shown → shown.field "SEVERITY" = none) :
    severityLines (line.map fun shown => (now, shown)).toList = [] := by
  cases line with
  | none => rfl
  | some shown => simp [severityLines, silent shown rfl]

theorem severityLines_snapshotLine (now : SteadyTime) (severity degraded : String) :
    severityLines [(now, snapshotLine severity degraded)] =
      [(now, snapshotLine severity degraded)] := by
  simp [severityLines, snapshotLine_field]

/-- The two statics of `snapshot_collected` hold what was written last. -/
def Remembers (logger : Logger) (last : Option (SteadyTime × String × String)) : Prop :=
  logger.lastLog = last.map Prod.fst ∧ ∀ entry, last = some entry → logger.lastSeverity = entry.2.1

theorem call_snapshotCollected {logger : Logger} {last : Option (SteadyTime × String × String)}
    (enabled : logger.shouldLog .info = true) (remembers : Remembers logger last)
    (now : SteadyTime) (severity degraded : String) :
    (logger.call now (.snapshotCollected severity degraded)).2 =
        (if Throttle.news snapshotInterval Prod.fst last now (severity, degraded) then
          some (snapshotLine severity degraded) else none) ∧
      Remembers (logger.call now (.snapshotCollected severity degraded)).1
        (if Throttle.news snapshotInterval Prod.fst last now (severity, degraded) then
          some (now, severity, degraded) else last) := by
  obtain ⟨sameLog, sameSeverity⟩ := remembers
  cases last with
  | none =>
      by_cases changed : logger.lastSeverity = severity
      · simp [Logger.call, Logger.snapshotCollected, enabled, changed, sameLog, Remembers,
          Throttle.news]
      · simp [Logger.call, Logger.snapshotCollected, enabled, changed, Remembers, Throttle.news]
  | some entry =>
      obtain ⟨before, shown, listed⟩ := entry
      have kept : logger.lastSeverity = shown := sameSeverity _ rfl
      by_cases same : shown = severity
      · have old : snapshotInterval ≤ now - before ↔ before + snapshotInterval ≤ now :=
          le_sub_iff_add_le'
        by_cases due : before + snapshotInterval ≤ now
        · simp [Logger.call, Logger.snapshotCollected, enabled, kept, same, sameLog, Remembers,
            Throttle.news, old, due]
        · simp [Logger.call, Logger.snapshotCollected, enabled, kept, same, sameLog, Remembers,
            Throttle.news, old, due]
      · simp [Logger.call, Logger.snapshotCollected, enabled, kept, same, Remembers, Throttle.news]

theorem call_not_collected {logger : Logger} {last : Option (SteadyTime × String × String)}
    {call : Call} (remembers : Remembers logger last) (now : SteadyTime)
    (unrelated : call.collected = none) :
    Remembers (logger.call now call).1 last ∧
      ∀ line, (logger.call now call).2 = some line → line.field "SEVERITY" = none := by
  cases call with
  | snapshotCollected severity degraded => cases unrelated
  | write level message =>
      refine ⟨remembers, ?_⟩
      intro line written
      simp only [Logger.call, Option.ite_none_right_eq_some, Option.some.injEq] at written
      rw [← written.2]
      rfl
  | daemonStarting version =>
      refine ⟨remembers, ?_⟩
      intro line written
      simp only [Logger.call, Option.ite_none_right_eq_some, Option.some.injEq] at written
      rw [← written.2]
      simp [Line.field, List.lookup]
  | probeError probe error =>
      simp only [Logger.call, Logger.probeError]
      split
      · exact ⟨remembers, nofun⟩
      · refine ⟨remembers, ?_⟩
        intro line written
        obtain ⟨suppressed, _, rfl⟩ := Option.map_eq_some_iff.mp written
        exact probeErrorLine_severity probe error suppressed
  | writerError message =>
      simp only [Logger.call, Logger.writerError]
      split
      · exact ⟨remembers, nofun⟩
      · refine ⟨remembers, ?_⟩
        intro line written
        obtain ⟨suppressed, _, rfl⟩ := Option.map_eq_some_iff.mp written
        rfl

theorem run_severityLines (calls : List (SteadyTime × Call)) :
    ∀ (logger : Logger) (last : Option (SteadyTime × String × String)),
      logger.shouldLog .info = true → Remembers logger last →
      severityLines (logger.run calls).2 =
        (Throttle.reported snapshotInterval Prod.fst last (collectedIn calls)).map
          collectedLine := by
  induction calls with
  | nil => intro logger last _ _; rfl
  | cons entry rest ih =>
      intro logger last enabled remembers
      obtain ⟨now, call⟩ := entry
      have stays : (logger.call now call).1.shouldLog .info = true := by
        rw [Logger.shouldLog, call_level]
        exact enabled
      rw [severityLines_run_cons]
      cases found : call.collected with
      | none =>
          obtain ⟨kept, silent⟩ := call_not_collected remembers now found
          have skipped : collectedIn ((now, call) :: rest) = collectedIn rest := by
            simp [collectedIn, found]
          rw [severityLines_other silent, List.nil_append, skipped]
          exact ih _ last stays kept
      | some item =>
          obtain ⟨severity, degraded⟩ := item
          obtain rfl : call = .snapshotCollected severity degraded := by
            cases call <;> cases found
            rfl
          obtain ⟨written, kept⟩ :=
            call_snapshotCollected enabled remembers now severity degraded
          have counts : collectedIn ((now, .snapshotCollected severity degraded) :: rest) =
              (now, severity, degraded) :: collectedIn rest := rfl
          rw [counts, Throttle.reported, written, ih _ _ stays kept]
          split
          · rw [List.map_cons]
            exact congrArg (· ++ _) (severityLines_snapshotLine now severity degraded)
          · rfl

end Snapshots

section Results

/-- The log of a daemon that starts with this level. -/
def logFrom (level : Level) (calls : List (SteadyTime × Call)) : List (SteadyTime × Line) :=
  (({ level } : Logger).run calls).2

/-- What every limiter of `probe_error` writes over a run: `errors` are its calls, `lines` its
lines and `held` the number of calls since the last line. -/
structure Throttled (errors : List (SteadyTime × String × String))
    (lines : List (SteadyTime × Line)) (held : Nat) : Prop where
  gated : ∃ admitted, Throttle.Gated (seconds 60) none errors admitted held ∧
    lines = admitted.map admittedLine
  spaced : Spacing.Spaced (seconds 60) (lines.map Prod.fst)
  covers : ∀ error ∈ errors, ∃ line ∈ lines, line.1 ≤ error.1 ∧ error.1 < line.1 + seconds 60

/-- However the calls of the threads interleave, an error gets its own line when the last line
of its limiter is a minute old, and else it is counted by the next one. -/
theorem probe_errors_throttled (level : Level) (enabled : level.rank ≤ Level.warn.rank)
    (calls : List (SteadyTime × Call))
    (ordered : calls.Pairwise fun earlier later => earlier.1 ≤ later.1) (limiter : ProbeLimiter) :
    ∃ held, Throttled (errorsFor limiter calls) (linesFor limiter (logFrom level calls)) held ∧
      ((({ level } : Logger).run calls).1.probes limiter).suppressed = UInt32.ofNat held := by
  have fresh : ({ level } : Logger).shouldLog .warn = true := decide_eq_true enabled
  obtain ⟨lines, counted⟩ :
      linesFor limiter (({ level } : Logger).run calls).2 = _ ∧ _ :=
    run_linesFor calls { level } 0 fresh rfl
  refine ⟨_, ⟨⟨_, ?_, lines⟩, ?_, ?_⟩, counted⟩
  · exact Throttle.gated_admitted probeErrorInterval (errorsFor limiter calls) none []
      (List.forall_mem_nil _)
  · have spaced := Throttle.admitted_spaced probeErrorInterval (by decide)
      (errorsFor limiter calls) none 0
    rw [logFrom, lines, List.map_map]
    exact spaced
  · intro error member
    have times : (errorsFor limiter calls).Pairwise fun earlier later => earlier.1 ≤ later.1 := by
      refine List.pairwise_filterMap.mpr (ordered.imp ?_)
      intro earlier later before first inFirst second inSecond
      obtain ⟨_, _, rfl⟩ := Option.map_eq_some_iff.mp inFirst
      obtain ⟨_, _, rfl⟩ := Option.map_eq_some_iff.mp inSecond
      exact before
    rcases Throttle.admitted_covers (by decide : 0 < probeErrorInterval) _ none 0 times error
      member with ⟨before, absurdity, _⟩ | ⟨line, inside, close⟩
    · cases absurdity
    · refine ⟨admittedLine line, ?_, close⟩
      rw [logFrom, lines]
      exact List.mem_map_of_mem inside

def sharedErrors : List (SteadyTime × Call) :=
  [(0, .probeError "journal" "no journal"), (seconds 30, .probeError "crash" "no pstore"),
    (seconds 61, .probeError "journal" "no journal")]

theorem shared_limiter_throttled :
    (∃ held, Throttled (errorsFor .other sharedErrors)
        (linesFor .other (logFrom .info sharedErrors)) held ∧
      ((({ level := .info } : Logger).run sharedErrors).1.probes .other).suppressed =
        UInt32.ofNat held) ∧
      logFrom .info sharedErrors = [(0, probeErrorLine "journal" "no journal" 0),
        (seconds 61, probeErrorLine "journal" "no journal" 1)] :=
  ⟨probe_errors_throttled .info (by decide) sharedErrors (by decide) .other, by decide⟩

/-- A cycle of the daemon, the outcome of its write, and what its call of `snapshot_collected`
reads from the clock. -/
structure LoggedCycle where
  report : CycleReport
  outcome : WriteOutcome
  reading : SteadyTime

namespace LoggedCycle

def severity (cycle : LoggedCycle) : String := cycle.report.snapshot.summary.severity.toString

def line (cycle : LoggedCycle) : SteadyTime × Line :=
  (cycle.reading,
    snapshotLine cycle.severity (degradedDomains cycle.report.snapshot.summary.domains))

def collected (cycle : LoggedCycle) : SteadyTime × String × String :=
  (cycle.reading, cycle.severity, degradedDomains cycle.report.snapshot.summary.domains)

end LoggedCycle

/-- The calls of `snapshot_collected` are those of the cycles, in their order. All other calls
may stand anywhere. -/
def LogsCycles (cycles : List LoggedCycle) (calls : List (SteadyTime × Call)) : Prop :=
  collectedIn calls = cycles.flatMap fun cycle =>
    collectedIn ((cycleCalls cycle.report cycle.outcome).map fun call => (cycle.reading, call))

theorem collectedIn_append (first second : List (SteadyTime × Call)) :
    collectedIn (first ++ second) = collectedIn first ++ collectedIn second :=
  List.filterMap_append

theorem collectedIn_probeFailure {Payload : Type} (name : String) (reading : SteadyTime)
    (call : Option (ProbeResult Payload)) :
    collectedIn ((probeFailure name call).map fun call => (reading, call)) = [] := by
  rcases call with _ | (error | payload) <;> rfl

theorem collectedIn_cycleCalls (cycle : LoggedCycle) :
    collectedIn ((cycleCalls cycle.report cycle.outcome).map fun call => (cycle.reading, call)) =
      [cycle.collected] := by
  have silent : collectedIn (cycle.outcome.calls.map fun call => (cycle.reading, call)) = [] := by
    cases cycle.outcome <;> rfl
  simp only [cycleCalls, List.map_append, collectedIn_append, collectedIn_probeFailure, silent,
    List.nil_append]
  rfl

theorem collectedIn_cycles {cycles : List LoggedCycle} {calls : List (SteadyTime × Call)}
    (logged : LogsCycles cycles calls) : collectedIn calls = cycles.map LoggedCycle.collected := by
  rw [logged, ← List.flatMap_pure_eq_map]
  exact List.flatMap_congr fun cycle _ => collectedIn_cycleCalls cycle

def Line.severity (line : Line) : String := (line.field "SEVERITY").getD ""

/-- How the lines with a severity relate to the cycles: each line is that of a cycle of its own,
and a cycle whose severity is not that of the cycle before it has its line, in its place. -/
structure Follows (cycles : List LoggedCycle) (lines : List (SteadyTime × Line)) : Prop where
  own : lines.Sublist (cycles.map LoggedCycle.line)
  changed : ∀ past cycle rest, cycles = past ++ cycle :: rest →
    past.getLast?.map LoggedCycle.severity ≠ some cycle.severity →
      ∃ before after, lines = before ++ cycle.line :: after ∧
        before.Sublist (past.map LoggedCycle.line) ∧ after.Sublist (rest.map LoggedCycle.line)
  history : (lines.map fun line => line.2.severity).destutter (· ≠ ·) =
    (cycles.map LoggedCycle.severity).destutter (· ≠ ·)
  latest : (lines.getLast?.map fun line => line.2.severity) =
    cycles.getLast?.map LoggedCycle.severity
  apart : lines.IsChain fun earlier later =>
    earlier.2.severity = later.2.severity → earlier.1 + seconds 300 ≤ later.1

theorem collectedLine_severity (entry : SteadyTime × String × String) :
    (collectedLine entry).2.severity = entry.2.1 := by
  rw [Line.severity, collectedLine, snapshotLine_field]
  rfl

theorem collectedLine_collected (cycles : List LoggedCycle) :
    (cycles.map LoggedCycle.collected).map collectedLine = cycles.map LoggedCycle.line := by
  rw [List.map_map]
  rfl

/-- However the threads interleave, the log shows the history of the severity: every change
in its own cycle, no change that did not happen, and a repetition only after five minutes. -/
theorem log_follows_severity (level : Level) (enabled : level.rank ≤ Level.info.rank)
    (cycles : List LoggedCycle) (calls : List (SteadyTime × Call))
    (logged : LogsCycles cycles calls) :
    Follows cycles (severityLines (logFrom level calls)) := by
  have fresh : ({ level } : Logger).shouldLog .info = true := decide_eq_true enabled
  have lines : severityLines (logFrom level calls) = _ :=
    run_severityLines calls { level } none fresh ⟨rfl, nofun⟩
  rw [collectedIn_cycles logged] at lines
  have severities : (cycles.map LoggedCycle.collected).map (fun entry => entry.2.1) =
      cycles.map LoggedCycle.severity := by
    rw [List.map_map]
    rfl
  have shown : (severityLines (logFrom level calls)).map (fun line => line.2.severity) =
      (Throttle.reported snapshotInterval Prod.fst none
        (cycles.map LoggedCycle.collected)).map fun entry => entry.2.1 := by
    rw [lines, List.map_map]
    exact List.map_congr_left fun entry _ => collectedLine_severity entry
  have placed (last : Option (SteadyTime × String × String)) (listed : List LoggedCycle) :
      ((Throttle.reported snapshotInterval Prod.fst last
        (listed.map LoggedCycle.collected)).map collectedLine).Sublist
          (listed.map LoggedCycle.line) := by
    rw [← collectedLine_collected]
    exact (Throttle.reported_sublist _ last).map collectedLine
  constructor
  · rw [lines]
    exact placed none cycles
  · rintro past cycle rest rfl changes
    rw [← List.getLast?_map] at changes
    rw [lines, List.map_append, List.map_cons, Throttle.reported_change, List.map_append,
      List.map_cons]
    · exact ⟨_, _, rfl, placed none past, placed _ rest⟩
    · rw [← List.getLast?_map, List.map_map]
      exact changes
  · rw [shown, ← severities]
    exact Throttle.reported_destutter _
  · rw [← List.getLast?_map, ← List.getLast?_map, shown, ← severities, List.getLast?_map,
      List.getLast?_map]
    exact Throttle.reported_latest _
  · rw [lines, List.isChain_map]
    simp only [collectedLine_severity]
    exact Throttle.reported_apart _

end Results

def twoCycles : List LoggedCycle :=
  (runCycles {} (fun _ => .finite 0) none [healthyInput 0, memoryFailureInput (seconds 60)]).2.zipWith
    (fun report reading => ⟨report, .written, reading⟩) [0, seconds 60]

def twoCyclesCalls : List (SteadyTime × Call) :=
  let callsOf (cycle : LoggedCycle) :=
    (cycleCalls cycle.report cycle.outcome).map fun call => (cycle.reading, call)
  (twoCycles.take 1).flatMap callsOf ++
    [(seconds 30, .probeError "crash" "failed to persist crash acknowledgement")] ++
    (twoCycles.drop 1).flatMap callsOf

theorem two_cycles_logged :
    Follows twoCycles (severityLines (logFrom .info twoCyclesCalls)) :=
  log_follows_severity .info (by decide) twoCycles twoCyclesCalls rfl

end EdgeHealthd.Log
