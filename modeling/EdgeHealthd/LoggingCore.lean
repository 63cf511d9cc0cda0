import EdgeHealthd.DaemonCore

/-!
Executable `inc/log.hpp` and the log calls of a collection cycle. The rate limits read the
steady clock under one lock, so the calls come in the order of that lock, each with its own
reading. A line is what `sd_journal_send` gets, without the constant identifier.
-/

namespace EdgeHealthd.Log

inductive Level where
  | debug
  | info
  | warn
  | error
  deriving DecidableEq

def Level.rank : Level → Nat
  | .debug => 0
  | .info => 1
  | .warn => 2
  | .error => 3

-- `parse_log_level` of `src/main.cpp`.
def parseLogLevel (level : String) : Level :=
  if level = "debug" then .debug
  else if level = "warn" then .warn
  else if level = "error" then .error
  else .info

structure RateLimiter where
  -- Absent for `time_point::min()`.
  last : Option SteadyTime := none
  suppressed : UInt32 := 0

def probeErrorInterval : SteadyTime := seconds 60
def snapshotInterval : SteadyTime := seconds 300
def writerErrorInterval : SteadyTime := seconds 60

/-- When the call is allowed, what it stores in `suppressed_out`. -/
def RateLimiter.allowRateLimited (limiter : RateLimiter) (interval now : SteadyTime) :
    Option UInt32 × RateLimiter :=
  if limiter.last.all fun last => decide (now - last ≥ interval) then
    (some limiter.suppressed, { last := some now, suppressed := 0 })
  else (none, { limiter with suppressed := limiter.suppressed + 1 })

-- The static limiters of `probe_error`.
inductive ProbeLimiter where
  | device
  | boot
  | services
  | resources
  | timeSync
  | update
  | other
  deriving DecidableEq

def limiterFor (probe : String) : ProbeLimiter :=
  if probe = "device" then .device
  else if probe = "boot" then .boot
  else if probe = "services" then .services
  else if probe = "resources" then .resources
  else if probe = "time_sync" then .timeSync
  else if probe = "update" then .update
  else .other

structure Line where
  level : Level
  message : String
  fields : List (String × String) := []
  deriving DecidableEq

def Line.field (key : String) (line : Line) : Option String := line.fields.lookup key

def probeErrorLine (probe error : String) (suppressed : UInt32) : Line where
  level := .warn
  message := "Probe failed [" ++ probe ++ "]: " ++ error ++
    if suppressed > 0 then " (suppressed " ++ toString suppressed.toNat ++ ")" else ""
  fields := [("PROBE", probe), ("ERROR", error)]

def snapshotLine (severity degraded : String) : Line where
  level := .info
  message := "Snapshot collected: " ++ severity ++
    if degraded ≠ "" then " (" ++ degraded ++ ")" else ""
  fields := [("SEVERITY", severity)]

structure Logger where
  level : Level := .info
  lastSeverity : String := ""
  lastLog : Option SteadyTime := none
  probes : ProbeLimiter → RateLimiter := fun _ => {}
  writer : RateLimiter := {}

def Logger.shouldLog (logger : Logger) (level : Level) : Bool := level.rank ≥ logger.level.rank

inductive Call where
  -- `debug`, `info`, `warn` and `error`.
  | write (level : Level) (message : String)
  | snapshotCollected (severity degraded : String)
  | probeError (probe error : String)
  | writerError (message : String)
  | daemonStarting (version : String)

def Logger.snapshotCollected (logger : Logger) (now : SteadyTime) (severity degraded : String) :
    Logger × Option Line :=
  if !logger.shouldLog .info then (logger, none)
  else if logger.lastSeverity ≠ severity then
    ({ logger with lastSeverity := severity, lastLog := some now },
      some (snapshotLine severity degraded))
  else if logger.lastLog.all fun last => decide (now - last ≥ snapshotInterval) then
    ({ logger with lastLog := some now }, some (snapshotLine severity degraded))
  else (logger, none)

def Logger.probeError (logger : Logger) (now : SteadyTime) (probe error : String) :
    Logger × Option Line :=
  if !logger.shouldLog .warn then (logger, none)
  else
    let limiter := limiterFor probe
    let allowed := (logger.probes limiter).allowRateLimited probeErrorInterval now
    ({ logger with
        probes := fun each => if each = limiter then allowed.2 else logger.probes each },
      allowed.1.map (probeErrorLine probe error))

def Logger.writerError (logger : Logger) (now : SteadyTime) (message : String) :
    Logger × Option Line :=
  if !logger.shouldLog .error then (logger, none)
  else
    let allowed := logger.writer.allowRateLimited writerErrorInterval now
    ({ logger with writer := allowed.2 }, allowed.1.map fun _ => { level := .error, message })

def Logger.call (logger : Logger) (now : SteadyTime) : Call → Logger × Option Line
  | .write level message =>
      (logger, if logger.shouldLog level then some { level, message } else none)
  | .snapshotCollected severity degraded => logger.snapshotCollected now severity degraded
  | .probeError probe error => logger.probeError now probe error
  | .writerError message => logger.writerError now message
  | .daemonStarting version =>
      (logger, if logger.shouldLog .info then
        some { level := .info, message := "Daemon starting", fields := [("VERSION", version)] }
      else none)

/-- The lines of a run of calls, each with the reading of its call. -/
def Logger.run : Logger → List (SteadyTime × Call) → Logger × List (SteadyTime × Line)
  | logger, [] => (logger, [])
  | logger, (now, call) :: rest =>
      let called := logger.call now call
      let later := called.1.run rest
      (later.1, (called.2.map fun line => (now, line)).toList ++ later.2)

-- `degraded_domains` of `inc/types.hpp`.
def degradedDomains (domains : DomainSeverities) : String :=
  let listed := [("boot", domains.boot), ("services", domains.services),
    ("resources", domains.resources), ("time_sync", domains.timeSync), ("update", domains.update),
    ("journal", domains.journal), ("crash", domains.crash)]
  listed.foldl (fun out (name, severity) =>
    if severity = .ok ∨ severity = .unknown then out
    else (if out ≠ "" then out ++ ", " else out) ++ name ++ "=" ++ severity.toString) ""

inductive WriteOutcome where
  | written
  | failed (message : String)
  -- What the exception of the serializer said.
  | threw (what : String)

def probeFailure {Payload : Type} (name : String) : Option (ProbeResult Payload) → List Call
  | some (.error error) => [.probeError name error.message]
  | some (.ok _) | none => []

def WriteOutcome.calls : WriteOutcome → List Call
  | .written => []
  | .failed message => [.writerError ("Failed to write snapshot: " ++ message)]
  | .threw what => [.writerError ("Snapshot serialization failed: " ++ what)]

/-- What one cycle logs, in its order. -/
def cycleCalls (report : CycleReport) (outcome : WriteOutcome) : List Call :=
  probeFailure "device" report.calls.device ++ probeFailure "boot" report.calls.boot ++
    probeFailure "services" report.calls.services ++
    probeFailure "resources" report.calls.resources ++
    probeFailure "time_sync" report.calls.timeSync ++ probeFailure "update" report.calls.update ++
    probeFailure "journal" report.calls.journal ++ probeFailure "crash" report.calls.crash ++
    outcome.calls ++
    [.snapshotCollected report.snapshot.summary.severity.toString
      (degradedDomains report.snapshot.summary.domains)]

end EdgeHealthd.Log
