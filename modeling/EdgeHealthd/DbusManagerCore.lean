import EdgeHealthd.Types

/-!
Executable part of `src/dbus_manager.cpp`: the property, the log cache and the
signals the collection thread pushes through the `HealthManager`.
-/

namespace EdgeHealthd

inductive BusSignal where
  | propertiesChanged (property : String)
  | healthAlarm (component message severity : String)
  deriving DecidableEq, Repr

structure HealthManager where
  severityStr : String := "unknown"
  lastSev : Severity := .unknown
  logsCache : List ByteString := []
  deriving DecidableEq

/-- The ranking written out a second time inside `is_degradation`. -/
def degradationRank : Severity → Nat
  | .unknown => 0
  | .ok => 1
  | .stale => 2
  | .unavailable => 3
  | .warn => 4
  | .crit => 5

def isDegradation (prevSev newSev : Severity) : Bool :=
  degradationRank newSev > degradationRank prevSev

def HealthManager.updateSeverity (manager : HealthManager) (newSev prevSev : Severity) :
    HealthManager × List BusSignal :=
  let changed := manager.severityStr != newSev.toString
  let property := if changed then [.propertiesChanged "OverallSeverity"] else []
  let alarm := if isDegradation prevSev newSev then
    [.healthAlarm "overall" (prevSev.toString ++ " -> " ++ newSev.toString) newSev.toString]
  else []
  ({ manager with severityStr := newSev.toString, lastSev := newSev }, property ++ alarm)

def HealthManager.updateRecentLogs (manager : HealthManager) (logs : List ByteString) :
    HealthManager :=
  { manager with logsCache := logs }

def HealthManager.emitAlarm (component message : String) (severity : Severity) : BusSignal :=
  .healthAlarm component message severity.toString

def HealthManager.getRecentLogs (manager : HealthManager) (maxLines : UInt32) : List ByteString :=
  if maxLines == 0 || manager.logsCache.isEmpty then []
  else manager.logsCache.take (min maxLines.toNat manager.logsCache.length)

end EdgeHealthd
