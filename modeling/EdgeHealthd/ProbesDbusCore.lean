import EdgeHealthd.JournalReaderCore
import EdgeHealthd.Json

/-!
Executable `ServicesProbe`, `TimeSyncProbe` and `UpdateProbe` of
`src/probes_dbus.cpp` and `src/probes.cpp`. What the bus, sysfs and the clocks
answer is an argument of a probe, so every answer is one choice of it.
-/

namespace EdgeHealthd

def isSafeUnitName (name : String) : Bool :=
  name != "" && name.toList.all fun ch =>
    ch.isAlphanum || ch == '.' || ch == '-' || ch == '_' || ch == '@' || ch == ':'

-- `none` and `.error` are an `sdbus::Error`, the latter with its message.
structure UnitReplies where
  activeState : Except String String
  socketState : Option String := none
  nRestarts : Option UInt32 := none
  result : Option String := none
  now : UInt64 := 0

def serviceSuffix : List Char := ".service".toList

def hasServiceSuffix (name : String) : Bool :=
  name.toList.length > serviceSuffix.length && serviceSuffix.isSuffixOf name.toList

section Services

variable (config : Config)

def ServicesProbe.applyActiveState (replies : UnitReplies) (activeState : String)
    (unit : ServiceUnit) : ServiceUnit :=
  if activeState == "active" then { unit with state := .active }
  else if activeState == "inactive" then
    -- A listening `.socket` makes the idle service behind it healthy.
    if hasServiceSuffix unit.name && replies.socketState == some "active" then
      { unit with state := .active, result := some "socket-activated" }
    else { unit with state := .inactive }
  else if activeState == "failed" then { unit with state := .failed }
  else if activeState == "activating" then { unit with state := .activating }
  else if activeState == "deactivating" then { unit with state := .deactivating }
  else unit

def ServicesProbe.queryUnit (journal : Option JournalReader) (replies : UnitReplies)
    (name : String) : ServiceUnit :=
  let unit : ServiceUnit := { name }
  if !isSafeUnitName name then { unit with detail := some "Invalid unit name" }
  else match replies.activeState with
    | .error message => { unit with detail := some message }
    | .ok activeState =>
        let unit := applyActiveState replies activeState unit
        { unit with
          restartCount := replies.nRestarts.getD 0
          result := replies.result.or unit.result
          logExcerpt := match journal with
            | some reader => reader.excerptForUnit config replies.now name.toUTF8.data.toList
            | none => [] }

def ServicesProbe.evaluateUnitSeverity (unit : ServiceUnit) : Severity :=
  if unit.state == .failed then .crit
  else if unit.restartCount ≥ config.thresholds.serviceRestartCrit then .crit
  else if unit.restartCount ≥ config.thresholds.serviceRestartWarn then .warn
  else if unit.state == .inactive then .warn
  else if unit.state == .active then .ok
  else .unknown

def ServicesProbe.updateOverall (overall : Severity) (unit : ServiceUnit) : Severity :=
  if unit.severity == .crit then .crit
  else if unit.severity == .warn && overall != .crit then .warn
  else overall

def ServicesProbe.queryAndEvaluate (journal : Option JournalReader) (replies : UnitReplies)
    (name : String) : ServiceUnit :=
  let unit := queryUnit config journal replies name
  { unit with severity := evaluateUnitSeverity config unit }

def ServicesProbe.collectUnits (journal : Option JournalReader) (replies : Nat → UnitReplies) :
    List ServiceUnit :=
  config.monitoredServices.zipIdx.map fun (name, index) =>
    queryAndEvaluate config journal (replies index) name

/-- `bus` is `none` without a connection, else the replies for each monitored unit. -/
def ServicesProbe.collect (journal : Option JournalReader) (bus : Option (Nat → UnitReplies)) :
    ProbeResult ServicesStatus :=
  match bus with
  | none => .ok {
      overall := .unknown
      units := config.monitoredServices.map fun name =>
        { name, state := .unknown, severity := .unknown, detail := some "D-Bus unavailable" } }
  | some replies => .ok {
      overall := (collectUnits config journal replies).foldl updateOverall .ok
      units := collectUnits config journal replies }

end Services

structure TimedateReplies where
  ntp : Bool
  ntpSynchronized : Bool
  now : WallTime := 0

-- `none` where a file is missing or does not start with a number.
structure RtcFiles where
  hctosys : Option Int := none
  batteryVoltage : Option UInt64 := none
  sinceEpoch : Option UInt64 := none
  now : WallTime := 0

section TimeSync

variable (config : Config)

def TimeSyncProbe.collectRtc (files : RtcFiles) : RtcStatus where
  enabled := true
  hctosys := files.hctosys == some 1
  voltageMv := files.batteryVoltage.map fun microvolts => (microvolts / 1000).toUInt32
  driftSec := files.sinceEpoch.map fun rtcEpoch =>
    files.now.tdiv 1000000000 - rtcEpoch.toInt64.toInt

-- No connection and a failed call both leave the status empty.
def TimeSyncProbe.collectNtp (bus : Option TimedateReplies) : NtpStatus :=
  match bus with
  | none => {}
  | some replies =>
      if replies.ntpSynchronized then
        { enabled := replies.ntp, state := some .locked, lastSyncAt := some replies.now }
      else if replies.ntp then { enabled := true, state := some .freeRunning }
      else {}

def TimeSyncProbe.evaluateSyncSeverity (status : TimeSyncStatus) : Severity :=
  let severity : Severity :=
    if config.enableNtp then
      if status.source == .none then .warn
      else if status.source == .ntp && status.ntp.state != some .locked then .warn
      else .ok
    else .ok
  match config.enableRtc, status.rtc.voltageMv with
  | true, some voltage =>
      if voltage < config.thresholds.rtcVoltageCritMv then .crit
      else if voltage < config.thresholds.rtcVoltageWarnMv && severity == .ok then .warn
      else severity
  | _, _ => severity

def TimeSyncProbe.readStatus (bus : Option TimedateReplies) (files : RtcFiles) :
    TimeSyncStatus :=
  let ntp := if config.enableNtp then collectNtp bus else {}
  { ntp
    source := if ntp.enabled && ntp.state == some .locked then .ntp else .none
    ptp.enabled := config.enablePtp
    rtc := if config.enableRtc then collectRtc files else {} }

def TimeSyncProbe.collect (bus : Option TimedateReplies) (files : RtcFiles) :
    ProbeResult TimeSyncStatus :=
  let status := readStatus config bus files
  .ok { status with overall := evaluateSyncSeverity config status }

end TimeSync

-- The properties of a slot; `none` is a value that is not a string.
abbrev SlotProps := List (String × Option String)

def propStr (props : SlotProps) (key : String) : String :=
  ((props.lookup key).getD none).getD ""

section Update

-- `json::parse_time`, which calls the C library's `strptime` and `timegm`.
variable (parseTime : String → Option WallTime)

def UpdateProbe.bundleId (props : SlotProps) : String :=
  let version := propStr props "bundle.version"
  let build := propStr props "bundle.build"
  if version != "" && build != "" then version ++ "/" ++ build
  else if build != "" then build
  else version

def UpdateProbe.bootedSlot (status : UpdateStatus) (props : SlotProps) : UpdateStatus :=
  let bootname := propStr props "bootname"
  let bootStatus := propStr props "boot-status"
  let slotStatus := propStr props "status"
  let compatible := propStr props "bundle.compatible"
  let update : LastUpdate := {
    id := bundleId props
    installedAt := parseTime (propStr props "activated.timestamp") }
  let status := { status with
    activeSlot := if bootname != "" then some bootname else status.activeSlot }
  if bootStatus == "good" && slotStatus == "ok" then
    { status with lastUpdate := some { update with
        result := .success
        detail := if compatible != "" then some compatible else none } }
  else
    { status with
      overall := .warn
      lastUpdate := some { update with
        result := .failed
        detail := some ("boot-status=" ++ bootStatus ++ " status=" ++ slotStatus) } }

/-- `none` where the source returns `false` and leaves the status alone. -/
def UpdateProbe.collectRaucUpdate (status : UpdateStatus) (slots : Option (List SlotProps)) :
    Option UpdateStatus :=
  ((slots.getD []).find? fun props => propStr props "state" == "booted").map
    (bootedSlot parseTime status)

def updateResultOf : Option String → UpdateResult
  | some "success" => .success
  | some "failed" => .failed
  | _ => .unknown

def UpdateProbe.loadLastUpdate (file : StateFile) : Option LastUpdate :=
  match file with
  | .missing | .corrupt => none
  | .json value => Except.toOption do
      let id ← value.field "id" Json.getString
      let installedAt ← value.field "installed_at" Json.getString
      let result ← value.field "result" Json.getString
      let detail ← value.field "detail" Json.getString
      return {
        id := id.getD ""
        installedAt := installedAt.bind parseTime
        result := updateResultOf result
        detail }

def UpdateProbe.collect (config : Config) (slots : Option (List SlotProps)) (file : StateFile) :
    ProbeResult UpdateStatus :=
  let status : UpdateStatus := { overall := .ok }
  if !config.enableUpdateTracking then .ok status
  else match collectRaucUpdate parseTime status slots with
    | some status => .ok status
    | none =>
        match loadLastUpdate parseTime file with
        | none => .ok { status with overall := .unknown }
        | some update => .ok { status with
            lastUpdate := some update
            overall := if update.result == .failed then .warn else status.overall }

end Update

end EdgeHealthd
