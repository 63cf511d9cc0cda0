import EdgeHealthd.AggregatorCore
import EdgeHealthd.ConfigFileCore
import EdgeHealthd.Library.Throwing

/-!
Executable `lib/validate.ts`, `lib/reasons.ts`, `lib/severity.ts`, `lib/format.ts`
and `lib/domains.ts` of the web page, on the untyped value `JSON.parse` returns.
Reading a property, calling a method and turning a value into text throw a
`TypeError` where the language does; floating-point arithmetic, number formatting
and case mapping are the parameter `builtins`.
-/

namespace EdgeHealthd.WebUi

open Throwing

inductive TypeError where
  -- A property of `undefined` or `null`.
  | noProperties
  | notAFunction
  -- An object whose own member hides `toString`.
  | noPrimitive
  deriving DecidableEq

abbrev Js (Value : Type) := Except TypeError Value

/-- A value of the page; `none` is `undefined`. -/
abbrev JsValue := Option Json

structure Builtins where
  ofText : String → Double
  text : Double → String
  toFixed : Double → Nat → String
  div : Double → Double → Double
  mul : Double → Double → Double
  rem : Double → Double → Double
  floor : Double → Double
  round : Double → Double
  toUpperCase : String → String
  -- The text of a member that a plain object inherits.
  inherited : String → Option String
  -- `JSON.stringify`
  stringify : Json → String

def asNumber (value : JsValue) : Option Double := value.bind Json.getDouble

def isNumber (value : JsValue) : Bool := (asNumber value).isSome

def isText (value : JsValue) (text : String) : Bool :=
  match value with
  | some (.string other) => other == text
  | _ => false

def isFalse : JsValue → Bool
  | some (.boolean value) => !value
  | _ => false

def truthy : JsValue → Bool
  | none | some .null => false
  | some (.boolean value) => value
  | some (.integer value) => value != 0
  | some (.float value) => value != .finite 0 && value != .nan
  | some (.string value) => value != ""
  | some (.array _) | some (.object _) => true

-- None of the names read here is a property of a prototype.
def property (key : String) : JsValue → Js JsValue
  | none | some .null => .error .noProperties
  | some json => .ok (json.find? key)

-- `value?.key`
def optionalProperty (key : String) (value : JsValue) : JsValue :=
  value.bind fun json => json.find? key

mutual

/-- `ToPrimitive` of a JSON value as text. An object that hides `toString` has
none, whatever its `valueOf`; an array joins its items. -/
def toText (builtins : Builtins) : Json → Js String
  | .null => .ok "null"
  | .boolean value => .ok (if value then "true" else "false")
  | .integer value => .ok (builtins.text (.ofInteger value))
  | .float value => .ok (builtins.text value)
  | .string value => .ok value
  | .array items => do
      let texts ← itemTexts builtins items
      return ",".intercalate texts
  | .object members =>
      if (members.lookup "toString").isSome then .error .noPrimitive else .ok "[object Object]"

def itemTexts (builtins : Builtins) : List Json → Js (List String)
  | [] => .ok []
  | item :: rest => do
      let text ← toText builtins item
      let later ← itemTexts builtins rest
      return (match item with | .null => "" | _ => text) :: later

end

def display (builtins : Builtins) : JsValue → Js String
  | none => .ok "undefined"
  | some json => toText builtins json

def toNumber (builtins : Builtins) : JsValue → Js Double
  | none => .ok .nan
  | some .null => .ok (.finite 0)
  | some (.boolean value) => .ok (.finite (if value then 1 else 0))
  | some (.integer value) => .ok (.ofInteger value)
  | some (.float value) => .ok value
  | some json => do
      let text ← toText builtins json
      return builtins.ofText text

def Double.gt (left right : Double) : Bool := left.ge right && !right.ge left

def rank : Severity → Nat
  | .unknown => 0
  | .ok => 1
  | .stale => 2
  | .unavailable => 3
  | .warn => 4
  | .crit => 5

def normalizeSeverity : JsValue → Severity
  | some (.string "unknown") => .unknown
  | some (.string "ok") => .ok
  | some (.string "stale") => .stale
  | some (.string "unavailable") => .unavailable
  | some (.string "warn") => .warn
  | some (.string "crit") => .crit
  | _ => .unknown

def isFault : Severity → Bool
  | .warn | .crit => true
  | _ => false

inductive ParseError where
  | notAnObject
  | schema (got : Json)
  | version (text : String)
  | generatedAt
  | section (key : String)
  | units
  | cpu
  | memory
  | network
  | list (key : String)
  | recentErrors
  | severity
  | reasons
  | crash

def ParseError.message (builtins : Builtins) : ParseError → String
  | .notAnObject => "the response is not a JSON object"
  | .schema got => "expected schema \"edge.health.state\", got " ++ builtins.stringify got
  | .version text => "schema version " ++ (if text = "" then "missing" else text) ++
      " is not supported; this page reads 1.x"
  | .generatedAt => "generated_at is missing"
  | .section key => "section \"" ++ key ++ "\" is missing"
  | .units => "services.units is not a list"
  | .cpu => "resources.cpu is incomplete"
  | .memory => "resources.memory is incomplete"
  | .network => "resources.network is not a list"
  | .list key => "resources." ++ key ++ " is not a list"
  | .recentErrors => "journal.recent_errors is not a list"
  | .severity => "summary.severity is missing"
  | .reasons => "summary.reasons is not a list"
  | .crash => "crash section is malformed"

def isObj : JsValue → Bool
  | some (.object _) => true
  | _ => false

def isArray : JsValue → Bool
  | some (.array _) => true
  | _ => false

def isString : JsValue → Bool
  | some (.string _) => true
  | _ => false

/-- The value at the end of a path of members, each absent where it is not an object. -/
def member (state : Json) (path : List String) : JsValue :=
  path.foldl (fun value key => optionalProperty key value) (some state)

def require (holds : Bool) (failure : ParseError) : Except ParseError Unit :=
  if holds then .ok () else .error failure

def requireAll (keys : List String) (holds : String → Bool) (failure : String → ParseError) :
    Except ParseError Unit :=
  match keys with
  | [] => .ok ()
  | key :: rest => do
      require (holds key) (failure key)
      requireAll rest holds failure

def sections : List String :=
  ["device", "boot", "services", "resources", "time_sync", "update", "journal", "summary"]

def schemaVersion (input : Json) : String :=
  match input.find? "schema_version" with
  | some (.string version) => version
  | _ => ""

-- `Number(version.split('.')[0])`
def schemaMajor (builtins : Builtins) (version : String) : Double :=
  builtins.ofText (String.ofList (version.toList.takeWhile (· ≠ '.')))

def parseHealthState (builtins : Builtins) (input : Json) : Except ParseError Json := do
  require (isObj (some input)) .notAnObject
  require (isText (input.find? "schema") "edge.health.state")
    (.schema ((input.find? "schema").getD .null))
  require (schemaMajor builtins (schemaVersion input) = .finite 1) (.version (schemaVersion input))
  require (isString (input.find? "generated_at")) .generatedAt
  requireAll sections (fun key => isObj (input.find? key)) .section
  require (isArray (member input ["services", "units"])) .units
  require (isObj (member input ["resources", "cpu"]) &&
    isNumber (member input ["resources", "cpu", "load1"])) .cpu
  require (isObj (member input ["resources", "memory"]) &&
    isNumber (member input ["resources", "memory", "mem_total_mb"])) .memory
  require (isArray (member input ["resources", "network"])) .network
  requireAll ["storage", "thermal"] (fun key => (member input ["resources", key]).isNone ||
    isArray (member input ["resources", key])) .list
  require (isArray (member input ["journal", "recent_errors"])) .recentErrors
  require (isString (member input ["summary", "severity"])) .severity
  require (isArray (member input ["summary", "reasons"])) .reasons
  require ((input.find? "crash").isNone || (isObj (input.find? "crash") &&
    isArray (member input ["crash", "artifacts"]))) .crash
  return input

-- A reason that is an array is sliced as one.
structure Reason where
  code : Json
  -- `none` is `null`.
  subject : Option Json

def parseReason : Json → Js Reason
  | .string raw =>
      match raw.toList.dropWhile (· ≠ ':') with
      | [] => .ok ⟨.string raw, none⟩
      | _ :: subject => .ok ⟨.string (String.ofList (raw.toList.takeWhile (· ≠ ':'))),
          some (.string (String.ofList subject))⟩
  | .array items =>
      match items.dropWhile fun item => !isText (some item) ":" with
      | [] => .ok ⟨.array items, none⟩
      | _ :: subject => .ok ⟨.array (items.takeWhile fun item => !isText (some item) ":"),
          some (.array subject)⟩
  | .null => .error .noProperties
  | .boolean _ | .integer _ | .float _ | .object _ => .error .notAFunction

def Reason.matches (reason : Reason) (code : String) (subject : Option String) : Bool :=
  isText (some reason.code) code &&
    match subject with
    | none => true
    | some text => isText reason.subject text

-- A method of a value that is no array is not there to call.
def items : JsValue → Js (List Json)
  | some (.array items) => .ok items
  | none | some .null => .error .noProperties
  | some _ => .error .notAFunction

def hasReason (state : Json) (code : String) (subject : Option String) : Js Bool := do
  let summary ← property "summary" (some state)
  let reasons ← items (← property "reasons" summary)
  any (fun raw => do return (← parseReason raw).matches code subject) reasons

-- `a ?? b`
def orElse (value default : JsValue) : JsValue :=
  match value with
  | none | some .null => default
  | some json => some json

def resourceFlag (state : Json) (code : String) (subject : Option String) :
    Js (Option Severity) := do
  if !(← hasReason state code subject) then return none
  let summary ← property "summary" (some state)
  let domains ← property "domains" summary
  let sev := normalizeSeverity
    (orElse (optionalProperty "resources" domains) (some (.string "warn")))
  return some (if isFault sev then sev else .warn)

def domains : List Domain :=
  [.boot, .services, .resources, .timeSync, .update, .journal, .crash]

def domainKey : Domain → String
  | .boot => "boot"
  | .services => "services"
  | .resources => "resources"
  | .timeSync => "time_sync"
  | .update => "update"
  | .journal => "journal"
  | .crash => "crash"

def sectionSeverity (state : Json) : Domain → Js Severity
  | .boot => do
      let boot ← property "boot" (some state)
      return if truthy (← property "boot_ok" boot) then .ok else .crit
  | .resources => .ok .unknown
  | .crash => do
      let crash ← property "crash" (some state)
      if !truthy crash then return .unknown
      return if truthy (← property "present" crash) && !truthy (← property "acknowledged" crash)
        then .warn else .ok
  | domain => do
      let reported ← property (domainKey domain) (some state)
      return normalizeSeverity (← property "overall" reported)

def domainSeverity (state : Json) (domain : Domain) : Js Severity := do
  let summary ← property "summary" (some state)
  match optionalProperty (domainKey domain) (← property "domains" summary) with
  | some reported => return normalizeSeverity (some reported)
  | none => sectionSeverity state domain

def domainSeverities (state : Json) : Js (List (Domain × Severity)) :=
  domains.mapM fun domain => do return (domain, ← domainSeverity state domain)

section Summary

variable (builtins : Builtins)

def formatDuration (value : JsValue) : String :=
  match asNumber value with
  | some (.finite seconds) =>
      if seconds < 0 then "—"
      else
        let part := fun amount unit => builtins.floor (builtins.div amount (.finite unit))
        let days := part (.finite seconds) 86400
        let hours := part (builtins.rem (.finite seconds) (.finite 86400)) 3600
        let minutes := part (builtins.rem (.finite seconds) (.finite 3600)) 60
        if Double.gt days (.finite 0) then
          builtins.text days ++ "d " ++ builtins.text hours ++ "h"
        else if Double.gt hours (.finite 0) then
          builtins.text hours ++ "h " ++ builtins.text minutes ++ "m"
        else builtins.text minutes ++ "m"
  | _ => "—"

def formatTemperature : Double → String
  | .finite celsius => builtins.toFixed (.finite celsius) 1 ++ " °C"
  | .nan | .negInfinity | .posInfinity => "—"

def plural (count : JsValue) (singular : String) : Js String := do
  let text ← display builtins count
  return text ++ " " ++ if asNumber count = some (.finite 1) then singular else singular ++ "s"

def optionalText (before : String) (value : JsValue) (missing : String) : Js String :=
  if truthy value then (before ++ ·) <$> display builtins value else .ok missing

def bootSummary (state : Json) : Js String := do
  let boot ← property "boot" (some state)
  if !truthy (← property "boot_ok" boot) then
    let rebooted ← property "last_reboot_reason" boot
    let reason ← optionalText builtins " · last reboot: " rebooted ""
    let times ← plural builtins (← property "boot_fail_count" boot) "time"
    return "Boot failed " ++ times ++ reason
  return "Up " ++ formatDuration builtins (← property "uptime" boot)

def needsAttention (unit : Json) : Js Bool := do
  return rank (normalizeSeverity (← property "severity" (some unit))) > rank .ok

def servicesSummary (state : Json) : Js String := do
  let services ← property "services" (some state)
  let units ← items (← property "units" services)
  if units.length = 0 then return "No units monitored"
  match ← filter needsAttention units with
  | [] => return "All " ++ (← plural builtins (some (.integer units.length)) "unit") ++ " healthy"
  | [failing] =>
      let name ← display builtins (← property "name" (some failing))
      let state ← display builtins (← property "state" (some failing))
      return name ++ " is " ++ state
  | failing =>
      return toString failing.length ++ " of " ++ toString units.length ++ " units need attention"

-- The default `[]` of a destructured member.
def itemsOrEmpty : JsValue → Js (List Json)
  | none => .ok []
  | value => items value

def isUnavailable (reading : Json) : Js Bool := do
  return isFalse (← property "available" (some reading))

def hasTemperature (sensor : Json) : Js Bool := do
  let available ← property "available" (some sensor)
  return !isFalse available && isNumber (← property "temp_c" (some sensor))

def hottest (sensors : List Json) : Option Double :=
  (sensors.filterMap fun sensor => asNumber (sensor.find? "temp_c")).foldl (fun max reading =>
    match max with
    | none => some reading
    | some value => some (if Double.gt reading value then reading else value)) none

def loadPart (cpu : JsValue) : Js String := do
  match asNumber (← property "load1" cpu) with
  | some load => return "Load " ++ builtins.toFixed load 2
  | none => throw .notAFunction

def memoryPart (memory : JsValue) : Js (List String) := do
  let total ← toNumber builtins (← property "mem_total_mb" memory)
  if !Double.gt total (.finite 0) then return []
  let used ← toNumber builtins (← property "mem_used_mb" memory)
  let percent := builtins.round (builtins.mul (builtins.div used total) (.finite 100))
  return ["Memory " ++ builtins.text percent ++ "%"]

def blindPart (blind : Nat) : Js (List String) :=
  if blind > 0 then
    (fun text => [text ++ " unavailable"]) <$> plural builtins (some (.integer blind)) "reading"
  else .ok []

def resourcesSummary (state : Json) : Js String := do
  let resources ← property "resources" (some state)
  let cpu ← property "cpu" resources
  let memory ← property "memory" resources
  let storage ← itemsOrEmpty (← property "storage" resources)
  let thermal ← itemsOrEmpty (← property "thermal" resources)
  let load ← loadPart builtins cpu
  let used ← memoryPart builtins memory
  let measured ← filter hasTemperature thermal
  let temperature := (hottest measured).toList.map (formatTemperature builtins)
  let blindMounts ← filter isUnavailable storage
  let blindSensors ← filter isUnavailable thermal
  let unavailable ← blindPart builtins (blindMounts.length + blindSensors.length)
  return " · ".intercalate ([load] ++ used ++ temperature ++ unavailable)

-- A method only strings have.
def textMethod : JsValue → Js String
  | some (.string text) => .ok text
  | none | some .null => .error .noProperties
  | some _ => .error .notAFunction

def replaceFirst (text : String) (old new : Char) : String :=
  let before := text.toList.takeWhile (· ≠ old)
  match text.toList.dropWhile (· ≠ old) with
  | [] => text
  | _ :: after => String.ofList (before ++ new :: after)

def timeSyncSummary (state : Json) : Js String := do
  let timeSync ← property "time_sync" (some state)
  let source ← property "source" timeSync
  if isText source "none" then return "No time source"
  let clock := if isText source "ptp" then "ptp" else "ntp"
  let shown := optionalProperty "state" (← property clock timeSync)
  let name ← textMethod source
  let text ← textMethod (orElse shown (some (.string "unknown")))
  return builtins.toUpperCase name ++ " " ++ replaceFirst text '_' ' '

-- The lookup in an object literal with three members of its own.
def updateOutcome (result : String) : Option String :=
  match result with
  | "success" => some "succeeded"
  | "failed" => some "failed"
  | "unknown" => some "result unknown"
  | other => builtins.inherited other

def updateSummary (state : Json) : Js String := do
  let update ← property "update" (some state)
  let activeSlot ← property "active_slot" update
  let lastUpdate ← property "last_update" update
  let slot ← optionalText builtins "Slot " activeSlot "No active slot reported"
  if !truthy lastUpdate then return slot ++ " · no update history"
  let result ← display builtins (← property "result" lastUpdate)
  return slot ++ " · last update " ++ (updateOutcome builtins result).getD result

def journalSummary (state : Json) : Js String := do
  let journal ← property "journal" (some state)
  let count ← property "error_count" journal
  if asNumber count = some (.finite 0) then return "No errors in scan window"
  return (← plural builtins count "error") ++ " in scan window"

def crashSummary (state : Json) : Js String := do
  let crash ← property "crash" (some state)
  if !truthy crash then return "Not reported"
  if !truthy (← property "present" crash) then return "No crash records"
  let records ← plural builtins (← property "artifact_count" crash) "pstore record"
  return if truthy (← property "acknowledged" crash) then records ++ " · acknowledged"
    else records ++ " · not acknowledged"

def domainSummary (state : Json) : Domain → Js String
  | .boot => bootSummary builtins state
  | .services => servicesSummary builtins state
  | .resources => resourcesSummary builtins state
  | .timeSync => timeSyncSummary builtins state
  | .update => updateSummary builtins state
  | .journal => journalSummary builtins state
  | .crash => crashSummary builtins state

end Summary

-- `ResourcesDetail`: the readings that get a meter or a temperature.
def shownMount (mount : Json) : Bool :=
  !isFalse (mount.find? "available") && isNumber (mount.find? "used_pct")

def shownSensor (sensor : Json) : Bool :=
  !isFalse (sensor.find? "available") && isNumber (sensor.find? "temp_c")

-- The names are texts in every document of the daemon.
def mountFlag (state mount : Json) : Js (Option Severity) :=
  resourceFlag state "disk_used_high" ((mount.find? "mount").bind Json.getString)

def sensorFlag (state sensor : Json) : Js (Option Severity) :=
  resourceFlag state "temp_high" ((sensor.find? "sensor").bind Json.getString)

end EdgeHealthd.WebUi
