import EdgeHealthd.ReasonPattern
import EdgeHealthd.SnapshotJsonCore

/-!
Executable `schemas/edge.health.state.v1.1.json`: every keyword of a schema is a test of the
document, and a keyword about another type of value holds. The keyword `format` is an
annotation and tests nothing.
-/

namespace EdgeHealthd.JsonSchema

inductive JsonType where
  | null
  | boolean
  | integer
  | number
  | string
  | array
  | object
  deriving DecidableEq

/-- A number without a fraction is an integer too, and a double that is not finite is
printed as `null`. -/
def hasType : JsonType → Json → Bool
  | .null, .null => true
  | .null, .float .nan | .null, .float .negInfinity | .null, .float .posInfinity => true
  | .boolean, .boolean _ => true
  | .integer, .integer _ | .number, .integer _ => true
  | .integer, .float (.finite value) => value.den = 1
  | .number, .float (.finite _) => true
  | .string, .string _ => true
  | .array, .array _ => true
  | .object, .object _ => true
  | _, _ => false

section Keywords

def type (names : List JsonType) (json : Json) : Bool := names.any fun name => hasType name json

def enum (values : List String) : Json → Bool
  | .string value => values.contains value
  | _ => false

def const (value : String) : Json → Bool := enum [value]

def minimum (least : Int) : Json → Bool
  | .integer value => least ≤ value
  | .float (.finite value) => least ≤ value
  | _ => true

def maximum (most : Int) : Json → Bool
  | .integer value => value ≤ most
  | .float (.finite value) => value ≤ most
  | _ => true

def minLength (least : Nat) : Json → Bool
  | .string value => least ≤ value.length
  | _ => true

def maxLength (most : Nat) : Json → Bool
  | .string value => value.length ≤ most
  | _ => true

def pattern (accepts : String → Bool) : Json → Bool
  | .string value => accepts value
  | _ => true

def items (schema : Json → Bool) : Json → Bool
  | .array values => values.all schema
  | _ => true

def maxItems (most : Nat) : Json → Bool
  | .array values => values.length ≤ most
  | _ => true

def property (key : String) (schema : Json → Bool) (json : Json) : Bool :=
  (json.find? key).all schema

def required (keys : List String) : Json → Bool
  | .object members => keys.all fun key => (members.lookup key).isSome
  | _ => true

-- `additionalProperties: false` beside the properties with these keys.
def onlyProperties (keys : List String) : Json → Bool
  | .object members => members.all fun member => keys.contains member.1
  | _ => true

def anyOf (schemas : List (Json → Bool)) (json : Json) : Bool :=
  schemas.any fun schema => schema json

def allOf (keywords : List (Json → Bool)) (json : Json) : Bool :=
  keywords.all fun keyword => keyword json

end Keywords

/-- The pattern of a reason: a code, and behind the first colon a subject. -/
def reasonPattern (reason : String) : Bool :=
  isCode (reason.toList.takeWhile (· != ':')) &&
    match reason.toList.dropWhile (· != ':') with
    | [] => true
    | _ :: subject => isSubject subject

def string : Json → Bool := type [.string]
def boolean : Json → Bool := type [.boolean]
def stringOrNull : Json → Bool := type [.string, .null]
def natural : Json → Bool := allOf [type [.integer], minimum 0]
def dateTime : Json → Bool := string
def dateTimeOrNull : Json → Bool := anyOf [dateTime, type [.null]]

def severity : Json → Bool := enum ["ok", "warn", "crit", "unknown", "unavailable", "stale"]
def serviceState : Json → Bool :=
  enum ["active", "inactive", "failed", "activating", "deactivating", "unknown"]
def linkState : Json → Bool := enum ["up", "down", "unknown"]
def timeSyncSource : Json → Bool := enum ["none", "ntp", "ptp"]
def timeSyncState : Json → Bool := enum ["locked", "free_running", "holdover", "unknown"]
def updateResult : Json → Bool := enum ["success", "failed", "unknown"]

def object (properties : List (Json → Bool)) (keys : List String) : Json → Bool :=
  allOf ([type [.object], required keys] ++ properties)

def freshness : List (Json → Bool) := [property "collected_at" dateTime, property "stale" boolean]

def osInfo : Json → Bool :=
  object [property "distro" string, property "version" string, property "build_id" string,
    property "kernel" string] ["distro", "kernel"]

def device : Json → Bool :=
  object [property "device_id" (allOf [string, minLength 1]), property "hostname" string,
    property "platform" string, property "arch" string, property "os" osInfo]
    ["device_id", "hostname", "platform", "arch", "os"]

def boot : Json → Bool :=
  object ([property "boot_id" string, property "last_boot_at" dateTime, property "uptime" natural,
    property "boot_ok" boolean, property "boot_fail_count" natural,
    property "last_reboot_reason" stringOrNull] ++ freshness)
    ["boot_id", "last_boot_at", "uptime", "boot_ok", "boot_fail_count"]

def logLine : Json → Bool := allOf [string, maxLength 512]

def unit : Json → Bool :=
  object [property "name" string, property "state" serviceState, property "severity" severity,
    property "since" dateTimeOrNull, property "restart_count" natural,
    property "result" stringOrNull, property "detail" stringOrNull,
    property "log_excerpt" (allOf [type [.array], items logLine, maxItems 20])]
    ["name", "state", "severity", "restart_count"]

def services : Json → Bool :=
  object ([property "overall" severity,
    property "units" (allOf [type [.array], items unit])] ++ freshness) ["overall", "units"]

def load : Json → Bool := allOf [type [.number], minimum 0]

def cpu : Json → Bool :=
  object [property "load1" load, property "load5" load, property "load15" load]
    ["load1", "load5", "load15"]

def memory : Json → Bool :=
  object [property "mem_total_mb" natural, property "mem_used_mb" natural,
    property "swap_used_mb" natural] ["mem_total_mb", "mem_used_mb", "swap_used_mb"]

def mount : Json → Bool :=
  object [property "mount" string, property "fs" string,
    property "used_pct" (allOf [type [.integer], minimum 0, maximum 100]),
    property "avail_mb" natural, property "available" boolean] ["mount", "available"]

def sensor : Json → Bool :=
  object [property "sensor" string, property "temp_c" (type [.number]),
    property "available" boolean] ["sensor", "available"]

def counters : List String :=
  ["rx_bytes", "tx_bytes", "rx_packets", "tx_packets", "rx_dropped", "tx_dropped", "rx_err",
    "tx_err"]

def interface : Json → Bool :=
  object ([property "ifname" string, property "link" linkState] ++
    counters.map (fun counter => property counter natural) ++
    [property "ip" stringOrNull, property "carrier" (type [.boolean, .null]),
    property "speed_mbps" (anyOf [natural, type [.null]]),
    property "duplex" (anyOf [allOf [string, enum ["full", "half", "unknown"]], type [.null]])])
    (["ifname", "link"] ++ counters)

def list (schema : Json → Bool) : Json → Bool := allOf [type [.array], items schema]

def resources : Json → Bool :=
  object ([property "sample_window_sec" (allOf [type [.integer], minimum 1]), property "cpu" cpu,
    property "memory" memory, property "storage" (list mount), property "thermal" (list sensor),
    property "network" (list interface)] ++ freshness)
    ["sample_window_sec", "cpu", "memory", "network"]

def ntp : Json → Bool :=
  object [property "enabled" boolean, property "state" timeSyncState,
    property "last_sync_at" dateTimeOrNull] ["enabled"]

def ptp : Json → Bool :=
  object [property "enabled" boolean, property "interface" stringOrNull,
    property "offset_ns" (type [.integer, .null]),
    property "rms_ns" (allOf [type [.integer, .null], minimum 0]), property "state" timeSyncState,
    property "last_sync_at" dateTimeOrNull, property "role" stringOrNull] ["enabled"]

-- The schema does not name the real-time clock, so anything may stand there.
def timeSync : Json → Bool :=
  object ([property "overall" severity, property "source" timeSyncSource, property "ntp" ntp,
    property "ptp" ptp] ++ freshness) ["overall", "source"]

def lastUpdate : Json → Bool :=
  object [property "id" string, property "installed_at" dateTimeOrNull,
    property "result" updateResult, property "detail" stringOrNull] ["id", "result"]

def update : Json → Bool :=
  object ([property "overall" severity, property "active_slot" stringOrNull,
    property "last_update" (anyOf [lastUpdate, type [.null]])] ++ freshness) ["overall"]

def journal : Json → Bool :=
  object ([property "overall" severity, property "error_count" natural,
    property "recent_errors" (list logLine)] ++ freshness)
    ["overall", "error_count", "recent_errors"]

def artifact : Json → Bool :=
  object [property "name" string, property "size_bytes" natural, property "mtime" dateTimeOrNull]
    ["name", "size_bytes"]

def crash : Json → Bool :=
  object ([property "present" boolean,
    property "source" (anyOf [allOf [string, enum ["pstore"]], type [.null]]),
    property "last_panic_at" dateTimeOrNull, property "fingerprint" stringOrNull,
    property "artifact_count" natural, property "artifacts" (list artifact),
    property "acknowledged" boolean] ++ freshness)
    ["present", "artifact_count", "artifacts", "acknowledged"]

def domainKeys : List String :=
  ["boot", "services", "resources", "time_sync", "update", "journal", "crash"]

def domains : Json → Bool :=
  allOf ([type [.object], onlyProperties domainKeys] ++
    domainKeys.map fun key => property key severity)

def summary : Json → Bool :=
  object [property "severity" severity, property "domains" domains,
    property "reasons" (list (allOf [string, pattern reasonPattern])),
    property "notes" stringOrNull] ["severity", "reasons"]

def snapshot : Json → Bool :=
  object [property "schema" (const "edge.health.state"), property "schema_version" (const "1.1"),
    property "generated_at" dateTime, property "device" device, property "boot" boot,
    property "services" services, property "resources" resources, property "time_sync" timeSync,
    property "update" update, property "journal" journal, property "crash" crash,
    property "summary" summary]
    ["schema", "schema_version", "generated_at", "device", "boot", "services", "resources",
      "time_sync", "update", "journal", "summary"]

end EdgeHealthd.JsonSchema
