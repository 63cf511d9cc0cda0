import EdgeHealthd.Browser
import EdgeHealthd.PageSnapshot
import EdgeHealthd.SnapshotWriter
import EdgeHealthd.WebServer

/-!
The way of a snapshot from the daemon to the page: the writer renames its document into place,
the server loads, caches and sends it, the page validates and shows it. Every part runs in any
interleaving with the others; nothing on the way makes a document up or tears one.
-/

namespace EdgeHealthd

open Machine Table

namespace WebServer

def Load.data : Load → Option FileVersion
  | .statting data | .storing data _ | .broadcasting data => some data
  | .reading | .returned => none

/-- Every version that a client was sent or is about to be sent has the property. -/
structure ClientFrom (property : FileVersion → Prop) (client : Client) : Prop where
  handler : ∀ data, client.handler = .sending data → property data
  trace : ∀ data, .sent data ∈ client.trace → property data

/-- Every version that the server holds anywhere has the property. -/
structure From (property : FileVersion → Prop) (server : Server) : Prop where
  file : ∀ version, server.file = some version → property version
  loads : ∀ load ∈ server.loads, ∀ version, load.data = some version → property version
  cache : ∀ cached, server.cache = some cached → property cached.data
  stored : ∀ cached ∈ server.stored, property cached.data
  broadcast : ∀ version ∈ server.broadcast, property version
  hub : ∀ message remaining, server.hub = .delivering message remaining → property message
  clients : ∀ client ∈ server.clients, ClientFrom property client

/-- Some client was sent these bytes, or a request may have been answered with them. -/
def Sent (server : Server) (content : ByteString) : Prop :=
  (∃ client ∈ server.clients, ∃ data, .sent data ∈ client.trace ∧ data.content = content) ∨
    ∃ cached ∈ server.stored, cached.data.content = content

section Steps

variable {property : FileVersion → Prop} {server next : Server} {index : Nat}

theorem ClientFrom.mono {wider : FileVersion → Prop} {client : Client}
    (origin : ClientFrom property client) (implies : ∀ version, property version → wider version) :
    ClientFrom wider client :=
  ⟨fun data sending => implies data (origin.handler data sending),
    fun data sent => implies data (origin.trace data sent)⟩

theorem From.mono {wider : FileVersion → Prop} (origin : From property server)
    (implies : ∀ version, property version → wider version) : From wider server where
  file version present := implies version (origin.file version present)
  loads load member version found := implies version (origin.loads load member version found)
  cache cached held := implies cached.data (origin.cache cached held)
  stored cached member := implies cached.data (origin.stored cached member)
  broadcast version member := implies version (origin.broadcast version member)
  hub message remaining delivering := implies message (origin.hub message remaining delivering)
  clients client member := (origin.clients client member).mono implies

theorem ClientFrom.send {client : Client} (origin : ClientFrom property client)
    {data : FileVersion} (holds : property data) : ClientFrom property (client.send data) := by
  refine ⟨origin.handler, ?_⟩
  intro version member
  rcases List.mem_append.mp member with before | new
  · exact origin.trace version before
  · cases List.mem_singleton.mp new
    exact holds

theorem ClientFrom.close {client : Client} (origin : ClientFrom property client) :
    ClientFrom property client.close := by
  refine ⟨origin.handler, ?_⟩
  intro version member
  rcases List.mem_append.mp member with before | new
  · exact origin.trace version before
  · cases List.mem_singleton.mp new

theorem From.setLoad (origin : From property server) {load : Load}
    (holds : ∀ version, load.data = some version → property version) :
    From property (server.setLoad index load) := by
  refine { origin with loads := ?_ }
  intro other member version found
  rcases List.mem_or_eq_of_mem_set member with before | rfl
  · exact origin.loads other before version found
  · exact holds version found

theorem From.setClient (origin : From property server) (index : Nat) {client : Client}
    (holds : ClientFrom property client) : From property (server.setClient index client) := by
  refine { origin with clients := ?_ }
  intro other member
  rcases List.mem_or_eq_of_mem_set member with before | rfl
  · exact origin.clients other before
  · exact holds

theorem From.closeClient (origin : From property server) (index : Nat) {client : Client}
    (holds : ClientFrom property client) : From property (server.closeClient index client) :=
  { origin.setClient index holds.close with }

theorem From.loadStep (origin : From property server) {step : LoadStep}
    (advance : LoadAdvance server index step next) : From property next := by
  have held {load : Load} (found : server.loads[index]? = some load) {version : FileVersion}
      (data : load.data = some version) : property version :=
    origin.loads load (List.mem_of_getElem? found) version data
  cases advance with
  | fail load found early => exact origin.setLoad nofun
  | read file found present =>
      refine origin.setLoad ?_
      rintro version ⟨⟩
      exact origin.file file present
  | stat data file found present =>
      refine origin.setLoad ?_
      rintro version ⟨⟩
      exact held found rfl
  | store data mtime found =>
      have stored : From property (server.setCache data mtime) := by
        refine { origin with cache := ?_, stored := ?_ }
        · rintro cached ⟨⟩
          exact held found rfl
        · intro cached member
          rcases List.mem_append.mp member with before | new
          · exact origin.stored cached before
          · rw [List.mem_singleton.mp new]
            exact held found rfl
      refine stored.setLoad ?_
      rintro version ⟨⟩
      exact held found rfl
  | broadcast data found =>
      have sent : From property (server.broadcastData data) := by
        rw [Server.broadcastData]
        split
        · refine { origin with broadcast := ?_ }
          intro version member
          rcases List.mem_append.mp member with before | new
          · exact origin.broadcast version before
          · rw [List.mem_singleton.mp new]
            exact held found rfl
        · exact origin
      exact sent.setLoad nofun

theorem From.hubStep (origin : From property server) {step : HubStep}
    (advance : HubAdvance server step next) : From property next := by
  have of {index : Nat} {client : Client} (found : server.clients[index]? = some client) :
      ClientFrom property client := origin.clients client (List.mem_of_getElem? found)
  cases advance with
  | register index client found _ _ =>
      have starts : ClientFrom property { client with handler := .startingPumps } :=
        ⟨nofun, (of found).trace⟩
      exact { origin.setClient index starts with }
  | unregister index client found _ _ =>
      exact origin.closeClient index ⟨(of found).handler, (of found).trace⟩
  | forgotten index client found _ =>
      exact origin.setClient index ⟨(of found).handler, (of found).trace⟩
  | receive message rest _ queue =>
      refine { origin with broadcast := ?_, hub := ?_ }
      · intro version member
        exact origin.broadcast version (queue ▸ List.mem_cons_of_mem _ member)
      · rintro other remaining ⟨⟩
        exact origin.broadcast message (queue ▸ List.mem_cons_self)
  | overflow index client message remaining found delivering _ _ =>
      refine { origin.closeClient index (of found) with hub := ?_ }
      rintro other left ⟨⟩
      exact origin.hub message remaining delivering
  | deliver index client message remaining found delivering _ =>
      have holds := origin.hub message remaining delivering
      refine { origin.setClient index ((of found).send holds) with hub := ?_ }
      rintro other left ⟨⟩
      exact holds
  | delivered message _ => exact { origin with hub := nofun }
  | cancel _ => exact { origin with hub := nofun }
  | close index client found _ _ => exact origin.closeClient index (of found)
  | done _ => exact { origin with hub := nofun }

theorem From.clientStep (origin : From property server) {client changed : Client}
    (found : server.clients[index]? = some client) {step : ClientStep}
    (advance : ClientAdvance server index client step changed) :
    From property (server.setClient index changed) := by
  have of := origin.clients client (List.mem_of_getElem? found)
  refine origin.setClient index ?_
  cases advance with
  | pump => exact ⟨of.handler, of.trace⟩
  | startPumps => exact ⟨nofun, of.trace⟩
  | getState cached _ held =>
      refine ⟨?_, of.trace⟩
      rintro data ⟨⟩
      exact origin.cache cached held
  | noState => exact ⟨nofun, of.trace⟩
  | sendState data sending => exact ⟨nofun, (of.send (of.handler data sending)).trace⟩

theorem From.step (origin : From property server) {action : Action}
    (taken : server.step action = some next)
    (replaced : ∀ content mtime number, action = .replaceFile content mtime →
      property ⟨number, content, mtime⟩) : From property next := by
  cases action with
  | replaceFile content mtime =>
      obtain rfl := Option.some.inj taken
      refine { origin with file := ?_ }
      rintro version ⟨⟩
      exact replaced content mtime _ rfl
  | removeFile =>
      obtain rfl := Option.some.inj taken
      exact { origin with file := nofun }
  | cancelContext =>
      obtain rfl := Option.some.inj taken
      exact { origin with }
  | connect =>
      obtain rfl := Option.some.inj taken
      refine { origin with clients := ?_ }
      intro client member
      rcases List.mem_append.mp member with before | new
      · exact origin.clients client before
      · rw [List.mem_singleton.mp new]
        exact ⟨nofun, fun _ member => absurd member List.not_mem_nil⟩
  | watch step =>
      obtain ⟨events, watcher, rfl | rfl⟩ := stepWatch_cases taken
      · exact { origin with }
      · refine { origin with loads := ?_ }
        intro load member version found
        rcases List.mem_append.mp member with before | new
        · exact origin.loads load before version found
        · rw [List.mem_singleton.mp new] at found
          cases found
  | load index step => exact origin.loadStep (stepLoad_advance taken)
  | hub step => exact origin.hubStep (stepHub_advance taken)
  | client index step =>
      obtain ⟨client, changed, found, advance, rfl⟩ := stepClient_advance taken
      exact origin.clientStep found advance

theorem from_start (found : Option FileVersion)
    (holds : ∀ version, found = some version → property version) :
    From property { file := found } where
  file := holds
  loads := by simp [Load.data]
  cache := nofun
  stored := by simp
  broadcast := by simp
  hub := nofun
  clients := by simp

theorem From.sent (origin : From property server) {content : ByteString}
    (sent : Sent server content) : ∃ version, property version ∧ version.content = content := by
  rcases sent with ⟨client, member, data, inTrace, rfl⟩ | ⟨cached, member, rfl⟩
  · exact ⟨data, (origin.clients client member).trace data inTrace, rfl⟩
  · exact ⟨cached.data, origin.stored cached member, rfl⟩

end Steps

end WebServer

/-- The gateway: the snapshot file with the daemon's writer before it and the server behind it. -/
structure Gateway where
  file : SnapshotFile
  server : WebServer.Server

inductive GatewayAction where
  -- A step of the writer, and the time stamp of the file if it renames one into place.
  | daemon (action : FileAction) (mtime : Int)
  | server (action : WebServer.Action)

def changesFile : WebServer.Action → Bool
  | .replaceFile _ _ | .removeFile => true
  | _ => false

namespace Gateway

def initial (writer : SnapshotWriter) (disk : Durability.Disk String UInt8) (mtime : Int) :
    Gateway where
  file := { disk }
  server := { file := (disk.read writer.outputPath).map fun content => ⟨0, content, mtime⟩ }

/-- The server finds the file as the disk shows it; nobody but the daemon replaces it. -/
def step (writer : SnapshotWriter) (gateway : Gateway) : GatewayAction → Option Gateway
  | .daemon action mtime => do
      let file ← gateway.file.step writer action
      if file.renamed = gateway.file.renamed then some { gateway with file }
      else
        let content ← file.disk.read writer.outputPath
        let server ← gateway.server.step (.replaceFile content mtime)
        some ⟨file, server⟩
  | .server action =>
      if changesFile action then none
      else (gateway.server.step action).map fun server => { gateway with server }

variable {writer : SnapshotWriter} {found : Option ByteString} {gateway next : Gateway}

/-- The bytes are what the file held before the daemon started, or the whole document of a
state that was renamed into place. -/
def Published (writer : SnapshotWriter) (found : Option ByteString)
    (renamed : List SnapshotState) (version : WebServer.FileVersion) : Prop :=
  found = some version.content ∨
    ∃ state ∈ renamed, writer.serialize state = .ok version.content

structure Faithful (writer : SnapshotWriter) (found : Option ByteString) (gateway : Gateway) :
    Prop where
  sound : SnapshotFile.Sound writer found gateway.file
  origin : WebServer.From (Published writer found gateway.file.renamed) gateway.server

theorem Faithful.daemonStep (faithful : Faithful writer found gateway) {action : FileAction}
    {mtime : Int} (taken : gateway.step writer (.daemon action mtime) = some next) :
    Faithful writer found next := by
  simp only [step, Option.bind_eq_bind, Option.bind_eq_some_iff] at taken
  obtain ⟨file, stepped, rest⟩ := taken
  have sound := faithful.sound.step stepped
  obtain ⟨newer, grown⟩ := SnapshotFile.step_renamed stepped
  have wider (version : WebServer.FileVersion) :
      Published writer found gateway.file.renamed version →
        Published writer found file.renamed version := by
    rintro (before | ⟨state, member, serialized⟩)
    · exact Or.inl before
    · exact Or.inr ⟨state, grown ▸ List.mem_append_left newer member, serialized⟩
  split at rest
  · cases rest
    exact ⟨sound, faithful.origin.mono wider⟩
  · rename_i changed
    simp only [Option.bind_eq_some_iff, Option.some.injEq] at rest
    obtain ⟨content, read, server, replaced, rfl⟩ := rest
    refine ⟨sound, (faithful.origin.mono wider).step replaced ?_⟩
    rintro _ _ number ⟨⟩
    have whole := sound.whole
    cases last : file.renamed.getLast? with
    | none =>
        have empty := List.getLast?_eq_none_iff.mp last
        rw [empty] at grown changed
        exact absurd (List.append_eq_nil_iff.mp grown.symm).1.symm changed
    | some state =>
        simp only [SnapshotFile.Whole, last] at whole
        obtain ⟨shown, serialized, stands⟩ := whole
        obtain rfl := Option.some.inj (read.symm.trans stands)
        exact Or.inr ⟨state, List.mem_of_getLast? last, serialized⟩

theorem Faithful.step (faithful : Faithful writer found gateway) {action : GatewayAction}
    (taken : gateway.step writer action = some next) : Faithful writer found next := by
  cases action with
  | daemon action mtime => exact faithful.daemonStep taken
  | server action =>
      simp only [Gateway.step] at taken
      split at taken
      · cases taken
      · rename_i other
        obtain ⟨server, stepped, rfl⟩ := Option.map_eq_some_iff.mp taken
        refine ⟨faithful.sound, faithful.origin.step stepped ?_⟩
        rintro content mtime number rfl
        exact absurd rfl other

theorem faithful_run {disk : Durability.Disk String UInt8} {mtime : Int}
    (apart : disk.Apart writer.outputPath (tempPathFor writer.outputPath writer.pid))
    {actions : List GatewayAction}
    (run : follow (Gateway.step writer) (initial writer disk mtime) actions = some gateway) :
    Faithful writer (disk.read writer.outputPath) gateway := by
  have idle : follow (SnapshotFile.step writer) { disk } [] = some { disk } := rfl
  have start : Faithful writer (disk.read writer.outputPath) (initial writer disk mtime) := by
    refine ⟨SnapshotFile.sound_run apart idle, WebServer.from_start _ ?_⟩
    intro version present
    obtain ⟨content, read, rfl⟩ := Option.map_eq_some_iff.mp present
    exact Or.inl read
  exact follow_preserves (Faithful writer (disk.read writer.outputPath)) (fun _ => True)
    (fun _ _ _ _ faithful taken => faithful.step taken) run (fun _ _ => trivial) start

end Gateway

namespace WebUi

variable {config : Config} {loadPct : CpuLoad → Double} {healthManager : Option HealthManager}
  {inputs : List CycleInput}

section Printed

@[simp] theorem printedMembers_optionalMember {Value : Type} (key : String) (value : Option Value)
    (json : Value → Json) :
    printedMembers (optionalMember key value json) =
      optionalMember key value fun found => printed (json found) := by
  cases value <;> simp [optionalMember]

@[simp] theorem printedMembers_memberIf (key : String) (present : Bool) (json : Json) :
    printedMembers (memberIf key present json) = memberIf key present (printed json) := by
  cases present <;> simp [memberIf]

@[simp] theorem printed_finiteOrZero (value : Double) :
    printed (.float (finiteOrZero value)) = .float (finiteOrZero value) := by
  cases value <;> simp [finiteOrZero, printed]

@[simp] theorem printed_time (time : WallTime) : printed (.time time) = .time time := by
  simp [Json.time]

@[simp] theorem printed_severity (severity : Severity) :
    printed (.severity severity) = .severity severity := by
  simp [Json.severity]

@[simp] theorem printed_natural (value : Nat) : printed (.natural value) = .natural value := by
  simp [Json.natural]

@[simp] theorem printed_texts (values : List String) : printed (.texts values) = .texts values := by
  simp [Json.texts]

@[simp] theorem printedMembers_freshness (freshness : SectionFreshness) :
    printedMembers (emitFreshness freshness) = emitFreshness freshness := by
  simp [emitFreshness]

@[simp] theorem printed_unit (text : ByteString → String) (unit : ServiceUnit) :
    printed (unit.toJson text) = unit.toJson text := by
  simp [ServiceUnit.toJson]

@[simp] theorem printed_mount (mount : StorageMount) : printed mount.toJson = mount.toJson := by
  simp [StorageMount.toJson]

@[simp] theorem printed_sensor (sensor : ThermalSensor) :
    printed sensor.toJson = sensor.toJson := by
  simp [ThermalSensor.toJson]

@[simp] theorem printed_iface (iface : NetworkInterface) :
    printed iface.toJson = iface.toJson := by
  simp [NetworkInterface.toJson]

@[simp] theorem printed_rtc (rtc : RtcStatus) : printed rtc.toJson = rtc.toJson := by
  unfold RtcStatus.toJson
  split <;> simp

@[simp] theorem printed_update (update : LastUpdate) : printed update.toJson = update.toJson := by
  simp [LastUpdate.toJson]

@[simp] theorem printed_artifact (artifact : CrashArtifact) :
    printed artifact.toJson = artifact.toJson := by
  simp [CrashArtifact.toJson]

/-- The document of a state holds no number that prints as another value. -/
theorem printed_toJson (text : ByteString → String) (state : SnapshotState) :
    printed (state.toJson text) = state.toJson text := by
  simp [SnapshotState.toJson, DeviceInfo.toJson, OsInfo.toJson, BootStatus.toJson,
    ServicesStatus.toJson, ResourcesStatus.toJson, CpuLoad.toJson, MemoryUsage.toJson,
    TimeSyncStatus.toJson, NtpStatus.toJson, PtpStatus.toJson, UpdateStatus.toJson,
    JournalStatus.toJson, CrashStatus.toJson, SnapshotSummary.toJson, DomainSeverities.toJson]

end Printed

structure ShowsReport (text : ByteString → String) (report : CycleReport) (feed : Feed) : Prop where
  document : feed.store.snapshot = some (report.snapshot.toJson text)
  rows : domainSeverities (report.snapshot.toJson text) = .ok (domains.map fun domain =>
    (domain, report.snapshot.summary.domains.get domain))
  headline : Headline report.snapshot.summary.domains.get report.snapshot.summary.severity
    (verdictFor report.snapshot.summary.domains.get).headline

theorem runCycles_headline {report : CycleReport}
    (member : report ∈ (runCycles config loadPct healthManager inputs).2) :
    Headline report.snapshot.summary.domains.get report.snapshot.summary.severity
      (verdictFor report.snapshot.summary.domains.get).headline := by
  obtain ⟨past, input, rest, _, rfl⟩ := mem_runCycles config loadPct healthManager member
  exact verdictFor_headline (collectionCycle_isGreatest config loadPct _ input)

/-- A document that the server sent was in the file before the run, or is that of a cycle. -/
theorem sent_document {writer : SnapshotWriter} {found : Option ByteString} {gateway : Gateway}
    (faithful : Gateway.Faithful writer found gateway)
    (given : gateway.file.given =
      (runCycles config loadPct healthManager inputs).2.map CycleReport.snapshot)
    {text : ByteString → String} {parse : ByteString → Option Json}
    (roundTrip : ∀ state ∈ gateway.file.given, ∀ content,
      writer.serialize state = .ok content → parse content = some (state.toJson text))
    {content : ByteString} {document : Json} (sent : WebServer.Sent gateway.server content)
    (parsed : parse content = some document) :
    found.bind parse = some document ∨
      ∃ report ∈ (runCycles config loadPct healthManager inputs).2,
        document = report.snapshot.toJson text := by
  obtain ⟨version, before | ⟨state, renamed, serialized⟩, rfl⟩ := faithful.origin.sent sent
  · left
    rw [before]
    exact parsed
  · right
    have handed : state ∈ gateway.file.given := faithful.sound.order.subset renamed
    have shown := roundTrip state handed _ serialized
    rw [given] at handed
    obtain ⟨report, member, rfl⟩ := List.mem_map.mp handed
    exact ⟨report, member, Option.some.inj (parsed.symm.trans shown)⟩

/-- Over every run of daemon, server and browser, in any interleaving and with any failure of a
probe, a system call, a connection or the local storage: a page shows the document of one cycle
of the daemon as its aggregator left it, or what the file held before the daemon started; with
nothing on screen, no document of a cycle has reached the page. -/
theorem page_shows_cycle (config : Config) (loadPct : CpuLoad → Double)
    (healthManager : Option HealthManager) (inputs : List CycleInput)
    (writer : SnapshotWriter) (disk : Durability.Disk String UInt8) (mtime : Int)
    (apart : disk.Apart writer.outputPath (tempPathFor writer.outputPath writer.pid))
    (actions : List GatewayAction) (gateway : Gateway)
    (run : follow (Gateway.step writer) (Gateway.initial writer disk mtime) actions =
      some gateway)
    (given : gateway.file.given =
      (runCycles config loadPct healthManager inputs).2.map CycleReport.snapshot)
    (text : ByteString → String) (parse : ByteString → Option Json)
    (roundTrip : ∀ state ∈ gateway.file.given, ∀ content,
      writer.serialize state = .ok content → parse content = some (state.toJson text))
    (builtins : Builtins) (digit : builtins.ofText "1" = .finite 1) (location : Location)
    (used : List BrowserAction) (browser : Browser)
    (pages : follow (Browser.step builtins location) {} used = some browser)
    (network : ∀ received ∈ browser.heard, ∃ content, WebServer.Sent gateway.server content ∧
      parse content = some received.document) :
    let leftOver := fun document => (disk.read writer.outputPath).bind parse = some document
    ∀ page ∈ browser.pages,
      (page.feed.store.snapshot = none ∧
          ∀ received ∈ page.received, leftOver received.document) ∨
        (∃ document, leftOver document ∧
          (page.feed.store.snapshot = some document ∨
            page.feed.store.snapshot = some (printed document))) ∨
        ∃ report ∈ (runCycles config loadPct healthManager inputs).2,
          ShowsReport text report page.feed := by
  intro leftOver page inside
  have written : ∀ received ∈ browser.heard, leftOver received.document ∨
      ∃ report ∈ (runCycles config loadPct healthManager inputs).2,
        received.document = report.snapshot.toJson text := by
    intro received member
    obtain ⟨content, sent, parsed⟩ := network received member
    exact sent_document (Gateway.faithful_run apart run) given roundTrip sent parsed
  have sound := (sound_browser pages).pages page inside
  cases shown : page.feed.store.snapshot with
  | none =>
      refine Or.inl ⟨rfl, ?_⟩
      intro received member
      refine (written received (sound.received member)).resolve_right ?_
      rintro ⟨report, _, same⟩
      have accepted : valid builtins received.document = true := by
        rw [same, valid, parseHealthState_toJson builtins text report.snapshot digit]
        rfl
      have known : received ∈ validDocuments builtins page.received :=
        List.mem_filter.mpr ⟨member, accepted⟩
      exact List.ne_nil_of_mem (List.mem_append_right _ known) (sound.onScreen.shows.empty shown)
  | some document =>
      obtain ⟨received, member, same⟩ := sound.known shown
      rcases written received member with before | ⟨report, produced, origin⟩
      · exact Or.inr (Or.inl ⟨_, before, same.imp (congrArg some) (congrArg some)⟩)
      · have whole : document = report.snapshot.toJson text := by
          rw [origin, printed_toJson, or_self] at same
          exact same
        exact Or.inr (Or.inr ⟨report, produced, shown.trans (congrArg some whole),
          domainSeverities_toJson text report.snapshot, runCycles_headline produced⟩)

section Examples

open SnapshotFile

def firstText : Json := firstState.toJson fun _ => ""

def parseFirst (content : ByteString) : Option Json :=
  if content = stateDocument firstState then some firstText else none

def firstDelivery : List GatewayAction :=
  firstWrite.map (GatewayAction.daemon · 1) ++
    List.replicate 4 (.server (.load 0 .proceed)) ++
    [.server .connect, .server (.hub (.register 0)), .server (.client 0 .startPumps),
      .server (.client 0 .getState), .server (.client 0 .sendState)]

theorem daemon_wrote {writer : SnapshotWriter} {gateway : Gateway} {state : SnapshotState}
    {call : AtomicWrite} {fd : Nat} {remaining : List UInt8}
    (writing : gateway.file.writing = some ⟨state, call, .writing fd remaining⟩) (mtime : Int) :
    gateway.step writer (.daemon (.returns (.wrote remaining.length)) mtime) =
      some { gateway with file := { gateway.file with
        disk := gateway.file.disk.append fd remaining
        writing := some ⟨state, call, .syncing fd⟩ } } := by
  simp [Gateway.step, step_wrote writing]

def firstVisit (document : Json) : List BrowserAction :=
  [.load true true true, .event 0 (.opened 0) true true,
    .event 0 (.message 0 (some document) (.finite 1000)) true true]

theorem firstVisit_run (document : Json) :
    ∃ browser page,
      follow (Browser.step versionOnly WebUi.gateway) {} (firstVisit document) = some browser ∧
      browser.pages = [page] ∧ browser.heard = [⟨document, .finite 1000⟩] ∧
      page.received = [⟨document, .finite 1000⟩] :=
  ⟨_, _, rfl, rfl, rfl, rfl⟩

theorem first_cycle_delivered :
    ∃ gateway browser page,
      follow (Gateway.step stateWriter) (Gateway.initial stateWriter emptyRun 0) firstDelivery =
        some gateway ∧
      follow (Browser.step versionOnly WebUi.gateway) {} (firstVisit firstText) =
        some browser ∧
      page ∈ browser.pages ∧
      ∃ report ∈ (runCycles {} (fun _ => .finite 0) none [healthyInput 0]).2,
        ShowsReport (fun _ => "") report page.feed := by
  have run : follow (Gateway.step stateWriter) (Gateway.initial stateWriter emptyRun 0)
      firstDelivery = some _ :=
    follow_cons_some.mpr ⟨_, rfl, follow_cons_some.mpr ⟨_, rfl,
      follow_cons_some.mpr ⟨_, daemon_wrote rfl 1, rfl⟩⟩⟩
  obtain ⟨browser, page, visited, pages, heard, received⟩ := firstVisit_run firstText
  have inside : page ∈ browser.pages := by
    rw [pages]
    exact List.mem_cons_self
  have arrived : ⟨firstText, .finite 1000⟩ ∈ page.received := by
    rw [received]
    exact List.mem_cons_self
  refine ⟨_, browser, page, run, visited, inside, ?_⟩
  have shown := page_shows_cycle {} (fun _ => .finite 0) none [healthyInput 0] stateWriter
    emptyRun 0 (Durability.Disk.apart_atRest (by decide) none none) firstDelivery _ run rfl
    (fun _ => "") parseFirst ?_ versionOnly rfl WebUi.gateway (firstVisit firstText) browser
    visited ?_ page inside
  · rcases shown with ⟨_, leftOver⟩ | ⟨_, leftOver, _⟩ | report
    · cases leftOver _ arrived
    · cases leftOver
    · exact report
  · intro state member content serialized
    obtain rfl : state = firstState := List.mem_singleton.mp member
    obtain rfl : stateDocument firstState = content := Except.ok.inj serialized
    exact if_pos rfl
  · intro other member
    rw [heard, List.mem_singleton] at member
    subst member
    refine ⟨stateDocument firstState, Or.inl ?_, if_pos rfl⟩
    exact ⟨_, List.mem_cons_self, ⟨_, stateDocument firstState, _⟩, List.mem_cons_self, rfl⟩

end Examples

end WebUi

end EdgeHealthd
