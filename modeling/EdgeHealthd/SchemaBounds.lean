import EdgeHealthd.JournalExcerpt
import EdgeHealthd.Probes
import EdgeHealthd.SnapshotJsonCore

/-!
The bounds of `schemas/edge.health.state.v1.1.json` on the two values that come from
the configuration: `minimum`, `maxItems` and `maxLength` as checks of the document.
-/

namespace EdgeHealthd

namespace Schema

def required (key : String) (check : Json → Bool) (json : Json) : Bool := (json.find? key).any check

def property (key : String) (check : Json → Bool) (json : Json) : Bool := (json.find? key).all check

def minimum (least : Int) : Json → Bool
  | .integer value => least ≤ value
  | _ => false

def maxLength (most : Nat) : Json → Bool
  | .string value => value.length ≤ most
  | _ => false

def items (check : Json → Bool) : Json → Bool
  | .array values => values.all check
  | _ => false

def maxItems (most : Nat) : Json → Bool
  | .array values => values.length ≤ most
  | _ => false

def unit : Json → Bool :=
  property "log_excerpt" fun excerpt => maxItems 20 excerpt && items (maxLength 512) excerpt

def services : Json → Bool := required "units" (items unit)

def resources : Json → Bool := required "sample_window_sec" (minimum 1)

def bounds (document : Json) : Bool :=
  required "services" services document && required "resources" resources document

end Schema

section Documents

variable (text : ByteString → String)

theorem find?_optionalMember {Value : Type} (key name : String) (value : Option Value)
    (json : Value → Json) (rest : List (String × Json)) (different : key ≠ name) :
    (Json.object (optionalMember name value json ++ rest)).find? key =
      (Json.object rest).find? key := by
  cases value with
  | none => rfl
  | some found =>
      show (Json.object ((name, json found) :: rest)).find? key = _
      rw [find?_object_cons, if_neg different]

theorem find?_memberIf (key : String) (present : Bool) (json : Json) :
    (Json.object (memberIf key present json)).find? key = if present then some json else none := by
  cases present with
  | false => rfl
  | true =>
      show (Json.object [(key, json)]).find? key = _
      rw [find?_object_cons, if_pos rfl, if_pos rfl]

theorem ServiceUnit.find?_logExcerpt (unit : ServiceUnit) :
    (unit.toJson text).find? "log_excerpt" =
      if !unit.logExcerpt.isEmpty then some (.texts (unit.logExcerpt.map text)) else none := by
  rw [← find?_memberIf "log_excerpt"]
  simp only [ServiceUnit.toJson, List.append_assoc, List.cons_append, List.nil_append,
    find?_object_cons]
  rw [find?_optionalMember _ _ _ _ _ (by decide), find?_optionalMember _ _ _ _ _ (by decide),
    find?_optionalMember _ _ _ _ _ (by decide)]
  simp

theorem schema_unit_iff (unit : ServiceUnit) :
    Schema.unit (unit.toJson text) = true ↔
      unit.logExcerpt.length ≤ 20 ∧ ∀ line ∈ unit.logExcerpt, (text line).length ≤ 512 := by
  unfold Schema.unit Schema.property
  rw [ServiceUnit.find?_logExcerpt]
  cases lines : unit.logExcerpt with
  | nil => simp
  | cons line rest => simp [Schema.maxItems, Schema.items, Schema.maxLength, Json.texts]

theorem schema_services_iff (status : ServicesStatus) :
    Schema.services (status.toJson text) = true ↔
      ∀ unit ∈ status.units, Schema.unit (unit.toJson text) = true := by
  simp [Schema.services, Schema.required, Schema.items, ServicesStatus.toJson, find?_object_cons]

theorem schema_resources_iff (status : ResourcesStatus) :
    Schema.resources status.toJson = true ↔ 1 ≤ status.sampleWindowSec := by
  have checked : Schema.resources status.toJson =
      decide ((1 : Int) ≤ status.sampleWindowSec.toNat) := by
    simp [Schema.resources, Schema.required, Schema.minimum, ResourcesStatus.toJson,
      find?_object_cons, Json.natural]
  rw [checked, decide_eq_true_eq, UInt32.le_iff_toNat_le, UInt32.toNat_one]
  omega

theorem schema_bounds_sections (state : SnapshotState) :
    Schema.bounds (state.toJson text) = true ↔
      Schema.services (state.services.toJson text) = true ∧
        Schema.resources state.resources.toJson = true := by
  simp [Schema.bounds, Schema.required, SnapshotState.toJson, find?_object_cons]

end Documents

/-- The query reaches the journal: the name is safe and the bus gives the active state. -/
def isQueried (replies : UnitReplies) (name : String) : Bool :=
  isSafeUnitName name && replies.activeState.isOk

/-- Every line that the buffer has for a unit, the newest first and without a limit. -/
def unitLines (config : Config) (reader : JournalReader) (replies : UnitReplies) (name : String) :
    List ByteString :=
  qualifyingLines config (inWindow config replies.now)
    (fun entry => entry.matchesUnit name.toUTF8.data.toList) reader.buffer

section Units

variable (config : Config) (journal : Option JournalReader) (replies : UnitReplies) (name : String)

def ExcerptFits : Prop :=
  isQueried replies name = true → ∀ reader, journal = some reader →
    config.logExcerptMaxLines ≤ 20 ∨ (unitLines config reader replies name).length ≤ 20

theorem excerptForUnit_eq (reader : JournalReader) :
    reader.excerptForUnit config replies.now name.toUTF8.data.toList =
      (unitLines config reader replies name).take (maxLines config) := by
  rw [JournalReader.excerptForUnit, excerptForUnitOf_loop, JournalDetail.excerptForUnit,
    JournalDetail.reverseCopy_eq, JournalDetail.filterJournalEntries_eq_take]
  rfl

theorem queryAndEvaluate_excerpt :
    (ServicesProbe.queryAndEvaluate config journal replies name).logExcerpt =
      if isQueried replies name then
        (journal.map fun reader =>
          (unitLines config reader replies name).take (maxLines config)).getD []
      else [] := by
  unfold ServicesProbe.queryAndEvaluate ServicesProbe.queryUnit isQueried
  by_cases safe : isSafeUnitName name = true
  · cases state : replies.activeState with
    | error message => simp [safe, Except.isOk, Except.toBool]
    | ok activeState =>
        cases journal with
        | none => simp [safe, Except.isOk, Except.toBool]
        | some reader =>
            simp only [safe, Bool.not_true, Bool.false_eq_true, if_false, Except.isOk,
              Except.toBool, Bool.and_self, if_true, Option.map_some, Option.getD_some]
            exact excerptForUnit_eq config replies name reader
  · simp [safe]

theorem unitLines_length_le (reader : JournalReader) :
    ∀ line ∈ unitLines config reader replies name, line.length ≤ 512 := by
  intro line member
  obtain ⟨entry, _, rfl⟩ := List.mem_map.mp (List.mem_of_mem_filter member)
  exact List.length_take_le _ _

theorem validate_maxLines (valid : config.validate = none) :
    maxLines config = config.logExcerptMaxLines.toNat := by
  simp only [Config.validate, ite_some_eq_none_iff] at valid
  obtain ⟨_, _, _, _, _, _, lines, _⟩ := valid
  have positive : config.logExcerptMaxLines ≠ 0 := by
    intro zero
    simp [zero] at lines
  simp [maxLines, positive]

theorem schema_query_iff (text : ByteString → String)
    (shorter : ∀ line, (text line).length ≤ line.length) (valid : config.validate = none) :
    Schema.unit ((ServicesProbe.queryAndEvaluate config journal replies name).toJson text) = true ↔
      ExcerptFits config journal replies name := by
  rw [schema_unit_iff, queryAndEvaluate_excerpt]
  unfold ExcerptFits
  by_cases queried : isQueried replies name = true
  · rw [if_pos queried]
    cases journal with
    | none => simp
    | some reader =>
        have short : ∀ line ∈ (unitLines config reader replies name).take (maxLines config),
            (text line).length ≤ 512 := by
          intro line member
          exact (shorter line).trans
            (unitLines_length_le config replies name reader line (List.mem_of_mem_take member))
        simp only [Option.map_some, Option.getD_some, Option.some.injEq, forall_eq', queried,
          forall_const, and_iff_left short]
        rw [List.length_take, validate_maxLines config valid, min_le_iff, UInt32.le_iff_toNat_le]
        rfl
  · simp [queried]

end Units

section Snapshots

variable {config : Config} {text : ByteString → String}

theorem schema_services_collect {journal : Option JournalReader}
    {bus : Option (Nat → UnitReplies)} {status : ServicesStatus}
    (shorter : ∀ line, (text line).length ≤ line.length) (valid : config.validate = none)
    (collected : ServicesProbe.collect config journal bus = .ok status) :
    Schema.services (status.toJson text) = true ↔
      ∀ replies, bus = some replies → ∀ index name,
        config.monitoredServices[index]? = some name →
          ExcerptFits config journal (replies index) name := by
  rw [schema_services_iff]
  cases bus with
  | none =>
      cases collected
      simp [schema_unit_iff]
  | some replies =>
      cases collected
      simp only [ServicesProbe.collectUnits, List.forall_mem_map, Prod.forall,
        List.mem_zipIdx_iff_getElem?, schema_query_iff _ _ _ _ text shorter valid,
        Option.some.injEq, forall_eq']
      exact forall_comm

/-- The two sections are, up to freshness, what the probes have returned. -/
structure CollectedIn (config : Config) (journal : Option JournalReader)
    (bus : Option (Nat → UnitReplies)) (celsius : Int → Double) (replies : ResourceReplies)
    (state : SnapshotState) : Prop where
  services : ∃ status, ServicesProbe.collect config journal bus = .ok status ∧
    eraseFreshness state.services = eraseFreshness status
  resources : ∃ status, ResourcesProbe.collect config celsius replies = .ok status ∧
    eraseFreshness state.resources = eraseFreshness status

theorem schema_services_unmarked (status : ServicesStatus) :
    Schema.services ((eraseFreshness status).toJson text) = true ↔
      Schema.services (status.toJson text) = true := by
  rw [schema_services_iff, schema_services_iff]
  rfl

theorem schema_resources_unmarked (status : ResourcesStatus) :
    Schema.resources (eraseFreshness status).toJson = true ↔
      Schema.resources status.toJson = true := by
  rw [schema_resources_iff, schema_resources_iff]
  rfl

theorem schema_resources_collect {celsius : Int → Double} {replies : ResourceReplies}
    {status : ResourcesStatus}
    (collected : ResourcesProbe.collect config celsius replies = .ok status) :
    Schema.resources status.toJson = true ↔ 1 ≤ config.sampleWindowSec := by
  rw [schema_resources_iff]
  unfold ResourcesProbe.collect at collected
  split at collected
  · cases collected
  · cases collected
    rfl

end Snapshots

/-- A document of an accepted configuration is within the bounds exactly when the window
is not zero and no unit has more than 20 lines under a higher limit. -/
theorem schema_bounds_iff (config : Config) (valid : config.validate = none)
    (text : ByteString → String) (shorter : ∀ line, (text line).length ≤ line.length)
    (journal : Option JournalReader) (bus : Option (Nat → UnitReplies)) (celsius : Int → Double)
    (replies : ResourceReplies) (state : SnapshotState)
    (collected : CollectedIn config journal bus celsius replies state) :
    Schema.bounds (state.toJson text) = true ↔
      1 ≤ config.sampleWindowSec ∧
        ∀ units, bus = some units → ∀ index name, config.monitoredServices[index]? = some name →
          ExcerptFits config journal (units index) name := by
  obtain ⟨services, servicesCollected, sameServices⟩ := collected.services
  obtain ⟨resources, resourcesCollected, sameResources⟩ := collected.resources
  rw [schema_bounds_sections, ← schema_services_unmarked, sameServices, schema_services_unmarked,
    schema_services_collect shorter valid servicesCollected, ← schema_resources_unmarked,
    sameResources, schema_resources_unmarked, schema_resources_collect resourcesCollected]
  exact and_comm

theorem runCycles_schemaBounds (config : Config) (loadPct : CpuLoad → Double)
    (healthManager : Option HealthManager) (valid : config.validate = none)
    (window : 1 ≤ config.sampleWindowSec) (limit : config.logExcerptMaxLines ≤ 20)
    (text : ByteString → String) (shorter : ∀ line, (text line).length ≤ line.length)
    (past : List CycleInput) (current : CycleInput)
    (probed : ∀ input ∈ past ++ [current], input.FromProbes config) :
    Schema.bounds ((collectionCycle config loadPct
      (runCycles config loadPct healthManager past).1 current).2.snapshot.toJson text) = true := by
  have returned := runCycles_sectionsReturned config loadPct healthManager past current probed
  rw [schema_bounds_sections]
  constructor
  · apply returned.holds .services (fun status => Schema.services (status.toJson text) = true)
    · exact schema_services_unmarked
    · rw [schema_services_iff]
      simp [Section.initial]
    · rintro status ⟨journal, bus, collected⟩
      rw [schema_services_collect shorter valid collected]
      intro units _ index name _ _ reader _
      exact Or.inl limit
  · apply returned.holds .resources (fun status => Schema.resources status.toJson = true)
    · exact schema_resources_unmarked
    · decide
    · rintro status ⟨celsius, replies, collected⟩
      exact (schema_resources_collect collected).mpr window

def dumpedText (line : ByteString) : String :=
  String.ofList (line.map fun byte => if byte < 128 then Char.ofNat byte.toNat else '\uFFFD')

theorem dumpedText_length (line : ByteString) : (dumpedText line).length = line.length := by
  simp [dumpedText]

section Examples

def shownBy (services : ProbeResult ServicesStatus) (resources : ProbeResult ResourcesStatus) :
    SnapshotState where
  services := services.toOption.getD {}
  resources := resources.toOption.getD {}

def activeUnits : Nat → UnitReplies := fun _ => { activeState := .ok "active" }

def smallMemory : ResourceReplies where
  meminfo := .ok [("MemTotal:", 2048), ("MemAvailable:", 1024)]
  sysinfo := .error 38
  mounts := fun _ => {}

def chattyJournal (count : Nat) : JournalReader where
  available := true
  buffer := List.replicate count { message := [0x78], syslogId := "sshd".toUTF8.data.toList }

def sshdSnapshot (config : Config) (count : Nat) : SnapshotState :=
  shownBy (ServicesProbe.collect config (some (chattyJournal count)) (some activeUnits))
    (ResourcesProbe.collect config (fun _ => .finite 0) smallMemory)

theorem sshdSnapshot_collected (config : Config) (count : Nat) :
    CollectedIn config (some (chattyJournal count)) (some activeUnits) (fun _ => .finite 0)
      smallMemory (sshdSnapshot config count) :=
  ⟨⟨_, rfl, rfl⟩, ⟨_, rfl, rfl⟩⟩

def longExcerptConfig : Config := { logExcerptMaxLines := 21, monitoredServices := ["sshd"] }

theorem twenty_lines_within_schema :
    Schema.bounds ((sshdSnapshot longExcerptConfig 20).toJson dumpedText) = true := by
  refine (schema_bounds_iff longExcerptConfig (by decide) dumpedText
    (fun line => (dumpedText_length line).le) _ _ _ _ _
    (sshdSnapshot_collected longExcerptConfig 20)).mpr ⟨by decide, ?_⟩
  intro units given index name found queried reader opened
  cases given
  cases opened
  refine Or.inr ((List.length_filter_le ..).trans ?_)
  rw [List.length_map]
  refine ((List.length_filter_le ..).trans (List.length_filter_le ..)).trans ?_
  refine (List.length_filter_le ..).trans ?_
  simp [chattyJournal]

theorem accepted_configs_break_schema :
    ({ sampleWindowSec := 0 } : Config).validate = none ∧
      CollectedIn { sampleWindowSec := 0 } (some (chattyJournal 0)) (some activeUnits)
        (fun _ => .finite 0) smallMemory (sshdSnapshot { sampleWindowSec := 0 } 0) ∧
      Schema.bounds ((sshdSnapshot { sampleWindowSec := 0 } 0).toJson dumpedText) = false ∧
      longExcerptConfig.validate = none ∧
      CollectedIn longExcerptConfig (some (chattyJournal 21)) (some activeUnits)
        (fun _ => .finite 0) smallMemory (sshdSnapshot longExcerptConfig 21) ∧
      Schema.bounds ((sshdSnapshot longExcerptConfig 21).toJson dumpedText) = false :=
  ⟨by decide, sshdSnapshot_collected _ _, by decide +kernel, by decide,
    sshdSnapshot_collected _ _, by decide +kernel⟩

end Examples

end EdgeHealthd
