import EdgeHealthd.Config
import EdgeHealthd.DaemonCore

/-!
Executable `JournalReader` of `src/journal_reader.cpp` with the queries over its
buffer and the line filter of `src/journal.cpp`. The `sd_journal` calls are
parameters that pass a journal state along, so every behaviour of the journal
and of the clock is one choice of them. The buffer lists the oldest entry first.
-/

namespace EdgeHealthd

structure JournalEntry where
  realtimeUsec : UInt64 := 0
  priority : Int := 6
  message : ByteString := []
  unit : ByteString := []
  unitHint : ByteString := []
  syslogId : ByteString := []
  deriving DecidableEq

def JournalEntry.matchesUnit (entry : JournalEntry) (name : ByteString) : Bool :=
  entry.unit == name || entry.unitHint == name || entry.syslogId == name

def usecPerSec : UInt64 := 1000000

def errorPriority (config : Config) : Int := config.logExcerptMinPriority.getD 3

def bufferCap (config : Config) : Nat :=
  if config.journalBufferMaxEntries != 0 then config.journalBufferMaxEntries.toNat else 1000

-- The subtraction is on `uint64_t` and wraps around.
def inWindow (config : Config) (now : UInt64) (entry : JournalEntry) : Bool :=
  match config.logExcerptWindowSec with
  | none => true
  | some window => window == 0 || entry.realtimeUsec ≥ now - window * usecPerSec

def evictFrom (cap : Nat) (buffer : List JournalEntry) : List JournalEntry :=
  buffer.drop (buffer.length - cap)

-- Every entry is tested against a clock reading of its own.
def errorCountOf (config : Config) (clock : Nat → UInt64) (buffer : List JournalEntry) : UInt32 :=
  UInt32.ofNat (buffer.zipIdx.countP fun (entry, index) =>
    entry.priority ≤ errorPriority config && inWindow config (clock index) entry)

def overallSeverityOf (config : Config) (clock : Nat → UInt64) (buffer : List JournalEntry) :
    Severity :=
  let visible := buffer.zipIdx.filter fun (entry, index) => inWindow config (clock index) entry
  if visible.any fun (entry, _) => entry.priority ≤ 2 then .crit
  else if visible.any fun (entry, _) => entry.priority ≤ 3 then .warn
  else .ok

def isLineEnd (byte : UInt8) : Bool := byte == 10 || byte == 13

def excerptLine (message : ByteString) : ByteString :=
  (message.reverse.dropWhile isLineEnd).reverse.take 512

/-- `entries` has the newest entry first. -/
def filterJournalEntries (config : Config) (now : UInt64) (entries : List JournalEntry) :
    List ByteString :=
  let maxLines := if config.logExcerptMaxLines != 0 then config.logExcerptMaxLines.toNat else 20
  let kept := entries.filter fun entry =>
    inWindow config now entry &&
      match config.logExcerptMinPriority with
      | none => true
      | some priority => entry.priority ≤ priority
  ((kept.map fun entry => excerptLine entry.message).filter (· != [])).take maxLines

def recentErrorsOf (config : Config) (now : UInt64) (buffer : List JournalEntry) :
    List ByteString :=
  filterJournalEntries config now
    (buffer.reverse.filter fun entry => entry.priority ≤ errorPriority config)

def excerptForUnitOf (config : Config) (now : UInt64) (buffer : List JournalEntry)
    (unit : ByteString) : List ByteString :=
  filterJournalEntries config now (buffer.reverse.filter fun entry => entry.matchesUnit unit)

/-- The journal library and the scan clock. A `false` of the open, seek and wait
calls is an error return; `next` and `previousSkip` return the library's `int`. -/
structure JournalApi (Journal : Type) where
  openSystem : Journal → Bool × Journal
  openLocal : Journal → Bool × Journal
  seekTail : Journal → Bool × Journal
  previousSkip : Nat → Journal → Int × Journal
  deadlinePassed : Journal → Bool × Journal
  readCurrent : Journal → JournalEntry × Journal
  next : Journal → Int × Journal
  wait : Journal → Bool × Journal

structure JournalReader where
  available : Bool := false
  buffer : List JournalEntry := []
  deriving DecidableEq

namespace JournalReader

variable {Journal : Type} (api : JournalApi Journal) (cap : Nat)

/-- The `while (have_entry)` loop; there is no result where it does not end. -/
def rebuildLoop : Nat → Journal → List JournalEntry → Option (List JournalEntry × Journal)
  | 0, _, _ => none
  | fuel + 1, journal, buffer =>
      let (passed, journal) := api.deadlinePassed journal
      if passed then some (buffer, journal)
      else
        let (entry, journal) := api.readCurrent journal
        let pushed := buffer ++ [entry]
        let buffer := if pushed.length > cap then pushed.drop 1 else pushed
        let (moved, journal) := api.next journal
        if moved > 0 then rebuildLoop fuel journal buffer else some (buffer, journal)

def rebuildFromTail (fuel : Nat) (journal : Journal) : Option (List JournalEntry × Journal) :=
  let (sought, journal) := api.seekTail journal
  if sought then
    let (moved, journal) := api.previousSkip cap journal
    if moved > 0 then rebuildLoop api cap fuel journal [] else some ([], journal)
  else some ([], journal)

def prime (fuel : Nat) (journal : Journal) : Option (JournalReader × Journal) :=
  (rebuildFromTail api cap fuel journal).map fun (buffer, journal) =>
    ({ available := true, buffer := evictFrom cap buffer }, journal)

-- A failed open keeps whatever is in the buffer.
def openAndPrime (fuel : Nat) (reader : JournalReader) (journal : Journal) :
    Option (JournalReader × Journal) :=
  let (opened, journal) := api.openSystem journal
  if opened then prime api cap fuel journal
  else
    let (opened, journal) := api.openLocal journal
    if opened then prime api cap fuel journal
    else some ({ reader with available := false }, journal)

inductive ReadEnd
  | caughtUp
  | budgetUsed
  | failed
  deriving DecidableEq

def readNew : Nat → Journal → List JournalEntry → ReadEnd × List JournalEntry × Journal
  | 0, journal, buffer => (.budgetUsed, buffer, journal)
  | budget + 1, journal, buffer =>
      let (moved, journal) := api.next journal
      if moved < 0 then (.failed, buffer, journal)
      else if moved = 0 then (.caughtUp, buffer, journal)
      else
        let (entry, journal) := api.readCurrent journal
        readNew budget journal (buffer ++ [entry])

def ingest (fuel : Nat) (reader : JournalReader) (journal : Journal) :
    Option (JournalReader × Journal) :=
  if !reader.available then openAndPrime api cap fuel reader journal
  else
    let (waited, journal) := api.wait journal
    if !waited then some ({ reader with available := false }, journal)
    else match readNew api (2 * cap) journal reader.buffer with
      -- `close_handle` and return: nothing is evicted here.
      | (.failed, buffer, journal) => some ({ available := false, buffer }, journal)
      | (.caughtUp, buffer, journal) =>
          some ({ available := true, buffer := evictFrom cap buffer }, journal)
      | (.budgetUsed, _, journal) => prime api cap fuel journal

end JournalReader

inductive ReaderCall
  | init
  | ingest
  deriving DecidableEq

def ReaderCall.run {Journal : Type} (api : JournalApi Journal) (config : Config) (fuel : Nat)
    (call : ReaderCall) (state : JournalReader × Journal) : Option (JournalReader × Journal) :=
  match call with
  | .init => JournalReader.openAndPrime api (bufferCap config) fuel state.1 state.2
  | .ingest => JournalReader.ingest api (bufferCap config) fuel state.1 state.2

def JournalReader.errorCount (config : Config) (clock : Nat → UInt64) (reader : JournalReader) :
    UInt32 :=
  errorCountOf config clock reader.buffer

def JournalReader.overallSeverity (config : Config) (clock : Nat → UInt64)
    (reader : JournalReader) : Severity :=
  overallSeverityOf config clock reader.buffer

def JournalReader.recentErrors (config : Config) (now : UInt64) (reader : JournalReader) :
    List ByteString :=
  recentErrorsOf config now reader.buffer

def JournalReader.excerptForUnit (config : Config) (now : UInt64) (reader : JournalReader)
    (unit : ByteString) : List ByteString :=
  excerptForUnitOf config now reader.buffer unit

/-- The clock readings of one collection: one for each entry in each of the
first two queries and one for the third. -/
structure QueryClocks where
  severity : Nat → UInt64
  count : Nat → UInt64
  errors : UInt64

-- Without a reader the section is only marked as ok.
def JournalProbe.collect (config : Config) (clocks : QueryClocks) (reader : Option JournalReader) :
    ProbeResult JournalStatus :=
  match reader with
  | none => .ok { overall := .ok }
  | some reader => .ok {
      overall := reader.overallSeverity config clocks.severity
      errorCount := reader.errorCount config clocks.count
      recentErrors := reader.recentErrors config clocks.errors }

end EdgeHealthd
