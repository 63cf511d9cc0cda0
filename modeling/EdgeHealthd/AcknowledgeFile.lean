import EdgeHealthd.Acknowledge
import EdgeHealthd.AtomicOutcome

/-!
The `AcknowledgeCrash` callback down to the bytes of `crash_state.json`. The
event loop model lets the write end in one of three ways; here the write is
`atomic_write_file` itself, with an outcome for each of its system calls.
Printing and parsing JSON are parameters.
-/

namespace EdgeHealthd

open Durability

def AtomicFileError.what (error : AtomicFileError) : String :=
  if error.code ≠ 0 then error.message ++ " (errno " ++ toString error.code ++ ")"
  else error.message

-- `operator/` of `std::filesystem::path` with a relative name on the right.
def joinPath (directory name : String) : String :=
  if directory = "" ∨ directory.toList.getLast? = some '/' then directory ++ name
  else directory ++ "/" ++ name

def acknowledgementJson (fingerprint : String) : Json :=
  .object [("acknowledged_fingerprint", .string fingerprint)]

def stateFileOf (parse : List UInt8 → Option Json) : Option (List UInt8) → StateFile
  | none => .missing
  | some bytes =>
      match parse bytes with
      | some value => .json value
      | none => .corrupt

structure AckRequest where
  config : Config
  pid : Nat
  currentPanicFingerprint : Option String
  fingerprint : String

def AckRequest.statePath (request : AckRequest) : String :=
  joinPath request.config.stateDir "crash_state.json"

structure AckReply where
  returned : Bool
  log : Option String
  disk : Disk String UInt8

section Callback

variable (dump : Json → List UInt8)

def AckRequest.write (request : AckRequest) : AtomicWrite :=
  ⟨request.statePath, dump (acknowledgementJson request.fingerprint), request.pid⟩

/-- The callback under these outcomes of its system calls, up to its return. -/
def acknowledgeCrash (request : AckRequest) (disk : Disk String UInt8)
    (events : List WriteEvent) : Option AckReply :=
  if request.currentPanicFingerprint = some request.fingerprint then
    match (request.write dump).run disk events with
    | some ⟨after, .returned (.ok _)⟩ => some ⟨true, none, after⟩
    | some ⟨after, .returned (.error error)⟩ =>
        some ⟨false, some ("failed to persist crash acknowledgement: " ++ error.what), after⟩
    | _ => none
  else some ⟨false, none, disk⟩

end Callback

namespace AtomicWrite

def atParent : Phase → Bool
  | .openingParent | .syncingParent => true
  | _ => false

def ParentSynced (state : WriteState) (event : WriteEvent) : Prop :=
  atParent state.phase = true → ∀ errno, event ≠ .returns (.failed errno)

variable (call : AtomicWrite)

def ParentFailed : Phase → Prop
  | .closingParent (.error error) | .returned (.error error) => call.FromParent error
  | _ => False

variable {call} {start : Disk String UInt8}

theorem parentSynced_elsewhere {state : WriteState} {event : WriteEvent}
    (elsewhere : atParent state.phase = false) : ParentSynced state event := by
  intro parent
  rw [elsewhere] at parent
  cases parent

theorem syscall_parentFailed {disk : Disk String UInt8} {phase : Phase} {outcome : Outcome}
    {after : WriteState} (shows : call.Shows start False disk phase)
    (taken : call.syscall disk phase outcome = some after) :
    call.ParentFailed after.phase ↔
      call.ParentFailed phase ∨ ¬ParentSynced ⟨disk, phase⟩ (.returns outcome) := by
  cases phase with
  | opening =>
      rw [or_iff_left (not_not_intro (parentSynced_elsewhere rfl))]
      cases outcome <;> simp only [syscall, reduceCtorEq, Option.some.injEq] at taken
      case success =>
        obtain ⟨_, _, rfl⟩ := Option.map_eq_some_iff.mp taken
        unfold loop
        split <;> exact Iff.rfl
      case failed errno =>
        subst taken
        exact iff_of_false (FromOpen.not_parent ⟨errno, rfl⟩) not_false
  | writing fd remaining =>
      rw [or_iff_left (not_not_intro (parentSynced_elsewhere rfl))]
      cases outcome <;> simp only [syscall, reduceCtorEq] at taken
      case wrote count =>
        split at taken
        · obtain rfl := Option.some.inj taken
          unfold loop
          split <;> exact Iff.rfl
        · cases taken
      case failed errno =>
        split at taken
        all_goals
          obtain rfl := Option.some.inj taken
          exact Iff.rfl
  | syncing fd | closing fd | abandoning fd error =>
      rw [or_iff_left (not_not_intro (parentSynced_elsewhere rfl))]
      cases outcome <;> simp only [syscall, reduceCtorEq, Option.some.injEq] at taken
      all_goals
        subst taken
        exact Iff.rfl
  | renamingTmp =>
      rw [or_iff_left (not_not_intro (parentSynced_elsewhere rfl))]
      cases outcome <;> simp only [syscall, reduceCtorEq, Option.some.injEq] at taken
      case success =>
        obtain ⟨_, _, rfl⟩ := Option.map_eq_some_iff.mp taken
        exact Iff.rfl
      case failed errno =>
        subst taken
        exact Iff.rfl
  | openingParent | syncingParent =>
      cases outcome <;> simp only [syscall, reduceCtorEq, Option.some.injEq] at taken
      case success =>
        subst taken
        simp [ParentFailed, ParentSynced]
      case failed errno =>
        subst taken
        refine iff_of_true ⟨errno, ?_⟩ (Or.inr fun synced => synced rfl errno rfl)
        first | exact Or.inl rfl | exact Or.inr rfl
  | closingParent result =>
      rw [or_iff_left (not_not_intro (parentSynced_elsewhere rfl))]
      cases outcome <;> simp only [syscall, reduceCtorEq, Option.some.injEq] at taken
      all_goals
        subst taken
        cases result <;> exact Iff.rfl
  | removing error =>
      rw [or_iff_left (not_not_intro (parentSynced_elsewhere rfl))]
      cases outcome <;> simp only [syscall, reduceCtorEq, Option.some.injEq] at taken
      all_goals
        subst taken
        exact iff_of_false shows.1.not_parent not_false
  | returned result =>
      cases outcome <;> simp [syscall] at taken

theorem run_shows (apart : start.Apart call.target call.tmp) {events : List WriteEvent}
    {state : WriteState}
    (run : call.run start events = some state) :
    call.Shows start False state.disk state.phase :=
  (throughout_shows apart (fun _ _ _ _ _ _ impossible => impossible.elim) events [] state
    (List.append_nil _).symm run).2

/-- The call reports a failure at the parent directory exactly when one of its
system calls there failed. -/
theorem run_parentFailed (apart : start.Apart call.target call.tmp) {events : List WriteEvent}
    {state : WriteState}
    (run : call.run start events = some state) :
    call.ParentFailed state.phase ↔
      ¬Machine.EachStep call.step ⟨start, .opening⟩ ParentSynced events := by
  refine Machine.follow_induction (fun past (state : WriteState) =>
    call.ParentFailed state.phase ↔
      ¬Machine.EachStep call.step ⟨start, .opening⟩ ParentSynced past) ?_ ?_ run
  · exact iff_of_false not_false (not_not_intro .nil)
  · intro past before event next reached known taken
    rw [Machine.eachStep_snoc reached, not_and_or, ← known]
    cases event with
    | returns outcome => exact syscall_parentFailed (run_shows apart reached) taken
    | kernel action =>
        obtain ⟨_, _, rfl⟩ := Option.map_eq_some_iff.mp taken
        have synced : ParentSynced before (.kernel action) := nofun
        rw [or_iff_left (not_not_intro synced)]

end AtomicWrite

section Contract

variable (dump : Json → List UInt8) (parse : List UInt8 → Option Json)

def AckRequest.recorded (request : AckRequest) (disk : Disk String UInt8) : Option String :=
  acknowledgedFingerprint (stateFileOf parse (disk.read request.statePath))

/-- The answer tells whether the acknowledgement is in the file. -/
structure AckReply.Honest (request : AckRequest) (disk : Disk String UInt8) (reply : AckReply) :
    Prop where
  accepted : reply.returned = true →
    request.recorded parse reply.disk = some request.fingerprint
  refused : reply.returned = false →
    reply.disk.read request.statePath = disk.read request.statePath

theorem stateFileOf_dump {fingerprint : String} (roundTrip :
      parse (dump (acknowledgementJson fingerprint)) = some (acknowledgementJson fingerprint)) :
    stateFileOf parse (some (dump (acknowledgementJson fingerprint))) =
      acknowledgementFile fingerprint := by
  simp only [stateFileOf, roundTrip]
  rfl

inductive AckEnd (request : AckRequest) (disk : Disk String UInt8) (events : List WriteEvent)
    (reply : AckReply) : Prop
  | mismatch (other : request.currentPanicFingerprint ≠ some request.fingerprint)
      (returned : reply.returned = false) (same : reply.disk = disk)
  | stored (matched : request.currentPanicFingerprint = some request.fingerprint)
      (synced : Machine.EachStep (request.write dump).step ⟨disk, .opening⟩
        AtomicWrite.ParentSynced events)
      (returned : reply.returned = true)
      (content : reply.disk.read request.statePath =
        some (dump (acknowledgementJson request.fingerprint)))
  | failed (matched : request.currentPanicFingerprint = some request.fingerprint)
      (synced : Machine.EachStep (request.write dump).step ⟨disk, .opening⟩
        AtomicWrite.ParentSynced events)
      (returned : reply.returned = false)
      (content : reply.disk.read request.statePath = disk.read request.statePath)
  | failedAfterRename (matched : request.currentPanicFingerprint = some request.fingerprint)
      (unsynced : ¬Machine.EachStep (request.write dump).step ⟨disk, .opening⟩
        AtomicWrite.ParentSynced events)
      (returned : reply.returned = false)
      (content : reply.disk.read request.statePath =
        some (dump (acknowledgementJson request.fingerprint)))

theorem acknowledgeCrash_ends {request : AckRequest} {disk : Disk String UInt8}
    {events : List WriteEvent} {reply : AckReply}
    (apart : disk.Apart request.statePath (request.write dump).tmp)
    (done : acknowledgeCrash dump request disk events = some reply) :
    AckEnd dump request disk events reply := by
  unfold acknowledgeCrash at done
  split at done
  · rename_i matched
    split at done
    · rename_i after _ run
      obtain rfl := Option.some.inj done
      have shows := AtomicWrite.run_shows apart run
      have parent := AtomicWrite.run_parentFailed apart run
      refine .stored matched ?_ rfl shows.1
      by_contra unsynced
      exact parent.mpr unsynced
    · rename_i after error run
      obtain rfl := Option.some.inj done
      have shows := AtomicWrite.run_shows apart run
      have parent := AtomicWrite.run_parentFailed apart run
      rcases shows with ⟨source, moved⟩ | ⟨source, same⟩ | ⟨source, same, _⟩
      · exact .failedAfterRename matched (parent.mp source) rfl moved.1
      · exact .failed matched (not_not.mp (mt parent.mpr source.not_parent)) rfl (same _)
      · exact .failed matched (not_not.mp (mt parent.mpr source.not_parent)) rfl same
    · cases done
  · rename_i other
    obtain rfl := Option.some.inj done
    exact .mismatch other rfl rfl

/-- The answer is honest exactly when the fingerprint was refused, or no system
call on the parent directory failed, or the file held this acknowledgement before. -/
theorem acknowledgeCrash_honest_iff (request : AckRequest)
    (roundTrip : parse (dump (acknowledgementJson request.fingerprint)) =
      some (acknowledgementJson request.fingerprint))
    (disk : Disk String UInt8) (apart : disk.Apart request.statePath (request.write dump).tmp)
    (events : List WriteEvent) (reply : AckReply)
    (done : acknowledgeCrash dump request disk events = some reply) :
    reply.Honest parse request disk ↔
      request.currentPanicFingerprint ≠ some request.fingerprint ∨
        Machine.EachStep (request.write dump).step ⟨disk, .opening⟩
          AtomicWrite.ParentSynced events ∨
        disk.read request.statePath = some (dump (acknowledgementJson request.fingerprint)) := by
  cases acknowledgeCrash_ends dump apart done with
  | mismatch other returned same =>
      refine iff_of_true ⟨?_, fun _ => by rw [same]⟩ (Or.inl other)
      intro accepted
      rw [returned] at accepted
      cases accepted
  | stored matched synced returned content =>
      refine iff_of_true ⟨fun _ => ?_, ?_⟩ (Or.inr (Or.inl synced))
      · rw [AckRequest.recorded, content, stateFileOf_dump dump parse roundTrip,
          acknowledgedFingerprint_acknowledgementFile]
      · intro refused
        rw [returned] at refused
        cases refused
  | failed matched synced returned content =>
      refine iff_of_true ⟨?_, fun _ => content⟩ (Or.inr (Or.inl synced))
      intro accepted
      rw [returned] at accepted
      cases accepted
  | failedAfterRename matched unsynced returned content =>
      constructor
      · intro honest
        exact Or.inr (Or.inr ((honest.refused returned).symm.trans content))
      · rintro (other | synced | before)
        · exact absurd matched other
        · exact absurd synced unsynced
        · refine ⟨?_, fun _ => content.trans before.symm⟩
          intro accepted
          rw [returned] at accepted
          cases accepted

/-- The callback does to the file what a step of the event loop model does. -/
theorem acknowledgeCrash_refines (config : Config) {request : AckRequest}
    (roundTrip : parse (dump (acknowledgementJson request.fingerprint)) =
      some (acknowledgementJson request.fingerprint))
    {disk : Disk String UInt8} (apart : disk.Apart request.statePath (request.write dump).tmp)
    {events : List WriteEvent} {reply : AckReply}
    (done : acknowledgeCrash dump request disk events = some reply) {state : System}
    (matched : request.currentPanicFingerprint = some request.fingerprint)
    (pc : state.bus = .ackReplace request.fingerprint)
    (file : state.crashState = stateFileOf parse (disk.read request.statePath)) :
    ∃ outcome next, busStep config state (.ackReplace request.fingerprint outcome) = some next ∧
      next.crashState = stateFileOf parse (reply.disk.read request.statePath) ∧
      (next.bus = .ackStore request.fingerprint ↔ reply.returned = true) := by
  have recorded := stateFileOf_dump dump parse roundTrip
  cases acknowledgeCrash_ends dump apart done with
  | mismatch other returned same => exact absurd matched other
  | stored _ _ returned content =>
      refine ⟨.replaced, _, if_pos pc, ?_, by simp [returned]⟩
      rw [content, recorded]
  | failed _ _ returned content =>
      refine ⟨.failed, _, if_pos pc, ?_, by simp [returned]⟩
      rw [content]
      exact file
  | failedAfterRename _ _ returned content =>
      refine ⟨.failedAfterRename, _, if_pos pc, ?_, by simp [returned]⟩
      rw [content, recorded]

end Contract

def panicRequest : AckRequest :=
  { config := {}, pid := 7, currentPanicFingerprint := some panicFingerprint
    fingerprint := panicFingerprint }

def dumpMember : Json → List UInt8
  | .object [(key, .string value)] =>
      ("\x7b\n  \"" ++ key ++ "\": \"" ++ value ++ "\"\n\x7d").toUTF8.data.toList
  | _ => []

def parsePanic (bytes : List UInt8) : Option Json :=
  if bytes = dumpMember (acknowledgementJson panicFingerprint) then
    some (acknowledgementJson panicFingerprint)
  else none

def emptyStateDir : Disk String UInt8 :=
  Disk.atRest panicRequest.statePath none (panicRequest.write dumpMember).tmp none

def savedAck : List WriteEvent :=
  [.returns .success, .returns (.wrote 30), .returns (.failed eintr), .returns (.wrote 22),
    .returns .success, .returns .success, .returns .success, .returns .success, .returns .success,
    .returns .success]

theorem acknowledgeCrash_honest_saved :
    ∃ reply, acknowledgeCrash dumpMember panicRequest emptyStateDir savedAck = some reply ∧
      reply.returned = true ∧
      panicRequest.recorded parsePanic reply.disk = some panicFingerprint := by
  have answered : (acknowledgeCrash dumpMember panicRequest emptyStateDir savedAck).map
      AckReply.returned = some true := rfl
  obtain ⟨reply, done, returned⟩ := Option.map_eq_some_iff.mp answered
  have synced : Machine.EachStep (panicRequest.write dumpMember).step ⟨emptyStateDir, .opening⟩
      AtomicWrite.ParentSynced savedAck :=
    .cons nofun rfl (.cons nofun rfl (.cons nofun rfl (.cons nofun rfl (.cons nofun rfl
      (.cons nofun rfl (.cons nofun rfl (.cons nofun rfl (.cons nofun rfl
        (.cons nofun rfl .nil)))))))))
  have apart : emptyStateDir.Apart panicRequest.statePath (panicRequest.write dumpMember).tmp :=
    Disk.apart_atRest (panicRequest.write dumpMember).tmp_ne_target none none
  have honest := (acknowledgeCrash_honest_iff dumpMember parsePanic panicRequest (if_pos rfl)
    emptyStateDir apart savedAck reply done).mpr (Or.inr (Or.inl synced))
  exact ⟨reply, done, returned, honest.accepted returned⟩

def unsyncedAck : List WriteEvent :=
  [.returns .success, .returns (.wrote 52), .returns .success, .returns .success,
    .returns .success, .returns (.failed 24)]

theorem refused_acknowledgement_takes_effect :
    ∃ reply, acknowledgeCrash dumpMember panicRequest emptyStateDir unsyncedAck = some reply ∧
      reply.returned = false ∧
      ((CrashProbe.scan { now := 0 } panicPstore).compareAcknowledged
        (stateFileOf parsePanic (reply.disk.read panicRequest.statePath))).acknowledged = true ∧
      ¬reply.Honest parsePanic panicRequest emptyStateDir := by
  have answered : (acknowledgeCrash dumpMember panicRequest emptyStateDir unsyncedAck).map
      (fun reply => (reply.returned, reply.disk.read panicRequest.statePath)) =
      some (false, some (dumpMember (acknowledgementJson panicFingerprint))) := rfl
  obtain ⟨reply, done, result⟩ := Option.map_eq_some_iff.mp answered
  obtain ⟨returned, content⟩ := Prod.mk.inj result
  refine ⟨reply, done, returned, ?_, ?_⟩
  · rw [content, stateFileOf_dump dumpMember parsePanic (if_pos rfl)]
    decide
  · intro honest
    have before : emptyStateDir.read panicRequest.statePath = none := rfl
    have same := honest.refused returned
    rw [content, before] at same
    cases same

end EdgeHealthd
