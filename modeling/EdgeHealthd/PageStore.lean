import EdgeHealthd.BrowserCore
import EdgeHealthd.HealthFeed

/-!
What is on screen, over every order of events on one page: the first sight of the newest valid
document of the one found in the storage and those received since, documents being told apart
by `generated_at` and `cycle`.
-/

namespace EdgeHealthd.WebUi

open Machine Throwing

/-- `shown` begins the last stretch of one and the same snapshot in `documents`. -/
def Newest (documents : List Received) (shown : Received) : Prop :=
  ∃ earlier later, documents = earlier ++ shown :: later ∧
    (∀ other ∈ later, sameSnapshot (some shown.document) other.document = true) ∧
    ∀ previous, earlier.getLast? = some previous →
      sameSnapshot (some previous.document) shown.document = false

/-- What `===` compares: the value of a primitive. -/
inductive Primitive where
  | undefined
  | null
  | boolean (value : Bool)
  | string (value : String)
  | number (value : Double)
  deriving DecidableEq

def primitive : JsValue → Option Primitive
  | none => some .undefined
  | some .null => some .null
  | some (.boolean value) => some (.boolean value)
  | some (.string value) => some (.string value)
  | some (.integer value) => some (.number (.ofInteger value))
  | some (.float value) => if value = .nan then none else some (.number value)
  | some (.array _) | some (.object _) => none

theorem strictEquals_iff (left right : JsValue) :
    strictEquals left right = true ↔
      ∃ value, primitive left = some value ∧ primitive right = some value := by
  have finite : ∀ value, Double.ofInteger value ≠ .nan := fun _ => nofun
  rcases left with _ | left <;> rcases right with _ | right
  · simp [strictEquals, primitive]
  · cases right <;> simp [strictEquals, primitive, asNumber, Json.getDouble]
  · cases left <;> simp [strictEquals, primitive, asNumber, Json.getDouble]
  · cases left <;> cases right <;> simp [strictEquals, primitive, asNumber, Json.getDouble]
    all_goals grind

theorem strictEquals_trans {first second third : JsValue}
    (left : strictEquals first second = true) (right : strictEquals second third = true) :
    strictEquals first third = true := by
  rw [strictEquals_iff] at left right ⊢
  obtain ⟨value, firstValue, secondValue⟩ := left
  obtain ⟨other, same, thirdValue⟩ := right
  obtain rfl := Option.some.inj (secondValue.symm.trans same)
  exact ⟨value, firstValue, thirdValue⟩

theorem sameSnapshot_trans {first second third : Json}
    (left : sameSnapshot (some first) second = true)
    (right : sameSnapshot (some second) third = true) :
    sameSnapshot (some first) third = true := by
  simp only [sameSnapshot, Bool.and_eq_true] at left right ⊢
  exact ⟨strictEquals_trans left.1 right.1, strictEquals_trans left.2 right.2⟩

/-- The part of the store that says which snapshot is on screen. -/
structure Screen where
  snapshot : Option Json := none
  firstSeenAt : Option Double := none
  fromCache : Bool := false

def Store.screen (store : Store) : Screen := ⟨store.snapshot, store.firstSeenAt, store.fromCache⟩

section Accept

variable (builtins : Builtins)

def valid (document : Json) : Bool := (parseHealthState builtins document).toBool

def Screen.receive (screen : Screen) (source : Source) (received : Received) : Screen :=
  if !valid builtins received.document then screen
  else if sameSnapshot screen.snapshot received.document then
    { screen with fromCache := screen.fromCache && source == .cache }
  else ⟨some received.document, some received.seenAt, source == .cache⟩

theorem Screen.receive_network (screen : Screen) (received : Received) :
    let accepted := valid builtins received.document &&
      !sameSnapshot screen.snapshot received.document
    let shown := screen.receive builtins .network received
    accepted = true ∧ shown = ⟨some received.document, some received.seenAt, false⟩ ∨
      accepted = false ∧ shown.snapshot = screen.snapshot ∧
        shown.firstSeenAt = screen.firstSeenAt := by
  unfold Screen.receive
  cases valid builtins received.document <;>
    cases sameSnapshot screen.snapshot received.document <;> simp

def Screen.Sound (screen : Screen) : Prop :=
  ∀ document, screen.snapshot = some document → valid builtins document = true

variable {builtins}

theorem parseHealthState_of_valid {document : Json} (accepted : valid builtins document = true) :
    parseHealthState builtins document = .ok document := by
  unfold valid at accepted
  cases parsed : parseHealthState builtins document with
  | error failure => rw [parsed] at accepted; cases accepted
  | ok state => rw [(parseHealthState_accepts parsed).1]

theorem returns_severities {document : Json} (accepted : valid builtins document = true) :
    Returns (domainSeverities document) := by
  have checked := (parseHealthState_accepts (parseHealthState_of_valid accepted)).2
  obtain ⟨top, same⟩ := isObj_iff.mp checked.object
  obtain rfl := Option.some.inj same
  exact returns_domainSeverities checked

theorem returns_escalation {screen : Screen} (sound : screen.Sound builtins) {next : Json}
    (accepted : valid builtins next = true) : Returns (escalation screen.snapshot next) := by
  cases shown : screen.snapshot with
  | none => exact returns_ok _
  | some previous =>
      obtain ⟨before, read⟩ := returns_severities (sound previous shown)
      obtain ⟨after, compared⟩ := returns_severities accepted
      exact ⟨escalatedDomains before after, by simp [escalation, read, compared, ok_bind]⟩

theorem acceptSnapshot_screen {store : Store} (sound : store.screen.Sound builtins)
    (source : Source) (received : Received) :
    (acceptSnapshot builtins store received.document source received.seenAt).1.screen =
        store.screen.receive builtins source received ∧
      Returns (acceptSnapshot builtins store received.document source received.seenAt).2 := by
  unfold acceptSnapshot Screen.receive
  by_cases accepted : valid builtins received.document = true
  · obtain ⟨escalated, compared⟩ := returns_escalation sound accepted
    have comparison : escalation store.snapshot received.document = .ok escalated := compared
    simp only [parseHealthState_of_valid accepted, accepted, Bool.not_true, Bool.false_eq_true,
      if_false, comparison]
    cases same : sameSnapshot store.snapshot received.document with
    | true =>
        have shown : sameSnapshot store.screen.snapshot received.document = true := same
        simp only [if_true, shown]
        refine ⟨?_, returns_ok _⟩
        cases source <;> simp [Store.screen]
    | false =>
        have other : sameSnapshot store.screen.snapshot received.document = false := same
        simp only [Bool.false_eq_true, if_false, other]
        refine ⟨?_, returns_ok _⟩
        cases source <;> simp [Store.screen]
  · cases parsed : parseHealthState builtins received.document with
    | ok state => exact absurd (by simp [valid, parsed, Except.toBool]) accepted
    | error failure =>
        simp only [accepted, Bool.not_false, if_true]
        cases source <;> exact ⟨rfl, returns_ok _⟩

theorem Screen.Sound.receive {screen : Screen} (sound : screen.Sound builtins) (source : Source)
    (received : Received) : (screen.receive builtins source received).Sound builtins := by
  intro document shown
  unfold Screen.receive at shown
  split at shown
  · exact sound document shown
  · rename_i accepted
    split at shown
    · exact sound document shown
    · obtain rfl := Option.some.inj shown
      simpa using accepted

end Accept

section Feed

variable (builtins : Builtins) {feed next : Feed}

theorem screen_startPolling : feed.startPolling.store = feed.store := by
  unfold Feed.startPolling
  split <;> rfl

theorem screen_scheduleReconnect : feed.scheduleReconnect.store = feed.store := by
  unfold Feed.scheduleReconnect
  split
  · rfl
  · exact screen_startPolling

theorem screen_connect (constructed : Bool) : (feed.connect constructed).store = feed.store := by
  unfold Feed.connect
  split
  · rfl
  · split
    · rfl
    · exact screen_scheduleReconnect

theorem screen_onClose : feed.onClose.store.screen = feed.store.screen := by
  unfold Feed.onClose
  dsimp only
  split
  · rfl
  · rw [screen_scheduleReconnect]
    split <;> rfl

theorem screen_pollFailed : feed.pollFailed.store.screen = feed.store.screen := by
  unfold Feed.pollFailed
  split
  · rfl
  · split <;> rfl

theorem screen_markPolling : feed.markPolling.store.screen = feed.store.screen := by
  unfold Feed.markPolling
  split <;> rfl

theorem screen_onResponse (response : Feed.Response) :
    (feed.onResponse response).store.screen = feed.store.screen := by
  cases response with
  | failed => exact screen_pollFailed
  | status code =>
      unfold Feed.onResponse
      dsimp only
      split
      · rfl
      · split
        · split
          · exact screen_markPolling
          · exact screen_markPolling
        · split
          · rfl
          · exact screen_pollFailed

theorem screen_stop : feed.stop.store = feed.store := by
  unfold Feed.stop
  dsimp only
  split <;> rfl

def Screen.receive? (screen : Screen) (event : FeedEvent) : Screen :=
  (event.received.map (screen.receive builtins .network)).getD screen

variable {builtins}

theorem screen_onMessage (sound : feed.store.screen.Sound builtins) (document : Json)
    (seenAt : Double) :
    (feed.onMessage builtins (some document) seenAt).store.screen =
      feed.store.screen.receive builtins .network ⟨document, seenAt⟩ := by
  obtain ⟨shown, result, returned⟩ := acceptSnapshot_screen sound .network ⟨document, seenAt⟩
  rw [← shown, Feed.onMessage]
  split
  · rename_i accepted
    rw [accepted]
  · rename_i thrown
    rw [thrown] at returned
    cases returned

theorem screen_onBody (sound : feed.store.screen.Sound builtins) (document : Json)
    (seenAt : Double) :
    (feed.onBody builtins (some document) seenAt).store.screen =
      feed.store.screen.receive builtins .network ⟨document, seenAt⟩ := by
  obtain ⟨shown, result, returned⟩ := acceptSnapshot_screen sound .network ⟨document, seenAt⟩
  rw [← shown, Feed.onBody]
  split
  · rename_i accepted
    rw [screen_markPolling, accepted]
  · rename_i thrown
    rw [thrown] at returned
    cases returned

theorem step_screen {event : FeedEvent} (sound : feed.store.screen.Sound builtins)
    (taken : feed.step builtins event = some next) :
    next.store.screen = feed.store.screen.receive? builtins event := by
  cases event with
  | opened index =>
      obtain ⟨socket, _, taken⟩ := Option.bind_eq_some_iff.mp taken
      split at taken
      · cases taken
      · cases taken
        rfl
  | message index data now =>
      obtain ⟨socket, _, taken⟩ := Option.bind_eq_some_iff.mp taken
      split at taken
      · cases taken
      · cases taken
        cases data with
        | none => rfl
        | some document => exact screen_onMessage sound document now
  | closed index =>
      obtain ⟨socket, _, taken⟩ := Option.bind_eq_some_iff.mp taken
      split at taken
      · cases taken
      · cases taken
        split
        · exact screen_onClose
        · rfl
  | reconnectTimer timer constructed =>
      simp only [Feed.step] at taken
      split at taken
      · cases taken
        exact congrArg Store.screen (screen_connect constructed)
      · cases taken
  | pollTimer timer =>
      simp only [Feed.step] at taken
      split at taken
      · cases taken
        rfl
      · cases taken
  | response response =>
      simp only [Feed.step] at taken
      split at taken
      · cases taken
      · cases taken
        exact screen_onResponse response
  | body body now =>
      simp only [Feed.step] at taken
      split at taken
      · cases taken
      · cases taken
        cases body with
        | none => rfl
        | some document =>
            have read : { feed with reading := feed.reading - 1 }.store.screen.Sound builtins :=
              sound
            exact screen_onBody read document now
  | stop =>
      cases taken
      exact congrArg Store.screen screen_stop

end Feed

section Runs

variable {builtins : Builtins}

/-- The snapshot on screen and since when, for the valid documents received so far. -/
inductive Shows : List Received → Screen → Prop
  | nothing {fromCache : Bool} : Shows [] ⟨none, none, fromCache⟩
  | newest {documents : List Received} {fromCache : Bool} (shown : Received)
      (latest : Newest documents shown) :
      Shows documents ⟨some shown.document, some shown.seenAt, fromCache⟩

theorem Newest.again {documents : List Received} {shown received : Received}
    (latest : Newest documents shown)
    (same : sameSnapshot (some shown.document) received.document = true) :
    Newest (documents ++ [received]) shown := by
  obtain ⟨earlier, later, rfl, repeated, changed⟩ := latest
  refine ⟨earlier, later ++ [received], by simp, ?_, changed⟩
  intro other member
  rcases List.mem_append.mp member with old | new
  · exact repeated other old
  · rw [List.mem_singleton.mp new]
    exact same

theorem Newest.last_differs {documents : List Received} {shown received previous : Received}
    (latest : Newest documents shown)
    (different : sameSnapshot (some shown.document) received.document = false)
    (last : documents.getLast? = some previous) :
    sameSnapshot (some previous.document) received.document = false := by
  obtain ⟨earlier, later, rfl, repeated, _⟩ := latest
  rcases List.eq_nil_or_concat later with rfl | ⟨front, final, rfl⟩
  · have only : shown = previous := by simpa using last
    exact only ▸ different
  · have shape : earlier ++ shown :: front.concat final =
        (earlier ++ shown :: front) ++ [final] := by simp
    rw [shape, List.getLast?_concat] at last
    obtain rfl := Option.some.inj last
    by_contra same
    rw [Bool.not_eq_false] at same
    rw [sameSnapshot_trans (repeated final (by simp)) same] at different
    cases different

theorem Newest.replaced {documents : List Received} {shown received : Received}
    (latest : Newest documents shown)
    (different : sameSnapshot (some shown.document) received.document = false) :
    Newest (documents ++ [received]) received :=
  ⟨documents, [], rfl, by simp, fun _ last => latest.last_differs different last⟩

theorem Shows.empty {documents : List Received} {screen : Screen} (shows : Shows documents screen)
    (unset : screen.snapshot = none) : documents = [] := by
  cases shows with
  | nothing => rfl
  | newest shown latest => cases unset

theorem Shows.receive {documents : List Received} {screen : Screen} {received : Received}
    (shows : Shows documents screen) (source : Source)
    (accepted : valid builtins received.document = true) :
    Shows (documents ++ [received]) (screen.receive builtins source received) := by
  unfold Screen.receive
  rw [accepted, Bool.not_true, if_neg Bool.false_ne_true]
  cases shows with
  | nothing =>
      have first : Newest [received] received := ⟨[], [], rfl, by simp, by simp⟩
      exact .newest received first
  | newest shown latest =>
      cases same : sameSnapshot (some shown.document) received.document with
      | true =>
          rw [if_pos rfl]
          exact .newest shown (latest.again same)
      | false =>
          rw [if_neg Bool.false_ne_true]
          exact .newest received (latest.replaced same)

def validDocuments (builtins : Builtins) (received : List Received) : List Received :=
  received.filter fun received => valid builtins received.document

def cachedDocuments (stored : Option Json) : List Received :=
  ((loadCachedSnapshot stored).map fun cached => ⟨cached.1, cached.2⟩).toList

/-- What the screen says about the documents of the local storage and of the network. -/
structure OnScreen (builtins : Builtins) (cached network : List Received) (screen : Screen) :
    Prop where
  sound : screen.Sound builtins
  shows : Shows (validDocuments builtins cached ++ validDocuments builtins network) screen
  fromCache : screen.fromCache = true ↔
    validDocuments builtins cached ≠ [] ∧ validDocuments builtins network = []

theorem OnScreen.receive {cached network : List Received} {screen : Screen}
    (on : OnScreen builtins cached network screen) (received : Received) :
    OnScreen builtins cached (network ++ [received])
      (screen.receive builtins .network received) := by
  refine ⟨on.sound.receive .network received, ?_, ?_⟩
  · cases accepted : valid builtins received.document with
    | false => simpa [validDocuments, List.filter_append, accepted, Screen.receive] using on.shows
    | true =>
        have more := on.shows.receive .network accepted
        simpa [validDocuments, List.filter_append, accepted] using more
  · cases accepted : valid builtins received.document with
    | false =>
        simpa [validDocuments, List.filter_append, accepted, Screen.receive] using on.fromCache
    | true =>
        cases same : sameSnapshot screen.snapshot received.document <;>
          simp [validDocuments, List.filter_append, accepted, Screen.receive, same]

theorem onScreen_start (location : Location) (stored : Option Json) (constructed : Bool) :
    OnScreen builtins (cachedDocuments stored) []
      (startHealthFeed builtins location stored constructed).store.screen := by
  have empty : (({} : Store).screen).Sound builtins := fun _ => nofun
  unfold startHealthFeed cachedDocuments
  rw [screen_connect]
  cases loadCachedSnapshot stored with
  | none => exact ⟨empty, .nothing, by simp [Feed.poll, Store.screen, validDocuments]⟩
  | some cached =>
      obtain ⟨document, seenAt⟩ := cached
      have shown := (acceptSnapshot_screen empty .cache ⟨document, seenAt⟩).1
      change OnScreen builtins [⟨document, seenAt⟩] [] (acceptSnapshot builtins {} document .cache
        seenAt).1.screen
      rw [shown]
      refine ⟨empty.receive _ _, ?_, ?_⟩
      · cases accepted : valid builtins document with
        | false =>
            simpa [validDocuments, accepted, Screen.receive, Store.screen] using
              @Shows.nothing false
        | true =>
            have first : Shows _ (Screen.receive builtins _ .cache ⟨document, seenAt⟩) :=
              (@Shows.nothing false).receive .cache accepted
            simpa [validDocuments, accepted, Store.screen] using first
      · cases accepted : valid builtins document <;>
          simp [validDocuments, accepted, Screen.receive, Store.screen, sameSnapshot]

theorem onScreen_event {cached network : List Received} {feed next : Feed} {event : FeedEvent}
    (on : OnScreen builtins cached network feed.store.screen)
    (taken : feed.step builtins event = some next) :
    OnScreen builtins cached (network ++ event.received.toList) next.store.screen := by
  rw [step_screen on.sound taken, Screen.receive?]
  cases event.received with
  | none => simpa using on
  | some document => exact on.receive document

theorem Newest.append {earlier later : List Received} {cached shown : Received}
    (before : Newest earlier cached) (after : Newest (cached :: later) shown) :
    Newest (earlier ++ later) shown := by
  obtain ⟨past, rest, shape, same, other⟩ := after
  cases past with
  | nil =>
      obtain ⟨rfl, rfl⟩ := List.cons.inj shape
      obtain ⟨first, repeats, rfl, repeated, changed⟩ := before
      refine ⟨first, repeats ++ later, by simp, ?_, changed⟩
      intro received member
      rcases List.mem_append.mp member with old | new
      · exact repeated received old
      · exact same received new
  | cons head past =>
      obtain ⟨rfl, rfl⟩ := List.cons.inj shape
      refine ⟨earlier ++ past, rest, by simp, same, ?_⟩
      intro previous last
      rcases List.eq_nil_or_concat past with rfl | ⟨front, final, rfl⟩
      · rw [List.append_nil] at last
        exact before.last_differs (other cached rfl) last
      · rw [List.concat_eq_append, ← List.append_assoc, List.getLast?_concat] at last
        obtain rfl := Option.some.inj last
        apply other
        rw [List.concat_eq_append, ← List.cons_append, List.getLast?_concat]

theorem Newest.mem {documents : List Received} {shown : Received}
    (latest : Newest documents shown) : shown ∈ documents := by
  obtain ⟨earlier, later, rfl, _⟩ := latest
  simp

theorem validDocuments_append (first second : List Received) :
    validDocuments builtins (first ++ second) =
      validDocuments builtins first ++ validDocuments builtins second :=
  List.filter_append ..

end Runs

end EdgeHealthd.WebUi
