import EdgeHealthd.PageStore

/-!
The pages of one browser, over every order of loads, events and answers of the storage. What the
storage holds has reached some page before, and a browser whose storage keeps every item shows
the newest document of all its pages.
-/

namespace EdgeHealthd.WebUi

open Machine Throwing

section Printed

mutual

theorem printed_printed : ∀ json, printed (printed json) = printed json
  | .float (.finite value) => by simp [printed]
  | .float .nan | .float .negInfinity | .float .posInfinity => by simp [printed]
  | .array items => by simp [printed, printedItems_printedItems items]
  | .object members => by simp [printed, printedMembers_printedMembers members]
  | .null | .boolean _ | .integer _ | .string _ => by simp [printed]

theorem printedItems_printedItems : ∀ items, printedItems (printedItems items) = printedItems items
  | [] => by simp [printedItems]
  | item :: rest => by
      simp [printedItems, printed_printed item, printedItems_printedItems rest]

theorem printedMembers_printedMembers :
    ∀ members, printedMembers (printedMembers members) = printedMembers members
  | [] => by simp [printedMembers]
  | (name, value) :: rest => by
      simp [printedMembers, printed_printed value, printedMembers_printedMembers rest]

end

@[simp] theorem printed_string (value : String) : printed (.string value) = .string value := rfl

@[simp] theorem printed_boolean (value : Bool) : printed (.boolean value) = .boolean value := rfl

@[simp] theorem printed_integer (value : Int) : printed (.integer value) = .integer value := rfl

@[simp] theorem printed_array (items : List Json) :
    printed (.array items) = .array (printedItems items) := rfl

@[simp] theorem printed_object (members : List (String × Json)) :
    printed (.object members) = .object (printedMembers members) := rfl

@[simp] theorem printedItems_map {Value : Type} (json : Value → Json) (values : List Value) :
    printedItems (values.map json) = values.map fun value => printed (json value) := by
  induction values with
  | nil => simp [printedItems]
  | cons value rest ih => simp [printedItems, ih]

@[simp] theorem printedMembers_nil : printedMembers [] = [] := rfl

@[simp] theorem printedMembers_cons (member : String × Json) (rest : List (String × Json)) :
    printedMembers (member :: rest) = (member.1, printed member.2) :: printedMembers rest := rfl

@[simp] theorem printedMembers_append (first second : List (String × Json)) :
    printedMembers (first ++ second) = printedMembers first ++ printedMembers second := by
  induction first with
  | nil => rfl
  | cons member rest ih => simp [ih]

theorem cachedDocuments_persistedItem (state : Json) (seenAt : Double) :
    cachedDocuments (some (persistedItem state seenAt)) =
      match seenAt with
      | .finite time => [⟨printed state, .finite time⟩]
      | .nan | .negInfinity | .posInfinity => [] := by
  cases seenAt <;>
    simp [cachedDocuments, loadCachedSnapshot, persistedItem, printed, find?_object_cons,
      asNumber, Json.getDouble]

variable {store : Store} {stored : Option Json} {cached : Received}

theorem mem_persistStore {accepted : Bool}
    (member : cached ∈ cachedDocuments (persistStore accepted store stored)) :
    cached ∈ cachedDocuments stored ∨
      ∃ document, store.snapshot = some document ∧ cached.document = printed document := by
  unfold persistStore at member
  split at member
  · rename_i document seenAt shown seen
    unfold persistSnapshot at member
    split at member
    · right
      refine ⟨document, shown, ?_⟩
      rw [cachedDocuments_persistedItem] at member
      cases seenAt with
      | finite time => rw [List.mem_singleton.mp member]
      | nan | negInfinity | posInfinity => cases member
    · exact Or.inl member
  · exact Or.inl member

theorem mem_persistAccepted {first second : Bool} {before : Store}
    (member : cached ∈ cachedDocuments (persistAccepted first second before store stored)) :
    cached ∈ cachedDocuments stored ∨
      ∃ document, store.snapshot = some document ∧ cached.document = printed document := by
  have early (inFirst : cached ∈ cachedDocuments
      (persistStore first { store with firstSeenAt := before.firstSeenAt } stored)) :
      cached ∈ cachedDocuments stored ∨
        ∃ document, store.snapshot = some document ∧ cached.document = printed document :=
    @mem_persistStore { store with firstSeenAt := before.firstSeenAt } stored cached first inFirst
  unfold persistAccepted at member
  dsimp only at member
  split at member
  · exact early member
  · exact (mem_persistStore member).elim early Or.inr

end Printed

section Browsers

variable {builtins : Builtins} {location : Location} {browser next : Browser}
  {stored : Option Json} {cached : Received}

def Known (heard : List Received) (document : Json) : Prop :=
  ∃ received ∈ heard, document = received.document ∨ document = printed received.document

theorem Known.printed {heard : List Received} {document : Json} (known : Known heard document) :
    Known heard (WebUi.printed document) := by
  obtain ⟨received, member, rfl | rfl⟩ := known
  · exact ⟨received, member, Or.inr rfl⟩
  · exact ⟨received, member, Or.inr (printed_printed _)⟩

theorem Known.mono {heard more : List Received} {document : Json} (known : Known heard document)
    (subset : heard ⊆ more) : Known more document := by
  obtain ⟨received, member, same⟩ := known
  exact ⟨received, subset member, same⟩

structure PageSound (builtins : Builtins) (heard : List Received) (page : Page) : Prop where
  onScreen : OnScreen builtins (cachedDocuments page.found) page.received page.feed.store.screen
  found : ∀ cached ∈ cachedDocuments page.found, Known heard cached.document
  received : page.received ⊆ heard

structure Browser.Sound (builtins : Builtins) (browser : Browser) : Prop where
  stored : ∀ cached ∈ cachedDocuments browser.stored, Known browser.heard cached.document
  pages : ∀ page ∈ browser.pages, PageSound builtins browser.heard page

theorem Shows.mem {documents : List Received} {screen : Screen} (shows : Shows documents screen)
    {document : Json} (shown : screen.snapshot = some document) :
    ∃ received ∈ documents, received.document = document := by
  cases shows with
  | nothing => cases shown
  | newest received latest => exact ⟨received, latest.mem, Option.some.inj shown⟩

theorem PageSound.known {heard : List Received} {page : Page}
    (sound : PageSound builtins heard page) {document : Json}
    (shown : page.feed.store.snapshot = some document) : Known heard document := by
  obtain ⟨received, member, rfl⟩ := sound.onScreen.shows.mem shown
  rcases List.mem_append.mp member with cached | network
  · exact sound.found received ((List.mem_filter.mp cached).1)
  · exact ⟨received, sound.received ((List.mem_filter.mp network).1), Or.inl rfl⟩

theorem PageSound.mono {heard more : List Received} {page : Page}
    (sound : PageSound builtins heard page) (subset : heard ⊆ more) :
    PageSound builtins more page :=
  ⟨sound.onScreen, fun cached member => (sound.found cached member).mono subset,
    List.Subset.trans sound.received subset⟩

theorem Browser.Sound.load (sound : browser.Sound builtins)
    (readable constructed accepted : Bool) :
    (browser.load builtins location readable constructed accepted).Sound builtins := by
  have page : PageSound builtins browser.heard
      { feed := startHealthFeed builtins location
          (if readable then browser.stored else none) constructed,
        found := if readable then browser.stored else none } := by
    refine ⟨onScreen_start location _ constructed, ?_, List.nil_subset _⟩
    intro cached member
    dsimp only at member
    split at member
    · exact sound.stored cached member
    · cases member
  refine ⟨?_, ?_⟩
  · intro cached member
    rcases mem_persistStore member with before | ⟨document, shown, same⟩
    · exact sound.stored cached before
    · exact same ▸ (page.known shown).printed
  · intro other member
    rcases List.mem_append.mp member with before | new
    · exact sound.pages other before
    · rw [List.mem_singleton.mp new]
      exact page

theorem PageSound.event {heard : List Received} {page : Page} {event : FeedEvent} {feed : Feed}
    (sound : PageSound builtins heard page) (stepped : page.feed.step builtins event = some feed) :
    PageSound builtins (heard ++ event.received.toList)
      { page with feed, received := page.received ++ event.received.toList } := by
  have more : heard ⊆ heard ++ event.received.toList := List.subset_append_left _ _
  refine ⟨onScreen_event sound.onScreen stepped,
    fun cached member => (sound.found cached member).mono more, ?_⟩
  exact List.append_subset.mpr ⟨List.Subset.trans sound.received more,
    List.subset_append_right _ _⟩

theorem mem_persistEvent {page : Page} {event : FeedEvent} {first second : Bool} {after : Feed}
    (member : cached ∈ cachedDocuments
      (Browser.persistEvent builtins page event first second after stored)) :
    cached ∈ cachedDocuments stored ∨
      ∃ document, after.store.snapshot = some document ∧ cached.document = printed document := by
  simp only [Browser.persistEvent] at member
  split at member
  · exact Or.inl member
  · split at member
    · exact mem_persistAccepted member
    · exact Or.inl member

theorem Browser.Sound.step (sound : browser.Sound builtins) {action : BrowserAction}
    (taken : browser.step builtins location action = some next) : next.Sound builtins := by
  cases action with
  | load readable constructed accepted =>
      cases taken
      exact sound.load readable constructed accepted
  | event index event first second =>
      simp only [Browser.step, Option.bind_eq_bind, Option.bind_eq_some_iff,
        Option.some.injEq] at taken
      obtain ⟨page, found, feed, stepped, rfl⟩ := taken
      have more : browser.heard ⊆ browser.heard ++ event.received.toList :=
        List.subset_append_left _ _
      have changed := (sound.pages page (List.mem_of_getElem? found)).event stepped
      refine ⟨?_, ?_⟩
      · intro cached member
        rcases mem_persistEvent member with before | ⟨document, shown, same⟩
        · exact (sound.stored cached before).mono more
        · exact same ▸ (changed.known shown).printed
      · intro other member
        rcases List.mem_or_eq_of_mem_set member with before | rfl
        · exact (sound.pages other before).mono more
        · exact changed
  | clearStorage =>
      cases taken
      exact ⟨fun cached member => (List.not_mem_nil member).elim, sound.pages⟩

theorem sound_browser {actions : List BrowserAction}
    (run : follow (Browser.step builtins location) {} actions = some browser) :
    browser.Sound builtins := by
  have fresh : Browser.Sound builtins {} :=
    ⟨fun cached member => (List.not_mem_nil member).elim,
      fun page member => (List.not_mem_nil member).elim⟩
  exact follow_preserves (Browser.Sound builtins) (fun _ => True)
    (fun _ _ _ _ sound taken => sound.step taken) run (fun _ _ => trivial) fresh

end Browsers

section InOrder

variable {builtins : Builtins} {location : Location} {browser next : Browser}

/-- `JSON.stringify` keeps the document, and the browser's clock gave a time. -/
structure Received.Plain (received : Received) : Prop where
  seenAt : ∃ time, received.seenAt = .finite time
  document : printed received.document = received.document

/-- The storage takes and gives every item as it was received, and a page is used until the next
one is loaded. -/
def Browser.Reliable (browser : Browser) : BrowserAction → Prop
  | .load readable _ accepted => readable = true ∧ accepted = true
  | .event index event first second =>
      index + 1 = browser.pages.length ∧ event ≠ .stop ∧ first = true ∧ second = true ∧
        ∀ received, event.received = some received → received.Plain
  | .clearStorage => False

/-- The item stands for all documents received so far. -/
inductive Stands (builtins : Builtins) : List Received → Option Json → Prop
  | nothing {documents : List Received} (empty : validDocuments builtins documents = []) :
      Stands builtins documents none
  | newest {documents : List Received} {stored : Option Json} (shown : Received)
      (latest : Newest (validDocuments builtins documents) shown)
      (loaded : cachedDocuments stored = [shown]) : Stands builtins documents stored

theorem Stands.onScreen {documents network : List Received} {stored : Option Json}
    {screen : Screen} (stands : Stands builtins documents stored)
    (on : OnScreen builtins (cachedDocuments stored) network screen) :
    Shows (validDocuments builtins (documents ++ network)) screen ∧
      (screen.fromCache = true ↔ validDocuments builtins documents ≠ [] ∧
        validDocuments builtins network = []) := by
  rw [validDocuments_append]
  cases stands with
  | nothing empty =>
      rw [empty]
      exact ⟨on.shows, on.fromCache⟩
  | newest shown latest loaded =>
      have accepted : valid builtins shown.document = true := by
        simpa using (List.mem_filter.mp latest.mem).2
      have single : validDocuments builtins (cachedDocuments stored) = [shown] := by
        simp [loaded, validDocuments, accepted]
      have shows := on.shows
      have origin := on.fromCache
      rw [single] at shows origin
      refine ⟨?_, ?_⟩
      · rw [List.singleton_append] at shows
        cases shows with
        | newest other newer => exact .newest other (latest.append newer)
      · rw [origin]
        have some : validDocuments builtins documents ≠ [] := List.ne_nil_of_mem latest.mem
        simp [some]

theorem persistStore_shown {store : Store} {document : Json} {seenAt : Double}
    (shown : store.snapshot = some document) (seen : store.firstSeenAt = some seenAt)
    (stored : Option Json) :
    persistStore true store stored = some (persistedItem document seenAt) := by
  simp [persistStore, persistSnapshot, shown, seen]

theorem persistAccepted_shown {before after : Store} {document : Json} {seenAt : Double}
    (shown : after.snapshot = some document) (seen : after.firstSeenAt = some seenAt)
    (stored : Option Json) :
    persistAccepted true true before after stored = some (persistedItem document seenAt) := by
  unfold persistAccepted
  dsimp only
  split
  · rename_i same
    simp only [Bool.and_eq_true, decide_eq_true_eq] at same
    rw [same.1]
    exact persistStore_shown shown seen stored
  · exact persistStore_shown shown seen _

theorem persistStore_congr {store other : Store} (snapshot : store.snapshot = other.snapshot)
    (seen : store.firstSeenAt = other.firstSeenAt) (accepted : Bool) (stored : Option Json) :
    persistStore accepted store stored = persistStore accepted other stored := by
  simp only [persistStore, snapshot, seen]

theorem Stands.persist {documents network : List Received} {stored : Option Json} {store : Store}
    (stands : Stands builtins documents stored)
    (plain : ∀ received ∈ documents ++ network, received.Plain)
    (on : OnScreen builtins (cachedDocuments stored) network store.screen) :
    Stands builtins (documents ++ network) (persistStore true store stored) := by
  obtain ⟨shows, _⟩ := stands.onScreen on
  generalize held : store.screen = screen at shows
  generalize received : validDocuments builtins (documents ++ network) = all at shows
  cases shows with
  | nothing =>
      have unset : store.snapshot = none := congrArg Screen.snapshot held
      have kept : persistStore true store stored = stored := by simp [persistStore, unset]
      rw [kept]
      cases stands with
      | nothing _ => exact .nothing received
      | newest shown latest _ =>
          rw [validDocuments_append, List.append_eq_nil_iff] at received
          exact absurd received.1 (List.ne_nil_of_mem latest.mem)
  | newest shown latest =>
      subst received
      have ⟨⟨time, whole⟩, same⟩ := plain shown (List.mem_filter.mp latest.mem).1
      have snapshot : store.snapshot = some shown.document := congrArg Screen.snapshot held
      have seen : store.firstSeenAt = some shown.seenAt := congrArg Screen.firstSeenAt held
      refine .newest shown latest ?_
      rw [persistStore_shown snapshot seen, cachedDocuments_persistedItem, whole]
      simp only [same]
      rw [← whole]

theorem accepts_eq {store : Store} (sound : store.screen.Sound builtins) (event : FeedEvent) :
    event.accepts builtins store = event.received.any fun received =>
      valid builtins received.document &&
        !sameSnapshot store.screen.snapshot received.document := by
  unfold FeedEvent.accepts Store.screen
  cases event.received with
  | none => rfl
  | some received =>
      simp only [Option.any_some, acceptSnapshot]
      by_cases accepted : valid builtins received.document = true
      · obtain ⟨escalated, compared⟩ := returns_escalation sound accepted
        have comparison : escalation store.snapshot received.document = .ok escalated := compared
        simp only [parseHealthState_of_valid accepted, accepted, comparison]
        cases sameSnapshot store.snapshot received.document <;> rfl
      · cases parsed : parseHealthState builtins received.document with
        | ok state => exact absurd (by simp [valid, parsed, Except.toBool]) accepted
        | error failure => simp [accepted, AcceptResult.isAccepted]

theorem persistEvent_stored {page : Page} {event : FeedEvent} {feed : Feed} {stored : Option Json}
    (sound : page.feed.store.screen.Sound builtins) (running : page.feed.stopped = false)
    (taken : page.feed.step builtins event = some feed)
    (written : stored = persistStore true page.feed.store page.found) :
    Browser.persistEvent builtins page event true true feed stored =
      persistStore true feed.store page.found := by
  have shown := step_screen sound taken
  unfold Browser.persistEvent
  rw [running, if_neg Bool.false_ne_true, accepts_eq sound]
  have kept (snapshot : feed.store.snapshot = page.feed.store.snapshot)
      (seen : feed.store.firstSeenAt = page.feed.store.firstSeenAt) :
      stored = persistStore true feed.store page.found :=
    written.trans (persistStore_congr snapshot.symm seen.symm true page.found)
  unfold Screen.receive? at shown
  cases received : event.received with
  | none =>
      rw [received] at shown
      exact kept (congrArg Screen.snapshot shown) (congrArg Screen.firstSeenAt shown)
  | some document =>
      rw [received, Option.map_some, Option.getD_some] at shown
      rw [Option.any_some]
      obtain ⟨accepted, screen⟩ | ⟨refused, snapshot, seen⟩ :=
        page.feed.store.screen.receive_network builtins document
      · rw [screen] at shown
        rw [if_pos accepted]
        have snapshot : feed.store.snapshot = some document.document :=
          congrArg Screen.snapshot shown
        have seen : feed.store.firstSeenAt = some document.seenAt :=
          congrArg Screen.firstSeenAt shown
        rw [persistStore_shown snapshot seen]
        exact persistAccepted_shown snapshot seen stored
      · rw [if_neg (Bool.eq_false_iff.mp refused)]
        exact kept ((congrArg Screen.snapshot shown).trans snapshot)
          ((congrArg Screen.firstSeenAt shown).trans seen)

/-- The documents before the last page's are behind the item it found. -/
structure Browser.LastPage (builtins : Builtins) (browser : Browser) (page : Page)
    (earlier : List Received) : Prop where
  last : browser.pages.getLast? = some page
  heard : browser.heard = earlier ++ page.received
  running : ∃ link failures, Represents link failures page.feed
  found : Stands builtins earlier page.found
  stored : browser.stored = persistStore true page.feed.store page.found

structure Browser.InOrder (builtins : Builtins) (browser : Browser) : Prop where
  sound : browser.Sound builtins
  plain : ∀ received ∈ browser.heard, received.Plain
  last : browser = {} ∨ ∃ page earlier, browser.LastPage builtins page earlier

theorem Browser.InOrder.stands (order : browser.InOrder builtins) :
    Stands builtins browser.heard browser.stored := by
  rcases order.last with rfl | ⟨page, earlier, last⟩
  · exact .nothing rfl
  · have held := order.sound.pages page (List.mem_of_getLast? last.last)
    rw [last.stored, last.heard]
    exact last.found.persist (last.heard ▸ order.plain) held.onScreen

theorem Browser.InOrder.step (order : browser.InOrder builtins) {action : BrowserAction}
    (reliable : browser.Reliable action)
    (taken : browser.step builtins location action = some next) : next.InOrder builtins := by
  have sound := order.sound.step taken
  cases action with
  | load readable constructed accepted =>
      obtain ⟨rfl, rfl⟩ := reliable
      cases taken
      let page : Page :=
        { feed := startHealthFeed builtins location browser.stored constructed,
          found := browser.stored }
      have running : ∃ link failures, Represents link failures page.feed :=
        (start_represents builtins location browser.stored constructed).imp
          fun link started => ⟨_, started.1⟩
      have last : (browser.load builtins location true constructed true).LastPage builtins page
          browser.heard :=
        ⟨List.getLast?_concat, (List.append_nil _).symm, running, order.stands, rfl⟩
      exact ⟨sound, order.plain, Or.inr ⟨page, browser.heard, last⟩⟩
  | event index event first second =>
      obtain ⟨place, notStop, rfl, rfl, plain⟩ := reliable
      simp only [Browser.step, Option.bind_eq_bind, Option.bind_eq_some_iff,
        Option.some.injEq] at taken
      obtain ⟨page, found, feed, stepped, rfl⟩ := taken
      rcases order.last with rfl | ⟨other, earlier, last⟩
      · cases place
      obtain ⟨front, shape⟩ := List.getLast?_eq_some_iff.mp last.last
      have here : index = front.length := by simpa [shape] using place
      obtain rfl : other = page := by simpa [shape, here] using found
      obtain ⟨link, failures, represents⟩ := last.running
      have held := order.sound.pages other (List.mem_of_getElem? found)
      let changed : Page :=
        { other with feed, received := other.received ++ event.received.toList }
      refine ⟨sound, ?_, Or.inr ⟨changed, earlier, ?_, ?_, ?_, last.found, ?_⟩⟩
      · intro received member
        rcases List.mem_append.mp member with before | new
        · exact order.plain received before
        · exact plain received (Option.mem_toList.mp new)
      · simp [shape, here, changed]
      · simp [last.heard, changed]
      · obtain ⟨link', after, _⟩ := represents_step builtins represents stepped notStop
        exact ⟨link', _, after⟩
      · exact persistEvent_stored held.onScreen.sound represents.running stepped last.stored
  | clearStorage => exact reliable.elim

end InOrder

end EdgeHealthd.WebUi
