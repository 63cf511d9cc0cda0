import EdgeHealthd.HealthFeedCore

/-!
Executable `persistSnapshot` of `state/persistence.ts` and the effect of `startHealthFeed` that
calls it, for the pages of one browser. The pages share the local storage, which may refuse a
read or a write at any time and may be cleared; each page has a feed of its own.
-/

namespace EdgeHealthd.WebUi

mutual

/-- What `JSON.parse` reads of the text of a value: a number that is not finite is printed as
`null`. -/
def printed : Json → Json
  | .float (.finite value) => .float (.finite value)
  | .float _ => .null
  | .array items => .array (printedItems items)
  | .object members => .object (printedMembers members)
  | .null => .null
  | .boolean value => .boolean value
  | .integer value => .integer value
  | .string value => .string value

def printedItems : List Json → List Json
  | [] => []
  | item :: rest => printed item :: printedItems rest

def printedMembers : List (String × Json) → List (String × Json)
  | [] => []
  | (name, value) :: rest => (name, printed value) :: printedMembers rest

end

def persistedItem (state : Json) (firstSeenAt : Double) : Json :=
  .object [("state", printed state), ("firstSeenAt", printed (.float firstSeenAt))]

-- `accepted` is false where `setItem` throws: the storage is full or disabled.
def persistSnapshot (accepted : Bool) (state : Json) (firstSeenAt : Double)
    (stored : Option Json) : Option Json :=
  if accepted then some (persistedItem state firstSeenAt) else stored

/-- The effect as it runs when it is made. -/
def persistStore (accepted : Bool) (store : Store) (stored : Option Json) : Option Json :=
  match store.snapshot, store.firstSeenAt with
  | some state, some seenAt => persistSnapshot accepted state seenAt stored
  | _, _ => stored

/-- The effect as `acceptSnapshot` runs it: when `snapshot` changes, with the old time, and again
when `firstSeenAt` changes. -/
def persistAccepted (first second : Bool) (before after : Store) (stored : Option Json) :
    Option Json :=
  let early := persistStore first { after with firstSeenAt := before.firstSeenAt } stored
  if before.firstSeenAt = after.firstSeenAt && after.firstSeenAt ≠ some .nan then early
  else persistStore second after early

/-- A document that reached the page, with the browser's clock when it did. -/
structure Received where
  document : Json
  seenAt : Double

def FeedEvent.received : FeedEvent → Option Received
  | .message _ (some document) seenAt | .body (some document) seenAt => some ⟨document, seenAt⟩
  | _ => none

def AcceptResult.isAccepted : AcceptResult → Bool
  | .accepted => true
  | .unchanged | .rejected => false

/-- The event writes `snapshot` and `firstSeenAt`. -/
def FeedEvent.accepts (builtins : Builtins) (store : Store) (event : FeedEvent) : Bool :=
  event.received.any fun received =>
    match (acceptSnapshot builtins store received.document .network received.seenAt).2 with
    | .ok result => result.isAccepted
    | .error _ => false

structure Page where
  feed : Feed
  -- The item of the storage when the page was loaded.
  found : Option Json
  received : List Received := []

structure Browser where
  stored : Option Json := none
  pages : List Page := []
  heard : List Received := []

inductive BrowserAction where
  | load (readable constructed accepted : Bool)
  | event (index : Nat) (event : FeedEvent) (first second : Bool)
  | clearStorage

namespace Browser

def load (builtins : Builtins) (location : Location) (browser : Browser)
    (readable constructed accepted : Bool) : Browser :=
  let found := if readable then browser.stored else none
  let feed := startHealthFeed builtins location found constructed
  { browser with
    stored := persistStore accepted feed.store browser.stored
    pages := browser.pages ++ [{ feed, found }] }

/-- `stop` has disposed of the effect. -/
def persistEvent (builtins : Builtins) (page : Page) (event : FeedEvent) (first second : Bool)
    (after : Feed) (stored : Option Json) : Option Json :=
  if page.feed.stopped then stored
  else if event.accepts builtins page.feed.store then
    persistAccepted first second page.feed.store after.store stored
  else stored

def step (builtins : Builtins) (location : Location) (browser : Browser) :
    BrowserAction → Option Browser
  | .load readable constructed accepted =>
      some (browser.load builtins location readable constructed accepted)
  | .event index event first second => do
      let page ← browser.pages[index]?
      let feed ← page.feed.step builtins event
      let received := event.received.toList
      some { browser with
        stored := persistEvent builtins page event first second feed browser.stored
        pages := browser.pages.set index { page with
          feed, received := page.received ++ received }
        heard := browser.heard ++ received }
  | .clearStorage => some { browser with stored := none }

end Browser

end EdgeHealthd.WebUi
