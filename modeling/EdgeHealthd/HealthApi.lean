import EdgeHealthd.WebServer
import Mathlib.Data.List.Basic

/-!
Conditional requests of `GET /api/health`. The header of a response names the second of
the time that was stored with the body, so a later request is answered as it should be
exactly where different contents were stored with times of different seconds, the later
one later.
-/

namespace EdgeHealthd.WebServer

open Machine

/-- The request that follows up a response with this header and body is answered from the
cache as it now is: 304 for the same bytes only, and the current bytes otherwise. -/
def Revalidates (cache : Option Cached) (lastModified : HttpDate) (body : ByteString) : Prop :=
  ∃ cached, cache = some cached ∧
    ((∃ header, handleHealthAPI cache (some lastModified) = .notModified header) →
      cached.data.content = body) ∧
    (cached.data.content ≠ body →
      handleHealthAPI cache (some lastModified) =
        .ok (format cached.mtime) cached.data.content)

/-- The later of two cached states cannot pass for the earlier one. -/
def Distinguished (earlier later : Cached) : Prop :=
  earlier.data.content ≠ later.data.content → (parse (format earlier.mtime)).isSome = true →
    earlier.mtime / 1000000000 < later.mtime / 1000000000

theorem notModified_iff (time mtime : Int) :
    truncate mtime = truncate (time / 1000000000 * 1000000000) ∨
        mtime < time / 1000000000 * 1000000000 ↔
      mtime / 1000000000 ≤ time / 1000000000 := by
  rw [truncate, truncate]
  omega

theorem handleHealthAPI_revalidate (earlier later : Cached) :
    handleHealthAPI (some later) (some (format earlier.mtime)) =
      if (parse (format earlier.mtime)).isSome = true ∧
          later.mtime / 1000000000 ≤ earlier.mtime / 1000000000 then
        .notModified (format later.mtime)
      else .ok (format later.mtime) later.data.content := by
  cases parsed : parse (format earlier.mtime) with
  | none => simp [handleHealthAPI, parsed]
  | some time =>
      have same : time = earlier.mtime / 1000000000 * 1000000000 := by
        rw [parse] at parsed
        split at parsed
        · exact (Option.some.inj parsed).symm
        · cases parsed
      subst same
      simp only [handleHealthAPI, Option.bind_some, parsed, Option.isSome_some, true_and,
        notModified_iff]

theorem revalidates_iff (earlier later : Cached) :
    Revalidates (some later) (format earlier.mtime) earlier.data.content ↔
      Distinguished earlier later := by
  rw [Revalidates, Distinguished]
  simp only [Option.some.injEq, exists_eq_left', handleHealthAPI_revalidate]
  constructor
  · rintro ⟨unchanged, _⟩ changed parses
    by_contra notLater
    have matched : later.mtime / 1000000000 ≤ earlier.mtime / 1000000000 := by omega
    rw [if_pos ⟨parses, matched⟩] at unchanged
    exact changed (unchanged ⟨_, rfl⟩).symm
  · intro distinguished
    by_cases same : earlier.data.content = later.data.content
    · exact ⟨fun _ => same.symm, fun changed => absurd same.symm changed⟩
    · have fresh : ¬((parse (format earlier.mtime)).isSome = true ∧
          later.mtime / 1000000000 ≤ earlier.mtime / 1000000000) := by
        rintro ⟨parses, matched⟩
        have later := distinguished same parses
        omega
      rw [if_neg fresh]
      exact ⟨fun ⟨_, impossible⟩ => Response.noConfusion impossible, fun _ => rfl⟩

section Steps

variable {server next : Server} {action : Action}

theorem step_cache (taken : server.step action = some next) :
    (∃ index data mtime, action = .load index .proceed ∧
      server.loads[index]? = some (.storing data mtime) ∧
      next.cache = some ⟨data, mtime⟩ ∧ next.stored = server.stored ++ [⟨data, mtime⟩]) ∨
    (next.cache = server.cache ∧ next.stored = server.stored ∧
      ∀ index data mtime, action = .load index .proceed →
        server.loads[index]? ≠ some (.storing data mtime)) := by
  cases action with
  | replaceFile | removeFile | cancelContext | connect =>
      obtain rfl := Option.some.inj taken
      exact Or.inr ⟨rfl, rfl, nofun⟩
  | watch step =>
      obtain ⟨events, watcher, rfl | rfl⟩ := stepWatch_cases taken
      · exact Or.inr ⟨rfl, rfl, nofun⟩
      · exact Or.inr ⟨rfl, rfl, nofun⟩
  | hub step =>
      have same : next.cache = server.cache ∧ next.stored = server.stored := by
        cases stepHub_advance taken <;> exact ⟨rfl, rfl⟩
      exact Or.inr ⟨same.1, same.2, nofun⟩
  | client index step =>
      obtain ⟨client, changed, found, advance, rfl⟩ := stepClient_advance taken
      exact Or.inr ⟨rfl, rfl, nofun⟩
  | load index step =>
      have other : ∀ load, server.loads[index]? = some load →
          (∀ data mtime, load ≠ .storing data mtime) →
          ∀ place data mtime, Action.load index step = .load place .proceed →
            server.loads[place]? ≠ some (.storing data mtime) := by
        intro load found distinct place data mtime same storing
        obtain ⟨rfl, _⟩ := Action.load.inj same
        exact distinct data mtime (Option.some.inj (found.symm.trans storing))
      cases stepLoad_advance taken with
      | fail load found early =>
          refine Or.inr ⟨rfl, rfl, other load found ?_⟩
          rcases early with rfl | ⟨_, rfl⟩ <;> exact nofun
      | read file found present => exact Or.inr ⟨rfl, rfl, other _ found nofun⟩
      | stat data file found present => exact Or.inr ⟨rfl, rfl, other _ found nofun⟩
      | store data mtime found => exact Or.inl ⟨index, data, mtime, rfl, found, rfl, rfl⟩
      | broadcast data found =>
          refine Or.inr ⟨?_, ?_, other _ found nofun⟩
          · rw [Server.broadcastData]
            split <;> rfl
          · rw [Server.broadcastData]
            split <;> rfl

end Steps

theorem mem_stored_iff {past : List Action} {server : Server}
    (run : follow Server.step {} past = some server) (cached : Cached) :
    cached ∈ server.stored ↔ ∃ early rest state, past = early ++ rest ∧
      follow Server.step {} early = some state ∧ state.cache = some cached := by
  refine follow_induction (fun past server => cached ∈ server.stored ↔
    ∃ early rest state, past = early ++ rest ∧ follow Server.step {} early = some state ∧
      state.cache = some cached) ?_ ?_ run
  · constructor
    · intro member
      exact absurd member List.not_mem_nil
    · rintro ⟨early, rest, state, shape, reached, held⟩
      obtain ⟨rfl, rfl⟩ := List.append_eq_nil_iff.mp shape.symm
      obtain rfl := Option.some.inj reached
      cases held
  · intro past state action next reached earlier taken
    have split : (∃ early rest middle, past ++ [action] = early ++ rest ∧
        follow Server.step {} early = some middle ∧ middle.cache = some cached) ↔
        cached ∈ state.stored ∨ next.cache = some cached := by
      rw [earlier]
      constructor
      · rintro ⟨early, rest, middle, shape, run, held⟩
        rcases List.eq_nil_or_concat rest with rfl | ⟨rest, last, rfl⟩
        · rw [List.append_nil] at shape
          subst shape
          have same := run.symm.trans (follow_snoc_some.mpr ⟨state, reached, taken⟩)
          exact Or.inr (Option.some.inj same ▸ held)
        · rw [List.concat_eq_append, ← List.append_assoc] at shape
          exact Or.inl ⟨early, rest, middle, (List.append_inj' shape rfl).1, run, held⟩
      · rintro (⟨early, rest, middle, rfl, run, held⟩ | held)
        · exact ⟨early, rest ++ [action], middle, by simp, run, held⟩
        · exact ⟨past ++ [action], [], next, by simp,
            follow_snoc_some.mpr ⟨state, reached, taken⟩, held⟩
    rw [split]
    rcases step_cache taken with ⟨_, data, mtime, _, _, cache, stored⟩ | ⟨cache, stored, _⟩
    · rw [stored, cache, List.mem_append, List.mem_singleton, Option.some.injEq]
      simp only [eq_comm]
    · rw [stored, cache]
      constructor
      · exact Or.inl
      · rintro (member | held)
        · exact member
        · exact earlier.mpr ⟨past, [], state, by simp, reached, held⟩

theorem cache_eq_getLast {past : List Action} {server : Server}
    (run : follow Server.step {} past = some server) : server.cache = server.stored.getLast? := by
  refine follow_induction (fun _ server => server.cache = server.stored.getLast?) rfl ?_ run
  intro past state action next reached earlier taken
  rcases step_cache taken with ⟨_, data, mtime, _, _, cache, stored⟩ | ⟨cache, stored, _⟩
  · rw [cache, stored, List.getLast?_concat]
  · rw [cache, stored, earlier]

/-- A load stores other bytes than an earlier one only with a time of a later second;
times whose year does not have four digits are never matched and do not count. -/
def LaterSecond (server : Server) : Action → Prop
  | .load index .proceed => ∀ data mtime, server.loads[index]? = some (.storing data mtime) →
      ∀ earlier ∈ server.stored, earlier.data.content ≠ data.content →
        (parse (format earlier.mtime)).isSome = true →
          earlier.mtime / 1000000000 < mtime / 1000000000
  | _ => True

def CurrentDistinguished (server : Server) : Prop :=
  ∀ earlier ∈ server.stored, ∀ cached, server.cache = some cached → Distinguished earlier cached

theorem currentDistinguished_step {server next : Server} {action : Action}
    (holds : CurrentDistinguished server) (taken : server.step action = some next) :
    CurrentDistinguished next ↔ LaterSecond server action := by
  rcases step_cache taken with ⟨index, data, mtime, rfl, found, cache, stored⟩ |
    ⟨cache, stored, other⟩
  · rw [CurrentDistinguished, cache, stored]
    simp only [Option.some.injEq, forall_eq', List.mem_append, List.mem_singleton]
    constructor
    · intro distinguished data' mtime' found' earlier member
      obtain ⟨rfl, rfl⟩ := Load.storing.inj (Option.some.inj (found.symm.trans found'))
      exact distinguished earlier (Or.inl member)
    · rintro later earlier (member | rfl)
      · exact later data mtime found earlier member
      · exact fun changed => absurd rfl changed
  · have unchanged : CurrentDistinguished next := by
      rw [CurrentDistinguished, cache, stored]
      exact holds
    refine iff_of_true unchanged ?_
    unfold LaterSecond
    split
    · intro data mtime found
      exact absurd found (other _ data mtime rfl)
    · trivial

theorem handleHealthAPI_ok {cache : Option Cached} {ifModifiedSince : Option HttpDate}
    {lastModified : HttpDate} {body : ByteString}
    (answered : handleHealthAPI cache ifModifiedSince = .ok lastModified body) :
    ∃ cached, cache = some cached ∧ lastModified = format cached.mtime ∧
      body = cached.data.content := by
  cases cache with
  | none => cases answered
  | some cached =>
      refine ⟨cached, rfl, ?_⟩
      rw [handleHealthAPI] at answered
      split at answered
      · split at answered
        · cases answered
        · obtain ⟨rfl, rfl⟩ := Response.ok.inj answered
          exact ⟨rfl, rfl⟩
      · obtain ⟨rfl, rfl⟩ := Response.ok.inj answered
        exact ⟨rfl, rfl⟩

/-- In a run, every follow-up of every response is answered as it should be exactly when
every load stores changed bytes with a time of a later second. -/
theorem conditional_requests_iff (actions : List Action) (final : Server)
    (run : follow Server.step {} actions = some final) :
    (∀ past middle rest first later, actions = past ++ middle ++ rest →
      follow Server.step {} past = some first →
      follow Server.step {} (past ++ middle) = some later →
      ∀ ifModifiedSince lastModified body,
        handleHealthAPI first.cache ifModifiedSince = .ok lastModified body →
          Revalidates later.cache lastModified body) ↔
      EachStep Server.step {} LaterSecond actions := by
  rw [← throughout_iff_eachStep (fun _ => True) CurrentDistinguished LaterSecond trivial
    (fun _ member => absurd member List.not_mem_nil) (fun _ _ _ _ _ => trivial)
    (fun _ _ _ _ holds taken => currentDistinguished_step holds taken) run]
  constructor
  · intro answers past rest server shape reached earlier member cached held
    obtain ⟨early, middle, first, rfl, before, cachedBefore⟩ :=
      (mem_stored_iff reached earlier).mp member
    have answered : handleHealthAPI first.cache none =
        .ok (format earlier.mtime) earlier.data.content := by
      rw [cachedBefore]
      rfl
    have valid := answers early middle rest first server shape before reached none _ _ answered
    rw [held, revalidates_iff] at valid
    exact valid
  · intro distinguished past middle rest first later shape before reached _ _ _ answered
    obtain ⟨earlier, held, rfl, rfl⟩ := handleHealthAPI_ok answered
    have member : earlier ∈ later.stored :=
      (mem_stored_iff reached earlier).mpr ⟨past, middle, first, rfl, before, held⟩
    have current := cache_eq_getLast reached
    rw [List.getLast?_eq_getLast_of_ne_nil (List.ne_nil_of_mem member)] at current
    rw [current, revalidates_iff]
    exact distinguished (past ++ middle) rest later shape reached earlier member _ current

def firstUpdate (mtime : Int) : List Action :=
  [.replaceFile [49] mtime, .load 0 .proceed, .load 0 .proceed, .load 0 .proceed]

def secondUpdate (mtime : Int) : List Action :=
  [.load 0 .proceed, .watch (.start true), .replaceFile [50] mtime, .watch .event, .watch .timer,
    .load 1 .proceed, .load 1 .proceed, .load 1 .proceed]

theorem later_second_revalidates :
    ∃ later, follow Server.step {} (firstUpdate 1000000000 ++ secondUpdate 2000000000) =
        some later ∧
      Revalidates later.cache ⟨1⟩ [49] := by
  refine ⟨_, rfl, (conditional_requests_iff (firstUpdate 1000000000 ++ secondUpdate 2000000000) _
    rfl).mpr ?_ (firstUpdate 1000000000) (secondUpdate 2000000000) [] _ _ rfl rfl rfl none ⟨1⟩ [49]
    rfl⟩
  have idle : ∀ {server : Server} {index : Nat} {load : Load},
      server.loads[index]? = some load → (∀ data mtime, load ≠ .storing data mtime) →
      LaterSecond server (.load index .proceed) := by
    intro server index load found distinct data mtime storing
    exact absurd (Option.some.inj (found.symm.trans storing)) (distinct data mtime)
  refine .cons trivial rfl (.cons (idle rfl nofun) rfl (.cons (idle rfl nofun) rfl (.cons ?_ rfl
    (.cons (idle rfl nofun) rfl (.cons trivial rfl (.cons trivial rfl (.cons trivial rfl
      (.cons trivial rfl (.cons (idle rfl nofun) rfl (.cons (idle rfl nofun) rfl
        (.cons ?_ rfl .nil)))))))))))
  · intro data mtime _ earlier member
    exact absurd member List.not_mem_nil
  · intro data mtime storing earlier member _ _
    obtain ⟨rfl, rfl⟩ := Load.storing.inj (Option.some.inj storing)
    obtain rfl := List.mem_singleton.mp member
    decide

theorem same_second_not_modified :
    ∃ first later, follow Server.step {} (firstUpdate 1000000000) = some first ∧
      follow Server.step {} (firstUpdate 1000000000 ++ secondUpdate 1500000000) = some later ∧
      handleHealthAPI first.cache none = .ok ⟨1⟩ [49] ∧
      handleHealthAPI later.cache none = .ok ⟨1⟩ [50] ∧
      handleHealthAPI later.cache (some ⟨1⟩) = .notModified ⟨1⟩ ∧
      ¬Revalidates later.cache ⟨1⟩ [49] := by
  refine ⟨_, _, rfl, rfl, rfl, rfl, rfl, ?_⟩
  rintro ⟨cached, held, unchanged, _⟩
  obtain rfl := Option.some.inj held
  exact absurd (unchanged ⟨_, rfl⟩) (by decide)

end EdgeHealthd.WebServer
