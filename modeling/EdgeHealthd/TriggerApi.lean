import EdgeHealthd.TriggerApiCore
import EdgeHealthd.TriggerLimit

/-!
What a click can do, over every interleaving of requests, bus and daemon. The daemon is only
asked for requests that pass every check, once for each, and the page repeats the daemon's own
answer; whatever the number of requests, the server holds one connection to the bus.
-/

namespace EdgeHealthd.TriggerApi

open Machine

section Admission

variable (server : ServerConfig) (parseHost : String → Option String)

structure Admitted (request : Request) : Prop where
  peer : server.localOnly = true → localOnlyMiddleware request.remoteAddr = .next
  method : request.method = "POST"
  path : request.path = "/api/trigger"
  origin : request.origin = "" ∨ ∃ host, parseHost request.origin = some host ∧ host ≠ "" ∧
    (host = request.host ∨ host ∈ server.allowedOrigins)
  header : request.xEdgeHealth = "1"

variable {server parseHost}

theorem isOriginAllowed_iff {request : Request} {allowed : List String} :
    isOriginAllowed parseHost request allowed = true ↔
      request.origin = "" ∨ ∃ host, parseHost request.origin = some host ∧ host ≠ "" ∧
        (host = request.host ∨ host ∈ allowed) := by
  unfold isOriginAllowed
  by_cases absent : request.origin = ""
  · simp [absent]
  · cases parsed : parseHost request.origin with
    | none => simp [absent]
    | some host =>
        by_cases empty : host = ""
        · simp [absent, empty]
        · by_cases same : host = request.host
          · simp [absent, same ▸ empty, same]
          · simp [absent, empty, same]

theorem setupRoutes_eq_handleTrigger {method path : String} :
    setupRoutes method path = .handleTrigger ↔ method = "POST" ∧ path = "/api/trigger" := by
  unfold setupRoutes
  by_cases reads : method = "GET" ∨ method = "HEAD"
  · have other : method ≠ "POST" := by
      rintro rfl
      revert reads
      decide
    rw [if_pos reads]
    constructor
    · intro found
      repeat' split at found
      all_goals cases found
    · intro post
      exact absurd post.1 other
  · simp only [if_neg reads]
    split
    · simp [*]
    · simp [*]

variable (server parseHost) in
theorem handleRequest_cases (request : Request) :
    (handleRequest server parseHost request = .getting ∧ Admitted server parseHost request) ∨
      handleRequest server parseHost request = .elsewhere ∨
      ∃ response, handleRequest server parseHost request = .answered response ∧
        requestCollection (some response) = .unavailable := by
  unfold handleRequest
  generalize checked :
    (if server.localOnly then localOnlyMiddleware request.remoteAddr else Handled.next) = handled
  cases handled with
  | error text code =>
      refine Or.inr (Or.inr ⟨_, rfl, ?_⟩)
      simp only [requestCollection]
      split <;> rfl
  | next =>
      dsimp only
      split
      · exact Or.inr (Or.inl rfl)
      · rename_i routed
        split
        · exact Or.inr (Or.inr ⟨_, rfl, rfl⟩)
        · rename_i allowed
          split
          · exact Or.inr (Or.inr ⟨_, rfl, rfl⟩)
          · rename_i header
            obtain ⟨method, path⟩ := setupRoutes_eq_handleTrigger.mp (not_not.mp routed)
            refine Or.inl ⟨rfl, ?_, method, path, ?_, not_not.mp header⟩
            · intro only
              rwa [if_pos only] at checked
            · exact isOriginAllowed_iff.mp (by simpa using allowed)

theorem requestCollection_triggered (accepted : Bool) :
    requestCollection (some (.triggered accepted)) =
      if accepted then .requested else .rateLimited := by
  cases accepted <;> rfl

end Admission

namespace Network

variable (config : Config) (loadPct : CpuLoad → Double) (server : ServerConfig)
  (parseHost : String → Option String)

def request (network : Network) (index : Nat) : Option Request :=
  network.clicks[index]?.map Click.request

def waiting : Progress → Prop
  | .calling _ | .replied _ => True
  | _ => False

inductive Advance (network : Network) : NetworkAction → Network → Prop where
  | daemon {action : Action} {daemon : System}
      (taken : EdgeHealthd.step config loadPct network.daemon action = some daemon) :
      Advance network (.daemon action) { network with daemon }
  | arrive (request : Request) :
      Advance network (.arrive request) { network with clicks := network.clicks ++ [{ request }] }
  | handle {index : Nat} {request : Request} (found : network.request index = some request)
      (arrived : network.progress index = some .arrived) :
      Advance network (.handle index)
        (network.setProgress index (TriggerApi.handleRequest server parseHost request))
  | got {index conn : Nat} {dialled : Bool} (getting : network.progress index = some .getting)
      (live : (network.client.get dialled).2 = some conn) :
      Advance network (.get index dialled)
        (({ network with client := (network.client.get dialled).1 }).setProgress index
          (.calling conn))
  | gotNone {index : Nat} {dialled : Bool} (getting : network.progress index = some .getting)
      (dead : (network.client.get dialled).2 = none) :
      Advance network (.get index dialled)
        (({ network with client := (network.client.get dialled).1 }).setProgress index
          (.answered .busUnavailable))
  | call {index conn : Nat} {now : SteadyTime} {daemon : System}
      (calling : network.progress index = some (.calling conn))
      (taken : EdgeHealthd.step config loadPct network.daemon (.bus (.triggerSnapshot now)) =
        some daemon) :
      Advance network (.call index now)
        (({ network with
          daemon
          answers := network.answers ++
            [Answer.mk index now (!triggerLimited config network.daemon now)] }).setProgress index
          (.replied (!triggerLimited config network.daemon now)))
  | reply {index : Nat} {accepted : Bool}
      (replied : network.progress index = some (.replied accepted)) :
      Advance network (.reply index)
        (network.setProgress index (.answered (.triggered accepted)))
  | fail {index : Nat} {progress : Progress} (error : String)
      (current : network.progress index = some progress) (unanswered : waiting progress) :
      Advance network (.fail index error)
        (network.setProgress index (.answered (.badGateway error)))
  | foreignReply {index conn : Nat} (calling : network.progress index = some (.calling conn)) :
      Advance network (.foreignReply index)
        (network.setProgress index (.answered .unexpectedReply))
  | lose {conn : Nat} {client : DbusClient} (lost : network.client.lose conn = some client) :
      Advance network (.lose conn) { network with client }
  | shutdown : Advance network .shutdown { network with client := network.client.close }

variable {config loadPct server parseHost} {network next : Network}

theorem step_advance {action : NetworkAction}
    (taken : network.step config loadPct server parseHost action = some next) :
    Advance config loadPct server parseHost network action next := by
  cases action with
  | daemon action =>
      obtain ⟨daemon, stepped, rest⟩ := Option.bind_eq_some_iff.mp taken
      obtain rfl := Option.some.inj rest
      exact .daemon stepped
  | arrive request =>
      obtain rfl := Option.some.inj taken
      exact .arrive request
  | handle index =>
      obtain ⟨click, found, rest⟩ := Option.bind_eq_some_iff.mp taken
      have asked : network.request index = some click.request := by rw [request, found]; rfl
      have reached : network.progress index = some click.progress := by rw [progress, found]; rfl
      split at rest
      · rename_i arrived
        obtain rfl := Option.some.inj rest
        exact .handle asked (reached.trans (congrArg some arrived))
      · cases rest
  | get index dialled =>
      simp only [step] at taken
      split at taken
      · rename_i getting
        cases result : (network.client.get dialled).2 with
        | some conn =>
            simp only [result, Option.some.injEq] at taken
            subst taken
            exact .got getting result
        | none =>
            simp only [result, Option.some.injEq] at taken
            subst taken
            exact .gotNone getting result
      · cases taken
  | call index now =>
      simp only [step] at taken
      split at taken
      · rename_i conn calling
        obtain ⟨daemon, stepped, rest⟩ := Option.bind_eq_some_iff.mp taken
        obtain rfl := Option.some.inj rest
        exact .call calling stepped
      · cases taken
  | reply index =>
      simp only [step] at taken
      split at taken
      · rename_i accepted replied
        obtain rfl := Option.some.inj taken
        exact .reply replied
      · cases taken
  | fail index error =>
      simp only [step] at taken
      split at taken
      · rename_i conn calling
        obtain rfl := Option.some.inj taken
        exact .fail error calling trivial
      · rename_i accepted replied
        obtain rfl := Option.some.inj taken
        exact .fail error replied trivial
      · cases taken
  | foreignReply index =>
      simp only [step] at taken
      split at taken
      · rename_i conn calling
        obtain rfl := Option.some.inj taken
        exact .foreignReply calling
      · cases taken
  | lose conn =>
      obtain ⟨client, lost, rfl⟩ := Option.map_eq_some_iff.mp taken
      exact .lose lost
  | shutdown =>
      obtain rfl := Option.some.inj taken
      exact .shutdown

section Clicks

variable {index other : Nat} {progress : Progress}

theorem request_setProgress :
    (network.setProgress index progress).request other = network.request other := by
  simp only [request, setProgress, List.getElem?_modify]
  cases network.clicks[other]? with
  | none => rfl
  | some click => split <;> rfl

theorem progress_setProgress (known : (network.progress index).isSome) :
    (network.setProgress index progress).progress other =
      if index = other then some progress else network.progress other := by
  simp only [Network.progress, setProgress, List.getElem?_modify] at known ⊢
  split
  · rename_i same
    subst same
    obtain ⟨click, found⟩ := Option.isSome_iff_exists.mp (Option.isSome_map ▸ known)
    rw [found]
    rfl
  · cases network.clicks[other]? <;> rfl

variable (server parseHost) in
def Kept (network : Network) (index : Nat) : Progress → Prop
  | .arrived | .elsewhere => ∀ answer ∈ network.answers, answer.click ≠ index
  | .getting | .calling _ =>
      (∃ request, network.request index = some request ∧ Admitted server parseHost request) ∧
        ∀ answer ∈ network.answers, answer.click ≠ index
  | .replied accepted => ∃ now, Answer.mk index now accepted ∈ network.answers
  | .answered response =>
      (requestCollection (some response) = .unavailable ∧
        ((∃ error, response = .badGateway error) ∨
          ∀ answer ∈ network.answers, answer.click ≠ index)) ∨
      ∃ accepted now, response = .triggered accepted ∧
        Answer.mk index now accepted ∈ network.answers

variable (server parseHost) in
structure Accounted (network : Network) : Prop where
  once : (network.answers.map Answer.click).Nodup
  admitted : ∀ answer ∈ network.answers, ∃ request,
    network.request answer.click = some request ∧ Admitted server parseHost request
  clicks : ∀ index progress, network.progress index = some progress →
    Kept server parseHost network index progress

theorem Kept.change (kept : Kept server parseHost network index progress)
    (requests : next.request index = network.request index) {newer : List Answer}
    (answers : next.answers = network.answers ++ newer)
    (others : ∀ answer ∈ newer, answer.click ≠ index) :
    Kept server parseHost next index progress := by
  have unanswered (none : ∀ answer ∈ network.answers, answer.click ≠ index) :
      ∀ answer ∈ next.answers, answer.click ≠ index := by
    intro answer member
    rcases List.mem_append.mp (answers ▸ member) with before | new
    · exact none answer before
    · exact others answer new
  have still {answer : Answer} (member : answer ∈ network.answers) : answer ∈ next.answers :=
    answers ▸ List.mem_append_left newer member
  cases progress with
  | arrived | elsewhere => exact unanswered kept
  | getting | calling conn => exact ⟨requests ▸ kept.1, unanswered kept.2⟩
  | replied accepted =>
      obtain ⟨now, member⟩ := kept
      exact ⟨now, still member⟩
  | answered response =>
      rcases kept with ⟨failed, unheard⟩ | ⟨accepted, now, same, member⟩
      · exact Or.inl ⟨failed, unheard.imp_right unanswered⟩
      · exact Or.inr ⟨accepted, now, same, still member⟩

theorem Accounted.same (accounted : Accounted server parseHost network)
    (clicks : next.clicks = network.clicks) (answers : next.answers = network.answers) :
    Accounted server parseHost next := by
  have requests (index : Nat) : next.request index = network.request index := by
    rw [request, clicks, request]
  refine ⟨answers ▸ accounted.once, ?_, ?_⟩
  · intro answer member
    rw [requests]
    exact accounted.admitted answer (answers ▸ member)
  · intro index progress reached
    rw [Network.progress, clicks] at reached
    exact (accounted.clicks index progress reached).change (requests index)
      (answers.trans (List.append_nil _).symm) nofun

theorem Accounted.sameClient (accounted : Accounted server parseHost network)
    (client : DbusClient) : Accounted server parseHost { network with client } :=
  accounted.same rfl rfl

/-- One request gets on, and all the others stay where they are. -/
theorem Accounted.move (once : (network.answers.map Answer.click).Nodup)
    (admitted : ∀ answer ∈ network.answers, ∃ request,
      network.request answer.click = some request ∧ Admitted server parseHost request)
    (others : ∀ other, other ≠ index → ∀ progress, network.progress other = some progress →
      Kept server parseHost network other progress)
    (known : (network.progress index).isSome) (kept : Kept server parseHost network index progress) :
    Accounted server parseHost (network.setProgress index progress) := by
  refine ⟨once, ?_, ?_⟩
  · intro answer member
    rw [request_setProgress]
    exact admitted answer member
  · intro other reached found
    rw [progress_setProgress known] at found
    have same : Kept server parseHost network other reached := by
      split at found
      · rename_i moved
        obtain rfl := Option.some.inj found
        exact moved ▸ kept
      · rename_i moved
        exact others other (Ne.symm moved) reached found
    exact same.change request_setProgress (List.append_nil _).symm nofun

theorem Accounted.setProgress (accounted : Accounted server parseHost network)
    (known : (network.progress index).isSome) (kept : Kept server parseHost network index progress) :
    Accounted server parseHost (network.setProgress index progress) :=
  .move accounted.once accounted.admitted (fun other _ => accounted.clicks other) known kept

theorem Accounted.arrive (accounted : Accounted server parseHost network) (request : Request) :
    Accounted server parseHost { network with clicks := network.clicks ++ [{ request }] } := by
  have requests {index : Nat} {asked : Request} (found : network.request index = some asked) :
      Network.request { network with clicks := network.clicks ++ [{ request }] } index =
        network.request index := by
    obtain ⟨click, here, rfl⟩ := Option.map_eq_some_iff.mp found
    have bound := (List.getElem?_eq_some_iff.mp here).1
    rw [Network.request, List.getElem?_append_left bound]
    rfl
  refine ⟨accounted.once, ?_, ?_⟩
  · intro answer member
    obtain ⟨asked, found, passed⟩ := accounted.admitted answer member
    exact ⟨asked, (requests found).trans found, passed⟩
  · intro index progress reached
    obtain ⟨click, here, rfl⟩ := Option.map_eq_some_iff.mp reached
    by_cases old : index < network.clicks.length
    · rw [List.getElem?_append_left old] at here
      have before := accounted.clicks index click.progress (by rw [Network.progress, here]; rfl)
      have asked : network.request index = some click.request := by rw [Network.request, here]; rfl
      exact before.change (requests asked) (List.append_nil _).symm nofun
    · rw [List.getElem?_append_right (Nat.le_of_not_lt old)] at here
      obtain rfl := List.mem_singleton.mp (List.mem_of_getElem? here)
      intro answer member same
      obtain ⟨asked, found, _⟩ := accounted.admitted answer member
      obtain ⟨click, present, _⟩ := Option.map_eq_some_iff.mp found
      exact old (same ▸ (List.getElem?_eq_some_iff.mp present).1)

theorem Accounted.call (accounted : Accounted server parseHost network) {conn : Nat}
    (calling : network.progress index = some (.calling conn)) (daemon : System)
    (now : SteadyTime) (accepted : Bool) :
    Accounted server parseHost
      (({ network with
        daemon
        answers := network.answers ++ [Answer.mk index now accepted] }).setProgress index
        (.replied accepted)) := by
  obtain ⟨asked, unanswered⟩ := accounted.clicks index _ calling
  have known : (network.progress index).isSome := by rw [calling]; rfl
  have recorded : Answer.mk index now accepted ∈
      network.answers ++ [Answer.mk index now accepted] :=
    List.mem_append_right _ (List.mem_singleton.mpr rfl)
  refine .move ?_ ?_ ?_ known ⟨now, recorded⟩
  · rw [List.map_append, List.nodup_append]
    refine ⟨accounted.once, List.nodup_singleton _, ?_⟩
    intro click member other single
    obtain ⟨answer, inside, rfl⟩ := List.mem_map.mp member
    rw [List.mem_singleton.mp single]
    exact unanswered answer inside
  · intro answer member
    rcases List.mem_append.mp member with before | new
    · exact accounted.admitted answer before
    · rw [List.mem_singleton.mp new]
      exact asked
  · intro other different progress reached
    refine (accounted.clicks other progress reached).change rfl rfl ?_
    intro answer new
    rw [List.mem_singleton.mp new]
    exact different.symm

theorem Accounted.step (accounted : Accounted server parseHost network) {action : NetworkAction}
    (advance : Advance config loadPct server parseHost network action next) :
    Accounted server parseHost next := by
  have keptAt {index : Nat} {progress : Progress}
      (reached : network.progress index = some progress) :
      (network.progress index).isSome ∧ Kept server parseHost network index progress :=
    ⟨by rw [reached]; rfl, accounted.clicks index progress reached⟩
  cases advance with
  | daemon taken => exact accounted.same rfl rfl
  | arrive request => exact accounted.arrive request
  | handle found arrived =>
      rename_i index request
      obtain ⟨known, unanswered⟩ := keptAt arrived
      refine accounted.setProgress known ?_
      rcases handleRequest_cases server parseHost request with
        ⟨passed, admitted⟩ | passed | ⟨response, passed, failed⟩
      · rw [passed]
        exact ⟨⟨request, found, admitted⟩, unanswered⟩
      · rw [passed]
        exact unanswered
      · rw [passed]
        exact Or.inl ⟨failed, Or.inr unanswered⟩
  | got getting live =>
      obtain ⟨known, kept⟩ := keptAt getting
      exact (accounted.sameClient _).setProgress known kept
  | gotNone getting dead =>
      obtain ⟨known, _, unanswered⟩ := keptAt getting
      exact (accounted.sameClient _).setProgress known (Or.inl ⟨rfl, Or.inr unanswered⟩)
  | call calling taken => exact accounted.call calling _ _ _
  | reply replied =>
      obtain ⟨known, now, member⟩ := keptAt replied
      exact accounted.setProgress known (Or.inr ⟨_, now, rfl, member⟩)
  | fail error current unanswered =>
      exact accounted.setProgress (keptAt current).1 (Or.inl ⟨rfl, Or.inl ⟨error, rfl⟩⟩)
  | foreignReply calling =>
      obtain ⟨known, _, unanswered⟩ := keptAt calling
      exact accounted.setProgress known (Or.inl ⟨rfl, Or.inr unanswered⟩)
  | lose lost => exact accounted.sameClient _
  | shutdown => exact accounted.sameClient _

end Clicks

section Daemon

def NetworkAction.daemonStep : NetworkAction → Option Action
  | .daemon action => some action
  | .call _ now => some (.bus (.triggerSnapshot now))
  | _ => none

theorem acceptedTriggers_append {past : List Action} {state middle : System}
    (run : follow (EdgeHealthd.step config loadPct) state past = some middle)
    (later : List Action) :
    acceptedTriggers config loadPct state (past ++ later) =
      acceptedTriggers config loadPct state past ++ acceptedTriggers config loadPct middle later := by
  induction past generalizing state with
  | nil =>
      obtain rfl := Option.some.inj run
      rfl
  | cons action rest ih =>
      obtain ⟨next, taken, run⟩ := follow_cons_some.mp run
      rw [List.cons_append, acceptedTriggers_cons config loadPct taken,
        acceptedTriggers_cons config loadPct taken, ih run, List.append_assoc]

variable (config loadPct) in
/-- The answers to clicks are among what the daemon answered; it refused one for an accepted
call that lies less than the interval before. -/
structure Answered (start : System) (actions : List Action) (network : Network) : Prop where
  run : follow (EdgeHealthd.step config loadPct) start actions = some network.daemon
  accepted : ((network.answers.filter Answer.accepted).map Answer.now).Sublist
    (acceptedTriggers config loadPct start actions)
  refused : ∀ answer ∈ network.answers, answer.accepted = false →
    ∃ time ∈ acceptedTriggers config loadPct start actions,
      answer.now - time < seconds config.triggerMinInterval

variable {start : System} {actions : List Action}

theorem Answered.further (answered : Answered config loadPct start actions network)
    {action : Action} {newer : List Answer}
    (taken : EdgeHealthd.step config loadPct network.daemon action = some next.daemon)
    (answers : next.answers = network.answers ++ newer)
    (accepted : ((newer.filter Answer.accepted).map Answer.now).Sublist
      (action.acceptedReading next.daemon).toList)
    (refused : ∀ answer ∈ newer, answer.accepted = false →
      ∃ time, network.daemon.lastTriggerTime = some time ∧
        answer.now - time < seconds config.triggerMinInterval)
    (fresh : start.lastTriggerTime = none) :
    Answered config loadPct start (actions ++ [action]) next := by
  have grown : acceptedTriggers config loadPct start (actions ++ [action]) =
      acceptedTriggers config loadPct start actions ++
        (action.acceptedReading next.daemon).toList := by
    rw [acceptedTriggers_append answered.run, acceptedTriggers_cons config loadPct taken]
    exact congrArg _ (List.append_nil _)
  refine ⟨follow_snoc_some.mpr ⟨network.daemon, answered.run, taken⟩, ?_, ?_⟩
  · rw [grown, answers, List.filter_append, List.map_append]
    exact answered.accepted.append accepted
  · rw [grown]
    intro answer member no
    rcases List.mem_append.mp (answers ▸ member) with before | new
    · obtain ⟨time, earlier, near⟩ := answered.refused answer before no
      exact ⟨time, List.mem_append_left _ earlier, near⟩
    · obtain ⟨time, last, near⟩ := refused answer new no
      rw [run_lastTriggerTime config loadPct answered.run, fresh, Option.or_none] at last
      exact ⟨time, List.mem_append_left _ (List.mem_of_getLast? last), near⟩

theorem triggerLimited_last {state : System} {now : SteadyTime}
    (limited : triggerLimited config state now = true) :
    ∃ time, state.lastTriggerTime = some time ∧
      now - time < seconds config.triggerMinInterval := by
  simp only [triggerLimited, Bool.and_eq_true, Option.any_eq_true, decide_eq_true_eq] at limited
  obtain ⟨_, time, last, near⟩ := limited
  exact ⟨time, last, near⟩

theorem Answered.step (answered : Answered config loadPct start actions network)
    (fresh : start.lastTriggerTime = none) {action : NetworkAction}
    (advance : Advance config loadPct server parseHost network action next) :
    Answered config loadPct start (actions ++ (NetworkAction.daemonStep action).toList) next := by
  have kept (same : next.daemon = network.daemon) (answers : next.answers = network.answers) :
      Answered config loadPct start (actions ++ []) next := by
    rw [List.append_nil]
    exact ⟨same ▸ answered.run, answers ▸ answered.accepted, answers ▸ answered.refused⟩
  cases advance with
  | daemon taken =>
      exact answered.further taken (List.append_nil _).symm (List.nil_sublist _)
        (fun _ member => absurd member List.not_mem_nil) fresh
  | call calling taken =>
      refine answered.further taken rfl ?_ ?_ fresh
      · rcases step_triggerSnapshot config loadPct taken with ⟨limited, _, _⟩ | ⟨free, woken, _⟩
        · simp [limited]
        · simp [free, Action.acceptedReading, setProgress, woken, Action.triggerReading]
      · intro answer single no
        rw [List.mem_singleton.mp single] at no ⊢
        exact triggerLimited_last (by simpa using no)
  | _ => exact kept rfl rfl

end Daemon

section Runs

variable {start : System} {dialled : Bool} {actions : List NetworkAction}

theorem accounted_run
    (run : follow (step config loadPct server parseHost) (Network.start start dialled) actions =
      some network) : Accounted server parseHost network := by
  have nothing : Accounted server parseHost (Network.start start dialled) :=
    ⟨List.nodup_nil, nofun, nofun⟩
  exact follow_preserves (Accounted server parseHost) (fun _ => True)
    (fun _ _ _ _ accounted taken => accounted.step (step_advance taken)) run
    (fun _ _ => trivial) nothing

theorem answered_run (fresh : start.lastTriggerTime = none)
    (run : follow (step config loadPct server parseHost) (Network.start start dialled) actions =
      some network) :
    Answered config loadPct start (actions.filterMap NetworkAction.daemonStep) network := by
  refine follow_induction
    (fun past network =>
      Answered config loadPct start (past.filterMap NetworkAction.daemonStep) network)
    ⟨rfl, List.Sublist.refl _, fun _ member => absurd member List.not_mem_nil⟩ ?_ run
  intro past state action next _ answered taken
  have further := answered.step fresh (step_advance taken)
  rw [List.filterMap_append]
  cases own : NetworkAction.daemonStep action with
  | none =>
      rw [own] at further
      rwa [List.filterMap_cons_none own]
  | some daemonAction =>
      rw [own] at further
      rwa [List.filterMap_cons_some own]

end Runs

/-- What the page says about a click, by its response and by the daemon's answer to it. -/
inductive Reported (network : Network) (index : Nat) : Response → CollectOutcome → Prop where
  | requested {now : SteadyTime} (answered : Answer.mk index now true ∈ network.answers) :
      Reported network index (.triggered true) .requested
  | rateLimited {now : SteadyTime} (answered : Answer.mk index now false ∈ network.answers) :
      Reported network index (.triggered false) .rateLimited
  -- The call failed; the daemon may have answered it before.
  | lost (error : String) : Reported network index (.badGateway error) .unavailable
  | unanswered {response : Response} (failed : ∀ accepted, response ≠ .triggered accepted)
      (silent : ∀ answer ∈ network.answers, answer.click ≠ index) :
      Reported network index response .unavailable

theorem Accounted.reports (accounted : Accounted server parseHost network) {index : Nat}
    {response : Response} (answered : network.progress index = some (.answered response)) :
    Reported network index response (requestCollection (some response)) := by
  rcases accounted.clicks index _ answered with ⟨failed, unheard⟩ | ⟨accepted, now, rfl, member⟩
  · rw [failed]
    rcases unheard with ⟨error, rfl⟩ | silent
    · exact .lost error
    · refine .unanswered ?_ silent
      rintro accepted rfl
      rw [requestCollection_triggered] at failed
      cases accepted <;> cases failed
  · rw [requestCollection_triggered]
    cases accepted with
    | true => exact .requested member
    | false => exact .rateLimited member

/-- Over every interleaving of requests, bus and daemon: `TriggerSnapshot` is called for admitted
requests only and once for each, the page repeats the daemon's answer, answers that accept are
at least the interval apart, and one that refuses follows an accepted call within it. -/
theorem clicks_answered (config : Config) (loadPct : CpuLoad → Double) (server : ServerConfig)
    (parseHost : String → Option String) (healthManager : Option HealthManager)
    (crashState : StateFile) (pstore : Pstore) (dialled : Bool) (actions : List NetworkAction)
    (network : Network)
    (run : follow (step config loadPct server parseHost)
      (Network.start (System.start config healthManager crashState pstore) dialled) actions =
        some network) :
    (∀ answer ∈ network.answers, ∃ request,
      network.request answer.click = some request ∧ Admitted server parseHost request) ∧
    (network.answers.map Answer.click).Nodup ∧
    (∀ index response, network.progress index = some (.answered response) →
      Reported network index response (requestCollection (some response))) ∧
    (0 < config.triggerMinInterval → Spacing.Spaced (seconds config.triggerMinInterval)
      ((network.answers.filter Answer.accepted).map Answer.now)) ∧
    ∀ answer ∈ network.answers, answer.accepted = false →
      ∃ time ∈ acceptedTriggers config loadPct
          (System.start config healthManager crashState pstore)
          (actions.filterMap NetworkAction.daemonStep),
        answer.now - time < seconds config.triggerMinInterval := by
  have accounted := accounted_run run
  have answered := answered_run rfl run
  refine ⟨accounted.admitted, accounted.once, fun _ _ => accounted.reports, ?_, answered.refused⟩
  intro positive
  have gap : 0 ≤ seconds config.triggerMinInterval := by
    simp only [seconds]
    omega
  have spaced := Spacing.passed_spaced (seconds config.triggerMinInterval) gap
    ((actions.filterMap NetworkAction.daemonStep).filterMap Action.triggerReading) none
  have admits := run_admits config loadPct positive answered.run
  rw [show (System.start config healthManager crashState pstore).lastTriggerTime = none from rfl]
    at admits
  rw [← admits] at spaced
  exact List.Pairwise.sublist answered.accepted spaced

section Connections

variable {client after : DbusClient} {dropped : Nat}

def live (client : DbusClient) : Nat := if client.conn.any client.isConnected then 1 else 0

/-- Only the connection that the client holds may be open, and for each other one something
was dropped. -/
structure Held (client : DbusClient) (dropped : Nat) : Prop where
  closed : ∀ index conn, client.conns[index]? = some conn → conn.closed = false →
    client.conn = some index
  few : client.conns.length ≤ dropped + live client

theorem live_le_one (client : DbusClient) : live client ≤ 1 := by
  unfold live
  split <;> omega

theorem length_close : client.close.conns.length = client.conns.length := by
  unfold DbusClient.close
  split
  · rfl
  · exact List.length_set

theorem Held.close_closed (held : Held client dropped) {index : Nat} {conn : BusConn}
    (found : client.close.conns[index]? = some conn) : conn.closed = true := by
  rw [← Bool.not_eq_false]
  intro stillOpen
  unfold DbusClient.close at found
  split at found
  · rename_i nothing
    cases nothing.symm.trans (held.closed index conn found stillOpen)
  · rename_i current holding
    simp only [DbusClient.closeConn, List.getElem?_set] at found
    split at found
    · split at found
      · obtain rfl := Option.some.inj found
        cases stillOpen
      · cases found
    · rename_i different
      have same := holding.symm.trans (held.closed index conn found stillOpen)
      exact different (Option.some.inj same)

theorem Held.close (held : Held client dropped) (live : Nat)
    (few : client.conns.length ≤ live) : Held client.close live := by
  refine ⟨?_, ?_⟩
  · intro index conn found stillOpen
    cases (held.close_closed found).symm.trans stillOpen
  · rw [length_close]
    exact Nat.le_add_right_of_le few

theorem Held.dial (held : Held client dropped) (few : client.conns.length ≤ dropped) :
    Held client.close.dial dropped := by
  have connected : client.close.dial.conn.any client.close.dial.isConnected = true := by
    simp [DbusClient.dial, DbusClient.isConnected]
  refine ⟨?_, ?_⟩
  · intro index conn found stillOpen
    simp only [DbusClient.dial] at found ⊢
    by_cases old : index < client.close.conns.length
    · rw [List.getElem?_append_left old] at found
      cases (held.close_closed found).symm.trans stillOpen
    · have bound := (List.getElem?_eq_some_iff.mp found).1
      rw [List.length_append, List.length_singleton] at bound
      congr
      omega
  · rw [live, if_pos connected, DbusClient.dial, List.length_append, length_close]
    exact Nat.succ_le_succ few

theorem Held.get (held : Held client dropped) (dialled : Bool) :
    Held (client.get dialled).1 dropped := by
  unfold DbusClient.get
  split
  · exact held
  · rename_i dead
    have none : live client = 0 := by
      unfold live
      rw [if_neg]
      cases holding : client.conn with
      | none => exact Bool.false_ne_true
      | some index => simpa [holding] using dead
    have few : client.conns.length ≤ dropped := by
      have bound := held.few
      omega
    split
    · exact held.dial few
    · exact held.close dropped few

theorem Held.lose (held : Held client dropped) {index : Nat}
    (lost : client.lose index = some after) : Held after (dropped + 1) := by
  unfold DbusClient.lose at lost
  split at lost
  · obtain rfl := Option.some.inj lost
    refine ⟨?_, ?_⟩
    · intro other conn found stillOpen
      rw [List.getElem?_modify] at found
      obtain ⟨before, here, rfl⟩ := Option.map_eq_some_iff.mp found
      refine held.closed other before here ?_
      split at stillOpen
      · exact stillOpen
      · exact stillOpen
    · have few := held.few
      have one := live_le_one client
      simp only [List.length_modify]
      omega
  · cases lost

def NetworkAction.drops : NetworkAction → Bool
  | .lose _ | .shutdown => true
  | _ => false

theorem Held.step (held : Held network.client dropped) {action : NetworkAction}
    (advance : Advance config loadPct server parseHost network action next) :
    Held next.client (dropped + if NetworkAction.drops action then 1 else 0) := by
  cases advance with
  | got getting live => exact held.get _
  | gotNone getting dead => exact held.get _
  | lose lost => exact held.lose lost
  | shutdown =>
      refine held.close (dropped + 1) ?_
      have few := held.few
      have one := live_le_one network.client
      omega
  | daemon taken | call calling taken => exact held
  | arrive request | handle found arrived => exact held
  | reply replied | fail error current unanswered | foreignReply calling => exact held

/-- However many requests there are, at most one connection to the bus is open, and the number
dialled is at most one more than the losses and the shutdowns together. -/
theorem one_bus_connection (config : Config) (loadPct : CpuLoad → Double) (server : ServerConfig)
    (parseHost : String → Option String) (start : System) (dialled : Bool)
    (actions : List NetworkAction) (network : Network)
    (run : follow (step config loadPct server parseHost) (Network.start start dialled) actions =
      some network) :
    (∀ index conn, network.client.conns[index]? = some conn → conn.closed = false →
      network.client.conn = some index) ∧
      network.client.conns.length ≤ 1 + actions.countP NetworkAction.drops := by
  have first : Held (Network.start start dialled).client 0 :=
    Held.get ⟨fun _ _ found => absurd found (by simp), Nat.le_refl 0⟩ dialled
  have held : Held network.client (actions.countP NetworkAction.drops) := by
    refine follow_induction
      (fun past network => Held network.client (past.countP NetworkAction.drops)) first ?_ run
    intro past state action next _ before taken
    have further := before.step (step_advance taken)
    rwa [List.countP_append, List.countP_singleton]
  refine ⟨held.closed, ?_⟩
  have few := held.few
  have one := live_le_one network.client
  omega

end Connections

section Examples

def pageRequest : Request where
  method := "POST"
  path := "/api/trigger"
  host := "gateway:8443"
  remoteAddr := "192.168.1.5:52100".toList
  origin := "https://gateway:8443"
  xEdgeHealth := "1"

def pageHost (origin : String) : Option String :=
  if origin = "https://gateway:8443" then some "gateway:8443" else none

def twoClicks : List NetworkAction :=
  firstCycle.map NetworkAction.daemon ++
    [.arrive pageRequest, .arrive pageRequest, .handle 0, .get 0 true, .call 0 (seconds 10),
      .daemon (.bus .triggerWake), .lose 0, .reply 0, .handle 1, .get 1 true,
      .call 1 (seconds 12), .reply 1]

theorem second_click_rate_limited :
    ∃ network, follow (step {} (fun _ => .finite 0) {} pageHost)
        (Network.start (System.start {} (some {}) .missing {}) true) twoClicks = some network ∧
      Reported network 0 (.triggered true) .requested ∧
      Reported network 1 (.triggered false) .rateLimited := by
  refine ⟨_, rfl, ?_⟩
  have repeated := (clicks_answered {} (fun _ => .finite 0) {} pageHost (some {}) .missing {} true
    twoClicks _ rfl).2.2.1
  exact ⟨repeated 0 (.triggered true) rfl, repeated 1 (.triggered false) rfl⟩

theorem second_click_dials_again :
    ∃ network, follow (step {} (fun _ => .finite 0) {} pageHost)
        (Network.start (System.start {} (some {}) .missing {}) true) twoClicks = some network ∧
      network.client.conns = [⟨false, true⟩, ⟨true, false⟩] ∧ network.client.conn = some 1 := by
  refine ⟨_, rfl, rfl, ?_⟩
  exact (one_bus_connection {} (fun _ => .finite 0) {} pageHost
    (System.start {} (some {}) .missing {}) true twoClicks _ rfl).1 1 ⟨true, false⟩ rfl rfl

end Examples

end Network

end EdgeHealthd.TriggerApi
