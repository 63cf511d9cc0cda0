import EdgeHealthd.EthtoolLinkCore
import EdgeHealthd.Library.Machine

/-!
The life of the ethtool socket over any sequence of queries. Every path of a query
leaves either no socket and nothing cached, or a socket with what was resolved on it;
the one socket error that does not close the socket is that of the family resolve.
-/

namespace EdgeHealthd

def Replies.status : Replies → ReqStatus
  | .failed => .socketError
  | .closed => .ok
  | .received reply rest =>
      if reply.ret ≤ mnlCbStop then if reply.ret == mnlCbError then .msgError else .ok
      else rest.status

/-- How an exchange ends depends only on its send and its receives. -/
def Exchange.status (exchange : Exchange) : ReqStatus :=
  if exchange.sent then exchange.replies.status else .socketError

theorem receiveReplies_status {Data : Type} (cb : Data → List NlAttr → Data) (replies : Replies)
    (data : Data) : (receiveReplies cb replies data).1 = replies.status := by
  induction replies generalizing data with
  | failed => rfl
  | closed => rfl
  | received reply rest ih =>
      unfold receiveReplies Replies.status
      dsimp only
      split
      · rfl
      · exact ih _

theorem runRequest_status {Data : Type} (cb : Data → List NlAttr → Data) (exchange : Exchange)
    (data : Data) : (runRequest cb exchange data).1 = exchange.status := by
  unfold runRequest Exchange.status
  split
  · exact receiveReplies_status cb _ data
  · rfl

theorem queryOne_status (exchange : Exchange) : (queryOne exchange).1 = exchange.status := by
  rw [← runRequest_status linkmodesMsgCb exchange {}]
  unfold queryOne
  split
  · rename_i ended
    rw [ended]
  · rename_i ended
    rw [ended]

theorem queryOne_failed {exchange : Exchange} (failed : exchange.status ≠ .ok) :
    queryOne exchange = (exchange.status, none) := by
  have status := runRequest_status linkmodesMsgCb exchange {}
  unfold queryOne
  split
  · rename_i ended
    rw [ended] at status
    exact absurd status.symm failed
  · rename_i ended
    rw [← status, ended]

namespace EthtoolQuerier

/-- Without a socket nothing else is kept. -/
def Sound (querier : EthtoolQuerier) : Prop := querier.sock = none → querier = {}

theorem Sound.family {querier : EthtoolQuerier} (sound : querier.Sound)
    (resolved : querier.family ≠ 0) : querier.sock.isSome := by
  rw [Option.isSome_iff_ne_none]
  intro closed
  rw [sound closed] at resolved
  exact resolved rfl

/-- The socket on which a query would resolve the family, if it has to. -/
def resolveSocket (querier : EthtoolQuerier) (replies : SetupReplies) : Option Nat :=
  if querier.family = 0 then
    querier.sock.or (if replies.bound then replies.opened else none)
  else none

def ResolveFails (querier : EthtoolQuerier) (replies : SetupReplies) : Prop :=
  ∃ sock, querier.resolveSocket replies = some sock ∧
    (replies.resolve sock).status = .socketError

section Steps

variable (querier : EthtoolQuerier) (replies : SetupReplies)

theorem resolveOnce_sock (sock : Nat) :
    (querier.resolveOnce sock replies).2.sock = querier.sock := by
  unfold resolveOnce
  split
  · rfl
  · rfl

theorem ensureReady_sound (sound : querier.Sound) : (querier.ensureReady replies).2.Sound := by
  unfold ensureReady Sound
  split
  · rename_i sock held
    rw [resolveOnce_sock, held]
    simp
  · split
    · exact sound
    · split
      · rw [resolveOnce_sock]
        simp
      · exact fun _ => rfl

theorem ensureReady_sock (ready : (querier.ensureReady replies).1 = true) :
    (querier.ensureReady replies).2.sock.isSome := by
  unfold ensureReady at ready ⊢
  split at ready
  · rename_i sock held
    rw [resolveOnce_sock, held]
    rfl
  · split at ready
    · cases ready
    · split at ready
      · rename_i bound
        rw [if_pos bound, resolveOnce_sock]
        rfl
      · cases ready

theorem ensureReady_keeps {sock : Nat} (resolves : querier.resolveSocket replies = some sock) :
    (querier.ensureReady replies).2.sock = some sock := by
  unfold resolveSocket at resolves
  split at resolves
  · unfold ensureReady
    cases held : querier.sock with
    | some own =>
        rw [held, Option.some_or] at resolves
        dsimp only
        rw [resolveOnce_sock, held]
        exact resolves
    | none =>
        rw [held, Option.none_or, Option.ite_none_right_eq_some] at resolves
        rw [resolves.2]
        dsimp only
        rw [if_pos resolves.1, resolveOnce_sock]
  · cases resolves

theorem ensureReady_fresh (closed : querier.sock = none) :
    (querier.ensureReady replies).2.sock = none ∨
      (querier.ensureReady replies).2.sock = replies.opened := by
  unfold ensureReady
  rw [closed]
  dsimp only
  split
  · exact Or.inl closed
  · rename_i sock opened
    split
    · rw [resolveOnce_sock]
      exact Or.inr opened.symm
    · exact Or.inl rfl

end Steps

section Batches

variable (querier : EthtoolQuerier) (sock : Nat)

def isSocketError (request : LinkRequest) : Bool := (request.2 sock).status == .socketError

theorem isSocketError_eq (request : LinkRequest) :
    isSocketError sock request = ((queryOne (request.2 sock)).1 == .socketError) := by
  rw [isSocketError, queryOne_status]

theorem queryLoop_querier (requests : List LinkRequest) (out : List (String × EthtoolLink)) :
    (querier.queryLoop sock requests out).1 =
      if requests.any (isSocketError sock) then {} else querier := by
  induction requests generalizing out with
  | nil => rfl
  | cons request rest ih =>
      obtain ⟨ifname, exchange⟩ := request
      rw [List.any_cons, isSocketError_eq]
      unfold queryLoop
      split
      · rename_i ended
        rw [ended]
        rfl
      · rename_i outcome info alive ended
        have going : (outcome == ReqStatus.socketError) = false := by simpa using alive
        rw [ended, going, Bool.false_or]
        split
        · exact ih _
        · exact ih _
      · rename_i outcome alive ended
        have going : (outcome == ReqStatus.socketError) = false := by simpa using alive
        rw [ended, going, Bool.false_or]
        exact ih _

theorem queryLoop_msgError (ifname : String) (exchange : Nat → Exchange)
    (refused : (exchange sock).status = .msgError) (rest : List LinkRequest)
    (out : List (String × EthtoolLink)) :
    querier.queryLoop sock ((ifname, exchange) :: rest) out = querier.queryLoop sock rest out := by
  have skipped := @queryOne_failed (exchange sock) (by rw [refused]; decide)
  rw [refused] at skipped
  rw [queryLoop, skipped]

theorem queryLoop_skips (before after : List LinkRequest) (ifname : String)
    (exchange : Nat → Exchange) (refused : (exchange sock).status = .msgError)
    (out : List (String × EthtoolLink)) :
    querier.queryLoop sock (before ++ (ifname, exchange) :: after) out =
      querier.queryLoop sock (before ++ after) out := by
  induction before generalizing out with
  | nil => exact queryLoop_msgError querier sock ifname exchange refused after out
  | cons request rest ih =>
      rw [List.cons_append, List.cons_append, queryLoop, queryLoop]
      simp only [ih]

end Batches

section Queries

variable (querier : EthtoolQuerier) (replies : SetupReplies) (requests : List LinkRequest)

/-- Some interface of the batch gets a socket error on the socket in use. -/
def LinkFails : Prop :=
  ∃ sock, (querier.ensureReady replies).1 = true ∧
    (querier.ensureReady replies).2.sock = some sock ∧ requests.any (isSocketError sock) = true

/-- Some exchange of the query ends in a socket error. -/
def SocketErrorIn : Prop :=
  requests ≠ [] ∧ (querier.ResolveFails replies ∨ querier.LinkFails replies requests)

theorem serve_querier :
    (LinkFails querier replies requests → (querier.serve replies requests).1 = {}) ∧
      (¬LinkFails querier replies requests →
        (querier.serve replies requests).1 = (querier.ensureReady replies).2) := by
  unfold serve LinkFails
  have held := querier.ensureReady_sock replies
  generalize querier.ensureReady replies = outcome at held ⊢
  obtain ⟨ready, state⟩ := outcome
  cases ready with
  | false => simp
  | true =>
      obtain ⟨sock, found⟩ := Option.isSome_iff_exists.mp (held rfl)
      dsimp only at found
      simp only [found, queryLoop_querier, Option.some.injEq, exists_eq_left', true_and]
      exact ⟨fun fails => if_pos fails, fun fine => if_neg fine⟩

theorem query_sound (sound : querier.Sound) : (querier.query replies requests).1.Sound := by
  unfold query
  split
  · exact sound
  · by_cases fails : LinkFails querier replies requests
    · rw [(serve_querier querier replies requests).1 fails]
      exact fun _ => rfl
    · rw [(serve_querier querier replies requests).2 fails]
      exact querier.ensureReady_sound replies sound

theorem query_closes_iff (error : SocketErrorIn querier replies requests) :
    (querier.query replies requests).1.sock = none ↔ LinkFails querier replies requests := by
  obtain ⟨asked, failed⟩ := error
  unfold query
  rw [if_neg (by simpa using asked)]
  constructor
  · intro closed
    by_contra fine
    obtain ⟨sock, resolves, _⟩ := failed.resolve_right fine
    rw [(serve_querier querier replies requests).2 fine,
      querier.ensureReady_keeps replies resolves] at closed
    cases closed
  · intro fails
    rw [(serve_querier querier replies requests).1 fails]

theorem query_fresh (closed : querier.sock = none) :
    (querier.query replies requests).1.sock = none ∨
      (querier.query replies requests).1.sock = replies.opened := by
  unfold query
  split
  · exact Or.inl closed
  · by_cases fails : LinkFails querier replies requests
    · rw [(serve_querier querier replies requests).1 fails]
      exact Or.inl rfl
    · rw [(serve_querier querier replies requests).2 fails]
      exact querier.ensureReady_fresh replies closed

theorem serve_skips (before after : List LinkRequest) (ifname : String)
    (exchange : Nat → Exchange)
    (refused : ∀ sock, (querier.ensureReady replies).2.sock = some sock →
      (exchange sock).status = .msgError) :
    querier.serve replies (before ++ (ifname, exchange) :: after) =
      querier.serve replies (before ++ after) := by
  unfold serve
  generalize querier.ensureReady replies = outcome at refused ⊢
  obtain ⟨ready, state⟩ := outcome
  cases ready with
  | false => rfl
  | true =>
      cases held : state.sock with
      | none => simp only [held]
      | some sock =>
          simp only [held]
          exact queryLoop_skips state sock before after ifname exchange (refused sock held) []

end Queries

abbrev QueryCall := SetupReplies × List LinkRequest

def call (querier : EthtoolQuerier) (given : QueryCall) :
    EthtoolQuerier × List (String × EthtoolLink) :=
  querier.query given.1 given.2

theorem runs_sound (calls : List QueryCall) : (Machine.respond call {} calls).1.Sound := by
  induction calls using List.reverseRecOn with
  | nil => exact fun _ => rfl
  | append_singleton past last ih =>
      rw [Machine.respond_snoc]
      exact query_sound _ last.1 last.2 ih

end EthtoolQuerier

open EthtoolQuerier in
/-- After any calls: a family is kept only with a socket; a socket error of the next
query closes the socket unless it is that of the resolve alone; without a socket the
next query works on the one it opens; a refused interface changes nothing. -/
theorem ethtool_socket_closed_iff (past : List QueryCall) (querier : EthtoolQuerier)
    (reached : (Machine.respond call {} past).1 = querier) (replies : SetupReplies)
    (requests : List LinkRequest) :
    (querier.family ≠ 0 → querier.sock.isSome = true) ∧
      ((SocketErrorIn querier replies requests → (querier.query replies requests).1.sock = none) ↔
        (requests ≠ [] → ResolveFails querier replies → LinkFails querier replies requests)) ∧
      (querier.sock = none → (querier.query replies requests).1.sock = none ∨
        (querier.query replies requests).1.sock = replies.opened) ∧
      ∀ before after ifname exchange, requests = before ++ (ifname, exchange) :: after →
        (∀ sock, (querier.ensureReady replies).2.sock = some sock →
          (exchange sock).status = .msgError) →
        querier.query replies requests = querier.serve replies (before ++ after) := by
  have sound : querier.Sound := reached ▸ runs_sound past
  refine ⟨sound.family, ?_, querier.query_fresh replies requests, ?_⟩
  · constructor
    · intro closes asked fails
      have error : SocketErrorIn querier replies requests := ⟨asked, Or.inl fails⟩
      exact (query_closes_iff querier replies requests error).mp (closes error)
    · rintro covered ⟨asked, failed⟩
      refine (query_closes_iff querier replies requests ⟨asked, failed⟩).mpr ?_
      exact failed.elim (covered asked) id
  · rintro before after ifname exchange rfl refused
    rw [query, if_neg (by simp)]
    exact querier.serve_skips replies before after ifname exchange refused

section Examples

def answer (messages : List (List NlAttr)) : Exchange :=
  ⟨true, .received ⟨messages, 1⟩ (.received ⟨[], 0⟩ .closed)⟩

def onWorkingSocket (exchange : Exchange) (sock : Nat) : Exchange :=
  if sock = 1 then ⟨false, .closed⟩ else exchange

def gigabitRequest : LinkRequest :=
  ("eth0", onWorkingSocket (answer [[⟨5, some 1000⟩, ⟨6, some 1⟩]]))

def setupOpening (sock : Nat) : SetupReplies where
  opened := some sock
  bound := true
  portid := 77
  resolve := onWorkingSocket (answer [[⟨1, some 20⟩]])

def brokenRequest : LinkRequest := ("eth1", fun _ => ⟨false, .closed⟩)

theorem broken_link_closes_socket :
    ((Machine.respond EthtoolQuerier.call {} [(setupOpening 2, [gigabitRequest])]).1.query
      (setupOpening 3) [gigabitRequest, brokenRequest]).1.sock = none := by
  have fails : EthtoolQuerier.LinkFails
      (Machine.respond EthtoolQuerier.call {} [(setupOpening 2, [gigabitRequest])]).1
      (setupOpening 3) [gigabitRequest, brokenRequest] := ⟨2, by decide, by decide, by decide⟩
  have exact := (ethtool_socket_closed_iff [(setupOpening 2, [gigabitRequest])] _ rfl
    (setupOpening 3) [gigabitRequest, brokenRequest]).2.1
  exact exact.mpr (fun _ _ => fails) ⟨by simp, Or.inr fails⟩

theorem stuck_call :
    EthtoolQuerier.call { sock := some 1, portid := 77 } (setupOpening 2, [gigabitRequest]) =
      ({ sock := some 1, portid := 77 }, []) := by
  decide

theorem stuck_calls (count : Nat) :
    Machine.respond EthtoolQuerier.call { sock := some 1, portid := 77 }
        (List.replicate count (setupOpening 2, [gigabitRequest])) =
      ({ sock := some 1, portid := 77 }, List.replicate count []) := by
  induction count with
  | zero => rfl
  | succ count ih =>
      rw [List.replicate_succ, List.replicate_succ, Machine.respond, stuck_call]
      dsimp only
      rw [ih]

theorem failed_resolve_keeps_socket :
    EthtoolQuerier.SocketErrorIn {} (setupOpening 1) [gigabitRequest] ∧
      (EthtoolQuerier.query {} (setupOpening 1) [gigabitRequest]).1.sock = some 1 ∧
      (EthtoolQuerier.query {} (setupOpening 2) [gigabitRequest]).2 =
        [("eth0", { speedMbps := some 1000, duplex := some .full })] ∧
      ∀ count, Machine.respond EthtoolQuerier.call {}
          ((setupOpening 1, [gigabitRequest]) ::
            List.replicate count (setupOpening 2, [gigabitRequest])) =
        ({ sock := some 1, portid := 77 }, [] :: List.replicate count []) := by
  refine ⟨⟨by simp, Or.inl ⟨1, by decide, by decide⟩⟩, by decide, by decide, ?_⟩
  intro count
  have first : EthtoolQuerier.call {} (setupOpening 1, [gigabitRequest]) =
      ({ sock := some 1, portid := 77 }, []) := by decide
  rw [Machine.respond, first]
  dsimp only
  rw [stuck_calls]

end Examples

end EdgeHealthd
