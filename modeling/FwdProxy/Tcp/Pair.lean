import FwdProxy.Relay

/-!
# A forwarded TCP connection

`tcpFwdConnToServ(lConn, targetAddr)` resolves the target, dials it, starts
`go tcpFwdData(lConn, rConn)` and then runs `tcpFwdData(rConn, lConn)` itself.
Its two `defer`s close `rConn` and then `lConn` when it returns. The two pumps
interleave arbitrarily, and each one's calls are answered by the environment,
except on a closed socket, where the net package fails them.

The handler is asymmetric, and this file is about what that costs. Only the
return of the handler's own pump, the target-to-client direction, runs the
deferred closes (`pair_teardown`). When the client closes first, the goroutine's
pump stops, nothing closes `rConn`, and the handler stays blocked reading it
(`pair_peer_stop_keeps_open`). Once teardown has run, the goroutine's pump fails
at its next call, whatever the environment would have answered.
-/

namespace FwdProxy

/-- Where `tcpFwdConnToServ` stands on its own goroutine. -/
inductive HandlerPc where
  /-- About to call `net.ResolveTCPAddr("tcp", targetAddr)`. -/
  | resolving
  /-- About to call `net.DialTCP("tcp", nil, rAddr)`. -/
  | dialing
  /-- In `tcpFwdData(rConn, lConn)`; once that has returned, about to run the
  deferred `rConn.Close()`. -/
  | relaying
  /-- About to run the deferred `lConn.Close()`. -/
  | closingL
  /-- Returned. -/
  | returned
  deriving DecidableEq, Repr

/-- One forwarded connection: the handler, its two pumps, and which of its two
sockets are open. -/
structure Handler where
  pc : HandlerPc
  /-- `go tcpFwdData(lConn, rConn)`, once started: client to target. -/
  toServ : Option Pump
  /-- `tcpFwdData(rConn, lConn)`, run by the handler: target to client. -/
  toClient : Pump
  lOpen : Bool
  rOpen : Bool
  deriving DecidableEq, Repr

/-- The handler of a freshly accepted `lConn`. There is no `rConn` yet. -/
def Handler.init : Handler := ⟨.resolving, none, .init, true, false⟩

/-- The next thing that happens to a forwarded connection. -/
inductive HandlerEv where
  /-- `net.ResolveTCPAddr` returns, with its error. -/
  | resolved (err : Option GoError)
  /-- `net.DialTCP` returns, with its error. -/
  | dialed (err : Option GoError)
  /-- The handler's pump gets the answer to its pending call. -/
  | own (a : IOAnswer)
  /-- The goroutine's pump gets the answer to its pending call. -/
  | peer (a : IOAnswer)
  /-- The handler takes a step that waits on no socket: a deferred `Close`. -/
  | proceed

/-- `tcpFwdConnToServ` and the goroutine it starts, one event at a time. The
handler's pump reads `rConn` and writes `lConn`; the goroutine's pump reads
`lConn` and writes `rConn`. -/
def Handler.step (h : Handler) (ev : HandlerEv) : Handler :=
  match h.pc, ev with
  | .resolving, .resolved err => { h with pc := if err.isSome then .closingL else .dialing }
  | .dialing, .dialed err =>
    if err.isSome then { h with pc := .closingL }
    else { h with pc := .relaying, toServ := some .init, rOpen := true }
  | .relaying, .own a =>
    { h with toClient := h.toClient.step tcpFwdDataOnErr (h.toClient.pc.answer h.rOpen h.lOpen a) }
  | .relaying, .proceed =>
    if h.toClient.pc = .stopped then { h with pc := .closingL, rOpen := false } else h
  | .closingL, .proceed => { h with pc := .returned, lOpen := false }
  | _, .peer a =>
    match h.toServ with
    | some p => { h with toServ := some (p.step tcpFwdDataOnErr (p.pc.answer h.lOpen h.rOpen a)) }
    | none => h
  | _, _ => h

/-- The handler after `evs`. -/
def Handler.run (h : Handler) (evs : List HandlerEv) : Handler := evs.foldl Handler.step h

@[simp] theorem Handler.run_nil (h : Handler) : h.run [] = h := rfl

@[simp] theorem Handler.run_cons (h : Handler) (ev : HandlerEv) (evs : List HandlerEv) :
    h.run (ev :: evs) = (h.step ev).run evs := rfl

/-- What the handler's own goroutine does next. -/
inductive HandlerNext where
  | resolve
  | dial
  /-- Waits on its pump's pending call: a `Read` of `rConn` or a `Write` to `lConn`. -/
  | relay (pc : PumpPc)
  /-- Runs the deferred `rConn.Close()`. -/
  | closeR
  /-- Runs the deferred `lConn.Close()`. -/
  | closeL
  | done
  deriving DecidableEq, Repr

/-- The handler's next action. `closeR` and `closeL` need no answer from any
socket: `proceed` performs them. -/
def Handler.next (h : Handler) : HandlerNext :=
  match h.pc with
  | .resolving => .resolve
  | .dialing => .dial
  | .relaying => if h.toClient.pc = .stopped then .closeR else .relay h.toClient.pc
  | .closingL => .closeL
  | .returned => .done

/-- The handler just after a successful dial: both pumps at their first `Read`. -/
def Handler.paired : Handler := (Handler.init.step (.resolved none)).step (.dialed none)

theorem Handler.paired_eq : Handler.paired = ⟨.relaying, some .init, .init, true, true⟩ := rfl

/-! ## Teardown -/

/-- Where a paired handler can be: relaying with both sockets open, or tearing
down after its own pump has stopped. -/
def Handler.PairInv (h : Handler) : Prop :=
  h.toServ.isSome ∧
  match h.pc with
  | .relaying => h.lOpen ∧ h.rOpen
  | .closingL => h.lOpen ∧ h.rOpen = false ∧ h.toClient.pc = .stopped
  | .returned => h.lOpen = false ∧ h.rOpen = false ∧ h.toClient.pc = .stopped
  | _ => False

theorem Handler.pairInv_step {h : Handler} (hi : h.PairInv) (ev : HandlerEv) :
    (h.step ev).PairInv := by
  rcases h with ⟨pc, toServ, toClient, lOpen, rOpen⟩
  obtain ⟨⟨p, rfl⟩, hi⟩ := And.imp_left Option.isSome_iff_exists.mp hi
  cases pc <;> simp only at hi
  case relaying =>
    obtain ⟨rfl, rfl⟩ := hi
    by_cases hs : toClient.pc = .stopped <;> cases ev <;> simp [Handler.step, Handler.PairInv, hs]
  case closingL | returned =>
    obtain ⟨rfl, rfl, hs⟩ := hi
    cases ev <;> simp [Handler.step, Handler.PairInv, hs]

theorem Handler.pairInv_run (evs : List HandlerEv) :
    ∀ h : Handler, h.PairInv → (h.run evs).PairInv := by
  induction evs with
  | nil => exact fun h hi => hi
  | cons ev evs ih => exact fun h hi => ih _ (Handler.pairInv_step hi ev)

theorem Handler.pairInv_paired : Handler.paired.PairInv := by
  simp [Handler.paired_eq, Handler.PairInv]

/-- Once both sockets are closed, the goroutine's pump fails at its next call. -/
theorem Handler.peer_closed {h : Handler} {p : Pump} (hp : h.toServ = some p)
    (hl : h.lOpen = false) (hr : h.rOpen = false) (a : IOAnswer) :
    (h.step (.peer a)).toServ.map Pump.pc = some .stopped := by
  have key : relayStep tcpFwdDataOnErr p.pc (p.pc.answer false false a) = .stopped :=
    relayStep_answer_closed (tcpFwdDataOnErr_closed) p.pc a
  rcases h with ⟨pc, toServ, toClient, lOpen, rOpen⟩
  cases hp; cases hl; cases hr
  cases pc <;> exact congrArg some key

/-- Teardown, seen from any state a paired handler can reach. -/
theorem Handler.PairInv.teardown {h : Handler} (hi : h.PairInv) :
    ((h.lOpen = false ∨ h.rOpen = false) → h.toClient.pc = .stopped) ∧
    (h.toClient.pc = .stopped → (h.lOpen ∨ h.rOpen) → h.next = .closeR ∨ h.next = .closeL) ∧
    (h.toClient.pc = .stopped →
      (h.run [.proceed, .proceed]).lOpen = false ∧ (h.run [.proceed, .proceed]).rOpen = false) ∧
    (h.lOpen = false → h.rOpen = false →
      ∀ a, (h.step (.peer a)).toServ.map Pump.pc = some .stopped) := by
  obtain ⟨⟨p, hp⟩, hi⟩ := And.imp_left Option.isSome_iff_exists.mp hi
  refine ⟨?_, ?_, ?_, fun hl hr => Handler.peer_closed hp hl hr⟩ <;>
  · rcases h with ⟨pc, toServ, toClient, lOpen, rOpen⟩
    cases pc <;> simp only at hi
    case relaying =>
      obtain ⟨rfl, rfl⟩ := hi
      by_cases hs : toClient.pc = .stopped <;> simp [Handler.next, Handler.step, hs]
    case closingL | returned =>
      obtain ⟨rfl, rfl, hs⟩ := hi
      simp [Handler.next, Handler.step, hs]

/-- **Teardown waits for the handler's own pump, and then needs nothing more.**
Along every run from a successful dial: a socket is closed only once the
target-to-client pump has stopped; once it has, the handler's next action is a
deferred `Close`, and two `proceed`s close both sockets; once both are closed,
the goroutine's pump fails at its next call. -/
theorem pair_teardown (evs : List HandlerEv) :
    let h := Handler.paired.run evs
    ((h.lOpen = false ∨ h.rOpen = false) → h.toClient.pc = .stopped) ∧
    (h.toClient.pc = .stopped → (h.lOpen ∨ h.rOpen) → h.next = .closeR ∨ h.next = .closeL) ∧
    (h.toClient.pc = .stopped →
      (h.run [.proceed, .proceed]).lOpen = false ∧ (h.run [.proceed, .proceed]).rOpen = false) ∧
    (h.lOpen = false → h.rOpen = false →
      ∀ a, (h.step (.peer a)).toServ.map Pump.pc = some .stopped) :=
  (Handler.pairInv_run evs _ Handler.pairInv_paired).teardown

/-- **The client closing first leaves the target side open.** Right after the
dial, the client's end reports EOF. The goroutine's pump stops; both sockets
stay open, and the handler's next action is still its pump's `Read` of `rConn`,
which waits on the target. -/
theorem pair_peer_stop_keeps_open :
    let h := Handler.paired.run [.peer (.read ⟨[], some .eof, Nat.zero_le _⟩)]
    h.toServ.map Pump.pc = some .stopped ∧ h.lOpen = true ∧ h.rOpen = true ∧
      h.next = .relay .reading := by
  decide

end FwdProxy
