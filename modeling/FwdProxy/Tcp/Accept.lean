import FwdProxy.Tcp.Pair

/-!
# The TCP accept loop

`tcpServiceProxy(listen, targetAddr)` accepts connections for as long as it
runs and hands each one to its own `go tcpFwdConnToServ(conn, targetAddr)`. Its
one way out is a failed `Accept` whose error `==` `syscall.EINVAL`.

A closed listener never reports that. Go's net package fails `Accept` on it
with `net.ErrClosed` inside a `*net.OpError`, and no `*net.OpError` equals a
bare `syscall.Errno`. So once the listener is closed the loop spins on failing
`Accept` calls for ever (`acceptLoop_spins_after_close`); the error that would
end it is one the net package does not return for a closed listener.
-/

namespace FwdProxy

/-- Where `tcpServiceProxy` stands. -/
inductive AcceptPc where
  /-- At the top of its loop, about to call `listen.Accept()`. -/
  | accepting
  /-- Broken out of the loop: the deferred `listen.Close()` has run. -/
  | returned
  deriving DecidableEq, Repr

/-- `tcpServiceProxy` and the connections it has handed off. -/
structure AcceptLoop where
  listen : Listener
  targetAddr : GoString
  pc : AcceptPc
  listenOpen : Bool
  /-- One `go tcpFwdConnToServ(conn, targetAddr)` per accepted connection. -/
  conns : List Handler

/-- The goroutine `go tcpServiceProxy(listen, targetAddr)`, at its first line. -/
def tcpServiceProxy (listen : Listener) (targetAddr : GoString) : AcceptLoop :=
  ⟨listen, targetAddr, .accepting, true, []⟩

/-- The next thing that happens to an accept loop. -/
inductive AcceptEv where
  /-- `listen.Accept()` returns a connection, or fails with `err`. -/
  | accepted (err : Option GoError)
  /-- Something closes the listener. -/
  | shutdown
  /-- The `i`-th forwarded connection takes a step. -/
  | conn (i : Nat) (ev : HandlerEv)

/-- What `Accept` returns: the environment's answer while the listener is open,
the net package's closed-listener error once it is not. -/
def acceptAnswer (listenOpen : Bool) (err : Option GoError) : Option GoError :=
  if listenOpen then err else some (closedError "accept")

/-- One event of the accept loop. -/
def AcceptLoop.step (s : AcceptLoop) : AcceptEv → AcceptLoop
  | .accepted err =>
    match s.pc, acceptAnswer s.listenOpen err with
    | .accepting, none => { s with conns := s.conns ++ [Handler.init] }
    | .accepting, some e =>
      if e = einval then { s with pc := .returned, listenOpen := false } else s
    | .returned, _ => s
  | .shutdown => { s with listenOpen := false }
  | .conn i ev => { s with conns := s.conns.modify (fun h => h.step ev) i }

/-- The accept loop after `evs`. -/
def AcceptLoop.run (s : AcceptLoop) (evs : List AcceptEv) : AcceptLoop :=
  evs.foldl AcceptLoop.step s

@[simp] theorem AcceptLoop.run_nil (s : AcceptLoop) : s.run [] = s := rfl

@[simp] theorem AcceptLoop.run_cons (s : AcceptLoop) (ev : AcceptEv) (evs : List AcceptEv) :
    s.run (ev :: evs) = (s.step ev).run evs := rfl

/-- A forwarded connection's step touches neither the loop nor its listener. -/
@[simp] theorem AcceptLoop.step_conn_pc (s : AcceptLoop) (i : Nat) (ev : HandlerEv) :
    (s.step (.conn i ev)).pc = s.pc ∧ (s.step (.conn i ev)).listenOpen = s.listenOpen :=
  ⟨rfl, rfl⟩

/-- No step changes the arguments `tcpServiceProxy` was started with. -/
theorem AcceptLoop.step_args (s : AcceptLoop) (ev : AcceptEv) :
    (s.step ev).listen = s.listen ∧ (s.step ev).targetAddr = s.targetAddr := by
  cases ev with
  | accepted err =>
    simp only [AcceptLoop.step]
    split
    · exact ⟨rfl, rfl⟩
    · split_ifs <;> exact ⟨rfl, rfl⟩
    · exact ⟨rfl, rfl⟩
  | shutdown | conn _ _ => exact ⟨rfl, rfl⟩

/-- On a closed listener, every step leaves the loop at its `Accept`. -/
theorem AcceptLoop.step_closed {s : AcceptLoop} (hp : s.pc = .accepting)
    (hl : s.listenOpen = false) (ev : AcceptEv) :
    (s.step ev).pc = .accepting ∧ (s.step ev).listenOpen = false := by
  rcases s with ⟨listen, targetAddr, pc, listenOpen, conns⟩
  cases hp; cases hl
  cases ev <;> simp [AcceptLoop.step, acceptAnswer, closedError, einval]

/-- From a closed listener and a running loop, no run ends the loop. -/
theorem AcceptLoop.run_closed (evs : List AcceptEv) :
    ∀ s : AcceptLoop, s.pc = .accepting → s.listenOpen = false →
      (s.run evs).pc = .accepting ∧ (s.run evs).listenOpen = false := by
  induction evs with
  | nil => exact fun s hp hl => ⟨hp, hl⟩
  | cons ev evs ih =>
    intro s hp hl
    exact ih _ (AcceptLoop.step_closed hp hl ev).1 (AcceptLoop.step_closed hp hl ev).2

theorem AcceptLoop.step_returned {s : AcceptLoop} (hp : s.pc = .returned) (ev : AcceptEv) :
    (s.step ev).pc = .returned := by
  rcases s with ⟨listen, targetAddr, pc, listenOpen, conns⟩
  cases hp
  cases ev <;> rfl

/-- A loop that has returned stays returned. -/
theorem AcceptLoop.run_returned (evs : List AcceptEv) :
    ∀ s : AcceptLoop, s.pc = .returned → (s.run evs).pc = .returned := by
  induction evs with
  | nil => exact fun s hp => hp
  | cons ev evs ih => exact fun s hp => ih _ (AcceptLoop.step_returned hp ev)

/-- **A closed listener never stops the loop.** Whenever the listener of a
`tcpServiceProxy` is closed, after any run, the loop stays where it was along
every continuation: a loop still at its `Accept` never returns, however many
`Accept` calls the continuation answers. -/
theorem acceptLoop_spins_after_close (listen : Listener) (targetAddr : GoString)
    (evs₀ evs : List AcceptEv) :
    ((((tcpServiceProxy listen targetAddr).run evs₀).step .shutdown).run evs).pc =
      ((tcpServiceProxy listen targetAddr).run evs₀).pc := by
  cases hp : ((tcpServiceProxy listen targetAddr).run evs₀).pc with
  | accepting => exact (AcceptLoop.run_closed evs (AcceptLoop.step _ .shutdown) hp rfl).1
  | returned => exact AcceptLoop.run_returned evs (AcceptLoop.step _ .shutdown) hp

end FwdProxy
