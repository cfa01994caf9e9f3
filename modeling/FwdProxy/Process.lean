import FwdProxy.Registry
import FwdProxy.Udp.Errors

/-!
# The proxy process

Each proxy's `main` calls its open function once on `os.Args[1]` and then
blocks in `select {}`, while the worker that call started runs on its own. The
open functions keep their state in the package-level `serv2Fwd`, so a process
may call them any number of times, and those calls interleave with the steps of
the workers already started. `ProcEv` is that interleaving.

The target string is never looked at by an open function beyond the key it
makes. It is resolved by the worker, after the entry is stored: once per
connection in `tcpFwdConnToServ`, once at the start of `udpServiceProxy`. So an
entry's target may well be unresolvable. When the UDP worker's resolve fails it
returns and its deferred `lConn.Close()` runs, yet the entry stays, and every
later call for the target hands out the closed listener's address. A failed TCP
resolve costs only the accepted connection.

`main` adds nothing to this: it makes one open call on `os.Args[1]`, panics on
its error and otherwise prints the address and serves.
-/

namespace FwdProxy

/-! ## `main` -/

/-- How a proxy's `main` ends. -/
inductive MainOutcome (W : Type) where
  /-- Printed its usage line and returned. -/
  | usage (out : GoString)
  /-- `panic(err)`. -/
  | panicked (err : GoError)
  /-- Printed the new endpoint and blocked in `select {}` for good, with the
  registry its call left behind. -/
  | serving (out : GoString) (reg : Registry W)

/-- The line both `main`s print when not given exactly one argument. -/
def usageLine : GoString :=
  lit "Requires one argument, the destination endpoint (e.g. 127.0.0.1:8080)\n"

/-- The rest of `main` once its open call has returned. -/
def mainServe {W : Type} : Except GoError GoString × Registry W → MainOutcome W
  | (.error err, _) => .panicked err
  | (.ok listenAddr, reg) => .serving (lit "New listening endpoint at: " ++ listenAddr ++ lit "\n") reg

/-- `main` of `tcpProxy`, given `os.Args` and the outcome of its `net.Listen`. -/
def tcpProxyMain (args : List GoString) (listen : Except GoError Listener) : MainOutcome AcceptLoop :=
  match args with
  | [_, serviceAddr] => mainServe (openTCPProxy .empty serviceAddr listen)
  | _ => .usage usageLine

/-- `main` of `udpProxy`, given `os.Args` and the outcomes of its resolve and listen. -/
def udpProxyMain {Addr : Type} (args : List GoString) (udpAddr : Except GoError Addr)
    (listen : Except GoError Listener) : MainOutcome (Mux Addr) :=
  match args with
  | [_, serviceAddr] => mainServe (openUDPProxy .empty serviceAddr udpAddr listen)
  | _ => .usage usageLine

/-! ## Open calls and workers, interleaved -/

/-- The next thing that happens to the proxy library in a process. -/
inductive ProcEv (C E : Type) where
  /-- A call of the open function, with its target and socket outcomes. -/
  | call (c : C)
  /-- The `i`-th worker started takes a step. -/
  | worker (i : Nat) (ev : E)

section Proc

variable {W C E : Type}

/-- One event of a process whose open calls are `call` and whose workers step
by `wstep`. A step of a worker that was never started changes nothing. -/
def Registry.procStep (call : Registry W → C → Registry W) (wstep : W → E → W)
    (reg : Registry W) : ProcEv C E → Registry W
  | .call c => call reg c
  | .worker i ev => { reg with workers := reg.workers.modify (fun w => wstep w ev) i }

variable {scheme : GoString} {worker : Listener → GoString → W}
  {lis : W → Listener} {tgt : W → GoString}

/-- Worker steps that keep each worker's listener and target keep the registry
invariant; so does every open call. -/
theorem RegistryInv.procStep (hlaw : ∀ l t, lis (worker l t) = l ∧ tgt (worker l t) = t)
    {wstep : W → E → W} (hw : ∀ w ev, lis (wstep w ev) = lis w ∧ tgt (wstep w ev) = tgt w)
    (bindOf : C → Except GoError Listener) (tOf : C → GoString) {reg : Registry W}
    (h : RegistryInv scheme worker lis tgt reg) (ev : ProcEv C E) :
    RegistryInv scheme worker lis tgt
      (reg.procStep (fun reg c => (openProxy scheme worker (bindOf c) reg (tOf c)).2) wstep ev) := by
  cases ev with
  | call c => exact h.call hlaw _ _
  | worker i ev =>
    refine h.of_started rfl (map_modify_of_eq _ _ ?_ _ _)
    intro w
    simp only [hw]

theorem RegistryInv.procRun (hlaw : ∀ l t, lis (worker l t) = l ∧ tgt (worker l t) = t)
    {wstep : W → E → W} (hw : ∀ w ev, lis (wstep w ev) = lis w ∧ tgt (wstep w ev) = tgt w)
    (bindOf : C → Except GoError Listener) (tOf : C → GoString) (evs : List (ProcEv C E)) :
    ∀ reg, RegistryInv scheme worker lis tgt reg → RegistryInv scheme worker lis tgt
      (evs.foldl (Registry.procStep (fun reg c => (openProxy scheme worker (bindOf c) reg (tOf c)).2)
        wstep) reg) := by
  induction evs with
  | nil => exact fun _ h => h
  | cons ev evs ih => exact fun reg h => ih _ (h.procStep hlaw hw bindOf tOf ev)

end Proc

/-- A TCP proxy process: `openTCPProxy` calls, each with its target and the
outcome of its `net.Listen`, interleaved with steps of the accept loops they
started. -/
def tcpProcRun (evs : List (ProcEv (GoString × Except GoError Listener) AcceptEv)) :
    Registry AcceptLoop :=
  evs.foldl (Registry.procStep (fun reg c => (openTCPProxy reg c.1 c.2).2) AcceptLoop.step) .empty

/-- A UDP proxy process: `openUDPProxy` calls, each with its target and the
outcomes of its resolve and listen, interleaved with steps of the multiplexers
they started. -/
def udpProcRun {Addr : Type} (str : Addr → GoString)
    (evs : List (ProcEv (GoString × Except GoError Addr × Except GoError Listener) (MuxEv Addr))) :
    Registry (Mux Addr) :=
  evs.foldl (Registry.procStep (fun reg c => (openUDPProxy reg c.1 c.2.1 c.2.2).2) (Mux.step str))
    .empty

theorem RegistryInv.tcpProcRun (evs : List (ProcEv (GoString × Except GoError Listener) AcceptEv)) :
    RegistryInv (lit "tcp://") tcpServiceProxy AcceptLoop.listen AcceptLoop.targetAddr
      (tcpProcRun evs) :=
  RegistryInv.procRun (fun _ _ => ⟨rfl, rfl⟩) AcceptLoop.step_args
    (C := GoString × Except GoError Listener) (fun c => tcpBind c.2) Prod.fst evs _
    (registryInv_empty _ _ _ _)

theorem RegistryInv.udpProcRun {Addr : Type} (str : Addr → GoString)
    (evs : List (ProcEv (GoString × Except GoError Addr × Except GoError Listener) (MuxEv Addr))) :
    RegistryInv (lit "udp://") udpServiceProxy Mux.lConn Mux.targetAddr (udpProcRun str evs) :=
  RegistryInv.procRun (fun _ _ => ⟨rfl, rfl⟩)
    (fun _ ev => ⟨(Mux.frame_step str ev).lConn, (Mux.frame_step str ev).targetAddr⟩)
    (C := GoString × Except GoError Addr × Except GoError Listener) (fun c => udpBind c.2.1 c.2.2)
    Prod.fst evs _ (registryInv_empty _ _ _ _)

/-- **The registry invariant holds while the workers run.** Along every run of
either process, however the open calls interleave with the steps of the
workers they started, the registry keeps one entry, one worker and one listener
per target, and a call for a started worker's target returns that worker's
listener address. -/
theorem registryInv_proc {Addr : Type} (str : Addr → GoString)
    (tcpEvs : List (ProcEv (GoString × Except GoError Listener) AcceptEv))
    (udpEvs : List (ProcEv (GoString × Except GoError Addr × Except GoError Listener) (MuxEv Addr))) :
    RegistryInv (lit "tcp://") tcpServiceProxy AcceptLoop.listen AcceptLoop.targetAddr
      (tcpProcRun tcpEvs) ∧
    (∀ w ∈ (tcpProcRun tcpEvs).workers, ∀ listen,
      (openTCPProxy (tcpProcRun tcpEvs) w.targetAddr listen).1 = .ok w.listen.addr) ∧
    RegistryInv (lit "udp://") udpServiceProxy Mux.lConn Mux.targetAddr (udpProcRun str udpEvs) ∧
    (∀ w ∈ (udpProcRun str udpEvs).workers, ∀ udpAddr listen,
      (openUDPProxy (udpProcRun str udpEvs) w.targetAddr udpAddr listen).1 = .ok w.lConn.addr) :=
  ⟨RegistryInv.tcpProcRun tcpEvs, fun _ hw _ => (RegistryInv.tcpProcRun tcpEvs).call_returns hw _,
    RegistryInv.udpProcRun str udpEvs,
    fun _ hw _ _ => (RegistryInv.udpProcRun str udpEvs).call_returns hw _⟩

/-! ## Where the target is resolved -/

section Resolve

variable {Addr : Type} (str : Addr → GoString)

/-- A multiplexer whose `ResolveUDPAddr` fails returns, and its deferred
`lConn.Close()` has run; nothing after that reopens the socket or restarts the
loop. -/
theorem Mux.resolve_failed_run (l : Listener) (t : GoString) (e : GoError) (evs : List (MuxEv Addr)) :
    let m := ((udpServiceProxy l t : Mux Addr).step str (.main (.resolved (.error e)))).run str evs
    m.pc = .returned ∧ m.lConn = l ∧ l.conn ∈ m.closed := by
  have hf := Mux.frame_run str evs ((udpServiceProxy l t : Mux Addr).step str (.main (.resolved (.error e))))
  exact ⟨Mux.run_returned str evs _ rfl, hf.lConn,
    hf.closed.mem (by simp [Mux.step, Mux.mainStep, Mux.ret, udpServiceProxy])⟩

/-- **The target is resolved only after its entry is stored.** Neither open
function looks at its target beyond the key: on a missing key and an acquired
socket each succeeds, whatever the target string, returns the socket's address,
stores the entry for it and starts the worker on the socket and the target. The
worker it starts has not resolved the target: a `udpServiceProxy` is at its
`ResolveUDPAddr`, and a `tcpServiceProxy` has no connection, whose handler would
resolve it. Along every run of a UDP process, a call for a started worker's
target returns that worker's listener address, whatever the worker has done
since; and a worker whose `ResolveUDPAddr` fails has returned and closed that
listener for good. A TCP handler whose `ResolveTCPAddr` fails closes only its
accepted connection, and no step of a handler moves the accept loop or touches
its listener. -/
theorem open_never_resolves_target :
    (∀ reg t l, reg.serv2Fwd (lit "tcp://" ++ t) = none →
      openTCPProxy reg t (.ok l) = (.ok l.addr, ⟨reg.serv2Fwd.insert (lit "tcp://" ++ t)
        ⟨l.addr, tcpServiceProxy⟩, reg.workers ++ [tcpServiceProxy l t]⟩) ∧
      (tcpServiceProxy l t).conns = []) ∧
    (∀ (reg : Registry (Mux Addr)) t a l, reg.serv2Fwd (lit "udp://" ++ t) = none →
      openUDPProxy reg t (.ok a) (.ok l) = (.ok l.addr, ⟨reg.serv2Fwd.insert (lit "udp://" ++ t)
        ⟨l.addr, udpServiceProxy⟩, reg.workers ++ [udpServiceProxy l t]⟩) ∧
      (udpServiceProxy l t : Mux Addr).pc = .resolving ∧ (udpServiceProxy l t : Mux Addr).rAddr = none) ∧
    (∀ evs, ∀ w ∈ (udpProcRun str evs).workers, ∀ udpAddr listen,
      (openUDPProxy (udpProcRun str evs) w.targetAddr udpAddr listen).1 = .ok w.lConn.addr) ∧
    (∀ (l : Listener) t e evs,
      let m := ((udpServiceProxy l t : Mux Addr).step str (.main (.resolved (.error e)))).run str evs
      m.pc = .returned ∧ m.lConn = l ∧ l.conn ∈ m.closed) ∧
    (∀ e, Handler.init.run [.resolved (some e), .proceed] = ⟨.returned, none, .init, false, false⟩) ∧
    (∀ (s : AcceptLoop) i ev,
      (s.step (.conn i ev)).pc = s.pc ∧ (s.step (.conn i ev)).listenOpen = s.listenOpen) :=
  ⟨fun reg t l h => ⟨(openProxy_spec _ _ _ reg t).miss l h rfl, rfl⟩,
    fun reg t _ l h => ⟨(openProxy_spec _ _ _ reg t).miss l h rfl, rfl, rfl⟩,
    fun evs _ hw _ _ => (RegistryInv.udpProcRun str evs).call_returns hw _,
    Mux.resolve_failed_run str, fun _ => rfl, AcceptLoop.step_conn_pc⟩

end Resolve

/-- **The registry advertises a closed listener.** A process calls
`openUDPProxy("nowhere")`, which has no port and cannot be resolved. The call
succeeds and stores the entry; the worker's `ResolveUDPAddr` fails, and it
returns and closes its listener. A second call for the same target returns the
closed listener's address, without error. -/
theorem udp_registry_advertises_closed_listener :
    let l : Listener := ⟨3, lit "127.0.0.1:40000"⟩
    let t := lit "nowhere"
    let udpAddr : Except GoError GoString := .ok (lit "127.0.0.1:0")
    let reg := udpProcRun id [.call (t, udpAddr, .ok l),
      .worker 0 (.main (.resolved (.error (.other "address nowhere: missing port in address"))))]
    (openUDPProxy Registry.empty t udpAddr (.ok l)).1 = .ok l.addr ∧
    (∃ m ∈ reg.workers, m.pc = .returned ∧ l.conn ∈ m.closed) ∧
    (openUDPProxy reg t udpAddr (.ok ⟨4, lit "127.0.0.1:40001"⟩)).1 = .ok l.addr :=
  ⟨rfl, ⟨_, List.mem_singleton_self _, rfl, List.mem_singleton_self _⟩, rfl⟩

end FwdProxy
