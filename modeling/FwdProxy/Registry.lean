import FwdProxy.Tcp.Accept
import FwdProxy.Udp.Mux
import Mathlib.Data.List.Nodup

/-!
# The forwarder registry

`openTCPProxy(serviceAddr)` and `openUDPProxy(serviceAddr)` have one body. Look
the key `scheme + serviceAddr` up in `serv2Fwd`; on a hit return the stored
`ListenAddr`; on a miss acquire a listening socket, store a `Forwarder` for it,
and start the stored worker on the socket and `serviceAddr`. They differ in the
scheme, in how the socket is acquired (`net.Listen`, or `net.ResolveUDPAddr`
then `net.ListenUDP`, each failure with its own message) and in the worker.
`openProxy` is that body; the two functions are it at their own values.

What every sequence of calls keeps is `RegistryInv`: one entry per key, one
worker per entry, holding the listener whose address the entry hands out.
`OpenSpec` is what one call does: a hit returns the entry's `ListenAddr` and
changes nothing; a miss with an acquired socket returns the socket's address,
stores the entry and starts the worker; a failure changes nothing. Nothing in
either function looks at `serviceAddr` beyond the key, so a target that cannot
be resolved is found out only by the worker, after the entry is stored.
-/

namespace FwdProxy

section Registry

variable {W : Type}

/-- One entry of `serv2Fwd`. -/
structure Forwarder (W : Type) where
  ListenAddr : GoString
  worker : Listener → GoString → W

/-- `serv2Fwd`, and the workers its `go` statements have started. -/
structure Registry (W : Type) where
  serv2Fwd : GoMap (Forwarder W)
  workers : List W

/-- The registry at process start. -/
def Registry.empty : Registry W := ⟨GoMap.empty, []⟩

/-- The body of `openTCPProxy` and `openUDPProxy`. `bind` is the outcome of
acquiring the listening socket, with the error the function returns for it. -/
def openProxy (scheme : GoString) (worker : Listener → GoString → W)
    (bind : Except GoError Listener) (reg : Registry W) (serviceAddr : GoString) :
    Except GoError GoString × Registry W :=
  let serviceKey := scheme ++ serviceAddr
  match reg.serv2Fwd serviceKey with
  | some fwd => (.ok fwd.ListenAddr, reg)
  | none =>
    match bind with
    | .error e => (.error e, reg)
    | .ok listen =>
      let fwd : Forwarder W := ⟨listen.addr, worker⟩
      (.ok listen.addr, ⟨reg.serv2Fwd.insert serviceKey fwd, reg.workers ++ [fwd.worker listen serviceAddr]⟩)

end Registry

/-- `net.Listen("tcp", ctrlHost+":")`, as `openTCPProxy` reports its failure. -/
def tcpBind (listen : Except GoError Listener) : Except GoError Listener :=
  listen.mapError fun _ => .other "Unable to open TCP listening port\n"

/-- `openTCPProxy(serviceAddr)`, given the outcome of its `net.Listen`. -/
def openTCPProxy (reg : Registry AcceptLoop) (serviceAddr : GoString)
    (listen : Except GoError Listener) : Except GoError GoString × Registry AcceptLoop :=
  openProxy (lit "tcp://") tcpServiceProxy (tcpBind listen) reg serviceAddr

section Udp

variable {Addr : Type}

/-- `net.ResolveUDPAddr("udp", ctrlHost+":")` then `net.ListenUDP`, as
`openUDPProxy` reports their failures. -/
def udpBind (udpAddr : Except GoError Addr) (listen : Except GoError Listener) :
    Except GoError Listener :=
  match udpAddr with
  | .error e => .error (.wrapped "Unable to resolve UDP address\n%w\n" e)
  | .ok _ => listen.mapError fun _ => .other "Unable to open UDP listening port\n"

/-- `openUDPProxy(serviceAddr)`, given the outcomes of its resolve and listen. -/
def openUDPProxy (reg : Registry (Mux Addr)) (serviceAddr : GoString)
    (udpAddr : Except GoError Addr) (listen : Except GoError Listener) :
    Except GoError GoString × Registry (Mux Addr) :=
  openProxy (lit "udp://") udpServiceProxy (udpBind udpAddr listen) reg serviceAddr

end Udp

/-! ## One call -/

section Spec

variable {W : Type} (scheme : GoString) (worker : Listener → GoString → W)

/-- What one call owes the registry. -/
structure OpenSpec (bind : Except GoError Listener) (reg : Registry W) (t : GoString)
    (r : Except GoError GoString × Registry W) : Prop where
  /-- The registry changes only on a missing key and an acquired socket, by that
  one entry and its worker. -/
  grows : r.2 = reg ∨ ∃ l, reg.serv2Fwd (scheme ++ t) = none ∧ bind = .ok l ∧
    r.1 = .ok l.addr ∧ r.2 = ⟨reg.serv2Fwd.insert (scheme ++ t) ⟨l.addr, worker⟩,
      reg.workers ++ [worker l t]⟩
  /-- A hit returns the entry's `ListenAddr` and changes nothing. -/
  hit : ∀ f, reg.serv2Fwd (scheme ++ t) = some f → r = (.ok f.ListenAddr, reg)
  /-- A miss with an acquired socket returns the socket's address, stores the
  entry for it under the key and starts the worker on the socket and `t`. -/
  miss : ∀ l, reg.serv2Fwd (scheme ++ t) = none → bind = .ok l →
    r = (.ok l.addr, ⟨reg.serv2Fwd.insert (scheme ++ t) ⟨l.addr, worker⟩, reg.workers ++ [worker l t]⟩)
  /-- A failing call changes nothing. -/
  failed : ∀ e, r.1 = .error e → r.2 = reg
  /-- A successful call returns the `ListenAddr` of the key's entry. -/
  returns : ∀ a, r.1 = .ok a → ∃ f, r.2.serv2Fwd (scheme ++ t) = some f ∧ f.ListenAddr = a
  /-- No entry is dropped or changed. -/
  keeps : reg.serv2Fwd.Extends r.2.serv2Fwd

theorem openProxy_spec (bind : Except GoError Listener) (reg : Registry W) (t : GoString) :
    OpenSpec scheme worker bind reg t (openProxy scheme worker bind reg t) := by
  cases hf : reg.serv2Fwd (scheme ++ t) with
  | some f =>
    simp only [openProxy, hf]
    exact ⟨.inl rfl, (fun _ h => by cases hf.symm.trans h; rfl), (fun _ h => nomatch h.symm.trans hf),
      (fun _ h => nomatch h), fun a h => ⟨f, hf, by cases h; rfl⟩, GoMap.extends_refl _⟩
  | none =>
    cases bind with
    | error e =>
      simp only [openProxy, hf]
      exact ⟨.inl rfl, (fun _ h => nomatch hf.symm.trans h), (fun _ _ h => nomatch h), fun _ _ => rfl,
        (fun _ h => nomatch h), GoMap.extends_refl _⟩
    | ok l =>
      simp only [openProxy, hf]
      exact ⟨.inr ⟨l, hf, rfl, rfl, rfl⟩, (fun _ h => nomatch hf.symm.trans h),
        (fun _ _ h => by cases h; rfl), (fun _ h => nomatch h),
        fun a h => ⟨_, GoMap.insert_self, by cases h; rfl⟩, GoMap.extends_insert hf⟩

end Spec

/-! ## Every sequence of calls -/

section Inv

variable {W : Type} (scheme : GoString) (worker : Listener → GoString → W)
  (lis : W → Listener) (tgt : W → GoString)

/-- The listener and target each started worker was given. -/
def Registry.started (reg : Registry W) : List (Listener × GoString) :=
  reg.workers.map fun w => (lis w, tgt w)

/-- The registry invariant: one entry per target, one worker per entry, and that
worker holds the listener whose address the entry hands out. -/
structure RegistryInv (reg : Registry W) : Prop where
  /-- Every key is a service key. -/
  keyed : ∀ k f, reg.serv2Fwd k = some f → ∃ t, k = scheme ++ t
  /-- Every entry stores the worker function, and a worker was started on its
  target with the listener the entry advertises. -/
  served : ∀ t f, reg.serv2Fwd (scheme ++ t) = some f →
    f.worker = worker ∧ ∃ l, (l, t) ∈ reg.started lis tgt ∧ l.addr = f.ListenAddr
  /-- Every worker serves the entry of its target. -/
  running : ∀ p ∈ reg.started lis tgt, ∃ f, reg.serv2Fwd (scheme ++ p.2) = some f ∧
    p.1.addr = f.ListenAddr
  /-- One worker per target. -/
  nodup : ((reg.started lis tgt).map Prod.snd).Nodup

theorem registryInv_empty : RegistryInv scheme worker lis tgt (Registry.empty : Registry W) :=
  ⟨by simp [Registry.empty], by simp [Registry.empty], by simp [Registry.empty, Registry.started],
    by simp [Registry.empty, Registry.started]⟩

variable {scheme worker lis tgt}

/-- Steps of the workers that keep their arguments keep the invariant. -/
theorem RegistryInv.of_started {reg reg' : Registry W} (h : RegistryInv scheme worker lis tgt reg)
    (hm : reg'.serv2Fwd = reg.serv2Fwd) (hs : reg'.started lis tgt = reg.started lis tgt) :
    RegistryInv scheme worker lis tgt reg' := by
  obtain ⟨h1, h2, h3, h4⟩ := h
  exact ⟨hm ▸ h1, hm ▸ hs ▸ h2, hm ▸ hs ▸ h3, hs ▸ h4⟩

/-- A call for the target of a started worker returns that worker's listener
address, whatever the socket outcomes and whatever the worker has done since. -/
theorem RegistryInv.call_returns {reg : Registry W} (h : RegistryInv scheme worker lis tgt reg)
    {w : W} (hw : w ∈ reg.workers) (bind : Except GoError Listener) :
    (openProxy scheme worker bind reg (tgt w)).1 = .ok (lis w).addr := by
  obtain ⟨f, hf, ha⟩ := h.running (lis w, tgt w) (List.mem_map_of_mem _ hw)
  dsimp only at hf ha
  simp [openProxy, hf, ha]

variable (hlaw : ∀ l t, lis (worker l t) = l ∧ tgt (worker l t) = t)
include hlaw

/-- A first successful call for `t` adds its entry and its worker. -/
theorem RegistryInv.insert {reg : Registry W} (h : RegistryInv scheme worker lis tgt reg)
    {t : GoString} {l : Listener} (hnone : reg.serv2Fwd (scheme ++ t) = none) :
    RegistryInv scheme worker lis tgt
      ⟨reg.serv2Fwd.insert (scheme ++ t) ⟨l.addr, worker⟩, reg.workers ++ [worker l t]⟩ := by
  have hext := GoMap.extends_insert (v := (⟨l.addr, worker⟩ : Forwarder W)) hnone
  have hst : Registry.started lis tgt ⟨reg.serv2Fwd.insert (scheme ++ t) ⟨l.addr, worker⟩,
      reg.workers ++ [worker l t]⟩ = reg.started lis tgt ++ [(l, t)] := by
    simp [Registry.started, hlaw]
  refine ⟨?_, ?_, ?_, ?_⟩ <;> simp only [hst]
  · intro k f hk
    rcases GoMap.insert_eq_some hk with ⟨hkt, -⟩ | ⟨-, hk⟩
    · exact ⟨t, hkt⟩
    · exact h.keyed k f hk
  · intro t' f hk
    rcases GoMap.insert_eq_some hk with ⟨htt, rfl⟩ | ⟨-, hk⟩
    · obtain rfl := List.append_cancel_left htt
      exact ⟨rfl, l, by simp, rfl⟩
    · obtain ⟨hw, l', hl', hla⟩ := h.served t' f hk
      exact ⟨hw, l', List.mem_append_left _ hl', hla⟩
  · intro p hp
    rcases List.mem_append.mp hp with hp | hp
    · obtain ⟨f, hf, hfa⟩ := h.running p hp
      exact ⟨f, hext _ _ hf, hfa⟩
    · simp only [List.mem_singleton] at hp; subst hp
      exact ⟨_, GoMap.insert_self, rfl⟩
  · rw [List.map_append]
    refine List.Nodup.append h.nodup (List.nodup_singleton _) ?_
    intro t' ht' ht''
    simp only [List.map_cons, List.map_nil, List.mem_singleton] at ht''; subst ht''
    obtain ⟨p, hp, rfl⟩ := List.mem_map.mp ht'
    obtain ⟨f, hf, -⟩ := h.running p hp
    simp [hnone] at hf

theorem RegistryInv.call {reg : Registry W} (h : RegistryInv scheme worker lis tgt reg)
    (bind : Except GoError Listener) (t : GoString) :
    RegistryInv scheme worker lis tgt (openProxy scheme worker bind reg t).2 := by
  rcases (openProxy_spec scheme worker bind reg t).grows with he | ⟨l, hnone, -, -, he⟩
  · rw [he]; exact h
  · rw [he]; exact h.insert hlaw hnone

theorem RegistryInv.foldl {C : Type} (bindOf : C → Except GoError Listener) (tOf : C → GoString)
    (calls : List C) : ∀ reg, RegistryInv scheme worker lis tgt reg →
      RegistryInv scheme worker lis tgt
        (calls.foldl (fun reg c => (openProxy scheme worker (bindOf c) reg (tOf c)).2) reg) := by
  induction calls with
  | nil => exact fun _ h => h
  | cons c calls ih => exact fun reg h => ih _ (h.call hlaw _ _)

end Inv

/-- The registry after a sequence of `openTCPProxy` calls, each with its target
and the outcome of its `net.Listen`. -/
def runTCPProxy (calls : List (GoString × Except GoError Listener)) : Registry AcceptLoop :=
  calls.foldl (fun reg c => (openTCPProxy reg c.1 c.2).2) .empty

/-- The registry after a sequence of `openUDPProxy` calls, each with its target
and the outcomes of its resolve and listen. -/
def runUDPProxy {Addr : Type} (calls : List (GoString × Except GoError Addr × Except GoError Listener)) :
    Registry (Mux Addr) :=
  calls.foldl (fun reg c => (openUDPProxy reg c.1 c.2.1 c.2.2).2) .empty

/-- **One listener and one worker per target.** After every sequence of
`openTCPProxy` calls, and separately of `openUDPProxy` calls, whatever the
targets and the outcomes of the socket calls, the registry invariant holds,
and the next call, for any target and outcome, does what `OpenSpec` says. -/
theorem registry_one_forwarder_per_target {Addr : Type}
    (tcpCalls : List (GoString × Except GoError Listener))
    (udpCalls : List (GoString × Except GoError Addr × Except GoError Listener)) :
    RegistryInv (lit "tcp://") tcpServiceProxy AcceptLoop.listen AcceptLoop.targetAddr
      (runTCPProxy tcpCalls) ∧
    (∀ t listen, OpenSpec (lit "tcp://") tcpServiceProxy (tcpBind listen) (runTCPProxy tcpCalls) t
      (openTCPProxy (runTCPProxy tcpCalls) t listen)) ∧
    RegistryInv (lit "udp://") udpServiceProxy Mux.lConn Mux.targetAddr
      (runUDPProxy udpCalls : Registry (Mux Addr)) ∧
    (∀ t udpAddr listen, OpenSpec (lit "udp://") udpServiceProxy (udpBind udpAddr listen)
      (runUDPProxy udpCalls) t (openUDPProxy (runUDPProxy udpCalls) t udpAddr listen)) :=
  ⟨RegistryInv.foldl (fun _ _ => ⟨rfl, rfl⟩) (C := GoString × Except GoError Listener)
      (fun c => tcpBind c.2) Prod.fst tcpCalls _ (registryInv_empty _ _ _ _),
    fun t _ => openProxy_spec _ _ _ _ t,
    RegistryInv.foldl (fun _ _ => ⟨rfl, rfl⟩)
      (C := GoString × Except GoError Addr × Except GoError Listener)
      (fun c => udpBind c.2.1 c.2.2) Prod.fst udpCalls _ (registryInv_empty _ _ _ _),
    fun t _ _ => openProxy_spec _ _ _ _ t⟩

end FwdProxy
