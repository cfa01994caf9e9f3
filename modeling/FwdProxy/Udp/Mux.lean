import FwdProxy.Relay

/-!
# The UDP multiplexer

`udpServiceProxy(lConn, targetAddr)` serves any number of clients from one
connectionless socket. It resolves the target once, then loops: `ReadFrom` a
datagram, look its source up in `client2RConn` by `from.String()`, dial a new
outbound socket on a miss (and start `go udpFwdData(rConn, lConn, from)` for the
replies), then write the datagram on the client's socket.

The state below is that loop's locals, the reverse tasks it has started, the
sockets its `defer`s will close, and two logs: every `Write` the loop issues,
with the client whose datagram it carries, and every `WriteTo` a reverse task
issues, with the socket the reply was read from. Sockets from `DialUDP` are
fresh: the model hands out descriptors from `nextFd`. `String()` is a parameter
`str`, since `net.Addr` is an interface and the proxy relies on nothing about it.
-/

namespace FwdProxy

section Mux

variable {Addr : Type}

/-- `go udpFwdData(rConn, lConn, from)`: one client's reverse path. -/
structure RevTask (Addr : Type) where
  /-- The client's outbound socket, which the task reads. -/
  src : Conn
  /-- The client's address, which every `WriteTo` on `lConn` names. -/
  dstAddr : Addr
  pc : PumpPc

/-- What one `lConn.ReadFrom(buf)` returns. -/
structure ReadFromResult (Addr : Type) where
  data : GoString
  client : Addr
  err : Option GoError
  fits : data.length ≤ bufSize

/-- What `lConn.ReadFrom` returns once `lConn` is closed. -/
def ReadFromResult.closed (r : ReadFromResult Addr) : ReadFromResult Addr :=
  ⟨[], r.client, some (closedError "read"), Nat.zero_le _⟩

/-- Where `udpServiceProxy` stands. -/
inductive MuxPc (Addr : Type) where
  /-- About to call `net.ResolveUDPAddr("udp", targetAddr)`. -/
  | resolving
  /-- At the top of its loop, about to call `lConn.ReadFrom(buf)`. -/
  | reading
  /-- The datagram `data` came from `client`, which has no entry: about to call
  `net.DialUDP("udp", nil, rAddr)`. -/
  | dialing (client : Addr) (data : GoString)
  /-- In the inner loop, writing `client`'s datagram `data` on `rConn`. -/
  | writing (rConn : Conn) (client : Addr) (data : GoString) (nBytesW : Nat)
  /-- Returned: the deferred `Close`s have run. -/
  | returned

/-- `udpServiceProxy`, the goroutines it started, and what they have written. -/
structure Mux (Addr : Type) where
  /-- The listening socket `openUDPProxy` made, with its bound address. -/
  lConn : Listener
  targetAddr : GoString
  pc : MuxPc Addr
  rAddr : Option Addr
  client2RConn : GoMap Conn
  /-- One `go udpFwdData(rConn, lConn, from)` per dialed client. -/
  tasks : List (RevTask Addr)
  /-- The descriptor the next successful `DialUDP` returns. -/
  nextFd : Nat
  /-- The sockets the deferred `Close`s will close, the most recent first. -/
  deferred : List Conn
  closed : List Conn
  /-- Every `rConn.Write(data)` issued: the datagram's client, `rConn`, `data`. -/
  forwards : List (Addr × Conn × GoString)
  /-- Every `lConn.WriteTo(data, dstAddr)` issued by a reverse task: the socket
  it read, `dstAddr`, `data`. -/
  replies : List (Conn × Addr × GoString)

/-- The goroutine `go udpServiceProxy(lConn, targetAddr)`, at its first line. -/
def udpServiceProxy (lConn : Listener) (targetAddr : GoString) : Mux Addr where
  lConn := lConn
  targetAddr := targetAddr
  pc := .resolving
  rAddr := none
  client2RConn := .empty
  tasks := []
  nextFd := lConn.fd + 1
  deferred := [lConn.conn]
  closed := []
  forwards := []
  replies := []

/-- The answer to the call `udpServiceProxy` is waiting on. -/
inductive MuxAns (Addr : Type) where
  | resolved (r : Except GoError Addr)
  | readFrom (r : ReadFromResult Addr)
  | dialed (err : Option GoError)
  | wrote (r : WriteResult)

/-- The next thing that happens to a multiplexer. -/
inductive MuxEv (Addr : Type) where
  /-- `udpServiceProxy` gets the answer to its pending call. -/
  | main (a : MuxAns Addr)
  /-- The `i`-th reverse task gets the answer to its pending call. -/
  | rev (i : Nat) (a : IOAnswer)
  /-- Something closes `lConn`. -/
  | shutdown

/-- Whether socket `c` is still open. -/
def Mux.isOpen (m : Mux Addr) (c : Conn) : Bool := !(m.closed.contains c)

/-- `return`: the deferred `Close`s run, the most recently deferred first. -/
def Mux.ret (m : Mux Addr) : Mux Addr :=
  { m with pc := .returned, closed := m.closed ++ m.deferred, deferred := [] }

/-- The multiplexer once its inner loop, shared with the relay loops, is at `pc`. -/
def Mux.resume (m : Mux Addr) (rConn : Conn) (client : Addr) : PumpPc → Mux Addr
  | .writing data w => { m with pc := .writing rConn client data w }
  | .reading => { m with pc := .reading }
  | .stopped => m.ret

section Fields

variable {m : Mux Addr} {c : Conn} {a : Addr}

@[simp] theorem Mux.ret_pc : m.ret.pc = .returned := rfl

@[simp] theorem Mux.resume_client2RConn (p : PumpPc) :
    (m.resume c a p).client2RConn = m.client2RConn := by cases p <;> rfl

@[simp] theorem Mux.resume_tasks (p : PumpPc) : (m.resume c a p).tasks = m.tasks := by
  cases p <;> rfl

@[simp] theorem Mux.resume_nextFd (p : PumpPc) : (m.resume c a p).nextFd = m.nextFd := by
  cases p <;> rfl

@[simp] theorem Mux.resume_forwards (p : PumpPc) : (m.resume c a p).forwards = m.forwards := by
  cases p <;> rfl

@[simp] theorem Mux.resume_replies (p : PumpPc) : (m.resume c a p).replies = m.replies := by
  cases p <;> rfl

@[simp] theorem Mux.resume_lConn (p : PumpPc) : (m.resume c a p).lConn = m.lConn := by
  cases p <;> rfl

@[simp] theorem Mux.resume_targetAddr (p : PumpPc) : (m.resume c a p).targetAddr = m.targetAddr := by
  cases p <;> rfl

/-- Resuming from the relay loop ends the multiplexer only on a stopped loop. -/
theorem Mux.resume_pc_returned (p : PumpPc) : (m.resume c a p).pc = .returned ↔ p = .stopped := by
  cases p <;> simp [Mux.resume, Mux.ret]

end Fields

variable (str : Addr → GoString)

/-- What `lConn.ReadFrom` returns: the environment's answer while `lConn` is open. -/
def Mux.readFrom (m : Mux Addr) (r : ReadFromResult Addr) : ReadFromResult Addr :=
  if m.isOpen m.lConn.conn then r else r.closed

/-- The loop body once `lConn.ReadFrom` has returned `r`: return on an error,
else look the client up, and on a hit enter the inner loop on its socket. -/
def Mux.received (m : Mux Addr) (r : ReadFromResult Addr) : Mux Addr :=
  if r.err.isSome then m.ret
  else
    match m.client2RConn (str r.client) with
    | some rConn => m.resume rConn r.client (writeLoop r.data 0)
    | none => { m with pc := .dialing r.client r.data }

/-- The loop body once `net.DialUDP` for `client` has returned: `continue` on an
error, else record the new socket, start its reverse task, `defer` its close,
and enter the inner loop on it. -/
def Mux.dialed (m : Mux Addr) (client : Addr) (data : GoString) (err : Option GoError) :
    Mux Addr :=
  if err.isSome then { m with pc := .reading }
  else
    let rConn : Conn := ⟨m.nextFd⟩
    Mux.resume { m with
        client2RConn := m.client2RConn.insert (str client) rConn
        tasks := m.tasks ++ [⟨rConn, client, .reading⟩]
        nextFd := m.nextFd + 1
        deferred := rConn :: m.deferred }
      rConn client (writeLoop data 0)

/-- The inner loop once `rConn.Write(data)` has returned `r`. -/
def Mux.wrote (m : Mux Addr) (rConn : Conn) (client : Addr) (data : GoString) (nBytesW : Nat)
    (r : WriteResult) : Mux Addr :=
  Mux.resume { m with forwards := m.forwards ++ [(client, rConn, data)] }
    rConn client (writeStep udpServiceProxyOnErr data nBytesW r)

/-- `udpServiceProxy` on the answer to its pending call. -/
def Mux.mainStep (m : Mux Addr) (a : MuxAns Addr) : Mux Addr :=
  match m.pc, a with
  | .resolving, .resolved (.error _) => m.ret
  | .resolving, .resolved (.ok rAddr) => { m with pc := .reading, rAddr := some rAddr }
  | .reading, .readFrom r => m.received str (m.readFrom r)
  | .dialing client data, .dialed err => m.dialed str client data err
  | .writing rConn client data w, .wrote r => m.wrote rConn client data w r
  | _, _ => m

/-- The `i`-th reverse task on the answer to its pending call: it reads its
client's socket and writes replies to `lConn`, addressed to its client. -/
def Mux.revStep (m : Mux Addr) (i : Nat) (a : IOAnswer) : Mux Addr :=
  match m.tasks[i]? with
  | none => m
  | some t =>
    let a := t.pc.answer (m.isOpen t.src) (m.isOpen m.lConn.conn) a
    { m with
      tasks := m.tasks.set i { t with pc := udpFwdData t.pc a }
      replies := m.replies ++ (written t.pc a).map fun data => (t.src, t.dstAddr, data) }

/-- One event of the multiplexer. -/
def Mux.step (m : Mux Addr) : MuxEv Addr → Mux Addr
  | .main a => m.mainStep str a
  | .rev i a => m.revStep i a
  | .shutdown => { m with closed := m.closed ++ [m.lConn.conn] }

/-- The multiplexer after `evs`. -/
def Mux.run (m : Mux Addr) (evs : List (MuxEv Addr)) : Mux Addr := evs.foldl (Mux.step str) m

@[simp] theorem Mux.run_nil (m : Mux Addr) : m.run str [] = m := rfl

@[simp] theorem Mux.run_cons (m : Mux Addr) (ev : MuxEv Addr) (evs : List (MuxEv Addr)) :
    m.run str (ev :: evs) = (m.step str ev).run str evs := rfl

/-! ## What no step takes back -/

/-- What every step of the multiplexer keeps: the arguments it was started
with, and every socket already closed. -/
structure Mux.Frame (m m' : Mux Addr) : Prop where
  lConn : m'.lConn = m.lConn
  targetAddr : m'.targetAddr = m.targetAddr
  closed : m.closed <+: m'.closed

section Frame

variable {m : Mux Addr}

theorem Mux.Frame.refl (m : Mux Addr) : m.Frame m := ⟨rfl, rfl, List.prefix_refl _⟩

theorem Mux.Frame.trans {m₁ m₂ m₃ : Mux Addr} (h₁ : m₁.Frame m₂) (h₂ : m₂.Frame m₃) :
    m₁.Frame m₃ :=
  ⟨h₂.lConn.trans h₁.lConn, h₂.targetAddr.trans h₁.targetAddr, h₁.closed.trans h₂.closed⟩

theorem Mux.frame_ret : m.Frame m.ret := ⟨rfl, rfl, List.prefix_append _ _⟩

theorem Mux.frame_resume (c : Conn) (a : Addr) (p : PumpPc) : m.Frame (m.resume c a p) := by
  cases p with
  | stopped => exact Mux.frame_ret
  | _ => exact ⟨rfl, rfl, List.prefix_refl _⟩

theorem Mux.frame_received (r : ReadFromResult Addr) : m.Frame (m.received str r) := by
  unfold Mux.received
  split
  · exact Mux.frame_ret
  · split
    · exact Mux.frame_resume _ _ _
    · exact ⟨rfl, rfl, List.prefix_refl _⟩

theorem Mux.frame_dialed (client : Addr) (data : GoString) (err : Option GoError) :
    m.Frame (m.dialed str client data err) := by
  unfold Mux.dialed
  split
  · exact ⟨rfl, rfl, List.prefix_refl _⟩
  · refine Mux.Frame.trans ?_ (Mux.frame_resume _ _ _)
    exact ⟨rfl, rfl, List.prefix_refl _⟩

theorem Mux.frame_revStep (i : Nat) (a : IOAnswer) : m.Frame (m.revStep i a) := by
  unfold Mux.revStep
  split
  · exact ⟨rfl, rfl, List.prefix_refl _⟩
  · exact ⟨rfl, rfl, List.prefix_refl _⟩

/-- **No step changes the arguments or reopens a socket.** -/
theorem Mux.frame_step (ev : MuxEv Addr) : m.Frame (m.step str ev) := by
  cases ev with
  | main a =>
    simp only [Mux.step, Mux.mainStep]
    split
    · exact Mux.frame_ret
    · exact ⟨rfl, rfl, List.prefix_refl _⟩
    · exact Mux.frame_received str _
    · exact Mux.frame_dialed str _ _ _
    · refine Mux.Frame.trans ?_ (Mux.frame_resume _ _ _)
      exact ⟨rfl, rfl, List.prefix_refl _⟩
    · exact Mux.Frame.refl m
  | rev i a => exact Mux.frame_revStep _ _
  | shutdown => exact ⟨rfl, rfl, List.prefix_append _ _⟩

theorem Mux.frame_run (evs : List (MuxEv Addr)) : ∀ m : Mux Addr, m.Frame (m.run str evs) := by
  induction evs with
  | nil => exact Mux.Frame.refl
  | cons ev evs ih => exact fun m => (Mux.frame_step str ev).trans (ih _)

end Frame

/-! ## What a step hands on

A datagram passes through the multiplexer in three places: the receive loop's
hand, from `ReadFrom` to the last `Write`; the `forwards` log; and a reverse
task's chunk, from its `Read` to its `WriteTo`, then the `replies` log. These
lemmas say, once for each, what one step can put there.
-/

section Logs

variable {m : Mux Addr}

/-- The datagram the receive loop has in hand, with the client it came from. -/
def Mux.inHand (m : Mux Addr) : Option (Addr × GoString) :=
  match m.pc with
  | .dialing client data => some (client, data)
  | .writing _ client data _ => some (client, data)
  | _ => none

theorem Mux.inHand_of_writing {rConn : Conn} {client : Addr} {data : GoString} {w : Nat}
    (h : m.pc = .writing rConn client data w) : m.inHand = some (client, data) := by
  simp [Mux.inHand, h]

@[simp] theorem Mux.ret_inHand : m.ret.inHand = none := rfl

@[simp] theorem Mux.ret_forwards : m.ret.forwards = m.forwards := rfl

@[simp] theorem Mux.ret_replies : m.ret.replies = m.replies := rfl

@[simp] theorem Mux.ret_tasks : m.ret.tasks = m.tasks := rfl

@[simp] theorem Mux.resume_inHand (c : Conn) (a : Addr) (p : PumpPc) :
    (m.resume c a p).inHand = p.chunk.map fun d => (a, d) := by
  cases p <;> rfl

/-- A `ReadFrom` that reports no error got the environment's answer. -/
theorem Mux.readFrom_eq {r : ReadFromResult Addr} (h : (m.readFrom r).err = none) :
    m.readFrom r = r := by
  unfold Mux.readFrom at *
  split at h
  · simp_all
  · simp [ReadFromResult.closed] at h

theorem Mux.received_inHand {r : ReadFromResult Addr} {a : Addr} {d : GoString}
    (h : (m.received str r).inHand = some (a, d)) : r.err = none ∧ r.client = a ∧ r.data = d := by
  unfold Mux.received at h
  split at h
  · simp at h
  · rename_i he
    have he : r.err = none := by simpa using he
    split at h
    · obtain ⟨p, hp, hpd⟩ := Option.map_eq_some'.mp (Mux.resume_inHand (m := m) _ _ _ ▸ h)
      cases hpd
      exact ⟨he, rfl, (writeLoop_chunk hp).symm⟩
    · simp only [Mux.inHand, Option.some.injEq, Prod.mk.injEq] at h
      exact ⟨he, h⟩

theorem Mux.dialed_inHand {client a : Addr} {data d : GoString} {err : Option GoError}
    (h : (m.dialed str client data err).inHand = some (a, d)) : client = a ∧ data = d := by
  unfold Mux.dialed at h
  split at h
  · simp [Mux.inHand] at h
  · obtain ⟨p, hp, hpd⟩ := Option.map_eq_some'.mp (Mux.resume_inHand _ _ _ ▸ h)
    cases hpd
    exact ⟨rfl, (writeLoop_chunk hp).symm⟩

/-- The receive loop's datagram in hand is the one it had, or the one a
`ReadFrom` has just returned without error. -/
theorem Mux.step_inHand {ev : MuxEv Addr} {a : Addr} {d : GoString}
    (h : (m.step str ev).inHand = some (a, d)) :
    m.inHand = some (a, d) ∨
      ∃ r, ev = .main (.readFrom r) ∧ r.err = none ∧ r.client = a ∧ r.data = d := by
  cases ev with
  | main ans =>
    simp only [Mux.step, Mux.mainStep] at h
    split at h
    · simp at h
    · simp [Mux.inHand] at h
    · have hr := Mux.received_inHand str h
      rw [Mux.readFrom_eq hr.1] at hr
      exact .inr ⟨_, rfl, hr⟩
    · obtain ⟨rfl, rfl⟩ := Mux.dialed_inHand str h
      exact .inl (by simp [Mux.inHand, *])
    · rename_i hpc
      obtain ⟨p, hp, hpd⟩ := Option.map_eq_some'.mp (Mux.resume_inHand _ _ _ ▸ h)
      cases hpd
      exact .inl (by rw [Mux.inHand_of_writing hpc, writeStep_chunk hp])
    · exact .inl h
  | rev i a => simp only [Mux.step, Mux.revStep] at h; split at h <;> exact .inl h
  | shutdown => exact .inl h

/-- A step logs at most one forwarding `Write`: the one the inner loop is on. -/
theorem Mux.step_forwards (ev : MuxEv Addr) :
    (m.step str ev).forwards = m.forwards ∨
      ∃ c a d w, m.pc = .writing c a d w ∧ (m.step str ev).forwards = m.forwards ++ [(a, c, d)] := by
  cases ev with
  | main ans =>
    simp only [Mux.step, Mux.mainStep]
    split
    · exact .inl rfl
    · exact .inl rfl
    · unfold Mux.received
      split
      · exact .inl rfl
      · split <;> simp
    · unfold Mux.dialed
      split <;> simp
    · exact .inr ⟨_, _, _, _, ‹_›, by simp [Mux.wrote]⟩
    · exact .inl rfl
  | rev i a => simp only [Mux.step, Mux.revStep]; split <;> exact .inl rfl
  | shutdown => exact .inl rfl

theorem Mux.forwards_subset_step (ev : MuxEv Addr) : m.forwards ⊆ (m.step str ev).forwards := by
  rcases Mux.step_forwards str (m := m) ev with he | ⟨_, _, _, _, _, he⟩ <;> rw [he]
  · exact List.Subset.refl _
  · exact List.subset_append_left _ _

/-- A step logs at most one reply: the one a reverse task is writing. -/
theorem Mux.step_replies (ev : MuxEv Addr) :
    (m.step str ev).replies = m.replies ∨
      ∃ (i : Nat) (t : RevTask Addr) (p : GoString) (w : Nat), m.tasks[i]? = some t ∧
        t.pc = .writing p w ∧
        (m.step str ev).replies = m.replies ++ [(t.src, t.dstAddr, p)] := by
  cases ev with
  | main ans =>
    simp only [Mux.step, Mux.mainStep]
    split
    · exact .inl rfl
    · exact .inl rfl
    · unfold Mux.received
      split
      · exact .inl rfl
      · split <;> simp
    · unfold Mux.dialed
      split <;> simp
    · exact .inl (by simp [Mux.wrote])
    · exact .inl rfl
  | rev i a =>
    simp only [Mux.step, Mux.revStep]
    split
    · exact .inl rfl
    · rename_i t ht
      rcases written_cases t.pc (t.pc.answer (m.isOpen t.src) (m.isOpen m.lConn.conn) a) with
        hw | ⟨p, w, hpc, hw⟩
      · exact .inl (by simp [hw])
      · exact .inr ⟨i, t, p, w, ht, hpc, by simp [hw]⟩
  | shutdown => exact .inl rfl

theorem Mux.replies_subset_step (ev : MuxEv Addr) : m.replies ⊆ (m.step str ev).replies := by
  rcases Mux.step_replies str (m := m) ev with he | ⟨_, _, _, _, _, _, he⟩ <;> rw [he]
  · exact List.Subset.refl _
  · exact List.subset_append_left _ _

/-- A step adds at most a fresh reverse task, at its first `Read`, or moves one
reverse task on by the answer to its pending call. -/
theorem Mux.step_tasks {ev : MuxEv Addr} {t' : RevTask Addr} (h : t' ∈ (m.step str ev).tasks) :
    t' ∈ m.tasks ∨ t'.pc = .reading ∨
      ∃ (i : Nat) (t : RevTask Addr) (a : IOAnswer), m.tasks[i]? = some t ∧ ev = .rev i a ∧
        t'.src = t.src ∧ t'.dstAddr = t.dstAddr ∧
        t'.pc = udpFwdData t.pc (t.pc.answer (m.isOpen t.src) (m.isOpen m.lConn.conn) a) := by
  cases ev with
  | main ans =>
    simp only [Mux.step, Mux.mainStep] at h
    split at h
    · exact .inl h
    · exact .inl h
    · unfold Mux.received at h
      split at h
      · exact .inl h
      · split at h <;> simp_all
    · unfold Mux.dialed at h
      split at h
      · exact .inl h
      · simp only [Mux.resume_tasks, List.mem_append, List.mem_singleton] at h
        rcases h with h | rfl
        · exact .inl h
        · exact .inr (.inl rfl)
    · exact .inl (by simpa [Mux.wrote] using h)
    · exact .inl h
  | rev i a =>
    simp only [Mux.step, Mux.revStep] at h
    split at h
    · exact .inl h
    · rename_i t ht
      rcases List.mem_or_eq_of_mem_set h with h | rfl
      · exact .inl h
      · exact .inr (.inr ⟨i, t, a, ht, rfl, rfl, rfl, rfl⟩)
  | shutdown => exact .inl h

end Logs

end Mux

end FwdProxy
