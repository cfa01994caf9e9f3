import FwdProxy.Udp.Mux

/-!
# Which failures end the multiplexer

`udpServiceProxy` tells `syscall.EINVAL` apart from other errors only in what it
logs: both branches of its `ReadFrom` check `return`. So its loop ends exactly
when `ResolveUDPAddr` or a `ReadFrom` fails, whatever the error. A failed
`DialUDP` is `continue`d and costs only its datagram, and no `Write` outcome and
no reverse task ends the loop (`mux_returned_iff`).

Each reverse task runs `udpFwdData`, whose `Read` check also returns on every
error, and whose failed `WriteTo` either returns or breaks out to the next
`Read`: it never spends a second `WriteTo` on a datagram after a failed one.

When the receive loop returns, its `defer`s close `lConn` and the socket of
every session it dialed. Each reverse task is then blocked on a closed socket,
and stops at its next step (`mux_return_closes_sessions`).

A failed `Write` on an outbound socket is `continue`d, and the loop reads no
datagram until that `Write` succeeds. One client whose socket keeps refusing
its datagrams stalls every other client (`mux_write_retry_stalls`).
-/

namespace FwdProxy

section Errors

variable {Addr : Type} (str : Addr → GoString)

/-- The event answers `udpServiceProxy`'s pending call with a failure that
ends it: `ResolveUDPAddr` or `ReadFrom` failed. -/
def Mux.EndsLoop (m : Mux Addr) : MuxEv Addr → Prop
  | .main (.resolved (.error _)) => m.pc = .resolving
  | .main (.readFrom r) => m.pc = .reading ∧ (m.readFrom r).err.isSome
  | _ => False

/-- The inner loop's test never stops a loop. -/
@[simp] theorem writeLoop_ne_stopped (data : GoString) (w : Nat) : writeLoop data w ≠ .stopped := by
  unfold writeLoop; split <;> simp

/-- `udpServiceProxy`'s inner loop never stops: every failed `Write` is retried. -/
theorem writeStep_retry_ne_stopped (data : GoString) (w : Nat) (r : WriteResult) :
    writeStep udpServiceProxyOnErr data w r ≠ .stopped := by
  cases r <;> simp [writeStep, udpServiceProxyOnErr]

theorem Mux.received_pc_returned (m : Mux Addr) (r : ReadFromResult Addr) :
    (m.received str r).pc = .returned ↔ r.err.isSome := by
  unfold Mux.received
  split
  · simp_all
  · split <;> simp_all [Mux.resume_pc_returned]

theorem Mux.dialed_pc_ne (m : Mux Addr) (client : Addr) (data : GoString) (err : Option GoError) :
    (m.dialed str client data err).pc ≠ .returned := by
  unfold Mux.dialed
  split <;> simp [Mux.resume_pc_returned]

theorem Mux.wrote_pc_ne (m : Mux Addr) (rConn : Conn) (client : Addr) (data : GoString) (w : Nat)
    (r : WriteResult) : (m.wrote rConn client data w r).pc ≠ .returned := by
  simp [Mux.wrote, Mux.resume_pc_returned, writeStep_retry_ne_stopped]

/-- **One step's exits.** An event ends the multiplexer exactly when it answers
its pending `ResolveUDPAddr` or `ReadFrom` with an error. -/
theorem Mux.step_returned_iff (m : Mux Addr) (ev : MuxEv Addr) :
    (m.step str ev).pc = .returned ↔ m.pc = .returned ∨ m.EndsLoop ev := by
  cases ev with
  | main a =>
    simp only [Mux.step, Mux.mainStep]
    cases a with
    | resolved r => cases r <;> split <;> simp_all [Mux.EndsLoop]
    | readFrom r => split <;> simp_all [Mux.EndsLoop, Mux.received_pc_returned]
    | dialed err => split <;> simp_all [Mux.EndsLoop, Mux.dialed_pc_ne]
    | wrote r => split <;> simp_all [Mux.EndsLoop, Mux.wrote_pc_ne]
  | rev i a =>
    simp only [Mux.step, Mux.EndsLoop, or_false]
    unfold Mux.revStep; split <;> rfl
  | shutdown => simp [Mux.step, Mux.EndsLoop]

/-- A multiplexer that has returned stays returned. -/
theorem Mux.run_returned (evs : List (MuxEv Addr)) :
    ∀ m : Mux Addr, m.pc = .returned → (m.run str evs).pc = .returned := by
  induction evs with
  | nil => exact fun _ h => h
  | cons ev evs ih => exact fun m h => ih _ ((Mux.step_returned_iff str m ev).mpr (.inl h))

/-- **The receive loop ends exactly at a failed resolve or read.** Along every
run of `udpServiceProxy`, it has returned exactly when one of the events met it
waiting on `ResolveUDPAddr` or `ReadFrom` and failed that call, with any error. -/
theorem mux_returned_iff (lConn : Listener) (targetAddr : GoString) (evs : List (MuxEv Addr)) :
    ((udpServiceProxy lConn targetAddr : Mux Addr).run str evs).pc = .returned ↔
      ∃ pre ev post, evs = pre ++ ev :: post ∧
        ((udpServiceProxy lConn targetAddr : Mux Addr).run str pre).EndsLoop ev := by
  have := foldl_done_iff (Mux.step str) (fun m => m.pc = .returned) Mux.EndsLoop
    (Mux.step_returned_iff str) evs (udpServiceProxy lConn targetAddr)
  simpa [Mux.run, udpServiceProxy] using this

/-- **What a failure costs.** The receive loop ends exactly at a failed
`ResolveUDPAddr` or `ReadFrom`, whatever the error. A failed `DialUDP` costs
only its datagram: no entry, no `Write`, and the next call is the next
`ReadFrom`. Every reverse task ends at its first failed `Read`, whatever the
error, and after a failed `WriteTo` its next call, if any, is a `Read`. -/
theorem mux_failure_costs (lConn : Listener) (targetAddr : GoString) :
    (∀ evs, ((udpServiceProxy lConn targetAddr : Mux Addr).run str evs).pc = .returned ↔
      ∃ pre ev post, evs = pre ++ ev :: post ∧
        ((udpServiceProxy lConn targetAddr : Mux Addr).run str pre).EndsLoop ev) ∧
    (∀ (m : Mux Addr) client data e, m.pc = .dialing client data →
      m.step str (.main (.dialed (some e))) = { m with pc := .reading }) ∧
    (∀ r : ReadResult, r.err.isSome → udpFwdData .reading (.read r) = .stopped) ∧
    (∀ data w e, udpFwdData (.writing data w) (.wrote (.err e)) = .reading ∨
      udpFwdData (.writing data w) (.wrote (.err e)) = .stopped) := by
  refine ⟨mux_returned_iff str lConn targetAddr, ?_, ?_, ?_⟩
  · intro m client data e hpc
    simp [Mux.step, Mux.mainStep, hpc, Mux.dialed]
  · intro r he
    simp [udpFwdData, relayStep, he]
  · intro data w e
    by_cases he : e = einval <;> simp [udpFwdData, relayStep, writeStep, udpFwdDataOnErr, he]

/-- **A failed read ends the receive loop.** After resolving its target,
`udpServiceProxy` meets a `ReadFrom` that fails with `ENOMEM`, which `recvmsg`
returns when the kernel cannot allocate memory for it: not the closed-socket
error, and the loop returns. -/
theorem mux_read_error_returns :
    let m := (udpServiceProxy ⟨3, lit "127.0.0.1:40000"⟩ (lit "127.0.0.1:9000") : Mux GoString).run id
      [.main (.resolved (.ok (lit "127.0.0.1:9000"))),
       .main (.readFrom ⟨[], lit "127.0.0.1:5000", some (.opError "read" (.errno 12)), Nat.zero_le _⟩)]
    (GoError.opError "read" (.errno 12)).isClosed = false ∧ m.pc = .returned :=
  ⟨rfl, rfl⟩

/-! ## Returning closes every session -/

/-- Every socket the multiplexer holds is closed by its `defer`s or has been, and
once it has returned there is nothing left to close. -/
structure Mux.Owned (m : Mux Addr) : Prop where
  /-- `defer lConn.Close()`. -/
  lConn : m.lConn.conn ∈ m.deferred ++ m.closed
  /-- `defer rConn.Close()` for every session. -/
  tasks : ∀ c ∈ m.tasks.map RevTask.src, c ∈ m.deferred ++ m.closed
  /-- A returned multiplexer has run its `defer`s. -/
  returned : m.pc = .returned → m.deferred = []

section Owned

variable {m : Mux Addr}

theorem mem_deferred_closed {m' : Mux Addr} (hd : m'.deferred = m.deferred)
    (hc : m.closed ⊆ m'.closed) {c : Conn} (h : c ∈ m.deferred ++ m.closed) :
    c ∈ m'.deferred ++ m'.closed :=
  hd ▸ List.mem_append.mpr ((List.mem_append.mp h).imp id (hc ·))

/-- A step that keeps the sockets and the `defer`s, closes no fewer sockets and
does not return keeps ownership. -/
theorem Mux.Owned.mono (h : m.Owned) {m' : Mux Addr} (hl : m'.lConn = m.lConn)
    (ht : m'.tasks.map RevTask.src = m.tasks.map RevTask.src) (hd : m'.deferred = m.deferred)
    (hc : m.closed ⊆ m'.closed) (hr : m'.pc = .returned → m.pc = .returned) : m'.Owned :=
  ⟨hl ▸ mem_deferred_closed hd hc h.lConn, fun c hm => mem_deferred_closed hd hc (h.tasks c (ht ▸ hm)),
    fun hp => hd ▸ h.returned (hr hp)⟩

theorem Mux.Owned.ret (h : m.Owned) : m.ret.Owned := by
  have move : ∀ c, c ∈ m.deferred ++ m.closed → c ∈ m.ret.deferred ++ m.ret.closed := by
    intro c hc
    simp only [Mux.ret, List.nil_append, List.mem_append] at hc ⊢
    exact hc.symm
  exact ⟨move _ h.lConn, fun c hm => move c (h.tasks c hm), fun _ => rfl⟩

theorem Mux.Owned.resume (h : m.Owned) (c : Conn) (a : Addr) (p : PumpPc) : (m.resume c a p).Owned := by
  cases p with
  | stopped => exact h.ret
  | _ => exact h.mono rfl rfl rfl (List.Subset.refl _) (fun hp => nomatch hp)

theorem Mux.Owned.received (h : m.Owned) (r : ReadFromResult Addr) : (m.received str r).Owned := by
  unfold Mux.received
  split
  · exact h.ret
  · split
    · exact h.resume _ _ _
    · exact h.mono rfl rfl rfl (List.Subset.refl _) (fun hp => nomatch hp)

theorem Mux.Owned.dialed (h : m.Owned) (hpc : m.pc ≠ .returned) (client : Addr) (data : GoString)
    (err : Option GoError) : (m.dialed str client data err).Owned := by
  unfold Mux.dialed
  split
  · exact h.mono rfl rfl rfl (List.Subset.refl _) (fun hp => nomatch hp)
  · refine Mux.Owned.resume ?_ _ _ _
    refine ⟨?_, ?_, fun hp => absurd hp hpc⟩
    · exact List.mem_cons_of_mem _ h.lConn
    · intro c hc
      simp only [List.map_append, List.map_cons, List.map_nil, List.mem_append,
        List.mem_singleton] at hc
      rcases hc with hc | rfl
      · exact List.mem_cons_of_mem _ (h.tasks c hc)
      · exact List.mem_cons_self _ _

theorem Mux.Owned.revStep (h : m.Owned) (i : Nat) (a : IOAnswer) : (m.revStep i a).Owned := by
  unfold Mux.revStep
  split
  · exact h
  · rename_i t ht
    exact h.mono rfl (map_set_of_getElem? ht rfl) rfl (List.Subset.refl _) id

theorem Mux.Owned.step (h : m.Owned) (ev : MuxEv Addr) : (m.step str ev).Owned := by
  cases ev with
  | main a =>
    simp only [Mux.step, Mux.mainStep]
    split
    · exact h.ret
    · exact h.mono rfl rfl rfl (List.Subset.refl _) (fun hp => nomatch hp)
    · exact h.received str _
    · rename_i hpc
      exact h.dialed str (by simp [hpc]) _ _ _
    · refine Mux.Owned.resume ?_ _ _ _
      exact h.mono rfl rfl rfl (List.Subset.refl _) id
    · exact h
  | rev i a => exact h.revStep i a
  | shutdown => exact h.mono rfl rfl rfl (List.subset_append_left _ _) id

theorem Mux.owned_run (evs : List (MuxEv Addr)) : ∀ m : Mux Addr, m.Owned → (m.run str evs).Owned := by
  induction evs with
  | nil => exact fun _ h => h
  | cons ev evs ih => exact fun m h => ih _ (h.step str ev)

end Owned

/-- A reverse task whose socket and `lConn` are both closed stops at its next step. -/
theorem Mux.revStep_closed (m : Mux Addr) {i : Nat} {t : RevTask Addr} (ht : m.tasks[i]? = some t)
    (hs : t.src ∈ m.closed) (hl : m.lConn.conn ∈ m.closed) (a : IOAnswer) :
    (m.revStep i a).tasks[i]?.map RevTask.pc = some .stopped := by
  have hopen : ∀ c ∈ m.closed, m.isOpen c = false := fun c hc => by
    simp [Mux.isOpen, hc]
  have hi : i < m.tasks.length := (List.getElem?_eq_some_iff.mp ht).1
  simp only [Mux.revStep, ht, hopen _ hs, hopen _ hl, List.getElem?_set_self hi, Option.map_some']
  exact congrArg some (relayStep_answer_closed udpFwdDataOnErr_closed t.pc a)

theorem Mux.owned_init (lConn : Listener) (targetAddr : GoString) :
    (udpServiceProxy lConn targetAddr : Mux Addr).Owned :=
  ⟨List.mem_cons_self _ _, fun _ h => by simp [udpServiceProxy] at h, fun h => MuxPc.noConfusion h⟩

/-- **Returning closes every session.** Once the receive loop of
`udpServiceProxy` has returned, along any run, its `defer`s have closed `lConn`
and the socket of every session, so every reverse task stops at its next step,
whatever the environment answers. -/
theorem mux_return_closes_sessions (lConn : Listener) (targetAddr : GoString)
    (evs : List (MuxEv Addr)) :
    let m := (udpServiceProxy lConn targetAddr : Mux Addr).run str evs
    m.pc = .returned →
      lConn.conn ∈ m.closed ∧ (∀ t ∈ m.tasks, t.src ∈ m.closed) ∧
      ∀ i a t, m.tasks[i]? = some t → (m.step str (.rev i a)).tasks[i]?.map RevTask.pc = some .stopped := by
  intro m hp
  have ho : m.Owned := Mux.owned_run str evs _ (Mux.owned_init lConn targetAddr)
  have hl : m.lConn = lConn := (Mux.frame_run str evs _).lConn
  have hd := ho.returned hp
  have hcl : lConn.conn ∈ m.closed := by simpa [hd, hl] using ho.lConn
  have hts : ∀ t ∈ m.tasks, t.src ∈ m.closed := fun t ht => by
    simpa [hd] using ho.tasks t.src (List.mem_map_of_mem _ ht)
  exact ⟨hcl, hts, fun i a t ht => Mux.revStep_closed m ht (hts t (List.getElem?_mem ht)) (hl ▸ hcl) a⟩


/-- One client is served, then a `ReadFrom` fails with `ENOMEM`: the loop
returns, and the client's reverse task stops at its next step. -/
theorem mux_return_closes_sessions_after_read_error :
    let m := (udpServiceProxy ⟨3, lit "127.0.0.1:40000"⟩ (lit "127.0.0.1:9000") : Mux GoString).run id
      [.main (.resolved (.ok (lit "127.0.0.1:9000"))),
       .main (.readFrom ⟨lit "hi", lit "127.0.0.1:5000", none, by decide⟩), .main (.dialed none),
       .main (.wrote (.ok 2)),
       .main (.readFrom ⟨[], lit "127.0.0.1:5000", some (.opError "read" (.errno 12)), Nat.zero_le _⟩)]
    m.pc = .returned ∧ m.tasks.length = 1 ∧
      ∀ a, (m.step id (.rev 0 a)).tasks[0]?.map RevTask.pc = some .stopped :=
  ⟨rfl, rfl, fun a => (mux_return_closes_sessions id _ _ _ (by rfl)).2.2 0 a _ rfl⟩

/-! ## A failing write stalls the loop -/

/-- The event answers the receive loop's pending `Write` with an error. -/
def MuxEv.isWriteErr : MuxEv Addr → Bool
  | .main (.wrote (.err _)) => true
  | _ => false

/-- While its `Write` fails, the receive loop stays on it: an event that is not a
successful answer to that `Write` leaves the loop where it is, leaves the table
alone, and on a failure logs the same `Write` once more. -/
theorem Mux.step_writing {m : Mux Addr} {rConn : Conn} {client : Addr} {data : GoString} {w : Nat}
    (hpc : m.pc = .writing rConn client data w) (ev : MuxEv Addr)
    (hev : ∀ n, ev ≠ .main (.wrote (.ok n))) :
    (m.step str ev).pc = m.pc ∧ (m.step str ev).client2RConn = m.client2RConn ∧
      (m.step str ev).forwards =
        m.forwards ++ if ev.isWriteErr then [(client, rConn, data)] else [] := by
  cases ev with
  | main a =>
    cases a with
    | wrote r =>
      cases r with
      | ok n => exact absurd rfl (hev n)
      | err e =>
        simp [Mux.step, Mux.mainStep, hpc, Mux.wrote, writeStep, udpServiceProxyOnErr, Mux.resume,
          MuxEv.isWriteErr]
    | _ => simp [Mux.step, Mux.mainStep, hpc, MuxEv.isWriteErr]
  | rev i a =>
    simp only [Mux.step, Mux.revStep, MuxEv.isWriteErr]
    split <;> simp
  | shutdown => simp [Mux.step, MuxEv.isWriteErr]

/-- **A failing write stalls every client.** Once the receive loop of
`udpServiceProxy` is writing a datagram, every run in which no `Write` succeeds
leaves it on that same `Write`: it re-issues `Write(data)` after each failure,
gains no session, and reads no datagram of any client. -/
theorem mux_write_retry_stalls {m : Mux Addr} {rConn : Conn} {client : Addr} {data : GoString}
    {w : Nat} (hpc : m.pc = .writing rConn client data w) (evs : List (MuxEv Addr))
    (hev : ∀ n, MuxEv.main (.wrote (.ok n)) ∉ evs) :
    (m.run str evs).pc = .writing rConn client data w ∧
      (m.run str evs).client2RConn = m.client2RConn ∧
      (m.run str evs).forwards =
        m.forwards ++ List.replicate (evs.countP MuxEv.isWriteErr) (client, rConn, data) := by
  induction evs generalizing m with
  | nil => exact ⟨hpc, rfl, by simp⟩
  | cons ev evs ih =>
    have hne : ∀ n, ev ≠ .main (.wrote (.ok n)) := fun n he => hev n (he ▸ List.mem_cons_self _ _)
    obtain ⟨hp, hc, hf⟩ := Mux.step_writing str hpc ev hne
    obtain ⟨hp', hc', hf'⟩ := ih (hp.trans hpc) fun n hn => hev n (List.mem_cons_of_mem _ hn)
    refine ⟨hp', hc'.trans hc, ?_⟩
    rw [Mux.run_cons, hf', hf, List.countP_cons]
    cases ev.isWriteErr <;> simp [List.replicate_succ]

end Errors

/-- The first client's `Write` is refused twice; a second client's datagram
meanwhile is not read, and the loop is still on the first client's `Write`. -/
theorem mux_write_retry_stalls_refused :
    let m := (udpServiceProxy ⟨3, lit "127.0.0.1:40000"⟩ (lit "127.0.0.1:9000") : Mux GoString).run id
      [.main (.resolved (.ok (lit "127.0.0.1:9000"))),
       .main (.readFrom ⟨lit "hi", lit "127.0.0.1:5000", none, by decide⟩), .main (.dialed none)]
    let evs : List (MuxEv GoString) :=
      [.main (.wrote (.err (.errno 111))),
       .main (.readFrom ⟨lit "yo", lit "127.0.0.1:6000", none, by decide⟩),
       .main (.wrote (.err (.errno 111)))]
    m.pc = .writing ⟨4⟩ (lit "127.0.0.1:5000") (lit "hi") 0 ∧
      (m.run id evs).pc = .writing ⟨4⟩ (lit "127.0.0.1:5000") (lit "hi") 0 ∧
      (m.run id evs).forwards = m.forwards ++ List.replicate 2 (lit "127.0.0.1:5000", ⟨4⟩, lit "hi") := by
  intro m evs
  have hpc : m.pc = .writing ⟨4⟩ (lit "127.0.0.1:5000") (lit "hi") 0 := rfl
  have hev : ∀ n, MuxEv.main (.wrote (.ok n)) ∉ evs := by simp [evs]
  have h := mux_write_retry_stalls id hpc evs hev
  exact ⟨hpc, h.1, h.2.2⟩

end FwdProxy
