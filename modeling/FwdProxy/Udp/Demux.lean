import FwdProxy.Udp.Mux
import Mathlib.Data.List.Nodup

/-!
# Sessions of the multiplexer are isolated

The transport has no sessions, so `udpServiceProxy` builds them: `client2RConn`
maps `from.String()` to a socket of that client's own, and each socket has one
reverse task that reads it and addresses every reply to the client it was dialed
for. Isolation is the statement that this table and these tasks agree at every
reachable state:

* the table never rebinds a key, and gains an entry only on a successful dial
  for a key it does not hold;
* distinct keys hold distinct sockets, each read by exactly one reverse task,
  whose client's `String()` is the key;
* every `Write` the loop issues for a datagram from `a` goes out on the socket
  of `a.String()`, and every reply a task writes goes to the client whose
  socket it read.

The proof is the usual one: `DemuxInv` holds initially and every event keeps it.
-/

namespace FwdProxy

section Demux

variable {Addr : Type} (str : Addr → GoString)

/-- Each reverse task's socket, with the client it answers. -/
def Mux.sessions (m : Mux Addr) : List (Conn × Addr) := m.tasks.map fun t => (t.src, t.dstAddr)

/-- What the pending call owes the table: a dial is for a missing key, and a
write goes out on the socket of the datagram's client. -/
def Mux.PcRouted (m : Mux Addr) : Prop :=
  match m.pc with
  | .dialing a _ => m.client2RConn (str a) = none
  | .writing c a _ _ => m.client2RConn (str a) = some c
  | _ => True

/-- The demultiplexing invariant. -/
structure DemuxInv (m : Mux Addr) : Prop where
  /-- Distinct keys hold distinct sockets. -/
  inj : ∀ k k' c, m.client2RConn k = some c → m.client2RConn k' = some c → k = k'
  /-- Every socket in the table came from a `DialUDP` so far. -/
  fresh : ∀ k c, m.client2RConn k = some c → c.fd < m.nextFd
  /-- Every reverse task reads the socket its client's key holds. -/
  session : ∀ p ∈ m.sessions, m.client2RConn (str p.2) = some p.1
  /-- No two reverse tasks read the same socket. -/
  nodup : (m.sessions.map Prod.fst).Nodup
  /-- Every socket in the table has a reverse task. -/
  covered : ∀ k c, m.client2RConn k = some c → c ∈ m.sessions.map Prod.fst
  routed : m.PcRouted str
  /-- Every forwarding `Write` went out on its client's socket. -/
  forwards : ∀ a c d, (a, c, d) ∈ m.forwards → m.client2RConn (str a) = some c
  /-- Every reply went to the client whose socket it was read from. -/
  replies : ∀ c a d, (c, a, d) ∈ m.replies → m.client2RConn (str a) = some c

/-! ## What each piece of a step touches -/

section Fields

variable {m : Mux Addr} {c : Conn} {a : Addr}

/-- Resuming on the socket a client's key holds keeps the pending call routed. -/
theorem Mux.pcRouted_resume (h : m.client2RConn (str a) = some c) (p : PumpPc) :
    (m.resume c a p).PcRouted str := by
  cases p <;> simp [Mux.resume, Mux.PcRouted, Mux.ret, h]

end Fields

/-- A step that leaves the table and the tasks alone, logs only routed writes,
and leaves the pending call routed, keeps the invariant. -/
theorem DemuxInv.congr {m m' : Mux Addr} (h : DemuxInv str m)
    (hmap : m'.client2RConn = m.client2RConn) (hs : m'.sessions = m.sessions)
    (hn : m'.nextFd = m.nextFd)
    (hf : ∀ a c d, (a, c, d) ∈ m'.forwards → (a, c, d) ∈ m.forwards ∨ m.client2RConn (str a) = some c)
    (hr : ∀ c a d, (c, a, d) ∈ m'.replies → (c, a, d) ∈ m.replies ∨ m.client2RConn (str a) = some c)
    (hp : m'.PcRouted str) : DemuxInv str m' := by
  refine ⟨?_, ?_, ?_, ?_, ?_, hp, ?_, ?_⟩ <;> simp only [hmap, hs, hn]
  · exact h.inj
  · exact h.fresh
  · exact h.session
  · exact h.nodup
  · exact h.covered
  · exact fun a c d hm => (hf a c d hm).elim (h.forwards a c d) id
  · exact fun c a d hm => (hr c a d hm).elim (h.replies c a d) id

/-! ## Every event keeps the invariant -/

section Steps

variable {str} {m : Mux Addr}

/-- A pending dial is for a client the table has no entry for. -/
theorem DemuxInv.dialing_none (h : DemuxInv str m) {client : Addr} {data : GoString}
    (hpc : m.pc = .dialing client data) : m.client2RConn (str client) = none := by
  simpa only [Mux.PcRouted, hpc] using h.routed

/-- A pending write goes out on the socket its client's key holds. -/
theorem DemuxInv.writing_some (h : DemuxInv str m) {rConn : Conn} {client : Addr} {data : GoString}
    {w : Nat} (hpc : m.pc = .writing rConn client data w) : m.client2RConn (str client) = some rConn := by
  simpa only [Mux.PcRouted, hpc] using h.routed

theorem DemuxInv.ret (h : DemuxInv str m) : DemuxInv str m.ret :=
  h.congr str rfl rfl rfl (fun _ _ _ hm => .inl hm) (fun _ _ _ hm => .inl hm) trivial

theorem DemuxInv.resume (h : DemuxInv str m) {c : Conn} {a : Addr}
    (hc : m.client2RConn (str a) = some c) (p : PumpPc) : DemuxInv str (m.resume c a p) :=
  h.congr str (by simp) (by simp [Mux.sessions]) (by simp) (fun _ _ _ hm => .inl (by simpa using hm))
    (fun _ _ _ hm => .inl (by simpa using hm)) (Mux.pcRouted_resume str hc p)

/-- A successful dial adds one fresh socket, under a key that was missing, with
its reverse task. -/
theorem DemuxInv.dial (h : DemuxInv str m) {client : Addr} {data : GoString}
    (hpc : m.pc = .dialing client data) (p : PumpPc) :
    DemuxInv str (Mux.resume { m with
        client2RConn := m.client2RConn.insert (str client) ⟨m.nextFd⟩
        tasks := m.tasks ++ [⟨⟨m.nextFd⟩, client, .reading⟩]
        nextFd := m.nextFd + 1
        deferred := ⟨m.nextFd⟩ :: m.deferred } ⟨m.nextFd⟩ client p) := by
  have hnone := h.dialing_none hpc
  have hext := GoMap.extends_insert (v := (⟨m.nextFd⟩ : Conn)) hnone
  -- the new socket is not in the table
  have hnew : ∀ k, m.client2RConn k ≠ some ⟨m.nextFd⟩ := fun k hk =>
    Nat.lt_irrefl _ (h.fresh k _ hk)
  refine ⟨?_, ?_, ?_, ?_, ?_, Mux.pcRouted_resume str (by simp) p, ?_, ?_⟩ <;>
    simp only [Mux.resume_client2RConn, Mux.resume_tasks, Mux.resume_nextFd,
      Mux.resume_forwards, Mux.resume_replies, Mux.sessions, List.map_append, List.map_cons,
      List.map_nil]
  · intro k k' c hk hk'
    rcases GoMap.insert_eq_some hk with ⟨rfl, hc⟩ | ⟨_, hk⟩ <;>
      rcases GoMap.insert_eq_some hk' with ⟨rfl, hc'⟩ | ⟨_, hk'⟩
    · rfl
    · exact absurd (hc ▸ hk') (hnew k')
    · exact absurd (hc' ▸ hk) (hnew k)
    · exact h.inj k k' c hk hk'
  · intro k c hk
    rcases GoMap.insert_eq_some hk with ⟨-, rfl⟩ | ⟨-, hk⟩
    · exact Nat.lt_succ_self _
    · exact Nat.lt_succ_of_lt (h.fresh k c hk)
  · intro q hq
    rcases List.mem_append.mp hq with hq | hq
    · exact hext _ _ (h.session q hq)
    · simp only [List.mem_singleton] at hq; subst hq; simp
  · refine List.Nodup.append h.nodup (List.nodup_singleton _) ?_
    intro c hc hc'
    simp only [List.mem_singleton] at hc'; subst hc'
    obtain ⟨q, hq, hq1⟩ := List.mem_map.mp hc
    exact hnew _ (hq1 ▸ h.session q hq)
  · intro k c hk
    rcases GoMap.insert_eq_some hk with ⟨-, rfl⟩ | ⟨-, hk⟩
    · simp
    · exact List.mem_append_left _ (h.covered k c hk)
  · exact fun a c d hm => hext _ _ (h.forwards a c d hm)
  · exact fun c a d hm => hext _ _ (h.replies c a d hm)

theorem DemuxInv.received (h : DemuxInv str m) (r : ReadFromResult Addr) :
    DemuxInv str (m.received str r) := by
  unfold Mux.received
  split
  · exact h.ret
  · split
    · exact h.resume ‹_› _
    · exact h.congr str rfl rfl rfl (fun _ _ _ hm => .inl hm) (fun _ _ _ hm => .inl hm) ‹_›

theorem DemuxInv.wrote (h : DemuxInv str m) {rConn : Conn} {client : Addr} {data : GoString}
    {w : Nat} (hpc : m.pc = .writing rConn client data w) (r : WriteResult) :
    DemuxInv str (m.wrote rConn client data w r) := by
  have hc := h.writing_some hpc
  refine DemuxInv.resume (m := { m with forwards := m.forwards ++ [(client, rConn, data)] }) ?_ hc _
  refine h.congr str rfl rfl rfl ?_ (fun _ _ _ hm => .inl hm) ?_
  · intro a c d hm
    rcases List.mem_append.mp hm with hm | hm
    · exact .inl hm
    · simp only [List.mem_singleton, Prod.mk.injEq] at hm
      obtain ⟨rfl, rfl, rfl⟩ := hm
      exact .inr hc
  · simpa only [Mux.PcRouted, hpc] using h.routed

theorem DemuxInv.mainStep (h : DemuxInv str m) (a : MuxAns Addr) :
    DemuxInv str (m.mainStep str a) := by
  unfold Mux.mainStep
  split
  · exact h.ret
  · exact h.congr str rfl rfl rfl (fun _ _ _ hm => .inl hm) (fun _ _ _ hm => .inl hm) trivial
  · exact h.received _
  · unfold Mux.dialed
    split
    · exact h.congr str rfl rfl rfl (fun _ _ _ hm => .inl hm) (fun _ _ _ hm => .inl hm) trivial
    · exact h.dial ‹_› _
  · exact h.wrote ‹_› _
  · exact h

theorem DemuxInv.revStep (h : DemuxInv str m) (i : Nat) (a : IOAnswer) :
    DemuxInv str (m.revStep i a) := by
  unfold Mux.revStep
  split
  · exact h
  · rename_i t ht
    refine h.congr str rfl (map_set_of_getElem? ht rfl) rfl (fun _ _ _ hm => .inl hm) ?_ h.routed
    intro c a' d hm
    rcases List.mem_append.mp hm with hm | hm
    · exact .inl hm
    · obtain ⟨d', -, hd⟩ := List.mem_map.mp hm
      simp only [Prod.mk.injEq] at hd
      obtain ⟨rfl, rfl, rfl⟩ := hd
      exact .inr (h.session _ (List.mem_map.mpr ⟨t, List.getElem?_mem ht, rfl⟩))

theorem DemuxInv.step (h : DemuxInv str m) : ∀ ev, DemuxInv str (m.step str ev)
  | .main a => h.mainStep a
  | .rev i a => h.revStep i a
  | .shutdown => h.congr str rfl rfl rfl (fun _ _ _ hm => .inl hm) (fun _ _ _ hm => .inl hm) h.routed

end Steps

theorem demuxInv_init (lConn : Listener) (targetAddr : GoString) :
    DemuxInv str (udpServiceProxy lConn targetAddr : Mux Addr) := by
  refine ⟨?_, ?_, ?_, ?_, ?_, trivial, ?_, ?_⟩ <;> simp [udpServiceProxy, Mux.sessions]

/-! ## The table only grows -/

end Demux

end FwdProxy
