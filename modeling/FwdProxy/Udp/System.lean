import FwdProxy.Udp.Demux
import FwdProxy.Udp.Echo

/-!
# The UDP proxy in front of its server, end to end

The repository's UDP pieces are meant to run together: clients send datagrams to
the listening socket of `udpServiceProxy`, which forwards each on its client's
own outbound socket to `udpServer`; the server replies to the socket the datagram
came from, and that socket's `udpFwdData` task hands the reply back through
`lConn` to the client. This module composes the two programs over one wire.

The wire is every datagram ever sent: what the clients sent, every `Write` the
proxy issued on an outbound socket, every `WriteTo` a reverse task issued on
`lConn`, and every `WriteTo` of the server. A receive takes any datagram of the
wire addressed to the receiving socket, so datagrams may be lost, reordered or
duplicated, and an issued write counts as sent even when it failed: the
theorems hold of every run of that larger environment.

The environment's promises are few and are hypotheses: the proxy's listening
address `lAddr`, the server's address `sAddr` (where its `ListenUDP` bound it)
and the local address `sockAddr c` of each outbound socket are pairwise
distinct, distinct sockets have distinct addresses, and no client sends from an
address of one of them. The proxy keys sessions by `from.String()`, so `str`
must tell addresses apart.

Under these, along every run and every interleaving of the two programs and
their clients, the proxy forwards to the server only its clients' datagrams, on
each client's own socket, and every datagram it sends a client is the server's
reply to a datagram that same client sent it (`udp_proxy_end_to_end`).
-/

namespace FwdProxy

section System

variable {Addr : Type}

/-- A datagram on the wire. -/
structure Datagram (Addr : Type) where
  src : Addr
  dst : Addr
  data : GoString
  deriving DecidableEq

/-- The proxy in front of the echo server, with the datagrams of its clients. -/
structure UdpSys (Addr : Type) where
  mux : Mux Addr
  server : Echo Addr
  /-- Every datagram a client has sent, to any address. -/
  clients : List (Datagram Addr)

/-- `udpServiceProxy` on its listening socket, the server's `main`, and no
traffic yet. -/
def UdpSys.init (lConn : Listener) (targetAddr : GoString) : UdpSys Addr :=
  ⟨udpServiceProxy lConn targetAddr, udpServerMain, []⟩

/-- The next thing that happens to the system. -/
inductive SysEv (Addr : Type) where
  /-- The client at `src` sends `data` to `dst`. -/
  | send (src dst : Addr) (data : GoString)
  /-- The proxy gets an answer that carries no datagram. -/
  | proxy (ev : MuxEv Addr)
  /-- `lConn.ReadFrom` returns a datagram of the wire. -/
  | proxyRecv (dg : Datagram Addr)
  /-- The `i`-th reverse task's `Read` returns a datagram of the wire. -/
  | revRecv (i : Nat) (dg : Datagram Addr)
  /-- The server gets an answer that carries no datagram. -/
  | server (a : EchoAns Addr)
  /-- The server's `ReadFrom` returns a datagram of the wire. -/
  | serverRecv (dg : Datagram Addr)

variable (str : Addr → GoString) (lAddr sAddr : Addr) (sockAddr : Conn → Addr)

/-- Every datagram ever sent. A forwarding `Write` goes to `sAddr`, since the
outbound sockets are dialed to the address the proxy resolved. -/
def UdpSys.wire (s : UdpSys Addr) : List (Datagram Addr) :=
  s.clients ++ s.mux.forwards.map (fun f => ⟨sockAddr f.2.1, sAddr, f.2.2⟩) ++
    s.mux.replies.map (fun r => ⟨lAddr, r.2.1, r.2.2⟩) ++
    s.server.replies.map (fun r => ⟨sAddr, r.1, r.2⟩)

/-- An answer to the proxy that carries no datagram; a resolve of the target
finds the server. -/
def proxyAnswerOk [DecidableEq Addr] : MuxEv Addr → Bool
  | .main (.resolved (.ok a)) => decide (a = sAddr)
  | .main (.readFrom r) => r.err.isSome
  | .rev _ (.read r) => r.err.isSome
  | _ => true

/-- An answer to the server that carries no datagram. -/
def serverAnswerOk : EchoAns Addr → Bool
  | .readFrom r => r.err.isSome
  | _ => true

/-- One event. A receive hands the program the datagram's bytes as its buffer
holds them; an event whose guard fails is no move of the environment. -/
def UdpSys.step [DecidableEq Addr] (s : UdpSys Addr) : SysEv Addr → UdpSys Addr
  | .send src dst data => { s with clients := s.clients ++ [⟨src, dst, data⟩] }
  | .proxy ev => if proxyAnswerOk sAddr ev then { s with mux := s.mux.step str ev } else s
  | .proxyRecv dg =>
    if dg ∈ s.wire lAddr sAddr sockAddr ∧ dg.dst = lAddr then
      { s with mux := (s.mux.step str
          (.main (.readFrom ⟨dg.data.take bufSize, dg.src, none, List.length_take_le _ _⟩))) }
    else s
  | .revRecv i dg =>
    match s.mux.tasks[i]? with
    | some t =>
      if dg ∈ s.wire lAddr sAddr sockAddr ∧ dg.src = sAddr ∧ dg.dst = sockAddr t.src then
        { s with mux := (s.mux.step str
            (.rev i (.read ⟨dg.data.take bufSize, none, List.length_take_le _ _⟩))) }
      else s
    | none => s
  | .server a => if serverAnswerOk a then { s with server := s.server.step a } else s
  | .serverRecv dg =>
    if dg ∈ s.wire lAddr sAddr sockAddr ∧ dg.dst = sAddr then
      { s with server := (s.server.step
          (.readFrom ⟨dg.data.take echoBufSize, dg.src, none, List.length_take_le _ _⟩)) }
    else s

/-- The system after `evs`. -/
def UdpSys.run [DecidableEq Addr] (s : UdpSys Addr) (evs : List (SysEv Addr)) : UdpSys Addr :=
  evs.foldl (UdpSys.step str lAddr sAddr sockAddr) s

/-- An address of no socket of the proxy or the server. -/
def Client (a : Addr) : Prop := a ≠ lAddr ∧ a ≠ sAddr ∧ ∀ c, a ≠ sockAddr c

/-- The event sends from a client's address, if it sends at all. -/
def SysEv.Honest : SysEv Addr → Prop
  | .send src _ _ => Client lAddr sAddr sockAddr src
  | _ => True

/-! ## Where each datagram came from -/

/-- `d` is what the proxy's `ReadFrom` made of a datagram that `a` sent it. -/
def UdpSys.FromClient (s : UdpSys Addr) (a : Addr) (d : GoString) : Prop :=
  ∃ d₀, ⟨a, lAddr, d₀⟩ ∈ s.clients ∧ d = d₀.take bufSize

/-- `p` is the server's reply to a datagram that `a` sent the proxy. -/
def UdpSys.Answers (s : UdpSys Addr) (a : Addr) (p : GoString) : Prop :=
  ∃ d₀, ⟨a, lAddr, d₀⟩ ∈ s.clients ∧ p = echoResponse (d₀.take echoBufSize)

/-- `r` is the server's reply to a datagram that `a` sent it. -/
def UdpSys.Served (s : UdpSys Addr) (a : Addr) (r : GoString) : Prop :=
  ∃ d, ⟨a, sAddr, d⟩ ∈ s.wire lAddr sAddr sockAddr ∧ r = echoResponse (d.take echoBufSize)

/-- The provenance invariant: every datagram a program holds or has sent is
traced back to the datagram it answers or forwards. -/
structure UdpSys.Inv (s : UdpSys Addr) : Prop where
  demux : DemuxInv str s.mux
  /-- No client sends from an address of the proxy or the server. -/
  clients : ∀ dg ∈ s.clients, Client lAddr sAddr sockAddr dg.src
  /-- The receive loop holds a datagram of the client it names. -/
  inHand : ∀ a d, s.mux.inHand = some (a, d) → s.FromClient lAddr a d
  /-- Every forwarding `Write` carried a datagram of the client it names. -/
  forwards : ∀ a c d, (a, c, d) ∈ s.mux.forwards → s.FromClient lAddr a d
  /-- Every reverse task holds the server's reply to a datagram of its own client. -/
  tasks : ∀ t ∈ s.mux.tasks, ∀ p, t.pc.chunk = some p → s.Answers lAddr t.dstAddr p
  /-- Every reply `lConn` sent answers a datagram of the client it went to. -/
  replies : ∀ c a p, (c, a, p) ∈ s.mux.replies → s.Answers lAddr a p
  /-- The server holds its reply to a datagram it read. -/
  serving : ∀ a r, s.server.inHand = some (a, r) → s.Served lAddr sAddr sockAddr a r
  /-- Every reply the server sent answers a datagram it read. -/
  served : ∀ a r, (a, r) ∈ s.server.replies → s.Served lAddr sAddr sockAddr a r

section Mono

variable {str lAddr sAddr sockAddr} {s s' : UdpSys Addr}

theorem UdpSys.FromClient.mono (hc : s.clients ⊆ s'.clients) {a : Addr} {d : GoString}
    (h : s.FromClient lAddr a d) : s'.FromClient lAddr a d :=
  let ⟨d₀, hm, hd⟩ := h; ⟨d₀, hc hm, hd⟩

theorem UdpSys.Answers.mono (hc : s.clients ⊆ s'.clients) {a : Addr} {p : GoString}
    (h : s.Answers lAddr a p) : s'.Answers lAddr a p :=
  let ⟨d₀, hm, hd⟩ := h; ⟨d₀, hc hm, hd⟩

theorem UdpSys.Served.mono (hw : s.wire lAddr sAddr sockAddr ⊆ s'.wire lAddr sAddr sockAddr)
    {a : Addr} {r : GoString} (h : s.Served lAddr sAddr sockAddr a r) :
    s'.Served lAddr sAddr sockAddr a r :=
  let ⟨d, hm, hd⟩ := h; ⟨d, hw hm, hd⟩

/-- The wire only grows with its four logs. -/
theorem UdpSys.wire_mono (hc : s.clients ⊆ s'.clients) (hf : s.mux.forwards ⊆ s'.mux.forwards)
    (hr : s.mux.replies ⊆ s'.mux.replies) (hs : s.server.replies ⊆ s'.server.replies) :
    s.wire lAddr sAddr sockAddr ⊆ s'.wire lAddr sAddr sockAddr := by
  intro dg hdg
  simp only [UdpSys.wire, List.mem_append] at hdg ⊢
  rcases hdg with ((h | h) | h) | h
  · exact .inl (.inl (.inl (hc h)))
  · exact .inl (.inl (.inr (List.map_subset _ hf h)))
  · exact .inl (.inr (List.map_subset _ hr h))
  · exact .inr (List.map_subset _ hs h)

/-- Who put a datagram on the wire. -/
theorem UdpSys.mem_wire {dg : Datagram Addr} (h : dg ∈ s.wire lAddr sAddr sockAddr) :
    dg ∈ s.clients ∨ (∃ a c, (a, c, dg.data) ∈ s.mux.forwards ∧ dg.src = sockAddr c ∧ dg.dst = sAddr) ∨
      (∃ c, (c, dg.dst, dg.data) ∈ s.mux.replies ∧ dg.src = lAddr) ∨
      ((dg.dst, dg.data) ∈ s.server.replies ∧ dg.src = sAddr) := by
  simp only [UdpSys.wire, List.mem_append, List.mem_map] at h
  rcases h with ((h | ⟨⟨a, c, d⟩, hf, rfl⟩) | ⟨⟨c, a, p⟩, hr, rfl⟩) | ⟨⟨a, r⟩, hs, rfl⟩
  · exact .inl h
  · exact .inr (.inl ⟨a, c, hf, rfl, rfl⟩)
  · exact .inr (.inr (.inl ⟨c, hr, rfl⟩))
  · exact .inr (.inr (.inr ⟨hs, rfl⟩))

end Mono

/-! ## Every event keeps the invariant -/

section Steps

variable {str lAddr sAddr sockAddr} (hl : lAddr ≠ sAddr) (hsl : ∀ c, sockAddr c ≠ lAddr)
  (hss : ∀ c, sockAddr c ≠ sAddr) (hsock : Function.Injective sockAddr)
  (hstr : Function.Injective str)

variable {s : UdpSys Addr}

section Wire

include hl hsl in
/-- Only `lConn` sends from the proxy's address. -/
theorem UdpSys.Inv.wire_src_lAddr (h : s.Inv str lAddr sAddr sockAddr) {dg : Datagram Addr}
    (hdg : dg ∈ s.wire lAddr sAddr sockAddr) (hs : dg.src = lAddr) :
    ∃ c, (c, dg.dst, dg.data) ∈ s.mux.replies := by
  rcases UdpSys.mem_wire hdg with hc | ⟨_, c, -, hsc, -⟩ | hr | ⟨-, hss'⟩
  · exact absurd hs (h.clients dg hc).1
  · exact absurd (hsc.symm.trans hs) (hsl c)
  · exact hr.imp fun _ => And.left
  · exact absurd (hs.symm.trans hss') hl

include hl hss in
/-- Only the server sends from its address. -/
theorem UdpSys.Inv.wire_src_sAddr (h : s.Inv str lAddr sAddr sockAddr) {dg : Datagram Addr}
    (hdg : dg ∈ s.wire lAddr sAddr sockAddr) (hs : dg.src = sAddr) :
    (dg.dst, dg.data) ∈ s.server.replies := by
  rcases UdpSys.mem_wire hdg with hc | ⟨_, c, -, hsc, -⟩ | ⟨_, -, hsl'⟩ | ⟨hr, -⟩
  · exact absurd hs (h.clients dg hc).2.1
  · exact absurd (hsc.symm.trans hs) (hss c)
  · exact absurd (hsl'.symm.trans hs) hl
  · exact hr

include hl hsl in
/-- A datagram to the proxy's address was sent by a client. -/
theorem UdpSys.Inv.wire_dst_lAddr (h : s.Inv str lAddr sAddr sockAddr) {dg : Datagram Addr}
    (hdg : dg ∈ s.wire lAddr sAddr sockAddr) (hd : dg.dst = lAddr) : dg ∈ s.clients := by
  -- a reply goes to a client, and a client is not `lAddr`
  have hcl : ∀ a p, s.Answers lAddr a p → a ≠ lAddr := fun a p ⟨_, hm, _⟩ => (h.clients _ hm).1
  rcases UdpSys.mem_wire hdg with hc | ⟨-, -, -, -, hds⟩ | ⟨c, hr, -⟩ | ⟨hr, -⟩
  · exact hc
  · exact absurd (hds.symm.trans hd) hl.symm
  · exact absurd hd (hcl _ _ (h.replies _ _ _ hr))
  · obtain ⟨d, hm, -⟩ := h.served _ _ hr
    obtain ⟨c, hc⟩ := h.wire_src_lAddr hl hsl hm (by rw [hd])
    obtain ⟨_, hm', -⟩ := h.replies _ _ _ hc
    exact absurd rfl (h.clients _ hm').2.1

include hsl hss hsock in
/-- Only the proxy's outbound socket `c` sends from its address: such a
datagram is a forwarding `Write` on `c`, to the server. -/
theorem UdpSys.Inv.wire_src_sock (h : s.Inv str lAddr sAddr sockAddr) {dg : Datagram Addr}
    (hdg : dg ∈ s.wire lAddr sAddr sockAddr) {c : Conn} (hs : dg.src = sockAddr c) :
    ∃ a, (a, c, dg.data) ∈ s.mux.forwards ∧ dg.dst = sAddr := by
  rcases UdpSys.mem_wire hdg with hc | ⟨a, c', hf, hsc, hds⟩ | ⟨_, -, hsl'⟩ | ⟨-, hss'⟩
  · exact absurd hs ((h.clients dg hc).2.2 c)
  · exact ⟨a, hsock (hsc.symm.trans hs) ▸ hf, hds⟩
  · exact absurd (hsl'.symm.trans hs) (hsl c).symm
  · exact absurd (hss'.symm.trans hs) (hss c).symm

include hl hsl hss hsock hstr in
/-- **A reverse task reads only its own client's replies.** A datagram from the
server to the socket of a reverse task is the server's reply to a datagram that
task's client sent the proxy. -/
theorem UdpSys.Inv.answers_of_server (h : s.Inv str lAddr sAddr sockAddr) {t : RevTask Addr}
    (ht : t ∈ s.mux.tasks) {dg : Datagram Addr} (hdg : dg ∈ s.wire lAddr sAddr sockAddr)
    (hs : dg.src = sAddr) (hd : dg.dst = sockAddr t.src) :
    s.Answers lAddr t.dstAddr (dg.data.take bufSize) := by
  obtain ⟨d, hm, hr⟩ := h.served _ _ (hd ▸ h.wire_src_sAddr hl hss hdg hs)
  obtain ⟨a, hf, -⟩ := h.wire_src_sock hsl hss hsock hm rfl
  obtain ⟨d₀, hm₀, rfl⟩ := h.forwards _ _ _ hf
  -- the forward went out on `t.src`, which only `t`'s client's key holds
  have hkey : a = t.dstAddr := hstr (h.demux.inj _ _ _ (h.demux.forwards _ _ _ hf)
    (h.demux.session (t.src, t.dstAddr) (List.mem_map_of_mem _ ht)))
  have htake : (d₀.take bufSize).take echoBufSize = d₀.take echoBufSize := by
    rw [List.take_take]; rfl
  refine ⟨d₀, hkey ▸ hm₀, ?_⟩
  rw [hr, htake, List.take_of_length_le (echoResponse_length_le (List.length_take_le _ _))]

end Wire

/-- A step of the proxy keeps the invariant when the datagram it reads, if any,
comes from the right sender. -/
theorem UdpSys.Inv.mux_step (h : s.Inv str lAddr sAddr sockAddr) (ev : MuxEv Addr)
    (hread : ∀ r, ev = .main (.readFrom r) → r.err = none → s.FromClient lAddr r.client r.data)
    (hrev : ∀ i t r, ev = .rev i (.read r) → s.mux.tasks[i]? = some t → r.err = none →
      s.Answers lAddr t.dstAddr r.data) :
    ({ s with mux := s.mux.step str ev } : UdpSys Addr).Inv str lAddr sAddr sockAddr := by
  have hw : s.wire lAddr sAddr sockAddr ⊆
      ({ s with mux := s.mux.step str ev } : UdpSys Addr).wire lAddr sAddr sockAddr :=
    UdpSys.wire_mono (List.Subset.refl _) (Mux.forwards_subset_step str ev)
      (Mux.replies_subset_step str ev) (List.Subset.refl _)
  refine ⟨h.demux.step ev, h.clients, ?_, ?_, ?_, ?_, fun a r hr => (h.serving a r hr).mono hw,
    fun a r hr => (h.served a r hr).mono hw⟩
  · intro a d hm
    rcases Mux.step_inHand str hm with hm | ⟨r, rfl, he, rfl, rfl⟩
    · exact h.inHand a d hm
    · exact hread r rfl he
  · intro a c d hm
    rcases Mux.step_forwards str (m := s.mux) ev with he | ⟨c', a', d', w, hpc, he⟩ <;>
      simp only [he, List.mem_append, List.mem_singleton, Prod.mk.injEq] at hm
    · exact h.forwards a c d hm
    · rcases hm with hm | ⟨rfl, rfl, rfl⟩
      · exact h.forwards a c d hm
      · exact h.inHand a d (Mux.inHand_of_writing hpc)
  · intro t' ht' p hp
    rcases Mux.step_tasks str ht' with ht' | hpc | ⟨i, t, a, hti, rfl, -, hdst, hpc⟩
    · exact h.tasks t' ht' p hp
    · simp [hpc, PumpPc.chunk] at hp
    · rw [hpc] at hp
      rw [hdst]
      rcases relayStep_chunk hp with hp | ⟨r, -, hr, he, rfl⟩
      · exact h.tasks t (List.getElem?_mem hti) p hp
      · exact hrev i t r (by rw [PumpPc.answer_eq_read hr he]) hti he
  · intro c a p hm
    rcases Mux.step_replies str (m := s.mux) ev with he | ⟨i, t, p', w, hti, hpc, he⟩ <;>
      simp only [he, List.mem_append, List.mem_singleton, Prod.mk.injEq] at hm
    · exact h.replies c a p hm
    · rcases hm with hm | ⟨rfl, rfl, rfl⟩
      · exact h.replies c a p hm
      · exact h.tasks t (List.getElem?_mem hti) p (by simp [hpc, PumpPc.chunk])

/-- A step of the server keeps the invariant when the datagram it reads, if any,
is on the wire to it. -/
theorem UdpSys.Inv.server_step (h : s.Inv str lAddr sAddr sockAddr) (a : EchoAns Addr)
    (hread : ∀ r, a = .readFrom r → r.err = none →
      s.Served lAddr sAddr sockAddr r.client (echoResponse r.data)) :
    ({ s with server := s.server.step a } : UdpSys Addr).Inv str lAddr sAddr sockAddr := by
  have hw : s.wire lAddr sAddr sockAddr ⊆
      ({ s with server := s.server.step a } : UdpSys Addr).wire lAddr sAddr sockAddr :=
    UdpSys.wire_mono (List.Subset.refl _) (List.Subset.refl _) (List.Subset.refl _)
      Echo.replies_subset_step
  refine ⟨h.demux, h.clients, h.inHand, h.forwards, h.tasks, h.replies, ?_, ?_⟩
  · intro c r hm
    rcases Echo.step_inHand hm with hm | ⟨r', rfl, he, rfl, rfl⟩
    · exact (h.serving c r hm).mono hw
    · exact (hread r' rfl he).mono hw
  · intro c r hm
    rcases Echo.step_replies (s := s.server) (a := a) with he | ⟨c', r', hin, he⟩ <;>
      simp only [he, List.mem_append, List.mem_singleton, Prod.mk.injEq] at hm
    · exact (h.served c r hm).mono hw
    · rcases hm with hm | ⟨rfl, rfl⟩
      · exact (h.served c r hm).mono hw
      · exact (h.serving _ _ hin).mono hw

/-- A client's datagram keeps the invariant. -/
theorem UdpSys.Inv.send (h : s.Inv str lAddr sAddr sockAddr) {src dst : Addr} {data : GoString}
    (hc : Client lAddr sAddr sockAddr src) :
    ({ s with clients := s.clients ++ [⟨src, dst, data⟩] } : UdpSys Addr).Inv str lAddr sAddr sockAddr := by
  have hcl : s.clients ⊆ s.clients ++ [⟨src, dst, data⟩] := List.subset_append_left _ _
  have hw : s.wire lAddr sAddr sockAddr ⊆
      ({ s with clients := s.clients ++ [⟨src, dst, data⟩] } : UdpSys Addr).wire lAddr sAddr sockAddr :=
    UdpSys.wire_mono hcl (List.Subset.refl _) (List.Subset.refl _) (List.Subset.refl _)
  refine ⟨h.demux, ?_, fun a d hm => (h.inHand a d hm).mono hcl,
    fun a c d hm => (h.forwards a c d hm).mono hcl, fun t ht p hp => (h.tasks t ht p hp).mono hcl,
    fun c a p hm => (h.replies c a p hm).mono hcl, fun a r hm => (h.serving a r hm).mono hw,
    fun a r hm => (h.served a r hm).mono hw⟩
  intro dg hdg
  rcases List.mem_append.mp hdg with hdg | hdg
  · exact h.clients dg hdg
  · rw [List.mem_singleton.mp hdg]; exact hc

include hl hsl hss hsock hstr

/-- **Every event keeps the invariant.** -/
theorem UdpSys.Inv.step [DecidableEq Addr] (h : s.Inv str lAddr sAddr sockAddr) (ev : SysEv Addr)
    (hev : ev.Honest lAddr sAddr sockAddr) :
    (s.step str lAddr sAddr sockAddr ev).Inv str lAddr sAddr sockAddr := by
  cases ev with
  | send src dst data => exact h.send hev
  | proxy ev =>
    simp only [UdpSys.step]
    split
    · rename_i hok
      refine h.mux_step ev ?_ ?_
      · rintro r rfl he; simp [proxyAnswerOk, he] at hok
      · rintro i t r rfl - he; simp [proxyAnswerOk, he] at hok
    · exact h
  | proxyRecv dg =>
    simp only [UdpSys.step]
    split
    · rename_i hg
      refine h.mux_step _ ?_ (fun _ _ _ he => MuxEv.noConfusion he)
      rintro r he -
      cases he
      exact ⟨dg.data, by simpa [← hg.2] using h.wire_dst_lAddr hl hsl hg.1 hg.2, rfl⟩
    · exact h
  | revRecv i dg =>
    simp only [UdpSys.step]
    split
    · rename_i t ht
      split
      · rename_i hg
        refine h.mux_step _ (fun _ he => MuxEv.noConfusion he) ?_
        rintro i' t' r he ht' -
        cases he
        obtain rfl : t' = t := Option.some.inj (ht'.symm.trans ht)
        exact h.answers_of_server hl hsl hss hsock hstr (List.getElem?_mem ht) hg.1 hg.2.1 hg.2.2
      · exact h
    · exact h
  | server a =>
    simp only [UdpSys.step]
    split
    · rename_i hok
      refine h.server_step a ?_
      rintro r rfl he; simp [serverAnswerOk, he] at hok
    · exact h
  | serverRecv dg =>
    simp only [UdpSys.step]
    split
    · rename_i hg
      refine h.server_step _ ?_
      rintro r he -
      cases he
      exact ⟨dg.data, by simpa [← hg.2] using hg.1, rfl⟩
    · exact h

/-- Every run of honest events keeps the invariant. -/
theorem UdpSys.inv_run [DecidableEq Addr] (evs : List (SysEv Addr)) :
    ∀ s : UdpSys Addr, s.Inv str lAddr sAddr sockAddr →
      (∀ ev ∈ evs, ev.Honest lAddr sAddr sockAddr) →
      (s.run str lAddr sAddr sockAddr evs).Inv str lAddr sAddr sockAddr := by
  induction evs with
  | nil => exact fun s h _ => h
  | cons ev evs ih =>
    intro s h hev
    exact ih _ (h.step hl hsl hss hsock hstr ev (hev ev (List.mem_cons_self _ _)))
      fun ev' hm => hev ev' (List.mem_cons_of_mem _ hm)

end Steps

theorem UdpSys.inv_init (lConn : Listener) (targetAddr : GoString) :
    (UdpSys.init lConn targetAddr : UdpSys Addr).Inv str lAddr sAddr sockAddr := by
  refine ⟨demuxInv_init str lConn targetAddr, ?_, ?_, ?_, ?_, ?_, ?_, ?_⟩ <;>
    simp [UdpSys.init, udpServiceProxy, udpServerMain, Mux.inHand, Echo.inHand]

section EndToEnd

variable [DecidableEq Addr] {str lAddr sAddr sockAddr} (hl : lAddr ≠ sAddr)
  (hsl : ∀ c, sockAddr c ≠ lAddr) (hss : ∀ c, sockAddr c ≠ sAddr)
  (hsock : Function.Injective sockAddr) (hstr : Function.Injective str)

include hl hsl hss hsock hstr

/-- **The proxy answers each client with the server's replies to its own
datagrams.** Along every run of `udpServiceProxy` in front of `udpServer`, under
any interleaving of the two programs, their reverse tasks and their clients, and
on a wire that may lose, reorder and duplicate datagrams: every datagram the
proxy sends the server from an outbound socket `c` is a datagram, cut to the
proxy's buffer, of the client whose session holds `c`; and every datagram the
proxy sends from its listening address is the server's reply to a datagram that
the very client it goes to sent the proxy, cut to the server's buffer. -/
theorem udp_proxy_end_to_end (lConn : Listener) (targetAddr : GoString) (evs : List (SysEv Addr))
    (hev : ∀ ev ∈ evs, ev.Honest lAddr sAddr sockAddr) :
    let s := (UdpSys.init lConn targetAddr : UdpSys Addr).run str lAddr sAddr sockAddr evs
    (∀ dg ∈ s.wire lAddr sAddr sockAddr, ∀ c, dg.src = sockAddr c →
      ∃ a d₀, s.mux.client2RConn (str a) = some c ∧ ⟨a, lAddr, d₀⟩ ∈ s.clients ∧
        dg.dst = sAddr ∧ dg.data = d₀.take bufSize) ∧
    ∀ dg ∈ s.wire lAddr sAddr sockAddr, dg.src = lAddr →
      ∃ d₀, ⟨dg.dst, lAddr, d₀⟩ ∈ s.clients ∧ dg.data = echoResponse (d₀.take echoBufSize) := by
  intro s
  have h : s.Inv str lAddr sAddr sockAddr :=
    UdpSys.inv_run hl hsl hss hsock hstr evs _ (UdpSys.inv_init str lAddr sAddr sockAddr _ _) hev
  refine ⟨fun dg hdg c hs => ?_, fun dg hdg hs => ?_⟩
  · obtain ⟨a, hf, hdst⟩ := h.wire_src_sock hsl hss hsock hdg hs
    obtain ⟨d₀, hm, hd⟩ := h.forwards _ _ _ hf
    exact ⟨a, d₀, h.demux.forwards _ _ _ hf, hm, hdst, hd⟩
  · obtain ⟨c, hr⟩ := h.wire_src_lAddr hl hsl hdg hs
    exact h.replies _ _ _ hr

end EndToEnd

/-- One client's round trip: the client at `101` sends `"hi"` to the proxy at
`0`, which forwards it on its new socket `4` to the server at `1`; the server
replies, and the reverse task hands the reply back to the client, as the reply
to the client's own datagram. -/
theorem udp_proxy_end_to_end_round_trip :
    let evs : List (SysEv Nat) :=
      [.send 101 0 (lit "hi"), .proxy (.main (.resolved (.ok 1))), .proxyRecv ⟨101, 0, lit "hi"⟩,
       .proxy (.main (.dialed none)), .proxy (.main (.wrote (.ok 2))),
       .server (.resolved none), .server (.listened none), .serverRecv ⟨10, 1, lit "hi"⟩,
       .server (.wrote (.ok 31)), .revRecv 0 ⟨1, 10, echoResponse (lit "hi")⟩,
       .proxy (.rev 0 (.wrote (.ok 31)))]
    let s := (UdpSys.init ⟨3, lit "127.0.0.1:40000"⟩ (lit "127.0.0.1:9000") : UdpSys Nat).run
      (fun n => List.replicate n 0) 0 1 (fun c => 2 * c.fd + 2) evs
    ⟨0, 101, echoResponse (lit "hi")⟩ ∈ s.wire 0 1 (fun c => 2 * c.fd + 2) ∧
      ∃ d₀, (⟨101, 0, d₀⟩ : Datagram Nat) ∈ s.clients ∧
        echoResponse (lit "hi") = echoResponse (d₀.take echoBufSize) := by
  intro evs s
  have hmem : (⟨0, 101, echoResponse (lit "hi")⟩ : Datagram Nat) ∈ s.wire 0 1 (fun c => 2 * c.fd + 2) := by
    decide
  have hev : ∀ ev ∈ evs, ev.Honest 0 1 (fun c => 2 * c.fd + 2) := by
    simp only [evs, List.forall_mem_cons, SysEv.Honest, Client, true_and]
    exact ⟨⟨by decide, by decide, fun c => by omega⟩, fun _ h => absurd h (List.not_mem_nil _)⟩
  have hsock : Function.Injective fun c : Conn => 2 * c.fd + 2 := by
    rintro ⟨a⟩ ⟨b⟩ h
    simp only [Conn.mk.injEq] at h ⊢
    omega
  have hstr : Function.Injective fun n : Nat => (List.replicate n 0 : GoString) := fun a b h => by
    simpa using congrArg List.length h
  exact ⟨hmem, (udp_proxy_end_to_end (by decide) (fun c => by omega) (fun c => by omega) hsock hstr
    _ _ evs hev).2 _ hmem rfl⟩

end System

end FwdProxy
