import FwdProxy.Net

/-!
# The UDP echo server

`udpServer` is the target the UDP proxy is tried against. Its `main` binds a
socket on `127.0.0.1:`, a port the kernel picks, and loops: `ReadFrom` a
datagram into a 2048-byte buffer, then `WriteTo` the reply
`"Received data at SERVER-1: " + data + "\n"` back to the datagram's source.
Every failed call returns, and the deferred `conn.Close()` runs.

A datagram longer than the buffer is cut to its first 2048 bytes: on a UDP
socket `ReadFrom` fills the buffer and reports no error. The reply is built from
what was read, so it answers that prefix.
-/

namespace FwdProxy

section Echo

variable {Addr : Type}

/-- `len(buf)` for the server's `make([]byte, 2048)`. -/
def echoBufSize : Nat := 2048

/-- `[]byte(fmt.Sprintf("Received data at SERVER-1: %s\n", string(data)))`. -/
def echoResponse (data : GoString) : GoString :=
  lit "Received data at SERVER-1: " ++ data ++ lit "\n"

/-- The reply to a datagram the buffer holds whole fits the proxy's buffer. -/
theorem echoResponse_length_le {data : GoString} (h : data.length ≤ echoBufSize) :
    (echoResponse data).length ≤ bufSize := by
  have hl : (lit "Received data at SERVER-1: ").length = 27 ∧ (lit "\n").length = 1 := by decide
  simp only [echoResponse, List.length_append, hl.1, hl.2]
  simp only [echoBufSize, bufSize] at h ⊢
  omega

/-- What one `conn.ReadFrom(buf)` of the server returns. -/
structure EchoRead (Addr : Type) where
  data : GoString
  client : Addr
  err : Option GoError
  fits : data.length ≤ echoBufSize

/-- Where the server's `main` stands. -/
inductive EchoPc (Addr : Type) where
  /-- About to call `net.ResolveUDPAddr("udp", listenEndpoint)`. -/
  | resolving
  /-- About to call `net.ListenUDP("udp", udpAddr)`. -/
  | listening
  /-- At the top of its loop, about to call `conn.ReadFrom(buf)`. -/
  | reading
  /-- About to call `conn.WriteTo(response, from)`. -/
  | writing (client : Addr) (response : GoString)
  /-- Returned. -/
  | returned

/-- The server's `main`, with every reply it has sent. -/
structure Echo (Addr : Type) where
  pc : EchoPc Addr
  /-- Every `conn.WriteTo(response, from)` issued: `from`, `response`. -/
  replies : List (Addr × GoString)

/-- `main` of `udpServer`, at its first line. -/
def udpServerMain : Echo Addr := ⟨.resolving, []⟩

/-- The answer to the call the server is waiting on. -/
inductive EchoAns (Addr : Type) where
  | resolved (err : Option GoError)
  /-- `ListenUDP` returned; the address it bound is only printed. -/
  | listened (err : Option GoError)
  | readFrom (r : EchoRead Addr)
  | wrote (r : WriteResult)

/-- The server on the answer to its pending call. An answer of the wrong kind
changes nothing. -/
def Echo.step (s : Echo Addr) (a : EchoAns Addr) : Echo Addr :=
  match s.pc, a with
  | .resolving, .resolved err => { s with pc := if err.isSome then .returned else .listening }
  | .listening, .listened err => { s with pc := if err.isSome then .returned else .reading }
  | .reading, .readFrom r =>
    { s with pc := if r.err.isSome then .returned else .writing r.client (echoResponse r.data) }
  | .writing client response, .wrote (.ok _) =>
    { s with pc := .reading, replies := s.replies ++ [(client, response)] }
  | .writing client response, .wrote (.err _) =>
    { s with pc := .returned, replies := s.replies ++ [(client, response)] }
  | _, _ => s

/-- The reply the server is about to send, with its destination. -/
def Echo.inHand (s : Echo Addr) : Option (Addr × GoString) :=
  match s.pc with
  | .writing client response => some (client, response)
  | _ => none

/-! ## What a step hands on -/

section Steps

variable {s : Echo Addr} {a : EchoAns Addr}

/-- A step logs at most the reply the server was about to send. -/
theorem Echo.step_replies :
    (s.step a).replies = s.replies ∨
      ∃ client response, s.inHand = some (client, response) ∧
        (s.step a).replies = s.replies ++ [(client, response)] := by
  unfold Echo.step
  split <;> simp_all [Echo.inHand]

theorem Echo.replies_subset_step : s.replies ⊆ (s.step a).replies := by
  rcases Echo.step_replies (s := s) (a := a) with he | ⟨_, _, _, he⟩ <;> rw [he]
  · exact List.Subset.refl _
  · exact List.subset_append_left _ _

/-- The reply in hand is the one the server had, or the reply to the datagram a
`ReadFrom` has just returned without error. -/
theorem Echo.step_inHand {client : Addr} {response : GoString}
    (h : (s.step a).inHand = some (client, response)) :
    s.inHand = some (client, response) ∨
      ∃ r, a = .readFrom r ∧ r.err = none ∧ r.client = client ∧ echoResponse r.data = response := by
  unfold Echo.step at h
  split at h
  · split at h <;> simp [Echo.inHand, *] at h
  · split at h <;> simp [Echo.inHand, *] at h
  · rename_i r _
    by_cases he : r.err.isSome
    · simp [Echo.inHand, he] at h
    · simp only [Echo.inHand, he, Bool.false_eq_true, if_false, Option.some.injEq,
        Prod.mk.injEq] at h
      exact .inr ⟨r, rfl, by simpa using he, h⟩
  · simp [Echo.inHand] at h
  · simp [Echo.inHand] at h
  · exact .inl h

end Steps

end Echo

end FwdProxy
