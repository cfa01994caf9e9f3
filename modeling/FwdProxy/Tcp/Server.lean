import FwdProxy.Net

/-!
# The TCP echo server

`tcpServer` is the target the TCP proxy is tried against. Its `main` listens on
`0.0.0.0:1234` and starts `go connHandler(conn)` for every `Accept`.
`connHandler` reads into a 100-byte buffer and answers each read with the line
`"Received data at SERVER-1\n"`, until a `Read` or a `Write` fails; its deferred
`conn.Close()` then runs.

The accept loop looks at `Accept`'s error only to print it. There is no
`continue`, so after a failed `Accept` it still runs `go connHandler(conn)`, with
the `nil` connection `Accept` returned. The handler's first statement,
`defer conn.Close()`, evaluates a method of a nil interface, which panics, and a
panic no goroutine recovers ends the process. So one failed `Accept`, such as
`EMFILE` or a connection reset before it was accepted, kills the server, and
nothing else does (`tcpServer_crash_iff`).
-/

namespace FwdProxy

/-- `[]byte("Received data at SERVER-1\n")`, the reply to every read. -/
def tcpReply : GoString := lit "Received data at SERVER-1\n"

/-- Where a `connHandler` goroutine stands. -/
inductive ConnHandlerPc where
  /-- At its first statement, `defer conn.Close()`. -/
  | deferring
  /-- At the top of its loop, about to call `conn.Read(buf)`. -/
  | reading
  /-- About to call `conn.Write(tcpReply)`. -/
  | writing
  /-- Returned: the deferred `conn.Close()` has run. -/
  | returned
  deriving DecidableEq, Repr

/-- `go connHandler(conn)`, with what it has read and written. -/
structure ConnHandler where
  /-- The connection `Accept` returned; `none` is `nil`. -/
  conn : Option Conn
  pc : ConnHandlerPc
  /-- The `Read`s that returned without error. -/
  reads : Nat
  /-- The slices passed to `conn.Write`, in order. -/
  written : List GoString
  deriving DecidableEq, Repr

/-- The goroutine started on what `listen.Accept()` returned: on an error, the
connection is `nil`. -/
def ConnHandler.start (r : Except GoError Conn) : ConnHandler := ⟨r.toOption, .deferring, 0, []⟩

/-- The answer to the statement a handler is at. -/
inductive ConnAns where
  /-- The handler runs a statement that waits on nothing. -/
  | proceed
  | read (err : Option GoError)
  /-- `conn.Write` returned; the byte count is ignored. -/
  | wrote (r : WriteResult)
  deriving DecidableEq, Repr

/-- `connHandler` on the answer to its pending statement; `none` is a panic. An
answer of the wrong kind changes nothing. -/
def ConnHandler.step (h : ConnHandler) (a : ConnAns) : Option ConnHandler :=
  match h.pc, a with
  | .deferring, .proceed => h.conn.map fun _ => { h with pc := .reading }
  | .reading, .read err =>
    some (if err.isSome then { h with pc := .returned } else { h with pc := .writing, reads := h.reads + 1 })
  | .writing, .wrote (.ok _) => some { h with pc := .reading, written := h.written ++ [tcpReply] }
  | .writing, .wrote (.err _) => some { h with pc := .returned, written := h.written ++ [tcpReply] }
  | _, _ => some h

/-- Where `main` of `tcpServer` stands. -/
inductive TcpServerPc where
  /-- About to call `net.Listen("tcp", listenEndpoint)`. -/
  | listening
  /-- At the top of its loop, about to call `listen.Accept()`. -/
  | accepting
  /-- Returned. -/
  | returned
  deriving DecidableEq, Repr

/-- The `tcpServer` process: `main`, the handlers it started, and whether a
goroutine has panicked, which ends the process. -/
structure TcpServer where
  pc : TcpServerPc
  handlers : List ConnHandler
  crashed : Bool
  deriving DecidableEq, Repr

/-- `main` of `tcpServer`, at its first line. -/
def tcpServerMain : TcpServer := ⟨.listening, [], false⟩

/-- The next thing that happens to the process. -/
inductive TcpServerEv where
  | listened (err : Option GoError)
  | accepted (r : Except GoError Conn)
  /-- The `i`-th handler gets the answer to its pending statement. -/
  | handler (i : Nat) (a : ConnAns)

/-- The `i`-th handler's step: the handler moves on, or its panic ends the
process. -/
def TcpServer.handlerStep (s : TcpServer) (i : Nat) (a : ConnAns) : TcpServer :=
  match s.handlers[i]? with
  | none => s
  | some h =>
    match h.step a with
    | some h' => { s with handlers := s.handlers.set i h' }
    | none => { s with crashed := true }

/-- One event. Nothing happens once the process has ended; a failed `Accept`
starts a handler like a successful one. -/
def TcpServer.step (s : TcpServer) (ev : TcpServerEv) : TcpServer :=
  if s.crashed then s
  else
    match s.pc, ev with
    | .listening, .listened err => { s with pc := if err.isSome then .returned else .accepting }
    | .accepting, .accepted r => { s with handlers := s.handlers ++ [ConnHandler.start r] }
    | .accepting, .handler i a => s.handlerStep i a
    | _, _ => s

/-- The process after `evs`. -/
def TcpServer.run (s : TcpServer) (evs : List TcpServerEv) : TcpServer := evs.foldl TcpServer.step s

/-! ## Handlers -/

section Handler

variable {h h' : ConnHandler} {a : ConnAns}

/-- A handler panics exactly when it runs its first statement on `nil`. -/
theorem ConnHandler.step_eq_none : h.step a = none ↔ h.pc = .deferring ∧ a = .proceed ∧ h.conn = none := by
  unfold ConnHandler.step
  split <;> simp_all

/-- No step changes a handler's connection. -/
theorem ConnHandler.step_conn (hs : h.step a = some h') : h'.conn = h.conn := by
  unfold ConnHandler.step at hs
  split at hs
  · obtain ⟨_, -, rfl⟩ := Option.map_eq_some'.mp hs; rfl
  · split at hs <;> cases hs <;> rfl
  all_goals cases hs; rfl

/-- One `Write` of the reply per `Read` that returned without error: what has
been written, with the reply the handler is about to write, is `tcpReply` once
per such read. -/
def ConnHandler.Answered (h : ConnHandler) : Prop :=
  h.written ++ (if h.pc = .writing then [tcpReply] else []) = List.replicate h.reads tcpReply

/-- A `nil` handler never gets past its first statement. -/
def ConnHandler.Stuck (h : ConnHandler) : Prop := h.conn = none → h.pc = .deferring

theorem ConnHandler.answered_step (hh : h.Answered) (hs : h.step a = some h') : h'.Answered := by
  unfold ConnHandler.step at hs
  split at hs
  · obtain ⟨_, -, rfl⟩ := Option.map_eq_some'.mp hs
    simp_all [ConnHandler.Answered]
  · split at hs <;> cases hs <;> simp_all [ConnHandler.Answered, List.replicate_succ']
  all_goals cases hs; simp_all [ConnHandler.Answered]

theorem ConnHandler.stuck_step (hh : h.Stuck) (hs : h.step a = some h') : h'.Stuck := by
  intro hc
  rw [ConnHandler.step_conn hs] at hc
  have hpc := hh hc
  have hne : a ≠ .proceed := fun ha => by simp [ConnHandler.step_eq_none.mpr ⟨hpc, ha, hc⟩] at hs
  unfold ConnHandler.step at hs
  rw [hpc] at hs
  split at hs <;> simp_all

end Handler

/-! ## The process -/

/-- The event runs the first statement of a handler started on a failed
`Accept`, in a live process. -/
def TcpServer.Panics (s : TcpServer) (ev : TcpServerEv) : Prop :=
  s.crashed = false ∧ s.pc = .accepting ∧
    ∃ i h, ev = .handler i .proceed ∧ s.handlers[i]? = some h ∧ h.pc = .deferring ∧ h.conn = none

theorem TcpServer.handlerStep_crashed (s : TcpServer) (i : Nat) (a : ConnAns) :
    (s.handlerStep i a).crashed = true ↔
      s.crashed = true ∨ ∃ h, s.handlers[i]? = some h ∧ h.step a = none := by
  unfold TcpServer.handlerStep
  split
  · rename_i hi
    simp [hi]
  · split <;> simp_all

/-- **One step's crashes.** An event ends the process exactly when it runs the
first statement of a handler on `nil`. -/
theorem TcpServer.step_crashed_iff (s : TcpServer) (ev : TcpServerEv) :
    (s.step ev).crashed = true ↔ s.crashed = true ∨ s.Panics ev := by
  unfold TcpServer.step TcpServer.Panics
  by_cases hc : s.crashed = true
  · simp [hc]
  · simp only [hc, if_false, Bool.false_eq_true, false_or, Bool.not_eq_true, true_and]
    split
    · simp [hc]
    · simp [hc]
    · rename_i i a hpc
      rw [TcpServer.handlerStep_crashed]
      simp only [hc, Bool.false_eq_true, false_or, ConnHandler.step_eq_none, TcpServerEv.handler.injEq]
      constructor
      · rintro ⟨h, hi, hpc', rfl, hn⟩; exact ⟨hpc, i, h, ⟨rfl, rfl⟩, hi, hpc', hn⟩
      · rintro ⟨-, i', h, ⟨rfl, rfl⟩, hi, hpc', hn⟩; exact ⟨h, hi, hpc', rfl, hn⟩
    · rename_i hne1 hne2 hne3
      simp only [hc, Bool.false_eq_true, false_iff, not_and, not_exists]
      rintro hpc i h rfl
      exact absurd rfl (hne3 i .proceed hpc)

/-- What every handler keeps along a run. -/
structure TcpServer.Inv (s : TcpServer) : Prop where
  /-- Handlers run only while `main` is in its accept loop. -/
  idle : s.handlers ≠ [] → s.pc = .accepting
  answered : ∀ h ∈ s.handlers, h.Answered
  stuck : ∀ h ∈ s.handlers, h.Stuck

@[simp] theorem TcpServer.handlerStep_pc (s : TcpServer) (i : Nat) (a : ConnAns) :
    (s.handlerStep i a).pc = s.pc := by
  unfold TcpServer.handlerStep
  split
  · rfl
  · split <;> rfl

theorem TcpServer.Inv.handlerStep {s : TcpServer} (hs : s.Inv) (i : Nat) (a : ConnAns) :
    (s.handlerStep i a).Inv := by
  unfold TcpServer.handlerStep
  split
  · exact hs
  · rename_i h hi
    split
    · rename_i h' hstep
      have hh := List.getElem?_mem hi
      refine ⟨fun _ => hs.idle (List.ne_nil_of_mem hh), fun g hg => ?_, fun g hg => ?_⟩ <;>
        rcases List.mem_or_eq_of_mem_set hg with hg | rfl
      · exact hs.answered g hg
      · exact ConnHandler.answered_step (hs.answered h hh) hstep
      · exact hs.stuck g hg
      · exact ConnHandler.stuck_step (hs.stuck h hh) hstep
    · exact ⟨hs.idle, hs.answered, hs.stuck⟩

theorem TcpServer.Inv.step {s : TcpServer} (hs : s.Inv) (ev : TcpServerEv) : (s.step ev).Inv := by
  unfold TcpServer.step
  split
  · exact hs
  · split
    · rename_i _ hpc
      exact ⟨fun hne => absurd (hs.idle hne) (by simp [hpc]), hs.answered, hs.stuck⟩
    · rename_i r hpc
      refine ⟨fun _ => hpc, fun g hg => ?_, fun g hg => ?_⟩ <;> rcases List.mem_append.mp hg with hg | hg
      · exact hs.answered g hg
      · simp only [List.mem_singleton] at hg; subst hg; rfl
      · exact hs.stuck g hg
      · simp only [List.mem_singleton] at hg; subst hg; exact fun _ => rfl
    · exact hs.handlerStep _ _
    · exact hs

theorem TcpServer.inv_run (evs : List TcpServerEv) : ∀ s : TcpServer, s.Inv → (s.run evs).Inv := by
  induction evs with
  | nil => exact fun _ h => h
  | cons ev evs ih => exact fun s h => ih _ (h.step ev)

/-- Once listening, `main` never leaves its loop. -/
theorem TcpServer.step_accepting {s : TcpServer} (h : s.pc = .accepting) (ev : TcpServerEv) :
    (s.step ev).pc = .accepting := by
  unfold TcpServer.step
  split
  · exact h
  · split
    · simp_all
    · exact h
    · unfold TcpServer.handlerStep; split
      · exact h
      · split <;> exact h
    · exact h

theorem TcpServer.run_accepting (evs : List TcpServerEv) :
    ∀ s : TcpServer, s.pc = .accepting → (s.run evs).pc = .accepting := by
  induction evs with
  | nil => exact fun _ h => h
  | cons ev evs ih => exact fun s h => ih _ (TcpServer.step_accepting h ev)

/-- **A failed `Accept` is fatal, and nothing else is.** Along every run of
`tcpServer`: the process has crashed exactly when some event ran the first
statement of a handler started on a failed `Accept`; while it lives, a handler
started on a failed `Accept` is still at that statement, so the next step of
its goroutine ends the process; `main` never leaves its accept loop; and every
handler has passed `tcpReply` to `Write` once per `Read` that returned without
error, and nothing else, the last reply outstanding only while it is about to
write it. -/
theorem tcpServer_crash_iff (evs : List TcpServerEv) :
    let s := tcpServerMain.run evs
    (s.crashed = true ↔ ∃ pre ev post, evs = pre ++ ev :: post ∧ (tcpServerMain.run pre).Panics ev) ∧
    (s.crashed = false → ∀ i h, s.handlers[i]? = some h → h.conn = none →
      (s.step (.handler i .proceed)).crashed = true) ∧
    (s.pc = .accepting → ∀ evs', (s.run evs').pc = .accepting) ∧
    ∀ h ∈ s.handlers, h.Answered := by
  intro s
  have hinv : s.Inv := TcpServer.inv_run evs _ ⟨fun h => absurd rfl h,
    fun _ h => by simp [tcpServerMain] at h, fun _ h => by simp [tcpServerMain] at h⟩
  refine ⟨?_, ?_, fun hpc evs' => TcpServer.run_accepting evs' s hpc, hinv.answered⟩
  · have := foldl_done_iff TcpServer.step (fun s => s.crashed = true) TcpServer.Panics
      TcpServer.step_crashed_iff evs tcpServerMain
    simpa [TcpServer.run, tcpServerMain] using this
  · intro hc i h hi hn
    have hh := List.getElem?_mem hi
    exact (TcpServer.step_crashed_iff s _).mpr
      (.inr ⟨hc, hinv.idle (List.ne_nil_of_mem hh), i, h, rfl, hi, hinv.stuck h hh hn, hn⟩)

end FwdProxy
