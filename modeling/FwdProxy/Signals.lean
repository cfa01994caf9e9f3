import FwdProxy.Net

/-!
# The interrupt handler of `ipfs-test`

`signal.Notify(c, sigs...)` makes the runtime hand each arriving signal of
`sigs` to the channel `c` by a send that does not block: with the buffer of one
full, the signal is dropped, and with `c` closed, the send panics. A signal no
channel asks for takes its default action, which for `SIGHUP`, `SIGINT` and
`SIGTERM` ends the process.

`ipfs-test` wraps such a channel in an `IntrHandler`: a goroutine ranges over
it, counts signals, starts a goroutine that cancels the context at the first and
calls `os.Exit(-1)` at the second. Every goroutine the handler starts is counted
in `ih.wg`, so that `Close`, which closes the channel and then waits on `ih.wg`,
returns only once all of them have finished. The counter is exact along every
run: one for the range goroutine until it returns, one for each cancelling
goroutine until it has run.

The range goroutine calls `signal.Stop` only once its range over the closed
channel has ended. Between the `close` and the `Stop` the registration is still
in force, so any signal that arrives then is sent on a closed channel and
crashes the process, and every `Close` opens that window (`intr_close_window`).
-/

namespace FwdProxy

/-- The signals `ipfs-test` registers. -/
inductive Signal where
  | sighup
  | sigint
  | sigterm
  deriving DecidableEq, Repr

/-- How a process stands. -/
inductive ProcStatus where
  | running
  | exited (code : Int)
  /-- An unrecovered panic. -/
  | crashed
  /-- The default action of a signal. -/
  | killed (sig : Signal)
  deriving DecidableEq, Repr

/-! ## The program -/

/-- Where `main` of `ipfs-test` stands, once `setupInterruptHandler` has run. -/
inductive IntrMainPc where
  /-- At `fsrepo.Open` and `core.NewNode`. -/
  | setup
  /-- At the `select` of its loop. -/
  | looping
  /-- Returned: running the deferred `node.Close()`. -/
  | closingNode
  /-- Running the deferred `intrh.Close()`: at `close(ih.sig)`; `panicking` when a
  panic of the setup is unwinding. -/
  | closing (panicking : Bool)
  /-- In `intrh.Close()`, at `ih.wg.Wait()`. -/
  | waiting (panicking : Bool)
  deriving DecidableEq, Repr

/-- Where the goroutine `Handle` started stands. -/
inductive HandleLoopPc where
  /-- In `for range ih.sig`, after `count` signals. -/
  | ranging (count : Nat)
  /-- Returned: `signal.Stop(ih.sig)` and the deferred `ih.wg.Done()` have run. -/
  | done
  deriving DecidableEq, Repr

/-- The `ipfs-test` process with its interrupt handler. -/
structure Intr where
  main : IntrMainPc
  /-- The signal in `ih.sig`'s buffer of one, if any. -/
  buf : Option Signal
  /-- `close(ih.sig)` has run. -/
  closed : Bool
  /-- `signal.Notify(ih.sig, ...)` is in force: `signal.Stop(ih.sig)` has not run. -/
  notified : Bool
  loop : HandleLoopPc
  /-- The goroutines `go func() { defer ih.wg.Done(); cancelFunc() }()` started,
  each `true` once it has run. -/
  cancels : List Bool
  /-- `cancelFunc` has run: `ctx.Done()` is closed. -/
  cancelled : Bool
  /-- `ih.wg`'s counter. -/
  wg : Nat
  status : ProcStatus
  deriving DecidableEq, Repr

/-- `main` once `setupInterruptHandler` has registered `SIGHUP`, `SIGINT` and
`SIGTERM` and started the handler's goroutine. -/
def ipfsTestMain : Intr := ⟨.setup, none, false, true, .ranging 0, [], false, 1, .running⟩

/-- The next thing that happens to the process. -/
inductive IntrEv where
  /-- The signal `sig` arrives. -/
  | signal (sig : Signal)
  /-- `fsrepo.Open` and `core.NewNode` return; `false` is an error, on which `main`
  panics. -/
  | setup (ok : Bool)
  /-- `main` runs its next statement. -/
  | main
  /-- The handler's goroutine runs its next statement. -/
  | loop
  /-- The `i`-th cancelling goroutine runs. -/
  | cancel (i : Nat)
  deriving DecidableEq, Repr

/-- The runtime hands over an arriving signal: all three are registered while
`Notify` is in force. -/
def Intr.deliver (s : Intr) (sig : Signal) : Intr :=
  if !s.notified then { s with status := .killed sig }
  else if s.closed then { s with status := .crashed }
  else
    match s.buf with
    | none => { s with buf := some sig }
    | some _ => s

/-- `main`'s next statement. -/
def Intr.mainStep (s : Intr) : Intr :=
  match s.main with
  | .setup => s
  | .looping => if s.cancelled then { s with main := .closingNode } else s
  | .closingNode => { s with main := .closing false }
  | .closing p => if s.closed then { s with status := .crashed } else { s with closed := true, main := .waiting p }
  | .waiting p => if s.wg = 0 then { s with status := if p then .crashed else .exited 0 } else s

/-- The handler's goroutine: receive a signal and call the handler with the new
count, or leave the range of a drained, closed channel. -/
def Intr.loopStep (s : Intr) : Intr :=
  match s.loop, s.buf with
  | .ranging n, some _ =>
    if n + 1 = 1 then
      { s with buf := none, loop := .ranging 1, wg := s.wg + 1, cancels := s.cancels ++ [false] }
    else { s with buf := none, loop := .ranging (n + 1), status := .exited (-1) }
  | .ranging _, none =>
    if s.closed then { s with loop := .done, notified := false, wg := s.wg - 1 } else s
  | .done, _ => s

/-- The `i`-th cancelling goroutine: `cancelFunc()`, then `ih.wg.Done()`. -/
def Intr.cancelStep (s : Intr) (i : Nat) : Intr :=
  match s.cancels[i]? with
  | some false => { s with cancels := s.cancels.set i true, cancelled := true, wg := s.wg - 1 }
  | _ => s

/-- One event; nothing happens once the process has ended. -/
def Intr.step (s : Intr) (ev : IntrEv) : Intr :=
  if s.status ≠ .running then s
  else
    match ev with
    | .signal sig => s.deliver sig
    | .setup ok =>
      match s.main with
      | .setup => { s with main := if ok then .looping else .closing true }
      | _ => s
    | .main => s.mainStep
    | .loop => s.loopStep
    | .cancel i => s.cancelStep i

/-- The process after `evs`. -/
def Intr.run (s : Intr) (evs : List IntrEv) : Intr := evs.foldl Intr.step s

/-! ## What a run keeps -/

/-- `main` has not yet reached `close(ih.sig)`. -/
def IntrMainPc.beforeClose : IntrMainPc → Bool
  | .waiting _ => false
  | _ => true

/-- `main` has returned from its loop and is not unwinding a panic. -/
def IntrMainPc.leftLoop : IntrMainPc → Bool
  | .closingNode | .closing false | .waiting false => true
  | _ => false

/-- The range goroutine's share of `ih.wg`: one until it has returned. -/
def HandleLoopPc.pending : HandleLoopPc → Nat
  | .ranging _ => 1
  | .done => 0

/-- What the interrupt handler keeps along a run. -/
structure Intr.Inv (s : Intr) : Prop where
  /-- Only `main`'s `Close` closes the channel. -/
  closed : s.closed = !s.main.beforeClose
  /-- `signal.Stop` runs only once the range over the closed channel has ended. -/
  notified : s.notified = false → s.closed = true
  /-- `ih.wg` counts the handler's goroutines that have not called `Done`: the
  range goroutine until it returns, each cancelling goroutine until it has run. -/
  wg : s.wg = s.loop.pending + s.cancels.count false
  /-- The range goroutine calls `signal.Stop` before it returns. -/
  stopped : s.loop = .done → s.notified = false
  /-- Only the first signal starts a cancelling goroutine. -/
  first : s.loop = .ranging 0 → s.cancels = []
  single : s.cancels.length ≤ 1
  /-- Only a cancelling goroutine cancels the context. -/
  ran : s.cancelled = true → true ∈ s.cancels
  /-- `main` leaves its loop only once the context is cancelled. -/
  leftLoop : s.main.leftLoop = true → s.cancelled = true
  /-- `main` exits normally only from `ih.wg.Wait()`, at a zero counter. -/
  exited : s.status = .exited 0 → s.main = .waiting false ∧ s.wg = 0

theorem Intr.inv_init : ipfsTestMain.Inv :=
  ⟨rfl, (fun h => nomatch h), rfl, (fun h => nomatch h), fun _ => rfl, Nat.zero_le _, (fun h => nomatch h),
    (fun h => nomatch h), fun h => nomatch h⟩

/-- A list of at most one element that holds `a` is `[a]`. -/
theorem eq_singleton_of_length_le_one {α : Type} {l : List α} {a : α} (hl : l.length ≤ 1)
    (ha : a ∈ l) : l = [a] :=
  match l, hl, ha with
  | [_], _, hb => by rw [List.mem_singleton.mp hb]
  | _ :: _ :: _, hl, _ => by simp at hl

section IntrSteps

variable {s : Intr}

/-- A step that only ends the process, other than by a normal exit. -/
theorem Intr.Inv.status (h : s.Inv) {st : ProcStatus} (hst : st ≠ .exited 0) :
    { s with status := st }.Inv :=
  ⟨h.closed, h.notified, h.wg, h.stopped, h.first, h.single, h.ran, h.leftLoop, fun h' => absurd h' hst⟩

theorem Intr.Inv.deliver (h : s.Inv) (sig : Signal) : (s.deliver sig).Inv := by
  unfold Intr.deliver
  split
  · exact h.status (by simp)
  · split
    · exact h.status (by simp)
    · split
      · exact ⟨h.closed, h.notified, h.wg, h.stopped, h.first, h.single, h.ran, h.leftLoop, h.exited⟩
      · exact h

theorem Intr.Inv.mainStep (h : s.Inv) (hr : s.status = .running) : s.mainStep.Inv := by
  unfold Intr.mainStep
  split
  · exact h
  · split
    · rename_i hm hc
      exact ⟨by simp [h.closed, hm, IntrMainPc.beforeClose], h.notified, h.wg, h.stopped, h.first,
        h.single, h.ran, fun _ => hc, fun h' => nomatch hr.symm.trans h'⟩
    · exact h
  · rename_i hm
    exact ⟨by simp [h.closed, hm, IntrMainPc.beforeClose], h.notified, h.wg, h.stopped, h.first,
      h.single, h.ran, fun _ => h.leftLoop (by simp [hm, IntrMainPc.leftLoop]),
      fun h' => nomatch hr.symm.trans h'⟩
  · split
    · exact h.status (by decide)
    · rename_i p hm _
      have hleft : (IntrMainPc.waiting p).leftLoop = (IntrMainPc.closing p).leftLoop := by cases p <;> rfl
      exact ⟨rfl, fun _ => rfl, h.wg, h.stopped, h.first, h.single, h.ran,
        fun hw => h.leftLoop (by rw [hm, ← hleft]; exact hw), fun h' => nomatch hr.symm.trans h'⟩
  · split
    · rename_i p hm hw
      refine ⟨h.closed, h.notified, h.wg, h.stopped, h.first, h.single, h.ran, h.leftLoop, fun he => ?_⟩
      cases p
      · exact ⟨hm, hw⟩
      · simp at he
    · exact h

theorem Intr.Inv.loopStep (h : s.Inv) (hr : s.status = .running) : s.loopStep.Inv := by
  unfold Intr.loopStep
  split
  · rename_i n _ hl _
    split
    · obtain rfl : n = 0 := by omega
      have hc := h.first hl
      refine ⟨h.closed, h.notified, ?_, (fun h' => nomatch h'), (fun h' => nomatch h'), by simp [hc],
        fun hcan => List.mem_append_left _ (h.ran hcan), h.leftLoop, fun h' => nomatch hr.symm.trans h'⟩
      simp [h.wg, hl, hc, HandleLoopPc.pending]
    · refine ⟨h.closed, h.notified, ?_, (fun h' => nomatch h'), fun h' => by simp at h', h.single, h.ran,
        h.leftLoop, fun h' => by simp at h'⟩
      simp [h.wg, hl, HandleLoopPc.pending]
  · split
    · rename_i n hl _ hcl
      refine ⟨h.closed, fun _ => hcl, ?_, fun _ => rfl, (fun h' => nomatch h'), h.single, h.ran,
        h.leftLoop, fun h' => nomatch hr.symm.trans h'⟩
      simp [h.wg, hl, HandleLoopPc.pending]
    · exact h
  · exact h

theorem Intr.Inv.cancelStep (h : s.Inv) (hr : s.status = .running) (i : Nat) : (s.cancelStep i).Inv := by
  unfold Intr.cancelStep
  split
  · rename_i hi
    have hc : s.cancels = [false] := eq_singleton_of_length_le_one h.single (List.getElem?_mem hi)
    obtain rfl : i = 0 := by simpa [hc] using (List.getElem?_eq_some_iff.mp hi).1
    refine ⟨h.closed, h.notified, ?_, h.stopped, fun hl => absurd (h.first hl) (by simp [hc]),
      by simp [hc], fun _ => by simp [hc], fun _ => rfl, fun h' => nomatch hr.symm.trans h'⟩
    rw [h.wg, hc]
    simp
  · exact h

theorem Intr.Inv.step (h : s.Inv) (ev : IntrEv) : (s.step ev).Inv := by
  unfold Intr.step
  split
  · exact h
  · rename_i hr
    have hr : s.status = .running := by simpa using hr
    cases ev with
    | signal sig => exact h.deliver sig
    | setup ok =>
      dsimp only
      split
      · rename_i hm
        refine ⟨?_, h.notified, h.wg, h.stopped, h.first, h.single, h.ran, ?_,
          fun h' => nomatch hr.symm.trans h'⟩
        · show s.closed = !(if ok = true then IntrMainPc.looping else .closing true).beforeClose
          rw [h.closed, hm]
          cases ok <;> rfl
        · cases ok <;> exact fun h' => nomatch h'
      · exact h
    | main => exact h.mainStep hr
    | loop => exact h.loopStep hr
    | cancel i => exact h.cancelStep hr i

end IntrSteps

theorem Intr.inv_run (evs : List IntrEv) : ∀ s : Intr, s.Inv → (s.run evs).Inv := by
  induction evs with
  | nil => exact fun _ h => h
  | cons ev evs ih => exact fun s h => ih _ (h.step ev)

/-! ## The close window -/

/-- **Every `Close` opens a window in which a signal crashes the process.**
Along every run of `ipfs-test` in which `main` reaches the `close(ih.sig)` of
`intrh.Close()`, normally or unwinding a panic, the close succeeds while
`signal.Notify` is still in force; from that state on, until the handler's
goroutine calls `signal.Stop`, any `SIGHUP`, `SIGINT` or `SIGTERM` is sent on
the closed channel and crashes the process. -/
theorem intr_close_window (evs : List IntrEv) (p : Bool) :
    let s := ipfsTestMain.run evs
    s.status = .running → s.main = .closing p →
      (s.step .main).status = .running ∧ (s.step .main).closed = true ∧
        (s.step .main).notified = true ∧
        ∀ sig, ((s.step .main).step (.signal sig)).status = .crashed := by
  intro s hr hm
  have h : s.Inv := Intr.inv_run evs _ Intr.inv_init
  have hc : s.closed = false := by rw [h.closed, hm]; rfl
  have hn : s.notified = true := by
    cases hnot : s.notified
    · exact absurd (h.notified hnot) (by simp [hc])
    · rfl
  have hstep : s.step .main = { s with closed := true, main := .waiting p } := by
    simp [Intr.step, hr, Intr.mainStep, hm, hc]
  rw [hstep]
  refine ⟨hr, rfl, hn, fun sig => ?_⟩
  simp [Intr.step, hr, Intr.deliver, hn]

/-- A first `SIGINT` cancels the context; `main` leaves its loop, closes the node
and reaches `close(ih.sig)` while the handler's goroutine still waits on the
channel. A second `SIGINT` right after the close crashes the process. -/
theorem intr_close_window_second_interrupt :
    let s := ipfsTestMain.run [.setup true, .signal .sigint, .loop, .cancel 0, .main, .main]
    s.status = .running ∧ s.main = .closing false ∧
      ((s.step .main).step (.signal .sigint)).status = .crashed :=
  ⟨rfl, rfl, (intr_close_window [.setup true, .signal .sigint, .loop, .cancel 0, .main, .main] false
    (by rfl) (by rfl)).2.2.2 .sigint⟩

/-! ## The wait group -/

/-- **`Close` waits for every goroutine of the handler.** Along every run of
`ipfs-test`, `ih.wg`'s counter is the number of the handler's goroutines that
have not called `Done`: the range goroutine until its range has ended, and each
cancelling goroutine until it has run; so no `Done` takes the counter below
zero. And `ih.wg.Wait()` in `intrh.Close()` returns only once all of them have
finished: when the process exits with status 0, the range goroutine has called
`signal.Stop`, the one cancelling goroutine the first signal started has run,
and the context is cancelled. -/
theorem intr_close_waits_for_goroutines (evs : List IntrEv) :
    let s := ipfsTestMain.run evs
    s.wg = s.loop.pending + s.cancels.count false ∧
      (s.status = .exited 0 →
        s.loop = .done ∧ s.notified = false ∧ s.cancels = [true] ∧ s.cancelled = true) := by
  intro s
  have h : s.Inv := Intr.inv_run evs _ Intr.inv_init
  refine ⟨h.wg, fun he => ?_⟩
  obtain ⟨hm, hw⟩ := h.exited he
  have hzero : s.loop.pending + s.cancels.count false = 0 := h.wg.symm.trans hw
  have hl : s.loop = .done := by
    cases hloop : s.loop with
    | done => rfl
    | ranging n => simp [hloop, HandleLoopPc.pending] at hzero
  have hc : s.cancelled = true := h.leftLoop (by simp [hm, IntrMainPc.leftLoop])
  refine ⟨hl, h.stopped hl, ?_, hc⟩
  exact eq_singleton_of_length_le_one h.single (h.ran hc)

/-- A first `SIGINT` cancels the context; `main` leaves its loop, closes the
channel and waits; the range goroutine sees the channel closed and returns, and
`main`'s `Wait` returns: the process exits with status 0. -/
theorem intr_close_waits_for_goroutines_after_interrupt :
    let s := ipfsTestMain.run
      [.setup true, .signal .sigint, .loop, .cancel 0, .main, .main, .main, .loop, .main]
    s.status = .exited 0 ∧ s.loop = .done ∧ s.notified = false ∧ s.cancels = [true] ∧
      s.cancelled = true :=
  ⟨rfl, (intr_close_waits_for_goroutines
    [.setup true, .signal .sigint, .loop, .cancel 0, .main, .main, .main, .loop, .main]).2 rfl⟩

end FwdProxy
