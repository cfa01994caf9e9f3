import FwdProxy.Net

/-!
# The relay loops

`tcpFwdData`, `udpFwdData` and the forwarding half of `udpServiceProxy` are one
loop: read a chunk into the 64k buffer, then call `Write(data)` until the counter
`nBytesW` reaches `nBytes`. They differ only in what a failed `Write` does, and
`OnWriteErr` names the three choices the source makes (`continue`, `break`,
`return`).

Two facts about that loop carry the rest of this file. Every retry passes the
whole chunk `data`, not `data[nBytesW:]`, so a short write followed by another
re-sends the head of the chunk (`relay_short_write_resends`). When instead
every successful write accepts the whole slice, which is what Go's `io.Writer`
contract demands, the inner loop runs once per chunk and the destination
receives exactly the bytes read, in order (`pump_lawful_delivers`).
-/

namespace FwdProxy

/-- Where a relay loop stands. -/
inductive PumpPc where
  /-- At the top of the outer loop, about to `Read` from the source. -/
  | reading
  /-- In the inner loop, with `nBytesW` bytes of the chunk `data` counted as written. -/
  | writing (data : GoString) (nBytesW : Nat)
  /-- Returned. -/
  | stopped
  deriving DecidableEq, Repr

/-- What a relay loop does after a failed `Write`. -/
inductive OnWriteErr where
  /-- `continue` the inner loop: write the chunk again. -/
  | retry
  /-- `break` out of the inner loop: read the next chunk. -/
  | skip
  /-- `return`. -/
  | stop
  deriving DecidableEq, Repr

/-- The inner loop's test `nBytesW < nBytes`. -/
def writeLoop (data : GoString) (nBytesW : Nat) : PumpPc :=
  if nBytesW < data.length then .writing data nBytesW else .reading

/-- The inner loop on the answer to one `Write(data)`: `nBytesW += n`, or the
loop's reaction to the error. -/
def writeStep (onErr : GoError → OnWriteErr) (data : GoString) (nBytesW : Nat) :
    WriteResult → PumpPc
  | .ok n => writeLoop data (nBytesW + n)
  | .err e =>
    match onErr e with
    | .retry => .writing data nBytesW
    | .skip => .reading
    | .stop => .stopped

/-- One answered call of a relay loop whose failed writes do `onErr`. Every
failed `Read` returns. An answer of the wrong kind is no move of the
environment and changes nothing. -/
def relayStep (onErr : GoError → OnWriteErr) : PumpPc → IOAnswer → PumpPc
  | .reading, .read r => if r.err.isSome then .stopped else writeLoop r.data 0
  | .writing data w, .wrote r => writeStep onErr data w r
  | pc, _ => pc

/-- `tcpFwdData` returns on a failed `Write`. -/
def tcpFwdDataOnErr : GoError → OnWriteErr := fun _ => .stop

/-- `udpFwdData` breaks out of its inner loop when `WriteTo` fails with
`syscall.EINVAL`, and returns on any other error. -/
def udpFwdDataOnErr : GoError → OnWriteErr := fun e => if e = einval then .skip else .stop

/-- `udpServiceProxy` `continue`s its inner loop on a failed `Write`. -/
def udpServiceProxyOnErr : GoError → OnWriteErr := fun _ => .retry

/-- `tcpFwdData(src, dst)`. -/
def tcpFwdData : PumpPc → IOAnswer → PumpPc := relayStep tcpFwdDataOnErr

/-- `udpFwdData(src, dst, dstAddr)`. -/
def udpFwdData : PumpPc → IOAnswer → PumpPc := relayStep udpFwdDataOnErr

/-- The bytes the destination accepts on this answer. A successful `Write(data)`
of `n` bytes takes the first `n` bytes of the slice it is given, and that slice
is always the whole chunk. -/
def accepted : PumpPc → IOAnswer → GoString
  | .writing data _, .wrote (.ok n) => data.take n
  | _, _ => []

/-- The slice handed to the `Write` this answer answers. -/
def written : PumpPc → IOAnswer → List GoString
  | .writing data _, .wrote _ => [data]
  | _, _ => []

/-- The chunk this answer hands the loop to relay. -/
def received : PumpPc → IOAnswer → GoString
  | .reading, .read r => if r.err.isSome then [] else r.data
  | _, _ => []

@[simp] theorem relayStep_stopped (onErr : GoError → OnWriteErr) (a : IOAnswer) :
    relayStep onErr .stopped a = .stopped := by
  cases a <;> rfl

/-! ## The chunk in hand -/

/-- The chunk a relay loop is writing, if it is in its inner loop. -/
def PumpPc.chunk : PumpPc → Option GoString
  | .writing data _ => some data
  | _ => none

theorem writeLoop_chunk {data p : GoString} {w : Nat} (h : (writeLoop data w).chunk = some p) :
    p = data := by
  unfold writeLoop at h
  split at h <;> simp_all [PumpPc.chunk]

/-- The inner loop writes one chunk until it leaves. -/
theorem writeStep_chunk {onErr : GoError → OnWriteErr} {data p : GoString} {w : Nat}
    {r : WriteResult} (h : (writeStep onErr data w r).chunk = some p) : p = data := by
  cases r with
  | ok n => exact writeLoop_chunk h
  | err e =>
    simp only [writeStep] at h
    cases hc : onErr e <;> simp [hc, PumpPc.chunk] at h
    exact h.symm

/-- A relay loop's chunk in hand is the one it had, or the data of the `Read`
it has just completed without error. -/
theorem relayStep_chunk {onErr : GoError → OnWriteErr} {pc : PumpPc} {a : IOAnswer} {p : GoString}
    (h : (relayStep onErr pc a).chunk = some p) :
    pc.chunk = some p ∨ ∃ r, pc = .reading ∧ a = .read r ∧ r.err = none ∧ r.data = p := by
  match pc, a with
  | .reading, .read r =>
    by_cases he : r.err.isSome
    · simp [relayStep, he, PumpPc.chunk] at h
    · refine .inr ⟨r, rfl, rfl, by simpa using he, ?_⟩
      exact (writeLoop_chunk (by simpa [relayStep, he] using h)).symm
  | .writing data w, .wrote r => exact .inl (by rw [writeStep_chunk h]; rfl)
  | .reading, .wrote _ => exact .inl h
  | .writing _ _, .read _ => exact .inl h
  | .stopped, _ => simp [PumpPc.chunk] at h

/-- A call logs at most one slice: the chunk of the `Write` it answers. -/
theorem written_cases : ∀ (pc : PumpPc) (a : IOAnswer),
    written pc a = [] ∨ ∃ data w, pc = .writing data w ∧ written pc a = [data]
  | .writing data w, .wrote _ => .inr ⟨data, w, rfl, rfl⟩
  | .writing _ _, .read _ => .inl rfl
  | .reading, _ => .inl rfl
  | .stopped, _ => .inl rfl

/-! ## Sockets that close under a loop -/

/-- The answer the net package gives the pending call: the environment's, unless
the socket the call is made on is closed. -/
def PumpPc.answer (srcOpen dstOpen : Bool) : PumpPc → IOAnswer → IOAnswer
  | .reading, a => if srcOpen then a else .read .closed
  | .writing _ _, a => if dstOpen then a else .wrote .closed
  | .stopped, a => a

/-- A `Read` that reports no error got the environment's answer. -/
theorem PumpPc.answer_eq_read {srcOpen dstOpen : Bool} {pc : PumpPc} {a : IOAnswer} {r : ReadResult}
    (h : pc.answer srcOpen dstOpen a = .read r) (he : r.err = none) : a = .read r := by
  cases pc with
  | stopped => exact h
  | _ =>
    simp only [PumpPc.answer] at h
    split_ifs at h
    all_goals first | exact h | (cases h; simp [ReadResult.closed] at he)

/-- A loop that returns on a closed-socket error stops at its next call once
the socket that call is made on is closed. -/
theorem relayStep_answer_closed {onErr : GoError → OnWriteErr}
    (h : ∀ op, onErr (closedError op) = .stop) (pc : PumpPc) (a : IOAnswer) :
    relayStep onErr pc (pc.answer false false a) = .stopped := by
  cases pc with
  | reading => rfl
  | writing data w => simp [PumpPc.answer, relayStep, writeStep, WriteResult.closed, h]
  | stopped => exact relayStep_stopped onErr _

@[simp] theorem tcpFwdDataOnErr_closed (op : String) : tcpFwdDataOnErr (closedError op) = .stop :=
  rfl

@[simp] theorem udpFwdDataOnErr_closed (op : String) : udpFwdDataOnErr (closedError op) = .stop := by
  simp [udpFwdDataOnErr]

/-! ## What the destination receives -/

/-- A relay loop with the bytes it has read and the bytes its destination has
accepted. -/
structure Pump where
  pc : PumpPc
  /-- Every chunk read without error, in order. -/
  taken : GoString
  /-- Every byte the destination accepted, in order. -/
  given : GoString
  deriving DecidableEq, Repr

/-- A loop at its first `Read`. -/
def Pump.init : Pump := ⟨.reading, [], []⟩

/-- One answered call, with its bytes logged. -/
def Pump.step (onErr : GoError → OnWriteErr) (p : Pump) (a : IOAnswer) : Pump :=
  ⟨relayStep onErr p.pc a, p.taken ++ received p.pc a, p.given ++ accepted p.pc a⟩

/-- A loop answered by `as`, in order. -/
def Pump.run (onErr : GoError → OnWriteErr) (p : Pump) (as : List IOAnswer) : Pump :=
  as.foldl (Pump.step onErr) p

@[simp] theorem Pump.run_nil (onErr : GoError → OnWriteErr) (p : Pump) :
    p.run onErr [] = p := rfl

@[simp] theorem Pump.run_cons (onErr : GoError → OnWriteErr) (p : Pump) (a : IOAnswer)
    (as : List IOAnswer) : p.run onErr (a :: as) = (p.step onErr a).run onErr as := rfl

/-- An answer Go's `io.Writer` contract allows: a `Write(p)` that reports no
error has accepted all of `p`. -/
def Lawful : PumpPc → IOAnswer → Prop
  | .writing data _, .wrote (.ok n) => n = data.length
  | _, _ => True

/-- Every answer of the run is `Lawful` for the call it answers. -/
def LawfulRun (onErr : GoError → OnWriteErr) : Pump → List IOAnswer → Prop
  | _, [] => True
  | p, a :: as => Lawful p.pc a ∧ LawfulRun onErr (p.step onErr a) as

/-- Everything read has been accepted, except the chunk in hand; a stopped loop
has delivered a prefix of what it read. -/
def Pump.Delivers (p : Pump) : Prop :=
  match p.pc with
  | .reading => p.given = p.taken
  | .writing data w => p.given ++ data = p.taken ∧ w = 0
  | .stopped => p.given <+: p.taken

section Lawful

variable {onErr : GoError → OnWriteErr} (hskip : ∀ e, onErr e ≠ .skip)
include hskip

theorem Pump.delivers_step {p : Pump} {a : IOAnswer} (hp : p.Delivers) (ha : Lawful p.pc a) :
    (p.step onErr a).Delivers := by
  rcases p with ⟨pc, taken, given⟩
  cases pc with
  | reading =>
    cases a with
    | read r =>
      simp only [Pump.Delivers] at hp
      by_cases he : r.err.isSome
      · simp [Pump.step, Pump.Delivers, relayStep, received, accepted, he, hp]
      · by_cases hl : 0 < r.data.length <;>
          simp_all [Pump.step, Pump.Delivers, relayStep, writeLoop, received, accepted,
            List.length_pos]
    | wrote w => simpa [Pump.step, Pump.Delivers, relayStep, received, accepted] using hp
  | writing data w =>
    obtain ⟨hp, rfl⟩ := hp
    cases a with
    | read r => simpa [Pump.step, Pump.Delivers, relayStep, received, accepted] using hp
    | wrote r =>
      cases r with
      | ok n =>
        simp only [Lawful] at ha
        subst ha
        simpa [Pump.step, Pump.Delivers, relayStep, writeStep, writeLoop, received, accepted]
          using hp
      | err e =>
        cases h : onErr e with
        | retry => simpa [Pump.step, Pump.Delivers, relayStep, writeStep, received, accepted, h]
            using hp
        | skip => exact absurd h (hskip e)
        | stop => simp [Pump.step, Pump.Delivers, relayStep, writeStep, received, accepted, h, ← hp]
  | stopped => simpa [Pump.step, Pump.Delivers, relayStep, received, accepted] using hp

/-- **A lawful destination receives exactly what was read.** For a loop that
never breaks out of its inner loop, under a destination that keeps Go's
`io.Writer` contract, the destination has accepted every chunk read so far, in
order, except the one in hand. -/
theorem pump_lawful_delivers (as : List IOAnswer) :
    ∀ p : Pump, p.Delivers → LawfulRun onErr p as → (p.run onErr as).Delivers := by
  induction as with
  | nil => exact fun p hp _ => hp
  | cons a as ih => exact fun p hp ⟨ha, hrest⟩ => ih _ (Pump.delivers_step hskip hp ha) hrest

end Lawful

/-- `tcpFwdData` reads `"ab"` and its destination accepts the whole slice. -/
theorem pump_lawful_delivers_ab :
    let as := [IOAnswer.read ⟨lit "ab", none, by decide⟩, .wrote (.ok 2)]
    (∀ e, tcpFwdDataOnErr e ≠ .skip) ∧ Pump.init.Delivers ∧ LawfulRun tcpFwdDataOnErr Pump.init as ∧
      (Pump.init.run tcpFwdDataOnErr as).Delivers :=
  have hskip : ∀ e, tcpFwdDataOnErr e ≠ .skip := fun _ h => OnWriteErr.noConfusion h
  have hp : Pump.init.Delivers := rfl
  have hl : LawfulRun tcpFwdDataOnErr Pump.init
      [IOAnswer.read ⟨lit "ab", none, by decide⟩, .wrote (.ok 2)] := ⟨trivial, rfl, trivial⟩
  ⟨hskip, hp, hl, pump_lawful_delivers hskip _ _ hp hl⟩

/-- **A short write makes the retry re-send the chunk's head.** Both pumps read
the chunk `"ab"`; the destination accepts one byte of `Write(data)`, then one
byte of the retried `Write(data)`. The counter reaches `nBytes`, the loop moves
on to its next `Read`, and the destination holds `"aa"`: the `b` is lost and
the `a` doubled. -/
theorem relay_short_write_resends :
    Pump.init.run tcpFwdDataOnErr [.read ⟨lit "ab", none, by decide⟩, .wrote (.ok 1), .wrote (.ok 1)] =
      ⟨.reading, lit "ab", lit "aa"⟩ ∧
    Pump.init.run udpFwdDataOnErr [.read ⟨lit "ab", none, by decide⟩, .wrote (.ok 1), .wrote (.ok 1)] =
      ⟨.reading, lit "ab", lit "aa"⟩ := by
  decide

end FwdProxy
