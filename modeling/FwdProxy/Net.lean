import Mathlib.Data.List.Basic

/-!
# The net package, as the proxies see it

Both proxies are loops over blocking socket calls, and everything they decide
depends on what those calls return. This module fixes the vocabulary: Go strings
as bytes, the error values the loops compare against, sockets and listeners by
descriptor, the answers of `Read` and `Write`, and Go's `map[string]T`.

A socket call is never modelled from the inside. Its answer is a value the
environment picks, and the theorems quantify over every such value. The one
promise of the net package that is kept is what a closed socket does: every
operation on it fails with `net.ErrClosed` inside a `*net.OpError`.
-/

namespace FwdProxy

/-- A Go `string`: any sequence of bytes. -/
abbrev GoString := List UInt8

/-- The bytes of a Go string literal. -/
def lit (s : String) : GoString := s.toUTF8.data.toList

/-! ## Errors -/

/-- The error values the proxies meet. Go's `==` on them compares dynamic type
and value, which is equality here. -/
inductive GoError where
  /-- A bare `syscall.Errno`. -/
  | errno (n : Nat)
  /-- `net.ErrClosed`: "use of closed network connection". -/
  | errClosed
  /-- `io.EOF`: the peer closed its end of the stream. -/
  | eof
  /-- A `*net.OpError`: the error of operation `op`, wrapped. -/
  | opError (op : String) (err : GoError)
  /-- `fmt.Errorf` with a `%w` of `err`. -/
  | wrapped (msg : String) (err : GoError)
  /-- Any other error, by its text. -/
  | other (msg : String)
  deriving DecidableEq, Repr

/-- `syscall.EINVAL`. -/
def einval : GoError := .errno 22

/-- `errors.Is(err, net.ErrClosed)`. -/
def GoError.isClosed : GoError → Bool
  | .errClosed => true
  | .opError _ e => e.isClosed
  | .wrapped _ e => e.isClosed
  | _ => false

/-- What operation `op` on a closed socket returns. -/
def closedError (op : String) : GoError := .opError op .errClosed

@[simp] theorem closedError_isClosed (op : String) : (closedError op).isClosed = true := rfl

/-- A closed socket never reports `syscall.EINVAL`: the net package wraps its
errors in a `*net.OpError`. -/
@[simp] theorem closedError_ne_einval (op : String) : closedError op ≠ einval := by
  simp [closedError, einval]

/-! ## Sockets and their answers -/

/-- A socket, by its descriptor. -/
structure Conn where
  fd : Nat
  deriving DecidableEq, Repr

/-- A listening socket and the address it is bound to, as
`listen.Addr().String()` or `conn.LocalAddr().String()` print it. -/
structure Listener where
  fd : Nat
  addr : GoString
  deriving DecidableEq, Repr

/-- The listening socket, as a socket. -/
def Listener.conn (l : Listener) : Conn := ⟨l.fd⟩

/-- `len(buf)` for the relay loops' `make([]byte, 0xffff)`. -/
def bufSize : Nat := 0xffff

/-- What one `Read(buf)` returns: the bytes it put in `buf`, and its error. -/
structure ReadResult where
  data : GoString
  err : Option GoError
  fits : data.length ≤ bufSize

/-- What one `Write(data)` returns: how many bytes it accepted, or its error. A
failed write is taken to have accepted nothing. -/
inductive WriteResult where
  | ok (n : Nat)
  | err (e : GoError)
  deriving DecidableEq, Repr

/-- The answer to a pending `Read` or `Write`. -/
inductive IOAnswer where
  | read (r : ReadResult)
  | wrote (w : WriteResult)

/-- What a `Read` on a closed socket returns. -/
def ReadResult.closed : ReadResult := ⟨[], some (closedError "read"), Nat.zero_le _⟩

/-- What a `Write` on a closed socket returns. -/
def WriteResult.closed : WriteResult := .err (closedError "write")

/-! ## Go maps -/

/-- Go's `map[string]T`: a lookup that may miss. -/
abbrev GoMap (α : Type) := GoString → Option α

/-- `make(map[string]T)`. -/
def GoMap.empty {α : Type} : GoMap α := fun _ => none

/-- `m[k] = v`. -/
def GoMap.insert {α : Type} (m : GoMap α) (k : GoString) (v : α) : GoMap α :=
  fun k' => if k' = k then some v else m k'

/-- Every entry of `m` is an entry of `m'`. -/
def GoMap.Extends {α : Type} (m m' : GoMap α) : Prop := ∀ k v, m k = some v → m' k = some v

section GoMap

variable {α : Type} {m : GoMap α} {k k' : GoString} {v : α}

@[simp] theorem GoMap.empty_apply : (GoMap.empty : GoMap α) k = none := rfl

@[simp] theorem GoMap.insert_self : m.insert k v k = some v := if_pos rfl

theorem GoMap.insert_ne (h : k' ≠ k) : m.insert k v k' = m k' := if_neg h

/-- What a lookup after `m[k] = v` finds. -/
theorem GoMap.insert_eq_some {c : α} (h : m.insert k v k' = some c) :
    (k' = k ∧ c = v) ∨ (k' ≠ k ∧ m k' = some c) := by
  by_cases hk : k' = k
  · subst hk
    exact .inl ⟨rfl, (Option.some.inj (GoMap.insert_self.symm.trans h)).symm⟩
  · exact .inr ⟨hk, (GoMap.insert_ne hk).symm.trans h⟩

theorem GoMap.extends_refl (m : GoMap α) : m.Extends m := fun _ _ h => h

theorem GoMap.Extends.trans {m₁ m₂ m₃ : GoMap α} (h₁ : m₁.Extends m₂) (h₂ : m₂.Extends m₃) :
    m₁.Extends m₃ := fun k v h => h₂ k v (h₁ k v h)

/-- Inserting at a missing key keeps every entry. -/
theorem GoMap.extends_insert (h : m k = none) : m.Extends (m.insert k v) := by
  intro k' v' h'
  rw [GoMap.insert_ne]
  · exact h'
  · rintro rfl; simp [h] at h'

end GoMap

/-! ## Lists -/

/-- Replacing a list element by one with the same image leaves the list's
image alone. -/
theorem map_set_of_getElem? {α β : Type} {f : α → β} :
    ∀ {l : List α} {i : Nat} {t t' : α}, l[i]? = some t → f t' = f t → (l.set i t').map f = l.map f
  | [], _, _, _, h, _ => by simp at h
  | _ :: _, 0, _, _, h, hf => by simp only [List.getElem?_cons_zero, Option.some.injEq] at h; simp [h, hf]
  | _ :: _, _ + 1, _, _, h, hf => by
    simp only [List.getElem?_cons_succ] at h; simp [map_set_of_getElem? h hf]

/-- Changing one list element in a way `g` does not see leaves the list's image
alone. -/
theorem map_modify_of_eq {α β : Type} (f : α → α) (g : α → β) (hf : ∀ a, g (f a) = g a)
    (l : List α) : ∀ n, (l.modify f n).map g = l.map g := by
  induction l with
  | nil => intro n; cases n <;> rfl
  | cons a l ih =>
    intro n
    cases n with
    | zero => simp [List.modify_zero_cons, hf]
    | succ n => simp [List.modify_succ_cons, ih]

/-! ## Runs -/

/-- A run of `step` ends in a state where `done` holds exactly when `done` held
at the start or some event met a state that it moves into `done`, provided one
step behaves so. This is how a loop's only exits are lifted from one step to
every run. -/
theorem foldl_done_iff {σ ε : Type} (step : σ → ε → σ) (done : σ → Prop) (trig : σ → ε → Prop)
    (h : ∀ s e, done (step s e) ↔ done s ∨ trig s e) (evs : List ε) (s : σ) :
    done (evs.foldl step s) ↔
      done s ∨ ∃ pre e post, evs = pre ++ e :: post ∧ trig (pre.foldl step s) e := by
  induction evs generalizing s with
  | nil => simp
  | cons e evs ih =>
    rw [List.foldl_cons, ih, h]
    constructor
    · rintro ((hd | ht) | ⟨pre, e', post, rfl, ht⟩)
      · exact .inl hd
      · exact .inr ⟨[], e, evs, rfl, ht⟩
      · exact .inr ⟨e :: pre, e', post, rfl, ht⟩
    · rintro (hd | ⟨pre, e', post, he, ht⟩)
      · exact .inl (.inl hd)
      · cases pre with
        | nil => cases he; exact .inl (.inr ht)
        | cons x pre => cases he; exact .inr ⟨pre, e', post, rfl, ht⟩

end FwdProxy
