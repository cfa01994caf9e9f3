import FwdProxy.Endpoint.Atoi

/-!
# `validateEndpoint`

`validateEndpoint(ep)` splits `ep` at `":"` and wants two parts. The host part,
if it is not empty, must match `[0-9.]` and split at `"."` into four fields,
each an `Atoi` value in `0..255`. The port part must be an `Atoi` value in
`1..65535`. Its comment promises IPv4 endpoints, with the host-less form
`":1234"`.

The grammar of what it accepts is `EndpointOf` over two kinds of numeral, and
`validateEndpoint_iff` gives it exactly. A numeral is what `Atoi` parses, an
optional sign and then digits, so the port may carry a sign: `"1.2.3.4:+80"` is
accepted (`validate_accepts_signed_port`).

The host's fields would be digit strings if the regular expression did what it
is there for, but `[0-9.]` is not anchored: it matches as soon as one byte is a
digit or a dot, and a host with four fields has three dots, so it always
matches. A sign before an octet thus reaches `Atoi`, which takes it, and
`"-0.1.2.3:80"` is accepted too. That is a slip of the code, not its design, and
the grammar theorem leaves such hosts out: for every string whose host part has
no sign byte, it accepts exactly the endpoints with digit-string octets and a
port that `Atoi` reads.
-/

namespace FwdProxy

/-! ## The code -/

/-- `regexp.Match("[0-9.]", ip)`. The pattern is not anchored, so it matches as
soon as one byte of `ip` is a digit or a dot. The pattern compiles, so `err` is
nil. -/
def regexpMatch (ip : GoString) : Bool := ip.any fun b => isDigit b || b == 46

/-- One number check of `validateEndpoint`: `Atoi` succeeds with a value in
`lo..hi`. -/
def atoiIn (lo hi : Int) (s : GoString) : Bool :=
  match atoi s with
  | some n => !(n < lo || n > hi)
  | none => false

/-- An octet's check: `octet < 0 || octet > 255 || err != nil` rejects it. -/
def octetOk : GoString → Bool := atoiIn 0 255

/-- The port's checks: `err != nil` rejects it, then `port < 1 || port > 65535`. -/
def portOk : GoString → Bool := atoiIn 1 65535

/-- The host part's checks, all under `if ip != ""`. -/
def ipOk (ip : GoString) : Bool :=
  if ip != [] then
    regexpMatch ip && ((ip.splitOn 46).length == 4 && (ip.splitOn 46).all octetOk)
  else true

/-- `validateEndpoint(ep)`. -/
def validateEndpoint (ep : GoString) : Bool :=
  match ep.splitOn 58 with
  | [ip, portStr] => ipOk ip && portOk portStr
  | _ => false

/-- `main`: what it prints, and its exit status. -/
def validateEndpointMain (args : List GoString) : GoString × Nat :=
  match args with
  | [_, ep] => (if validateEndpoint ep then lit "Valid endpoint\n" else lit "Bad endpoint\n", 0)
  | _ => (lit "Expecting at least one argument (IPv4 Endpoint)\n", 1)

example : validateEndpointMain [lit "v", lit "127.0.0.1:8080"] = (lit "Valid endpoint\n", 0) ∧
    validateEndpointMain [lit "v", lit "1.2.3:80"] = (lit "Bad endpoint\n", 0) := by decide

/-! ## The grammar -/

/-- A numeral `Atoi` takes, of value in `lo..hi`: an optional `+` or `-`, then
one or more ASCII digits. -/
def SignedIn (lo hi : Int) (s : GoString) : Prop :=
  ∃ sign ds, IsSign sign ∧ s = sign ++ ds ∧ IsDigits ds ∧
    lo ≤ signedValue sign ds ∧ signedValue sign ds ≤ hi

/-- A non-empty string of ASCII digits of value in `lo..hi`. -/
def DigitsIn (lo hi : Nat) (s : GoString) : Prop :=
  IsDigits s ∧ lo ≤ decimalValue s ∧ decimalValue s ≤ hi

/-- An endpoint `H ":" P`: the host `H` is empty or four `"."`-separated fields,
each an `Octet`, and the port `P` is a `Port`. -/
def EndpointOf (Octet Port : GoString → Prop) (s : GoString) : Prop :=
  ∃ H P, s = H ++ 58 :: P ∧
    (H = [] ∨ ∃ o₁ o₂ o₃ o₄, H = o₁ ++ 46 :: (o₂ ++ 46 :: (o₃ ++ 46 :: o₄)) ∧
      Octet o₁ ∧ Octet o₂ ∧ Octet o₃ ∧ Octet o₄) ∧
    Port P

/-- The bytes of `s` before its first `":"`: the host part, when `s` is an
endpoint. -/
def hostPart (s : GoString) : GoString := s.takeWhile (· != 58)

/-- A grammar whose fields allow more allows more endpoints. -/
theorem EndpointOf.mono {Octet Octet' Port Port' : GoString → Prop} (hO : ∀ o, Octet o → Octet' o)
    (hP : ∀ p, Port p → Port' p) {s : GoString} : EndpointOf Octet Port s → EndpointOf Octet' Port' s
  | ⟨H, P, hs, hH, hp⟩ =>
    ⟨H, P, hs, hH.imp_right fun ⟨o₁, o₂, o₃, o₄, h, h₁, h₂, h₃, h₄⟩ =>
      ⟨o₁, o₂, o₃, o₄, h, hO _ h₁, hO _ h₂, hO _ h₃, hO _ h₄⟩, hP _ hp⟩

/-- A plain digit string is a numeral. -/
theorem DigitsIn.signedIn {lo hi : Nat} {s : GoString} (h : DigitsIn lo hi s) :
    SignedIn lo hi s :=
  ⟨[], s, .inl rfl, rfl, h.1, by simp [signedValue, lit_minus, h.2.1], by simp [signedValue, lit_minus, h.2.2]⟩

/-- A numeral with no sign byte is a digit string. -/
theorem SignedIn.digitsIn {lo hi : Nat} {s : GoString} (h : SignedIn lo hi s)
    (hs : ∀ b ∈ s, b ≠ 43 ∧ b ≠ 45) : DigitsIn lo hi s := by
  obtain ⟨sign, ds, hsign, rfl, hd, h1, h2⟩ := h
  rcases hsign with rfl | rfl | rfl
  · simp only [signedValue, lit_minus, List.nil_eq, reduceCtorEq, if_false, Nat.cast_le] at h1 h2
    exact ⟨hd, h1, h2⟩
  · exact absurd rfl (hs 43 (by simp [lit_plus])).1
  · exact absurd rfl (hs 45 (by simp [lit_minus])).2

/-- The bytes of a numeral are signs and digits. -/
theorem SignedIn.bytes {lo hi : Int} {s : GoString} (h : SignedIn lo hi s) :
    ∀ b ∈ s, b = 43 ∨ b = 45 ∨ isDigit b = true := by
  obtain ⟨sign, ds, hs, rfl, hd, -⟩ := h
  intro b hb
  rcases List.mem_append.mp hb with hb | hb
  · rcases hs with rfl | rfl | rfl <;> simp_all [lit_plus, lit_minus]
  · exact .inr (.inr (hd.2 b hb))

/-- Neither separator occurs in a numeral. -/
theorem SignedIn.not_mem_sep {lo hi : Int} {s : GoString} (h : SignedIn lo hi s) :
    46 ∉ s ∧ 58 ∉ s := by
  constructor <;> intro hm <;> rcases h.bytes _ hm with h | h | h <;> exact absurd h (by decide)

/-- Splitting at a separator that occurs in neither piece. -/
theorem splitOn_append_cons {a : UInt8} {xs ys : GoString} (hx : a ∉ xs) (hy : a ∉ ys) :
    (xs ++ a :: ys).splitOn a = [xs, ys] := by
  have : ([a].intercalate [xs, ys]).splitOn a = [xs, ys] :=
    List.splitOn_intercalate [xs, ys] a (by simp [hx, hy]) (by simp)
  simpa [List.intercalate] using this

/-- The pieces `splitOn` returns put the string back together. -/
theorem eq_of_splitOn_eq_two {a : UInt8} {s xs ys : GoString} (h : s.splitOn a = [xs, ys]) :
    s = xs ++ a :: ys := by
  have : [a].intercalate (s.splitOn a) = s := List.intercalate_splitOn s a
  rw [h] at this
  simpa [List.intercalate] using this.symm

/-! ## What is accepted -/

/-- `validateEndpoint`'s number checks accept exactly the numerals of their range. -/
theorem atoiIn_iff {lo hi : Int} (hlo : -2 ^ 63 ≤ lo) (hhi : hi < 2 ^ 63) (s : GoString) :
    atoiIn lo hi s = true ↔ SignedIn lo hi s := by
  have hin : atoiIn lo hi s = true ↔ ∃ n, atoi s = some n ∧ lo ≤ n ∧ n ≤ hi := by
    cases h : atoi s <;> simp [atoiIn, h]
  rw [hin]
  constructor
  · rintro ⟨n, hn, h1, h2⟩
    obtain ⟨sign, ds, hs, rfl, hd, rfl, -⟩ := (atoi_eq_some s n).mp hn
    exact ⟨sign, ds, hs, rfl, hd, h1, h2⟩
  · rintro ⟨sign, ds, hs, rfl, hd, h1, h2⟩
    exact ⟨_, (atoi_eq_some _ _).mpr ⟨sign, ds, hs, rfl, hd, rfl, by omega, by omega⟩, h1, h2⟩

theorem octetOk_iff (s : GoString) : octetOk s = true ↔ SignedIn 0 255 s :=
  atoiIn_iff (by norm_num) (by norm_num) s

theorem portOk_iff (s : GoString) : portOk s = true ↔ SignedIn 1 65535 s :=
  atoiIn_iff (by norm_num) (by norm_num) s

/-- The host checks accept exactly the empty host and four numerals in `0..255`
joined by dots. -/
theorem ipOk_iff (ip : GoString) :
    ipOk ip = true ↔ ip = [] ∨ ∃ o₁ o₂ o₃ o₄, ip = o₁ ++ 46 :: (o₂ ++ 46 :: (o₃ ++ 46 :: o₄)) ∧
      SignedIn 0 255 o₁ ∧ SignedIn 0 255 o₂ ∧ SignedIn 0 255 o₃ ∧ SignedIn 0 255 o₄ := by
  by_cases hip : ip = []
  · simp [ipOk, hip]
  simp only [ipOk, bne_iff_ne, ne_eq, hip, not_false_eq_true, if_true, false_or,
    Bool.and_eq_true, beq_iff_eq, List.all_eq_true]
  constructor
  · rintro ⟨-, hlen, hall⟩
    obtain ⟨o₁, o₂, o₃, o₄, hsplit⟩ : ∃ o₁ o₂ o₃ o₄, ip.splitOn 46 = [o₁, o₂, o₃, o₄] := by
      match h : ip.splitOn 46, hlen with
      | [o₁, o₂, o₃, o₄], _ => exact ⟨o₁, o₂, o₃, o₄, rfl⟩
    have hip' : [46].intercalate (ip.splitOn 46) = ip := List.intercalate_splitOn ip 46
    rw [hsplit] at hip' hall
    simp only [List.mem_cons, List.mem_singleton, forall_eq_or_imp, forall_eq, octetOk_iff,
      List.not_mem_nil, or_false] at hall
    exact ⟨o₁, o₂, o₃, o₄, by simpa [List.intercalate] using hip'.symm, hall⟩
  · rintro ⟨o₁, o₂, o₃, o₄, rfl, h₁, h₂, h₃, h₄⟩
    have hsplit : (o₁ ++ 46 :: (o₂ ++ 46 :: (o₃ ++ 46 :: o₄))).splitOn 46 = [o₁, o₂, o₃, o₄] := by
      have : ([46].intercalate [o₁, o₂, o₃, o₄]).splitOn 46 = [o₁, o₂, o₃, o₄] :=
        List.splitOn_intercalate _ 46
          (by simp [h₁.not_mem_sep.1, h₂.not_mem_sep.1, h₃.not_mem_sep.1, h₄.not_mem_sep.1])
          (by simp)
      simpa [List.intercalate] using this
    refine ⟨List.any_eq_true.mpr ⟨46, by simp, by decide⟩, by simp [hsplit], ?_⟩
    simp [hsplit, octetOk_iff, h₁, h₂, h₃, h₄]

/-- The host part of an endpoint is its host. -/
theorem hostPart_append_colon {H : GoString} (hH : 58 ∉ H) (P : GoString) :
    hostPart (H ++ 58 :: P) = H := by
  rw [hostPart, List.takeWhile_append_of_pos fun b hb => bne_iff_ne.mpr fun (e : b = 58) => hH (e ▸ hb)]
  simp

/-- A host the grammar allows has no colon. -/
theorem not_mem_colon_of_host {Octet : GoString → Prop} (hO : ∀ o, Octet o → 58 ∉ o)
    {H : GoString} (hH : H = [] ∨ ∃ o₁ o₂ o₃ o₄, H = o₁ ++ 46 :: (o₂ ++ 46 :: (o₃ ++ 46 :: o₄)) ∧
      Octet o₁ ∧ Octet o₂ ∧ Octet o₃ ∧ Octet o₄) : 58 ∉ H := by
  rcases hH with rfl | ⟨o₁, o₂, o₃, o₄, rfl, h₁, h₂, h₃, h₄⟩
  · simp
  · simp [hO _ h₁, hO _ h₂, hO _ h₃, hO _ h₄]

/-- **What `validateEndpoint` accepts.** It accepts `s` exactly when `s` is
`H ":" P`, where `H` is empty or four `"."`-separated numerals of value
`0..255`, and `P` is a numeral of value `1..65535`; a numeral being an optional
`+` or `-` followed by one or more ASCII digits. -/
theorem validateEndpoint_iff (s : GoString) :
    validateEndpoint s = true ↔ EndpointOf (SignedIn 0 255) (SignedIn 1 65535) s := by
  constructor
  · intro h
    unfold validateEndpoint at h
    split at h
    · rename_i ip portStr hsplit
      simp only [Bool.and_eq_true] at h
      exact ⟨ip, portStr, eq_of_splitOn_eq_two hsplit, (ipOk_iff ip).mp h.1, (portOk_iff _).mp h.2⟩
    · exact absurd h (by simp)
  · rintro ⟨H, P, rfl, hH, hP⟩
    have hsplit := splitOn_append_cons
      (not_mem_colon_of_host (fun _ h => h.not_mem_sep.2) hH) hP.not_mem_sep.2
    simp only [validateEndpoint, hsplit, Bool.and_eq_true]
    exact ⟨(ipOk_iff H).mpr hH, (portOk_iff P).mpr hP⟩

example : validateEndpoint (lit ":1234") = true ∧ validateEndpoint (lit "-0.1.2.3:80") = true ∧
    validateEndpoint (lit "1.2.3.4:-80") = false ∧ validateEndpoint (lit "1.2.3.4:80:") = false := by
  decide

/-- **The endpoint grammar.** For every string whose host part has no `+` or
`-`, `validateEndpoint` accepts it exactly when it is `H ":" P`, where `H` is
empty or four `"."`-separated digit strings of value `0..255`, and `P` is a
numeral `Atoi` reads, of value `1..65535`: an optional `+` or `-`, then one or
more ASCII digits. -/
theorem validateEndpoint_grammar (s : GoString) (hs : ∀ b ∈ hostPart s, b ≠ 43 ∧ b ≠ 45) :
    validateEndpoint s = true ↔ EndpointOf (DigitsIn 0 255) (SignedIn 1 65535) s := by
  rw [validateEndpoint_iff]
  refine ⟨?_, EndpointOf.mono (fun _ => DigitsIn.signedIn) fun _ h => h⟩
  rintro ⟨H, P, rfl, hH, hP⟩
  rw [hostPart_append_colon (not_mem_colon_of_host (fun _ h => h.not_mem_sep.2) hH)] at hs
  have hfield : ∀ o, SignedIn 0 255 o → o ⊆ H → DigitsIn 0 255 o :=
    fun o ho hsub => ho.digitsIn fun b hb => hs b (hsub hb)
  refine ⟨H, P, rfl, hH.imp_right ?_, hP⟩
  rintro ⟨o₁, o₂, o₃, o₄, rfl, h₁, h₂, h₃, h₄⟩
  exact ⟨o₁, o₂, o₃, o₄, rfl, hfield _ h₁ fun b hb => by simp [hb],
    hfield _ h₂ fun b hb => by simp [hb], hfield _ h₃ fun b hb => by simp [hb],
    hfield _ h₄ fun b hb => by simp [hb]⟩

/-- The endpoint with a signed port, whose host has no sign. -/
theorem validateEndpoint_grammar_signed_port :
    (∀ b ∈ hostPart (lit "1.2.3.4:+80"), b ≠ 43 ∧ b ≠ 45) ∧
      (validateEndpoint (lit "1.2.3.4:+80") = true ↔
        EndpointOf (DigitsIn 0 255) (SignedIn 1 65535) (lit "1.2.3.4:+80")) :=
  ⟨by decide, validateEndpoint_grammar _ (by decide)⟩

/-- **A signed port is accepted.** `Atoi("+80")` is `80`, so `validateEndpoint`
accepts `"1.2.3.4:+80"`, whose port is not a digit string. -/
theorem validate_accepts_signed_port :
    validateEndpoint (lit "1.2.3.4:+80") = true ∧
      ¬EndpointOf (DigitsIn 0 255) (DigitsIn 1 65535) (lit "1.2.3.4:+80") := by
  refine ⟨by decide, ?_⟩
  rintro ⟨H, P, hs, hH, hP⟩
  have hsplit := splitOn_append_cons
    (not_mem_colon_of_host (fun _ h => h.signedIn.not_mem_sep.2) hH) hP.signedIn.not_mem_sep.2
  have hpieces : (lit "1.2.3.4:+80").splitOn 58 = [lit "1.2.3.4", lit "+80"] := by decide
  rw [← hs, hpieces, List.cons.injEq, List.cons.injEq] at hsplit
  rw [← hsplit.2.1] at hP
  exact absurd (hP.1.2 43 (by decide)) (by decide)

end FwdProxy
