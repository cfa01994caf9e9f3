import FwdProxy.Net
import Mathlib.Data.Nat.Digits

/-!
# `strconv.Atoi`

`validateEndpoint` checks every number it meets with `strconv.Atoi`, so what it
accepts is what `Atoi` parses. On a 64-bit platform `Atoi(s)` is
`ParseInt(s, 10, 0)`: it takes one optional `+` or `-`, then one or more ASCII
digits, with no base prefix and no underscores, and the value must fit an
`int`. Any other input is a non-nil error. So a sign is allowed:
`Atoi("+80")` is `80` and `Atoi("-0")` is `0`, both without error
(`atoi_eq_some`). An endpoint grammar built from digit strings alone leaves the
sign out.

The loop `n = n*10 + int(ch)` computes the usual decimal value
(`digitsValue_eq`). The grammar below is stated with `Nat.ofDigits`, not with
that loop.
-/

namespace FwdProxy

/-! ## Digits -/

/-- An ASCII decimal digit. This is `ParseUint`'s test `'0' <= c && c <= '9'`. -/
def isDigit (b : UInt8) : Bool := 48 ≤ b.toNat && b.toNat ≤ 57

/-- `c - '0'`. -/
def digitVal (b : UInt8) : Nat := b.toNat - 48

/-- The loop `n = n*10 + int(ch)` over the digits, most significant first. -/
def digitsValue (ds : GoString) : Nat := ds.foldl (fun n d => n * 10 + digitVal d) 0

/-- A non-empty run of ASCII decimal digits. -/
def IsDigits (ds : GoString) : Prop := ds ≠ [] ∧ ∀ b ∈ ds, isDigit b = true

/-- The decimal value of a run of digits. `Nat.ofDigits` reads its digits least
significant first. -/
def decimalValue (ds : GoString) : Nat := Nat.ofDigits 10 (ds.map digitVal).reverse

/-- The accumulating loop computes the decimal value. -/
theorem digitsValue_eq (ds : GoString) : digitsValue ds = decimalValue ds := by
  induction ds using List.reverseRecOn with
  | nil => rfl
  | append_singleton ds d ih =>
    simp only [digitsValue, decimalValue, List.foldl_append, List.map_append, List.reverse_append,
      List.map_cons, List.map_nil, List.reverse_cons, List.reverse_nil, List.nil_append,
      List.singleton_append, List.foldl_cons, List.foldl_nil, Nat.ofDigits_cons] at ih ⊢
    omega

/-! ## The sign -/

/-- `ParseInt` picks off one leading sign: whether the number is negative, and the
rest of the string. -/
def splitSign (s : GoString) : Bool × GoString :=
  match s with
  | c :: rest => if c = 43 then (false, rest) else if c = 45 then (true, rest) else (false, c :: rest)
  | [] => (false, [])

/-- `ParseInt`'s range check for a 64-bit `int`: `un >= cutoff` fails a positive
number, `un > cutoff` a negative one, where `cutoff` is `1 << 63`. -/
def fitsInt (neg : Bool) (un : Nat) : Bool := if neg then un ≤ 2 ^ 63 else un < 2 ^ 63

/-- `n = -n` when the sign was `-`. -/
def signed (neg : Bool) (un : Nat) : Int := if neg then -(un : Int) else un

/-- `strconv.Atoi(s)` on a 64-bit platform. `none` is a non-nil error, which
`validateEndpoint` rejects whatever number comes with it. -/
def atoi (s : GoString) : Option Int :=
  match splitSign s with
  | (neg, ds) =>
    if ds ≠ [] ∧ ds.all isDigit ∧ fitsInt neg (digitsValue ds) then some (signed neg (digitsValue ds))
    else none

/-- The signs `Atoi` takes before the digits. -/
def IsSign (sign : GoString) : Prop := sign = [] ∨ sign = lit "+" ∨ sign = lit "-"

/-- The value the grammar gives a signed numeral. -/
def signedValue (sign ds : GoString) : Int :=
  if sign = lit "-" then -(decimalValue ds : Int) else decimalValue ds

theorem lit_plus : lit "+" = [43] := by decide

theorem lit_minus : lit "-" = [45] := by decide

/-- A digit is no sign. -/
theorem isDigit_ne_sign {c : UInt8} (hc : isDigit c = true) : c ≠ 43 ∧ c ≠ 45 := by
  constructor <;> rintro rfl <;> exact absurd hc (by decide)

/-- Every string is a sign, possibly none, and what `splitSign` leaves. -/
theorem splitSign_spec (s : GoString) :
    ∃ sign, IsSign sign ∧ s = sign ++ (splitSign s).2 ∧ (splitSign s).1 = decide (sign = lit "-") := by
  match s with
  | [] => exact ⟨[], .inl rfl, rfl, by decide⟩
  | c :: rest =>
    by_cases h43 : c = 43
    · exact ⟨[43], .inr (.inl lit_plus.symm), by simp [splitSign, h43], by simp [splitSign, h43]; decide⟩
    by_cases h45 : c = 45
    · exact ⟨[45], .inr (.inr lit_minus.symm), by simp [splitSign, h45], by simp [splitSign, h45, lit_minus]⟩
    · exact ⟨[], .inl rfl, by simp [splitSign, h43, h45], by simp [splitSign, h43, h45]; decide⟩

/-- A sign followed by digits is split at the sign. -/
theorem splitSign_append {sign ds : GoString} (hs : IsSign sign) (hd : IsDigits ds) :
    splitSign (sign ++ ds) = (decide (sign = lit "-"), ds) := by
  rcases hs with rfl | rfl | rfl
  · obtain ⟨c, rest, rfl⟩ := List.exists_cons_of_ne_nil hd.1
    have hc := isDigit_ne_sign (hd.2 c (List.mem_cons_self _ _))
    simp [splitSign, hc.1, hc.2]
    decide
  · simp [lit_plus, lit_minus, splitSign]
  · simp [lit_minus, splitSign]

/-- `ParseInt`'s range check is the range of a 64-bit `int`. -/
theorem fitsInt_iff (neg : Bool) (un : Nat) :
    fitsInt neg un = true ↔ -2 ^ 63 ≤ signed neg un ∧ signed neg un < 2 ^ 63 := by
  cases neg <;> simp [fitsInt, signed] <;> omega

theorem signed_decide (sign ds : GoString) :
    signed (decide (sign = lit "-")) (digitsValue ds) = signedValue sign ds := by
  simp only [signed, signedValue, decide_eq_true_eq, digitsValue_eq]

/-- **What `Atoi` parses.** `Atoi(s)` succeeds, with value `v`, exactly when `s`
is an optional `+` or `-` followed by one or more ASCII digits, `v` is their
signed decimal value, and `v` fits a 64-bit `int`. -/
theorem atoi_eq_some (s : GoString) (v : Int) :
    atoi s = some v ↔ ∃ sign ds, IsSign sign ∧ s = sign ++ ds ∧ IsDigits ds ∧
      v = signedValue sign ds ∧ -2 ^ 63 ≤ v ∧ v < 2 ^ 63 := by
  constructor
  · intro h
    obtain ⟨sign, hs, hsplit, hneg⟩ := splitSign_spec s
    unfold atoi at h
    split at h
    rename_i neg ds hsd
    rw [hsd] at hsplit hneg
    split_ifs at h with hc
    obtain ⟨hne, hall, hfit⟩ := hc
    cases h
    dsimp only at hsplit hneg
    subst hneg
    exact ⟨sign, ds, hs, hsplit, ⟨hne, List.all_eq_true.mp hall⟩, signed_decide sign ds,
      (fitsInt_iff _ _).mp hfit⟩
  · rintro ⟨sign, ds, hs, rfl, hd, rfl, hr⟩
    have hfit := (fitsInt_iff (decide (sign = lit "-")) (digitsValue ds)).mpr (by rwa [signed_decide])
    simp only [atoi, splitSign_append hs hd]
    rw [if_pos ⟨hd.1, List.all_eq_true.mpr hd.2, hfit⟩, signed_decide]

example : atoi (lit "+80") = some 80 ∧ atoi (lit "-0") = some 0 ∧ atoi (lit "0x50") = none ∧
    atoi (lit "+") = none ∧ atoi (lit "1_0") = none := by decide

end FwdProxy
