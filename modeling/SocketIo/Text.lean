/-
# `SocketIo.Text` — Rust strings as validated UTF-8 bytes

Every identifier the server handles (engine sids, socket.io sids, namespaces, room
names) is an `Arc<String>` or a `&str`, and `SidGenerator` moves between the two views
of a Rust string: `format!` builds one, `as_bytes` forgets the invariant,
`str::from_utf8` checks it again, `split('-')` cuts it.  So a string here is what Rust
says it is: a byte sequence that is well-formed UTF-8, the proof carried as a field of
`RString`.

## The validator

`Utf8Valid` is the automaton of Unicode Table 3-7 (well-formed UTF-8 byte sequences),
the check `core::str::from_utf8` performs: a state is a character boundary or the
number of continuation bytes still owed, with the range of the next one.  It is a left
fold, so validity of a concatenation is validity of the pieces, and an ASCII byte can
only be read at a boundary.  The last fact is why `split` on an ASCII separator yields
valid pieces (`RString.split`) and why the first piece is the longest prefix without
the separator (`head_split_bytes`).

## Decimal rendering

`decimal n` is `format!("{}", n)` for an unsigned integer, Lean's `Nat.toDigits 10`
read as ASCII bytes.  `decimalValue_decimal` reads it back, so the rendering is
injective, and every byte is a digit, so it never holds a `-`.
-/
import Mathlib.Data.List.Basic
import Mathlib.Data.Nat.Digits

namespace SocketIo

/-! ## The UTF-8 automaton -/

/-- The range a continuation byte must fall in.  After `E0`, `ED`, `F0` and `F4` the
first continuation byte is narrowed, which rules out overlong forms, surrogates and
code points past `U+10FFFF`. -/
inductive Cont where
  | any
  | fromA0
  | upTo9F
  | from90
  | upTo8F
deriving DecidableEq

/-- Lower end of a continuation range. -/
def Cont.lo : Cont → Nat
  | .any => 0x80 | .fromA0 => 0xA0 | .upTo9F => 0x80 | .from90 => 0x90 | .upTo8F => 0x80

/-- Upper end of a continuation range. -/
def Cont.hi : Cont → Nat
  | .any => 0xBF | .fromA0 => 0xBF | .upTo9F => 0x9F | .from90 => 0xBF | .upTo8F => 0x8F

theorem Cont.lo_ge (r : Cont) : 0x80 ≤ r.lo := by cases r <;> decide

/-- Where the validator stands: at a character boundary, or owing `n + 1` continuation
bytes, the next of which lies in `r`. -/
inductive Utf8State where
  | boundary
  | owing (n : Nat) (r : Cont)
deriving DecidableEq

/-- One byte of `from_utf8`'s validation. -/
def utf8Step : Utf8State → UInt8 → Option Utf8State
  | .boundary, b =>
    let v := b.toNat
    if v < 0x80 then some .boundary
    else if 0xC2 ≤ v ∧ v ≤ 0xDF then some (.owing 0 .any)
    else if v = 0xE0 then some (.owing 1 .fromA0)
    else if v = 0xED then some (.owing 1 .upTo9F)
    else if 0xE1 ≤ v ∧ v ≤ 0xEF then some (.owing 1 .any)
    else if v = 0xF0 then some (.owing 2 .from90)
    else if 0xF1 ≤ v ∧ v ≤ 0xF3 then some (.owing 2 .any)
    else if v = 0xF4 then some (.owing 2 .upTo8F)
    else none
  | .owing n r, b =>
    if r.lo ≤ b.toNat ∧ b.toNat ≤ r.hi then
      some (match n with | 0 => .boundary | n + 1 => .owing n .any)
    else none

/-- The validator run over a byte sequence from a given state. -/
def utf8Run (st : Utf8State) (bs : List UInt8) : Option Utf8State :=
  bs.foldlM utf8Step st

/-- `core::str::from_utf8` accepts exactly these byte sequences. -/
def Utf8Valid (bs : List UInt8) : Prop :=
  utf8Run .boundary bs = some .boundary

instance : DecidablePred Utf8Valid := fun bs =>
  inferInstanceAs (Decidable (utf8Run .boundary bs = some .boundary))

/-- An ASCII byte is read only at a boundary, and leaves the validator there. -/
theorem utf8Step_ascii {st st' : Utf8State} {b : UInt8} (hb : b.toNat < 0x80)
    (h : utf8Step st b = some st') : st = .boundary ∧ st' = .boundary := by
  cases st with
  | boundary => simp_all [utf8Step]
  | owing n r =>
    have := r.lo_ge
    simp only [utf8Step] at h
    split at h <;> first | omega | cases h

@[simp] theorem utf8Run_nil (st : Utf8State) : utf8Run st [] = some st := rfl

theorem utf8Run_append (st : Utf8State) (xs ys : List UInt8) :
    utf8Run st (xs ++ ys) = (utf8Run st xs).bind (utf8Run · ys) := by
  simp only [utf8Run, List.foldlM_append]; rfl

theorem utf8Run_cons (st : Utf8State) (b : UInt8) (ys : List UInt8) :
    utf8Run st (b :: ys) = (utf8Step st b).bind (utf8Run · ys) := by
  simp only [utf8Run, List.foldlM_cons]; rfl

/-! ## Validity of pieces and concatenations -/

/-- A byte sequence all of whose bytes are ASCII. -/
def Ascii (bs : List UInt8) : Prop := ∀ b ∈ bs, b.toNat < 0x80

instance : DecidablePred Ascii := fun bs => inferInstanceAs (Decidable (∀ b ∈ bs, b.toNat < 0x80))

theorem Utf8Valid.of_ascii : ∀ {bs : List UInt8}, Ascii bs → Utf8Valid bs
  | [], _ => rfl
  | b :: bs, h => by
    have hb := h b (List.mem_cons_self b bs)
    have ih : Utf8Valid bs := Utf8Valid.of_ascii fun x hx => h x (List.mem_cons_of_mem b hx)
    simp only [Utf8Valid, utf8Run_cons, utf8Step, hb, if_true, Option.some_bind]
    exact ih

theorem Utf8Valid.append {xs ys : List UInt8} (hx : Utf8Valid xs) (hy : Utf8Valid ys) :
    Utf8Valid (xs ++ ys) := by
  unfold Utf8Valid at *
  rw [utf8Run_append, hx]
  exact hy

/-- Cutting a valid sequence at an ASCII byte leaves two valid sequences. -/
theorem Utf8Valid.split_ascii {xs ys : List UInt8} {c : UInt8} (hc : c.toNat < 0x80)
    (h : Utf8Valid (xs ++ c :: ys)) : Utf8Valid xs ∧ Utf8Valid ys := by
  simp only [Utf8Valid, utf8Run_append, utf8Run_cons] at h
  obtain ⟨s, hs, h⟩ := Option.bind_eq_some.mp h
  obtain ⟨s', hs', h⟩ := Option.bind_eq_some.mp h
  obtain ⟨rfl, rfl⟩ := utf8Step_ascii hc hs'
  exact ⟨hs, h⟩

/-! ## Strings -/

/-- A Rust `String` (or `&str`): its bytes, which the type keeps well-formed UTF-8. -/
@[ext] structure RString where
  bytes : List UInt8
  valid : Utf8Valid bytes
deriving DecidableEq

namespace RString

/-- A string of ASCII bytes. -/
def ofAscii (bs : List UInt8) (h : Ascii bs) : RString := ⟨bs, .of_ascii h⟩

/-- The bytes of a Lean string literal whose characters are ASCII. -/
def asciiBytes (s : String) : List UInt8 := s.toList.map fun c => UInt8.ofNat c.toNat

/-- A Rust string literal such as `"/admin"`, written as the Lean literal. -/
def lit (s : String) (h : Ascii (asciiBytes s)) : RString := ofAscii _ h

/-- Concatenation, as `format!` lays its pieces side by side. -/
def append (s t : RString) : RString := ⟨s.bytes ++ t.bytes, s.valid.append t.valid⟩

instance : Append RString := ⟨append⟩

@[simp] theorem bytes_append (s t : RString) : (s ++ t).bytes = s.bytes ++ t.bytes := rfl

/-- `str::from_utf8`: the bytes as a string, when they are well-formed. -/
def fromUtf8 (bs : List UInt8) : Option RString :=
  if h : Utf8Valid bs then some ⟨bs, h⟩ else none

theorem fromUtf8_bytes (s : RString) : fromUtf8 s.bytes = some s := by
  simp [fromUtf8, s.valid]

end RString

/-! ## `str::split` on an ASCII separator -/

theorem valid_of_mem_splitOnP_go {c : UInt8} (hc : c.toNat < 0x80) :
    ∀ (xs acc : List UInt8) {t : List UInt8}, t ∈ List.splitOnP.go (· == c) xs acc →
      Utf8Valid (acc.reverse ++ xs) → Utf8Valid t
  | [], acc, t, ht, hv => by
    simp only [List.splitOnP.go, List.mem_singleton] at ht
    simpa [ht] using hv
  | a :: xs, acc, t, ht, hv => by
    by_cases ha : a = c
    · subst ha
      simp only [List.splitOnP.go, beq_self_eq_true, if_true, List.mem_cons] at ht
      obtain ⟨h₁, h₂⟩ := hv.split_ascii hc
      rcases ht with rfl | ht
      · exact h₁
      · exact valid_of_mem_splitOnP_go hc xs [] ht (by simpa using h₂)
    · simp only [List.splitOnP.go, beq_iff_eq, ha, if_false] at ht
      exact valid_of_mem_splitOnP_go hc xs (a :: acc) ht (by simpa using hv)

/-- `s.split(c).collect::<Vec<&str>>()` for an ASCII `c`: the pieces between
separators, in order, each a string in its own right. -/
def RString.split (s : RString) (c : UInt8) (hc : c.toNat < 0x80) : List RString :=
  (List.splitOn c s.bytes).attach.map fun t =>
    ⟨t.1, valid_of_mem_splitOnP_go hc s.bytes [] t.2 s.valid⟩

theorem head_splitOnP_go (c : UInt8) :
    ∀ (xs acc : List UInt8),
      (List.splitOnP.go (· == c) xs acc).head? =
        some (acc.reverse ++ xs.takeWhile (fun b => !(b == c)))
  | [], acc => by simp [List.splitOnP.go]
  | a :: xs, acc => by
    by_cases ha : a = c
    · subst ha; simp [List.splitOnP.go]
    · simp [List.splitOnP.go, ha, head_splitOnP_go c xs (a :: acc)]

/-- The first piece of a split is the longest prefix free of the separator. -/
theorem head_split_bytes (s : RString) (c : UInt8) (hc : c.toNat < 0x80) :
    ((s.split c hc).head?).map RString.bytes = some (s.bytes.takeWhile (fun b => !(b == c))) := by
  have h := head_splitOnP_go c s.bytes []
  simp only [List.reverse_nil, List.nil_append] at h
  simp only [RString.split, List.splitOn, List.splitOnP, List.head?_map, List.head?_attach, h]
  rfl

/-! ## Decimal rendering -/

theorem digitChar_toNat : ∀ d, d < 10 → (Nat.digitChar d).toNat = 48 + d := by decide

/-- The digits `Nat.toDigitsCore` pushes in front of its accumulator. -/
theorem toDigitsCore_eq : ∀ (fuel n : Nat) (ds : List Char), n < fuel →
    Nat.toDigitsCore 10 fuel n ds = Nat.toDigitsCore 10 fuel n [] ++ ds
  | 0, _, _, h => absurd h (Nat.not_lt_zero _)
  | fuel + 1, n, ds, h => by
    simp only [Nat.toDigitsCore]
    split
    · rfl
    · rw [toDigitsCore_eq fuel (n / 10) _ (by omega),
        toDigitsCore_eq fuel (n / 10) [_] (by omega)]
      simp

/-- `format!("{}", n)` for an unsigned integer: its decimal digits as ASCII bytes. -/
def decimal (n : Nat) : List UInt8 :=
  (Nat.toDigits 10 n).map fun ch => UInt8.ofNat ch.toNat

/-- Reading decimal digits back, most significant first. -/
def decimalValue (bs : List UInt8) : Nat :=
  bs.foldl (fun acc b => acc * 10 + (b.toNat - 48)) 0

/-- Every byte of a rendering is a digit `0`–`9`. -/
def Digits (bs : List UInt8) : Prop := ∀ b ∈ bs, 48 ≤ b.toNat ∧ b.toNat ≤ 57

theorem digits_toDigitsCore : ∀ (fuel n : Nat), n < fuel →
    Digits ((Nat.toDigitsCore 10 fuel n []).map fun ch => UInt8.ofNat ch.toNat) ∧
      decimalValue ((Nat.toDigitsCore 10 fuel n []).map fun ch => UInt8.ofNat ch.toNat) = n
  | 0, _, h => absurd h (Nat.not_lt_zero _)
  | fuel + 1, n, h => by
    have hd := digitChar_toNat (n % 10) (Nat.mod_lt _ (by omega))
    have hb : (UInt8.ofNat (Nat.digitChar (n % 10)).toNat).toNat = 48 + n % 10 := by
      rw [UInt8.toNat_ofNat_of_lt (by unfold UInt8.size; omega), hd]
    simp only [Nat.toDigitsCore]
    split
    · next h0 =>
      refine ⟨by simp [Digits, hb]; omega, ?_⟩
      simp only [List.map_cons, List.map_nil, decimalValue, List.foldl, hb]
      omega
    · next h0 =>
      obtain ⟨ih₁, ih₂⟩ := digits_toDigitsCore fuel (n / 10) (by omega)
      rw [toDigitsCore_eq fuel (n / 10) _ (by omega), List.map_append]
      refine ⟨fun b hb' => ?_, ?_⟩
      · rcases List.mem_append.mp hb' with hb' | hb'
        · exact ih₁ b hb'
        · simp only [List.map_cons, List.map_nil, List.mem_singleton] at hb'
          subst hb'; rw [hb]; omega
      · simp only [decimalValue, List.foldl_append] at ih₂ ⊢
        simp only [List.map_cons, List.map_nil, List.foldl, ih₂, hb]
        omega

theorem digits_decimal (n : Nat) : Digits (decimal n) :=
  (digits_toDigitsCore (n + 1) n (by omega)).1

theorem decimalValue_decimal (n : Nat) : decimalValue (decimal n) = n :=
  (digits_toDigitsCore (n + 1) n (by omega)).2

theorem decimal_injective : Function.Injective decimal := fun m n h => by
  rw [← decimalValue_decimal m, h, decimalValue_decimal]

theorem Digits.ascii {bs : List UInt8} (h : Digits bs) : Ascii bs :=
  fun b hb => by have := h b hb; omega

/-- The rendering as a string. -/
def RString.decimal (n : Nat) : RString := .ofAscii (SocketIo.decimal n) (digits_decimal n).ascii

end SocketIo
