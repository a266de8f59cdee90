/-
# `SocketIo.Base64` — the codec behind socket.io sids

`SidGenerator` calls `base64::encode` and `base64::decode` with the crate's default
configuration: the standard alphabet of RFC 4648 §4 and `=` padding.  The crate is a
dependency, not part of this repository; what is modelled here is that configuration
as the RFC defines it.

* `encode` maps each three-byte group to four characters and pads a final group of one
  or two bytes with `==` or `=`.
* `decode` reads four characters at a time and accepts exactly the canonical padded
  encodings: a character outside the alphabet, a misplaced `=`, a length that is not a
  multiple of four, or non-zero bits past the last byte all fail, as the crate's decoder
  fails on them.  Where the crate is more lenient than this (it does not insist on the
  padding) no modelled call reaches: every input of `decode` here is an output of
  `encode`.

`decode_encode` is the round trip, by induction over the groups `encode` recurses on;
`encode_injective` follows.  `ascii_encode` says the output is ASCII, so it is a Rust
`String` as it stands.
-/
import SocketIo.Text

namespace SocketIo.Base64

/-- The character for a sextet, `A`–`Z`, `a`–`z`, `0`–`9`, `+`, `/`. -/
def alphabet (i : Nat) : UInt8 :=
  UInt8.ofNat (if i < 26 then 65 + i else if i < 52 then 71 + i
    else if i < 62 then i - 4 else if i = 62 then 43 else 47)

/-- The sextet a character stands for, if it is in the alphabet. -/
def sextet (c : UInt8) : Option Nat :=
  let v := c.toNat
  if 65 ≤ v ∧ v ≤ 90 then some (v - 65)
  else if 97 ≤ v ∧ v ≤ 122 then some (v - 71)
  else if 48 ≤ v ∧ v ≤ 57 then some (v + 4)
  else if v = 43 then some 62
  else if v = 47 then some 63
  else none

/-- The padding character `=`. -/
def pad : UInt8 := 61

/-- `base64::encode`. -/
def encode : List UInt8 → List UInt8
  | [] => []
  | [a] => [alphabet (a.toNat / 4), alphabet (a.toNat % 4 * 16), pad, pad]
  | [a, b] =>
    [alphabet (a.toNat / 4), alphabet (a.toNat % 4 * 16 + b.toNat / 16),
      alphabet (b.toNat % 16 * 4), pad]
  | a :: b :: c :: rest =>
    alphabet (a.toNat / 4) :: alphabet (a.toNat % 4 * 16 + b.toNat / 16) ::
      alphabet (b.toNat % 16 * 4 + c.toNat / 64) :: alphabet (c.toNat % 64) :: encode rest

/-- `base64::decode`, `none` where the crate returns an error. -/
def decode : List UInt8 → Option (List UInt8)
  | [] => some []
  | c₀ :: c₁ :: c₂ :: c₃ :: rest => do
    let a ← sextet c₀
    let b ← sextet c₁
    if c₂ = pad then
      if c₃ = pad ∧ rest = [] ∧ b % 16 = 0 then some [UInt8.ofNat (a * 4 + b / 16)]
      else none
    else
      let c ← sextet c₂
      if c₃ = pad then
        if rest = [] ∧ c % 4 = 0 then
          some [UInt8.ofNat (a * 4 + b / 16), UInt8.ofNat (b % 16 * 16 + c / 4)]
        else none
      else
        let d ← sextet c₃
        let tail ← decode rest
        some (UInt8.ofNat (a * 4 + b / 16) :: UInt8.ofNat (b % 16 * 16 + c / 4) ::
          UInt8.ofNat (c % 4 * 64 + d) :: tail)
  | _ => none

/-! ## The alphabet -/

theorem sextet_alphabet : ∀ i, i < 64 → sextet (alphabet i) = some i := by decide

theorem alphabet_ne_pad : ∀ i, i < 64 → alphabet i ≠ pad := by decide

theorem alphabet_ascii (i : Nat) : (alphabet i).toNat < 0x80 := by
  unfold alphabet
  split_ifs <;> rw [UInt8.toNat_ofNat_of_lt (by unfold UInt8.size; omega)] <;> omega

theorem pad_ascii : pad.toNat < 0x80 := by decide

/-- `+`, the least character of the alphabet, bounds every character from below. -/
theorem alphabet_ge (i : Nat) : 43 ≤ (alphabet i).toNat := by
  unfold alphabet
  split_ifs <;> rw [UInt8.toNat_ofNat_of_lt (by unfold UInt8.size; omega)] <;> omega

/-- Every character of an encoding is a character of the alphabet or the padding. -/
theorem mem_encode : ∀ {bs : List UInt8} {b : UInt8}, b ∈ encode bs → b = pad ∨ ∃ i, b = alphabet i
  | [], _, h => absurd h (List.not_mem_nil _)
  | [_], _, h | [_, _], _, h => by
    simp only [encode, List.mem_cons, List.not_mem_nil, or_false] at h
    rcases h with rfl | rfl | rfl | rfl <;> simp
  | _ :: _ :: _ :: rest, _, h => by
    simp only [encode, List.mem_cons] at h
    rcases h with rfl | rfl | rfl | rfl | h
    any_goals exact .inr ⟨_, rfl⟩
    exact mem_encode h

/-- No byte of an encoding lies below `+`: no control byte, such as a record separator,
appears in one. -/
theorem ge_of_mem_encode {bs : List UInt8} {b : UInt8} (h : b ∈ encode bs) : 43 ≤ b.toNat := by
  rcases mem_encode h with rfl | ⟨i, rfl⟩
  · decide
  · exact alphabet_ge i

theorem ascii_encode (bs : List UInt8) : Ascii (encode bs) := fun b hb => by
  rcases mem_encode hb with rfl | ⟨i, rfl⟩
  · exact pad_ascii
  · exact alphabet_ascii i

/-! ## The round trip -/

theorem toNat_lt (b : UInt8) : b.toNat < 256 := b.toNat_lt_size

/-- A byte rebuilt from its value. -/
theorem ofNat_eq {n : Nat} {b : UInt8} (h : n = b.toNat) : UInt8.ofNat n = b :=
  UInt8.toNat.inj (by rw [UInt8.toNat_ofNat_of_lt (by have := toNat_lt b; unfold UInt8.size; omega), h])

theorem decode_encode : ∀ bs, decode (encode bs) = some bs
  | [] => rfl
  | [a] => by
    have := toNat_lt a
    simp [encode, decode, sextet_alphabet,
      show a.toNat / 4 < 64 by omega, show a.toNat % 4 * 16 < 64 by omega,
      show a.toNat % 4 * 16 % 16 = 0 by omega]
    exact ofNat_eq (by omega)
  | [a, b] => by
    have := toNat_lt a; have := toNat_lt b
    simp [encode, decode, sextet_alphabet, alphabet_ne_pad,
      show a.toNat / 4 < 64 by omega, show a.toNat % 4 * 16 + b.toNat / 16 < 64 by omega,
      show b.toNat % 16 * 4 < 64 by omega, show b.toNat % 16 * 4 % 4 = 0 by omega]
    exact ⟨ofNat_eq (by omega), ofNat_eq (by omega)⟩
  | a :: b :: c :: rest => by
    have := toNat_lt a; have := toNat_lt b; have := toNat_lt c
    simp [encode, decode, sextet_alphabet, alphabet_ne_pad, decode_encode rest,
      show a.toNat / 4 < 64 by omega, show a.toNat % 4 * 16 + b.toNat / 16 < 64 by omega,
      show b.toNat % 16 * 4 + c.toNat / 64 < 64 by omega, show c.toNat % 64 < 64 by omega]
    exact ⟨ofNat_eq (by omega), ofNat_eq (by omega), ofNat_eq (by omega)⟩

theorem encode_injective : Function.Injective encode := fun x y h =>
  Option.some.inj ((decode_encode x).symm.trans (h ▸ decode_encode y))

end SocketIo.Base64
