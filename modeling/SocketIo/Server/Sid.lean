/-
# `SocketIo.Server.Sid` — `SidGenerator`: minting socket.io sids and reading them back

`SidGenerator::generate` writes `format!("{}-{}", engine_sid, seq)`, base64-encodes it,
and increments an `AtomicUsize`; `SidGenerator::decode` base64-decodes a sid, checks
the bytes are UTF-8, splits at `-` and keeps the first piece.  Both unwraps and the
index `tokens[0]` panic on failure, so `decode` returns an `Option`, `none` for a panic.
The counter is a `BitVec w`, `w` the width of `usize`, and `fetch_add` wraps.

## What is proved

* `decode_generate_bytes`: decoding a generated sid never panics, and returns the
  engine sid's bytes up to its first `-`.  So `decode` inverts `generate` exactly on
  engine sids without a `-` (`decode_generate`), and on an engine sid such as `a-b`
  returns `a` (`decode_generate_dashed`).
* `sidOf_inj`: the sid determines both the engine sid and the counter value, because
  the counter's digits hold no `-`, so the last `-` of the text is the one `format!`
  wrote.  Consequently `k ≤ 2^w` successive calls of `generate` on one generator return
  pairwise distinct sids, one per call, whatever the engine sids (`generateAll_nodup`).  Calls from
  several tasks are covered too: `fetch_add` is atomic, so any interleaving of them is
  one sequence of calls in the order their increments take effect.
-/
import SocketIo.Base64

namespace SocketIo

/-- `Sid` and `engineio_rs::Sid`: both `Arc<String>`. -/
abbrev Sid := RString

/-- An engine.io session id. -/
abbrev EngineSid := RString

/-- The separator byte `-`. -/
def dash : UInt8 := 45

theorem dash_ascii : dash.toNat < 0x80 := by decide

/-- The text `generate` encodes: `format!("{}-{}", engine_sid, seq)`. -/
def sidText (engineSid : EngineSid) (seq : Nat) : RString :=
  engineSid ++ .ofAscii [dash] (by decide) ++ .decimal seq

@[simp] theorem sidText_bytes (e : EngineSid) (n : Nat) :
    (sidText e n).bytes = e.bytes ++ dash :: decimal n := by
  simp [sidText, RString.decimal, RString.ofAscii]

/-- The sid `generate` returns for an engine sid and a counter value. -/
def sidOf (engineSid : EngineSid) (seq : Nat) : Sid :=
  .ofAscii (Base64.encode (sidText engineSid seq).bytes) (Base64.ascii_encode _)

/-- `SidGenerator`: the counter, an `AtomicUsize` of width `w`. -/
structure SidGenerator (w : Nat) where
  seq : BitVec w

namespace SidGenerator

variable {w : Nat}

/-- `SidGenerator::generate`: the sid for the counter `fetch_add(1)` returns, and the
generator after the increment. -/
def generate (g : SidGenerator w) (engineSid : EngineSid) : Sid × SidGenerator w :=
  (sidOf engineSid g.seq.toNat, ⟨g.seq + 1⟩)

@[simp] theorem seq_generate (g : SidGenerator w) (e : EngineSid) :
    (g.generate e).2.seq.toNat = (g.seq.toNat + 1) % 2 ^ w := by
  simp [generate, BitVec.toNat_add]

/-- `SidGenerator::decode`. -/
def decode (sid : Sid) : Option EngineSid := do
  let sidVec ← Base64.decode sid.bytes
  let esidSid ← RString.fromUtf8 sidVec
  let tokens := esidSid.split dash dash_ascii
  tokens.head?

end SidGenerator

/-! ## Decoding a generated sid -/

theorem takeWhile_append_sep (c : UInt8) (ys : List UInt8) :
    ∀ xs : List UInt8, (xs ++ c :: ys).takeWhile (fun b => !(b == c)) = xs.takeWhile (fun b => !(b == c))
  | [] => by simp
  | x :: xs => by
    by_cases hx : x = c
    · simp [hx]
    · simp [hx, takeWhile_append_sep c ys xs]

theorem decode_sidOf_bytes (e : EngineSid) (n : Nat) :
    (SidGenerator.decode (sidOf e n)).map RString.bytes =
      some (e.bytes.takeWhile fun b => !(b == dash)) := by
  have h := head_split_bytes (sidText e n) dash dash_ascii
  rw [sidText_bytes, takeWhile_append_sep] at h
  have hd : Base64.decode (sidOf e n).bytes = some (sidText e n).bytes := Base64.decode_encode _
  simp only [SidGenerator.decode, Option.bind_eq_bind, hd, Option.some_bind,
    RString.fromUtf8_bytes]
  exact h

/-- Decoding a generated sid never panics; it returns the engine sid up to its first `-`. -/
theorem decode_generate_bytes {w : Nat} (g : SidGenerator w) (e : EngineSid) :
    (SidGenerator.decode (g.generate e).1).map RString.bytes =
      some (e.bytes.takeWhile fun b => !(b == dash)) :=
  decode_sidOf_bytes e _

theorem decode_sidOf_isSome (e : EngineSid) (n : Nat) : (SidGenerator.decode (sidOf e n)).isSome := by
  have h := decode_sidOf_bytes e n
  cases hd : SidGenerator.decode (sidOf e n) <;> simp_all

/-- On an engine sid without a `-`, `decode` inverts `generate`. -/
theorem decode_generate {w : Nat} (g : SidGenerator w) {e : EngineSid} (he : dash ∉ e.bytes) :
    SidGenerator.decode (g.generate e).1 = some e := by
  have hall : e.bytes.takeWhile (fun b => !(b == dash)) = e.bytes :=
    List.takeWhile_eq_self_iff.mpr fun b hb => by
      have : b ≠ dash := fun hbd => he (hbd ▸ hb)
      simpa using this
  have h := decode_generate_bytes g e
  rw [hall] at h
  cases hd : SidGenerator.decode (g.generate e).1 with
  | none => simp [hd] at h
  | some e' => simp only [hd, Option.map_some', Option.some.injEq] at h; rw [RString.ext h]

theorem decode_generate_plain :
    dash ∉ (RString.lit "e" (by decide)).bytes ∧
      SidGenerator.decode ((⟨0⟩ : SidGenerator 64).generate (.lit "e" (by decide))).1 = some (.lit "e" (by decide)) :=
  have he : dash ∉ (RString.lit "e" (by decide)).bytes := by decide
  ⟨he, decode_generate _ he⟩

/-- `generate` on the engine sid `a-b` with the counter at 0, read back by `decode`:
`a`, not `a-b`. -/
theorem decode_generate_dashed :
    SidGenerator.decode ((⟨0⟩ : SidGenerator 64).generate (.lit "a-b" (by decide))).1 =
      some (.lit "a" (by decide)) :=
  Option.map_injective (fun _ _ => RString.ext) (by rw [decode_generate_bytes]; decide)

/-! ## Distinct counters give distinct sids -/

theorem append_sep_inj {c : UInt8} :
    ∀ {xs ys ds es : List UInt8}, c ∉ ds → c ∉ es →
      xs ++ c :: ds = ys ++ c :: es → xs = ys ∧ ds = es
  | [], [], _, _, _, _, h => ⟨rfl, (List.cons.inj h).2⟩
  | [], y :: ys, _, _, hd, _, h => by
    simp only [List.nil_append, List.cons_append, List.cons.injEq] at h
    exact absurd (by rw [h.2]; simp) hd
  | x :: xs, [], _, _, _, he, h => by
    simp only [List.nil_append, List.cons_append, List.cons.injEq] at h
    exact absurd (by rw [← h.2]; simp) he
  | x :: xs, y :: ys, _, _, hd, he, h => by
    simp only [List.cons_append, List.cons.injEq] at h
    obtain ⟨rfl, rfl⟩ := append_sep_inj hd he h.2
    exact ⟨by rw [h.1], rfl⟩

theorem dash_not_mem_decimal (n : Nat) : dash ∉ decimal n := fun h =>
  absurd (digits_decimal n dash h).1 (by decide)

/-- A sid determines the engine sid and the counter value it was generated from. -/
theorem sidOf_inj {e e' : EngineSid} {n n' : Nat} (h : sidOf e n = sidOf e' n') :
    e = e' ∧ n = n' := by
  have hb := Base64.encode_injective (congrArg RString.bytes h)
  simp only [sidText_bytes] at hb
  obtain ⟨he, hn⟩ := append_sep_inj (dash_not_mem_decimal n) (dash_not_mem_decimal n') hb
  exact ⟨RString.ext he, decimal_injective hn⟩

namespace SidGenerator

variable {w : Nat}

/-- Successive calls of `generate` on one generator, one engine sid each, in the order
their `fetch_add`s take effect: the sids returned. -/
def generateAll (g : SidGenerator w) : List EngineSid → List Sid
  | [] => []
  | e :: es => (g.generate e).1 :: generateAll (g.generate e).2 es

theorem mem_generateAll :
    ∀ (g : SidGenerator w) (es : List EngineSid) {s : Sid}, s ∈ g.generateAll es →
      ∃ e i, i < es.length ∧ s = sidOf e ((g.seq.toNat + i) % 2 ^ w)
  | _, [], _, h => absurd h (List.not_mem_nil _)
  | g, e :: es, s, h => by
    rcases List.mem_cons.mp h with rfl | h
    · exact ⟨e, 0, by simp, by simp [generate, Nat.mod_eq_of_lt g.seq.isLt]⟩
    · obtain ⟨e', i, hi, rfl⟩ := mem_generateAll _ es h
      refine ⟨e', i + 1, by simp [hi], ?_⟩
      rw [seq_generate, Nat.mod_add_mod, Nat.add_assoc, Nat.add_comm 1 i]

theorem add_mod_ne_self {a j M : Nat} (ha : a < M) (hj : 0 < j) (hjM : j < M) :
    (a + j) % M ≠ a := by
  rcases Nat.lt_or_ge (a + j) M with h | h
  · rw [Nat.mod_eq_of_lt h]; omega
  · rw [Nat.mod_eq_sub_mod h, Nat.mod_eq_of_lt (by omega)]; omega

@[simp] theorem length_generateAll :
    ∀ (g : SidGenerator w) (es : List EngineSid), (g.generateAll es).length = es.length
  | _, [] => rfl
  | g, e :: es => by simp [generateAll, length_generateAll _ es]

theorem nodup_generateAll :
    ∀ (g : SidGenerator w) (es : List EngineSid), es.length ≤ 2 ^ w → (g.generateAll es).Nodup
  | _, [], _ => List.nodup_nil
  | g, e :: es, hk => by
    refine List.nodup_cons.mpr ⟨fun h => ?_, nodup_generateAll _ es (by simp at hk; omega)⟩
    obtain ⟨e', i, hi, he⟩ := mem_generateAll _ es h
    have hn := (sidOf_inj he).2
    rw [seq_generate, Nat.mod_add_mod, Nat.add_assoc] at hn
    simp only [List.length_cons] at hk
    exact add_mod_ne_self g.seq.isLt (by omega) (by omega) hn.symm

/-- At most `2^w` calls of `generate` on one generator return one sid each, and the sids
are pairwise distinct. -/
theorem generateAll_nodup :
    ∀ (g : SidGenerator w) (es : List EngineSid), es.length ≤ 2 ^ w →
      (g.generateAll es).length = es.length ∧ (g.generateAll es).Nodup :=
  fun g es hk => ⟨length_generateAll g es, nodup_generateAll g es hk⟩

/-- Two calls on a one-bit counter, the most it can serve, return two distinct sids. -/
theorem generateAll_nodup_width_one :
    [RString.lit "e" (by decide), RString.lit "e" (by decide)].length ≤ 2 ^ 1 ∧
      ((⟨0⟩ : SidGenerator 1).generateAll [.lit "e" (by decide), .lit "e" (by decide)]).length =
        [RString.lit "e" (by decide), RString.lit "e" (by decide)].length ∧
      ((⟨0⟩ : SidGenerator 1).generateAll [.lit "e" (by decide), .lit "e" (by decide)]).Nodup :=
  ⟨by decide, generateAll_nodup _ _ (by decide)⟩

end SidGenerator

end SocketIo
