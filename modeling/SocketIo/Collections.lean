/-
# `SocketIo.Collections` — `HashMap` and `HashSet` as lists without repeats

The server's tables are `std::collections` maps and sets.  A set is modelled by its
elements and a map by its entries, each list carrying the fact that nothing in it
repeats (a key, for a map), so that iterating a set visits every element once — the
property `emit_to`'s "one emit per sid" rests on.

The list order is the iteration order.  A Rust `HashMap` has no specified order, so
only two modelled loops can see it: `polling_transport_info`, which returns the first
matching key, and a loop that panics part-way.  Every other result below is the same
for every order, and the lemmas say so by speaking of membership and lookup only.

`insert` replaces a present key's value in place and appends a new key; `get?` is
`get`/`get_mut`; `mapValues` is a loop over `values_mut`.  Each operation has its lookup
lemma (`get?_insert`, `mem_insert`, …) here, and later modules never unfold the
operations themselves.
-/
import Mathlib.Data.List.Nodup

namespace SocketIo

/-! ## Sets -/

/-- `HashSet<α>`: its elements, each once, in iteration order. -/
structure HashSet (α : Type) where
  elems : List α
  nodup : elems.Nodup

namespace HashSet

variable {α : Type}

instance : Membership α (HashSet α) := ⟨fun s a => a ∈ s.elems⟩

@[simp] theorem mem_elems {a : α} {s : HashSet α} : a ∈ s.elems ↔ a ∈ s := Iff.rfl

/-- `HashSet::new()`. -/
def empty : HashSet α := ⟨[], List.nodup_nil⟩

@[simp] theorem not_mem_empty (a : α) : ¬ a ∈ (empty : HashSet α) := List.not_mem_nil a

variable [DecidableEq α]

instance : DecidableEq (HashSet α) := fun s t =>
  decidable_of_iff (s.elems = t.elems) ⟨fun h => by cases s; cases t; cases h; rfl, by rintro rfl; rfl⟩

instance (a : α) (s : HashSet α) : Decidable (a ∈ s) := inferInstanceAs (Decidable (a ∈ s.elems))

/-- `HashSet::insert`. -/
def insert (s : HashSet α) (a : α) : HashSet α :=
  if h : a ∈ s.elems then s
  else ⟨s.elems ++ [a], s.nodup.append (List.nodup_singleton a) (by simpa using h)⟩

/-- `HashSet::remove`. -/
def remove (s : HashSet α) (a : α) : HashSet α :=
  ⟨s.elems.filter (· ≠ a), s.nodup.filter _⟩

/-- `HashSet::retain`. -/
def retain (s : HashSet α) (p : α → Bool) : HashSet α :=
  ⟨s.elems.filter p, s.nodup.filter _⟩

/-- A set of one element. -/
def singleton (a : α) : HashSet α := empty.insert a

@[simp] theorem mem_insert {a b : α} {s : HashSet α} : a ∈ s.insert b ↔ a = b ∨ a ∈ s := by
  unfold insert
  split
  · next h => exact ⟨Or.inr, fun h' => h'.elim (fun e => e ▸ h) id⟩
  · show a ∈ s.elems ++ [b] ↔ _
    simp [or_comm]

@[simp] theorem mem_remove {a b : α} {s : HashSet α} : a ∈ s.remove b ↔ a ∈ s ∧ a ≠ b := by
  show a ∈ s.elems.filter _ ↔ _
  simp

omit [DecidableEq α] in
@[simp] theorem mem_retain {a : α} {p : α → Bool} {s : HashSet α} :
    a ∈ s.retain p ↔ a ∈ s ∧ p a = true := by
  show a ∈ s.elems.filter _ ↔ _
  simp

@[simp] theorem mem_singleton {a b : α} : a ∈ singleton b ↔ a = b := by simp [singleton]

end HashSet

/-! ## Maps -/

/-- `HashMap<κ, ν>`: its entries, no key twice, in iteration order. -/
structure HashMap (κ ν : Type) where
  entries : List (κ × ν)
  nodupKeys : (entries.map Prod.fst).Nodup

namespace HashMap

variable {κ ν ν' : Type} [DecidableEq κ]

/-- `HashMap::keys`, in iteration order. -/
def keys (m : HashMap κ ν) : List κ := m.entries.map Prod.fst

/-- `HashMap::get`: the value under a key. -/
def get? (m : HashMap κ ν) (k : κ) : Option ν := (m.entries.find? (·.1 = k)).map Prod.snd

/-- `HashMap::new()`. -/
def empty : HashMap κ ν := ⟨[], List.nodup_nil⟩

theorem keys_replace (l : List (κ × ν)) (k : κ) (v : ν) :
    (l.map fun p => if p.1 = k then (k, v) else p).map Prod.fst = l.map Prod.fst := by
  induction l with
  | nil => rfl
  | cons p l ih => by_cases hp : p.1 = k <;> simp [hp, ih]

/-- `HashMap::insert`: replace the value of a present key in place, or append. -/
def insert (m : HashMap κ ν) (k : κ) (v : ν) : HashMap κ ν :=
  if h : k ∈ m.keys then
    ⟨m.entries.map fun p => if p.1 = k then (k, v) else p, by rw [keys_replace]; exact m.nodupKeys⟩
  else
    ⟨m.entries ++ [(k, v)], by
      rw [List.map_append]
      exact m.nodupKeys.append (List.nodup_singleton k) (List.disjoint_singleton.mpr h)⟩

/-- `HashMap::remove`. -/
def remove (m : HashMap κ ν) (k : κ) : HashMap κ ν :=
  ⟨m.entries.filter (·.1 ≠ k), m.nodupKeys.sublist ((List.filter_sublist _).map _)⟩

omit [DecidableEq κ] in
theorem keys_mapSnd (l : List (κ × ν)) (f : ν → ν') :
    (l.map fun p => (p.1, f p.2)).map Prod.fst = l.map Prod.fst := by
  simp [Function.comp_def]

/-- `for v in m.values_mut() { *v = f(v) }`. -/
def mapValues (f : ν → ν') (m : HashMap κ ν) : HashMap κ ν' :=
  ⟨m.entries.map fun p => (p.1, f p.2), by rw [keys_mapSnd]; exact m.nodupKeys⟩

/-- Every value of the map. -/
def values (m : HashMap κ ν) : List ν := m.entries.map Prod.snd

/-- A map of one entry. -/
def singleton (k : κ) (v : ν) : HashMap κ ν := empty.insert k v

theorem find?_eq_some {l : List (κ × ν)} (hl : (l.map Prod.fst).Nodup) {k : κ} {v : ν} :
    (l.find? (·.1 = k)).map Prod.snd = some v ↔ (k, v) ∈ l := by
  induction l with
  | nil => simp
  | cons p l ih =>
    obtain ⟨hp, hl⟩ := List.nodup_cons.mp hl
    by_cases h : p.1 = k
    · subst h
      have : ∀ v', (p.1, v') ∉ l := fun v' h' => hp (List.mem_map.mpr ⟨_, h', rfl⟩)
      simp only [List.find?_cons, decide_True, Option.map_some', Option.some.injEq, List.mem_cons]
      constructor
      · rintro rfl; exact Or.inl rfl
      · rintro (h | h)
        · exact (congrArg Prod.snd h).symm
        · exact absurd h (this v)
    · simp only [List.find?_cons, h, decide_False, List.mem_cons, ih hl]
      exact ⟨Or.inr, fun h' => h'.elim (fun e => absurd (congrArg Prod.fst e).symm h) id⟩

theorem get?_eq_some {m : HashMap κ ν} {k : κ} {v : ν} :
    m.get? k = some v ↔ (k, v) ∈ m.entries :=
  find?_eq_some m.nodupKeys

theorem get?_eq_none {m : HashMap κ ν} {k : κ} : m.get? k = none ↔ k ∉ m.keys := by
  simp only [get?, keys, Option.map_eq_none', List.find?_eq_none, decide_eq_true_eq, List.mem_map]
  exact ⟨fun h ⟨p, hp, hk⟩ => h p hp hk, fun h p hp hk => h ⟨p, hp, hk⟩⟩

theorem mem_keys {m : HashMap κ ν} {k : κ} : k ∈ m.keys ↔ ∃ v, m.get? k = some v := by
  simp [keys, get?_eq_some]

/-- Two maps with the same entries under every key look the same to `get?`. -/
theorem get?_ext {m : HashMap κ ν} {m' : HashMap κ ν'} {k : κ} {f : ν → ν'}
    (h : ∀ v', (k, v') ∈ m'.entries ↔ ∃ v, (k, v) ∈ m.entries ∧ f v = v') :
    m'.get? k = (m.get? k).map f :=
  Option.ext fun v' => by simp only [Option.mem_def, get?_eq_some, h, Option.map_eq_some']

@[simp] theorem get?_empty (k : κ) : (empty : HashMap κ ν).get? k = none := rfl

theorem mem_insert_entries {m : HashMap κ ν} {k k' : κ} {v v' : ν} :
    (k', v') ∈ (m.insert k v).entries ↔ (k' = k ∧ v' = v) ∨ (k' ≠ k ∧ (k', v') ∈ m.entries) := by
  unfold insert
  split
  · next h =>
    simp only [List.mem_map]
    constructor
    · rintro ⟨p, hp, he⟩
      split at he
      · cases he; exact .inl ⟨rfl, rfl⟩
      · next hpk => subst he; exact .inr ⟨hpk, hp⟩
    · rintro (⟨rfl, rfl⟩ | ⟨hne, hm⟩)
      · obtain ⟨v'', hv''⟩ := mem_keys.mp h
        exact ⟨(k', v''), get?_eq_some.mp hv'', by simp⟩
      · exact ⟨(k', v'), hm, by simp [hne]⟩
  · next h =>
    simp only [List.mem_append, List.mem_singleton, Prod.mk.injEq]
    constructor
    · rintro (hm | h')
      · exact .inr ⟨fun e => h (e ▸ List.mem_map.mpr ⟨_, hm, rfl⟩), hm⟩
      · exact .inl h'
    · rintro (h' | ⟨-, hm⟩)
      · exact .inr h'
      · exact .inl hm

@[simp] theorem get?_insert (m : HashMap κ ν) (k k' : κ) (v : ν) :
    (m.insert k v).get? k' = if k' = k then some v else m.get? k' := by
  split
  · next h => exact get?_eq_some.mpr (mem_insert_entries.mpr (.inl ⟨h, rfl⟩))
  · next h =>
    have e : (m.insert k v).get? k' = (m.get? k').map id :=
      get?_ext fun v' => by simp [mem_insert_entries, h]
    simpa using e

@[simp] theorem get?_remove (m : HashMap κ ν) (k k' : κ) :
    (m.remove k).get? k' = if k' = k then none else m.get? k' := by
  split
  · next h => exact get?_eq_none.mpr (by simp [remove, keys, h])
  · next h =>
    have e : (m.remove k).get? k' = (m.get? k').map id := get?_ext fun v' => by simp [remove, h]
    simpa using e

@[simp] theorem get?_mapValues (f : ν → ν') (m : HashMap κ ν) (k : κ) :
    (m.mapValues f).get? k = (m.get? k).map f :=
  get?_ext fun v' => by
    simp only [mapValues, List.mem_map, Prod.mk.injEq]
    exact ⟨fun ⟨⟨a, b⟩, hm, ha, hb⟩ => ⟨b, ha ▸ hm, hb⟩, fun ⟨v, hm, hv⟩ => ⟨(k, v), hm, rfl, hv⟩⟩

@[simp] theorem get?_singleton (k k' : κ) (v : ν) :
    (singleton k v).get? k' = if k' = k then some v else none := by simp [singleton]

theorem mem_keys_insert {m : HashMap κ ν} {k k' : κ} {v : ν} :
    k' ∈ (m.insert k v).keys ↔ k' = k ∨ k' ∈ m.keys := by
  simp only [mem_keys, get?_insert]
  split <;> simp_all

theorem mem_keys_remove {m : HashMap κ ν} {k k' : κ} :
    k' ∈ (m.remove k).keys ↔ k' ≠ k ∧ k' ∈ m.keys := by
  simp only [mem_keys, get?_remove]
  split <;> simp_all

theorem mem_values {m : HashMap κ ν} {v : ν} : v ∈ m.values ↔ ∃ k, m.get? k = some v := by
  simp [values, get?_eq_some]

end HashMap

end SocketIo
