/-!
# Entries in order

Key-value pairs kept in the order in which their keys were first written.  Writing a key that is
there already replaces its value in place.  `OrderedMap` adds the guarantee that no key occurs
twice.
-/

set_option autoImplicit false

namespace FieldRules

/-- Key-value pairs, in order. -/
abbrev Entries (α : Type) : Type := List (String × α)

namespace Entries

variable {α β : Type}

/-- The keys, in order. -/
def keys (m : Entries α) : List String :=
  m.map Prod.fst

/-- The values, in order. -/
def values (m : Entries α) : List α :=
  m.map Prod.snd

/-- The value of the first pair with the given key. -/
def get? (key : String) : Entries α → Option α
  | [] => none
  | (k, v) :: rest => if k = key then some v else get? key rest

/-- Whether some pair has the given key. -/
def hasKey (key : String) (m : Entries α) : Bool :=
  (get? key m).isSome

/-- Gives the key a new value: in place if it is there, else at the end. -/
def insert (key : String) (value : α) : Entries α → Entries α
  | [] => [(key, value)]
  | (k, v) :: rest => if k = key then (k, value) :: rest else (k, v) :: insert key value rest

/-- Writes pairs one after the other. -/
def insertAll (m : Entries α) (pairs : List (String × α)) : Entries α :=
  pairs.foldl (fun m p => insert p.1 p.2 m) m

/-- The entries that writing the pairs one after the other leaves. -/
def ofPairs (pairs : List (String × α)) : Entries α :=
  insertAll [] pairs

/-- Adds the pairs whose keys are not there yet. -/
def fill (m : Entries α) (pairs : List (String × α)) : Entries α :=
  pairs.foldl (fun m p => if hasKey p.1 m then m else insert p.1 p.2 m) m

/-- The elements of a list under their positions. -/
def ofList (key : Nat → String) (items : List α) : Entries α :=
  items.zipIdx.map fun p => (key p.2, p.1)

/-- Changes each value, keys and order staying as they are. -/
def mapValues (f : String → α → β) (m : Entries α) : Entries β :=
  m.map fun p => (p.1, f p.1 p.2)

/-- Changing the values leaves the keys as they are. -/
theorem keys_mapValues (f : String → α → β) (m : Entries α) :
    keys (mapValues f m) = keys m := by
  simp [keys, mapValues]

/-- Inserting leaves the keys as they are, or adds the new one at the end. -/
theorem keys_insert (key : String) (value : α) (m : Entries α) :
    keys (insert key value m) = if key ∈ keys m then keys m else keys m ++ [key] := by
  induction m with
  | nil => simp [keys, insert]
  | cons p rest ih =>
    obtain ⟨k, v⟩ := p
    unfold insert
    by_cases h : k = key
    · simp [h, keys]
    · have h' : ¬key = k := fun e => h e.symm
      have ih' : keys ((k, v) :: insert key value rest) = k :: keys (insert key value rest) := rfl
      have hk : keys ((k, v) :: rest) = k :: keys rest := rfl
      rw [if_neg h, ih', ih, hk]
      by_cases hm : key ∈ keys rest <;> simp [hm, h']

/-- Inserting keeps the keys distinct. -/
theorem nodup_keys_insert (key : String) (value : α) {m : Entries α} (h : (keys m).Nodup) :
    (keys (insert key value m)).Nodup := by
  rw [keys_insert]
  split
  · exact h
  · rename_i hm
    rw [List.nodup_append]
    refine ⟨h, by simp, ?_⟩
    intro a ha b hb
    simp only [List.mem_singleton] at hb
    subst hb
    exact fun e => hm (e ▸ ha)

/-- Inserting several entries keeps the keys distinct. -/
theorem nodup_keys_insertAll (pairs : List (String × α)) {m : Entries α} (h : (keys m).Nodup) :
    (keys (insertAll m pairs)).Nodup := by
  unfold insertAll
  induction pairs generalizing m with
  | nil => exact h
  | cons p rest ih => exact ih (nodup_keys_insert p.1 p.2 h)

end Entries

/-- Entries whose keys are pairwise different. -/
structure OrderedMap (α : Type) where
  /-- The pairs, in the order in which their keys were first written. -/
  entries : Entries α
  nodup : (Entries.keys entries).Nodup

namespace OrderedMap

variable {α β : Type}

/-- The map without entries. -/
def empty : OrderedMap α :=
  ⟨[], by simp [Entries.keys]⟩

/-- The map that writing the pairs one after the other leaves. -/
def ofPairs (pairs : List (String × α)) : OrderedMap α :=
  ⟨Entries.ofPairs pairs, Entries.nodup_keys_insertAll pairs (by simp [Entries.keys])⟩

/-- Gives the key a new value: in place if it is there, else at the end. -/
def insert (key : String) (value : α) (m : OrderedMap α) : OrderedMap α :=
  ⟨Entries.insert key value m.entries, Entries.nodup_keys_insert key value m.nodup⟩

/-- The value of a key. -/
def get? (key : String) (m : OrderedMap α) : Option α :=
  Entries.get? key m.entries

/-- The keys, in order. -/
def keys (m : OrderedMap α) : List String :=
  Entries.keys m.entries

/-- The values, in order. -/
def values (m : OrderedMap α) : List α :=
  Entries.values m.entries

/-- The number of entries. -/
def size (m : OrderedMap α) : Nat :=
  m.entries.length

/-- Whether there are no entries. -/
def isEmpty (m : OrderedMap α) : Bool :=
  m.entries.isEmpty

/-- Changes each value, keys and order staying as they are. -/
def mapValues (f : String → α → β) (m : OrderedMap α) : OrderedMap β :=
  ⟨Entries.mapValues f m.entries, by rw [Entries.keys_mapValues]; exact m.nodup⟩

end OrderedMap

end FieldRules
