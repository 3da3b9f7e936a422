import FieldRules.Entries
import Mathlib.Data.List.Basic

/-!
# Laws of ordered entries

What reading a key gives after an insertion (`Entries.get?_insert`) or after missing keys have been
filled in (`Entries.get?_fill`), and how writing pairs one after the other treats their keys: a key
that is new goes to the end (`Entries.insert_of_notMem`), so the keys stand in the order in which
they first occur (`Entries.keys_ofPairs`), pairs with distinct keys stay as they are
(`Entries.ofPairs_of_nodup`), and of several pairs with one key the last is kept
(`Entries.get?_ofPairs`, `Entries.mem_values_ofPairs_iff`).
-/

set_option autoImplicit false

namespace FieldRules

namespace Entries

variable {α β : Type}

/-- No entries have no keys. -/
@[simp] theorem keys_nil : keys ([] : Entries α) = [] := rfl

/-- The first entry has the first key. -/
@[simp] theorem keys_cons (p : String × α) (m : Entries α) : keys (p :: m) = p.1 :: keys m := rfl

/-- Entries in a row have their keys in a row. -/
@[simp] theorem keys_append (m n : Entries α) : keys (m ++ n) = keys m ++ keys n := by
  simp [keys]

/-- Of no entries there is nothing to change. -/
@[simp] theorem mapValues_nil (f : String → α → β) : mapValues f [] = [] := rfl

/-- The first entry is changed, and then the others are. -/
@[simp] theorem mapValues_cons (f : String → α → β) (p : String × α) (m : Entries α) :
    mapValues f (p :: m) = (p.1, f p.1 p.2) :: mapValues f m := rfl

/-! ## Reading a key -/

/-- Reading a key of two rows of entries reads the first row, and then the second. -/
theorem get?_append (key : String) (m n : Entries α) :
    get? key (m ++ n) = (get? key m).or (get? key n) := by
  induction m with
  | nil => rfl
  | cons p rest ih =>
    obtain ⟨k, v⟩ := p
    by_cases h : k = key
    · simp [get?, h]
    · simp [get?, h, ih]

/-- A key reads nothing exactly when it is not there. -/
theorem get?_eq_none_iff (key : String) (m : Entries α) : get? key m = none ↔ key ∉ keys m := by
  induction m with
  | nil => simp [get?]
  | cons p rest ih =>
    obtain ⟨k, v⟩ := p
    by_cases h : k = key
    · simp [get?, h]
    · have h' : key ≠ k := fun e => h e.symm
      simp [get?, h, h', ih]

/-- There are no entries exactly if every key reads nothing. -/
theorem eq_nil_iff (m : Entries α) : m = [] ↔ ∀ key, get? key m = none := by
  constructor
  · rintro rfl key
    rfl
  · intro h
    cases m with
    | nil => rfl
    | cons p rest => simpa [get?] using h p.1

/-- A key reads the value of the first pair that has it. -/
theorem get?_eq_some_iff (key : String) (value : α) (m : Entries α) :
    get? key m = some value ↔
      ∃ before after, m = before ++ (key, value) :: after ∧ key ∉ keys before := by
  constructor
  · intro h
    induction m with
    | nil => simp [get?] at h
    | cons p rest ih =>
      obtain ⟨k, v⟩ := p
      by_cases hk : k = key
      · simp only [get?, hk, if_true, Option.some.injEq] at h
        exact ⟨[], rest, by simp [hk, h], by simp⟩
      · simp only [get?, hk, if_false] at h
        obtain ⟨before, after, rfl, hb⟩ := ih h
        have hk' : key ≠ k := fun e => hk e.symm
        exact ⟨(k, v) :: before, after, by simp, by simp [hb, hk']⟩
  · rintro ⟨before, after, rfl, hb⟩
    rw [get?_append, (get?_eq_none_iff key before).2 hb]
    simp [get?]

/-- Of pairs made of the elements of a list, a key reads the first element that gives it. -/
theorem get?_map {γ : Type} (key : String) (name : γ → String) (value : γ → α) (l : List γ) :
    get? key (l.map fun a => (name a, value a)) = (l.find? (name · == key)).map value := by
  induction l with
  | nil => rfl
  | cons a rest ih =>
    by_cases h : name a = key
    · simp [get?, h]
    · simp [get?, h, ih]

/-- Changing each value changes what a key reads. -/
theorem get?_mapValues (f : String → α → β) (key : String) (m : Entries α) :
    get? key (mapValues f m) = (get? key m).map (f key) := by
  induction m with
  | nil => rfl
  | cons p rest ih =>
    obtain ⟨k, v⟩ := p
    by_cases h : k = key
    · simp [get?, h]
    · simp [get?, h, ih]

/-- A value that a key reads is in an entry with that key. -/
theorem mem_of_get? {key : String} {value : α} {m : Entries α} (h : get? key m = some value) :
    (key, value) ∈ m := by
  obtain ⟨before, after, rfl, -⟩ := (get?_eq_some_iff key value m).1 h
  simp

/-- Inserting changes what its own key reads, and nothing else. -/
theorem get?_insert (key other : String) (value : α) (m : Entries α) :
    get? other (insert key value m) = if other = key then some value else get? other m := by
  induction m with
  | nil => by_cases h : key = other <;> simp [insert, get?, h, eq_comm]
  | cons p rest ih =>
    obtain ⟨k, v⟩ := p
    by_cases hk : k = key
    · by_cases h : other = key
      · simp [insert, get?, hk, h]
      · have h' : ¬key = other := fun e => h e.symm
        simp [insert, get?, hk, h, h']
    · by_cases h : k = other
      · have h' : ¬other = key := fun e => hk (h.trans e)
        simp [insert, get?, h, h']
      · simp [insert, get?, hk, h, ih]

/-- Inserting leaves the entries of the other keys as they are, in order. -/
theorem filter_key_ne_insert (key : String) (value : α) (m : Entries α) :
    (insert key value m).filter (·.1 ≠ key) = m.filter (·.1 ≠ key) := by
  induction m with
  | nil => simp [insert]
  | cons p rest ih =>
    obtain ⟨k, v⟩ := p
    by_cases hk : k = key
    · simp [insert, hk]
    · rw [insert, if_neg hk, List.filter_cons_of_pos (by simpa using hk),
        List.filter_cons_of_pos (by simpa using hk), ih]

/-! ## Writing pairs -/

/-- A key that is not there yet goes to the end. -/
theorem insert_of_notMem {key : String} (value : α) {m : Entries α} (h : key ∉ keys m) :
    insert key value m = m ++ [(key, value)] := by
  induction m with
  | nil => rfl
  | cons p rest ih =>
    simp only [keys_cons, List.mem_cons, not_or] at h
    have hk : ¬p.1 = key := fun e => h.1 e.symm
    simp [insert, hk, ih h.2]

/-- A key that is there already keeps the number of entries as it is. -/
theorem length_insert_of_mem {key : String} (value : α) {m : Entries α} (h : key ∈ keys m) :
    (insert key value m).length = m.length := by
  have hk := congrArg List.length (keys_insert key value m)
  rw [if_pos h] at hk
  simpa [keys] using hk

/-- After an insertion every entry is the new one or was there before. -/
theorem mem_insert {key : String} {value : α} {m : Entries α} {p : String × α}
    (h : p ∈ insert key value m) : p = (key, value) ∨ p ∈ m := by
  induction m with
  | nil => simpa [insert] using h
  | cons q rest ih =>
    obtain ⟨k, v⟩ := q
    by_cases hk : k = key
    · simp only [insert, hk, if_true, List.mem_cons] at h
      exact h.imp id (List.mem_cons_of_mem _)
    · simp only [insert, hk, if_false, List.mem_cons] at h
      rcases h with rfl | h
      · exact Or.inr (by simp)
      · exact (ih h).imp id (List.mem_cons_of_mem _)

/-- Among distinct keys, the key of a pair is not one of those before it. -/
theorem notMem_keys_of_nodup {m rest : Entries α} {p : String × α}
    (h : (keys (m ++ p :: rest)).Nodup) : p.1 ∉ keys m := by
  rw [keys_append, List.nodup_append] at h
  exact fun hm => h.2.2 _ hm _ (by simp) rfl

/-- Pairs whose keys are distinct from each other and from those that are there are added at the
end, in order. -/
theorem insertAll_of_nodup (pairs : List (String × α)) {m : Entries α}
    (h : (keys (m ++ pairs)).Nodup) : insertAll m pairs = m ++ pairs := by
  induction pairs generalizing m with
  | nil => simp [insertAll]
  | cons p rest ih =>
    have hp : p.1 ∉ keys m := notMem_keys_of_nodup h
    have hstep : insertAll m (p :: rest) = insertAll (m ++ [p]) rest := by
      simp only [insertAll, List.foldl_cons, insert_of_notMem p.2 hp]
    rw [hstep, ih (by simpa using h)]
    simp

/-- Filling in pairs whose keys are distinct and new adds them at the end, in order. -/
theorem fill_of_nodup (pairs : List (String × α)) {m : Entries α}
    (h : (keys (m ++ pairs)).Nodup) : fill m pairs = m ++ pairs := by
  induction pairs generalizing m with
  | nil => simp [fill]
  | cons p rest ih =>
    have hp : p.1 ∉ keys m := notMem_keys_of_nodup h
    have hkey : hasKey p.1 m = false := by
      simp [hasKey, (get?_eq_none_iff p.1 m).2 hp]
    have hstep : fill m (p :: rest) = fill (m ++ [p]) rest := by
      simp [fill, hkey, insert_of_notMem p.2 hp]
    rw [hstep, ih (by simpa using h)]
    simp

/-- Pairs with distinct keys are entries as they stand. -/
theorem ofPairs_of_nodup {pairs : List (String × α)} (h : (keys pairs).Nodup) :
    ofPairs pairs = pairs :=
  insertAll_of_nodup pairs h

/-- Writing pairs one after the other, a key reads what its last pair says. -/
theorem get?_insertAll (key : String) (pairs : List (String × α)) (m : Entries α) :
    get? key (insertAll m pairs) = (get? key pairs.reverse).or (get? key m) := by
  induction pairs generalizing m with
  | nil => rfl
  | cons p rest ih =>
    obtain ⟨k, v⟩ := p
    have hstep : insertAll m ((k, v) :: rest) = insertAll (insert k v m) rest := rfl
    rw [hstep, ih, get?_insert, List.reverse_cons, get?_append, Option.or_assoc]
    by_cases h : key = k
    · simp [get?, h]
    · have h' : ¬k = key := fun e => h e.symm
      simp [get?, h, h']

/-- Pairs that are written one after the other are read from the last to the first. -/
theorem get?_ofPairs (key : String) (pairs : List (String × α)) :
    get? key (ofPairs pairs) = get? key pairs.reverse := by
  simp [ofPairs, get?_insertAll, get?]

/-- Filling in leaves what a key reads already, and else lets it read the pairs. -/
theorem get?_fill (key : String) (pairs : List (String × α)) (m : Entries α) :
    get? key (fill m pairs) = (get? key m).or (get? key pairs) := by
  induction pairs generalizing m with
  | nil => simp [fill, get?]
  | cons p rest ih =>
    obtain ⟨k, v⟩ := p
    have hstep : fill m ((k, v) :: rest) = fill (if hasKey k m then m else insert k v m) rest := rfl
    rw [hstep, ih]
    by_cases hk : k = key
    · subst hk
      cases hm : get? k m with
      | some x => simp [hasKey, hm]
      | none => simp [hasKey, hm, get?, get?_insert]
    · have hne : ¬key = k := fun e => hk e.symm
      have hsame : get? key (if hasKey k m then m else insert k v m) = get? key m := by
        split
        · rfl
        · rw [get?_insert, if_neg hne]
      simp [hsame, get?, hk]

/-- With distinct keys, an entry is what its key reads. -/
theorem get?_of_mem {key : String} {value : α} {m : Entries α} (hm : (keys m).Nodup)
    (h : (key, value) ∈ m) : get? key m = some value := by
  obtain ⟨before, after, rfl⟩ := List.append_of_mem h
  exact (get?_eq_some_iff key value _).2 ⟨before, after, rfl, notMem_keys_of_nodup hm⟩

/-- With distinct keys, the values are what the keys read. -/
theorem mem_values_iff {m : Entries α} (h : (keys m).Nodup) (value : α) :
    value ∈ values m ↔ ∃ key, get? key m = some value := by
  simp only [values, List.mem_map, Prod.exists, exists_eq_right]
  exact exists_congr fun key => ⟨get?_of_mem h, mem_of_get?⟩

/-- Of several pairs with one key the value of the last is kept. -/
theorem mem_values_ofPairs_iff (pairs : List (String × α)) (value : α) :
    value ∈ values (ofPairs pairs) ↔
      ∃ before key after, pairs = before ++ (key, value) :: after ∧ key ∉ keys after := by
  have hnodup : (keys (ofPairs pairs)).Nodup := nodup_keys_insertAll pairs (by simp)
  simp only [mem_values_iff hnodup, get?_ofPairs, get?_eq_some_iff]
  constructor
  · rintro ⟨key, before, after, h, hb⟩
    refine ⟨after.reverse, key, before.reverse, ?_, ?_⟩
    · rw [← List.reverse_reverse pairs, h]
      simp
    · simpa [keys] using hb
  · rintro ⟨before, key, after, rfl, ha⟩
    exact ⟨key, after.reverse, before.reverse, by simp, by simpa [keys] using ha⟩

end Entries

namespace OrderedMap

variable {α : Type}

/-- Ordered maps with the same entries are the same. -/
theorem eq_of_entries_eq {m n : OrderedMap α} (h : m.entries = n.entries) : m = n := by
  cases m
  cases n
  simpa using h

/-- Pairs with distinct keys are the entries of the map that they make. -/
theorem entries_ofPairs_of_nodup {pairs : List (String × α)} (h : (Entries.keys pairs).Nodup) :
    (ofPairs pairs).entries = pairs :=
  Entries.ofPairs_of_nodup h

/-- A map is made of its entries. -/
theorem ofPairs_entries (m : OrderedMap α) : ofPairs m.entries = m :=
  eq_of_entries_eq (entries_ofPairs_of_nodup m.nodup)

end OrderedMap

end FieldRules
