import FieldRules.Proofs.RuleSet.FreeKey

/-!
# Rule sets that reading and building make

`RuleSet.Reachable` holds of the rule sets that can be read from JSON or built.  What a step of
building keeps is `RuleSet.Canonical`: in every field the keys of the entries are distinct, and
everything is what reading its own JSON form gives.  So it holds of every rule set that is made
(`RuleSet.Reachable.canonical`).
-/

set_option autoImplicit false

namespace FieldRules

/-- Whether no object in a value has a key twice. -/
inductive Json.WellFormed : Json → Prop
  | null : WellFormed .null
  | bool (b : Bool) : WellFormed (.bool b)
  | number (n : Number) : WellFormed (.number n)
  | string (s : String) : WellFormed (.string s)
  | array {items : List Json} (hitems : ∀ item ∈ items, WellFormed item) : WellFormed (.array items)
  | object {entries : Entries Json} (hkeys : (Entries.keys entries).Nodup)
      (hentries : ∀ p ∈ entries, WellFormed p.2) : WellFormed (.object entries)

/-! ## Entries -/

namespace RuleEntry

/-- Whether an entry is what reading its own JSON form under its own key gives. -/
def Canonical (e : RuleEntry) : Prop :=
  ofPair e.key e.toJson = e

/-- An entry has the key it is read under. -/
@[simp] theorem key_ofPair (key : String) (value : Json) : (ofPair key value).key = key := by
  cases value <;> rfl

/-- What is read is canonical, also where null has been read as no arguments. -/
theorem canonical_ofPair (key : String) (value : Json) : (ofPair key value).Canonical := by
  cases value <;> rfl

/-- An entry that is only a rule name is canonical. -/
theorem canonical_shorthand (key rule : String) : (shorthand key rule).Canonical := rfl

/-- A rule with arguments under its own name is canonical. -/
theorem canonical_withArgs (rule : String) (args : Args) : (withArgs rule args).Canonical := by
  cases args <;> rfl

/-- Entries under their keys. -/
def keyed (entries : List RuleEntry) : Entries RuleEntry :=
  entries.map fun e => (e.key, e)

/-- Entries under their keys have the keys of the entries. -/
theorem keys_keyed (entries : List RuleEntry) :
    Entries.keys (keyed entries) = entries.map RuleEntry.key := by
  simp [keyed, Entries.keys]

end RuleEntry

/-! ## The rules of one field -/

namespace RuleSpec

/-- Whether the keys of the entries are distinct and everything is what reading its own JSON form
gives. -/
inductive Canonical : RuleSpec → Prop
  | single (rule : String) : Canonical (.single rule)
  | multi {entries : List RuleEntry} (hkeys : (entries.map RuleEntry.key).Nodup)
      (hentries : ∀ e ∈ entries, e.Canonical) : Canonical (.multi entries)
  | malformed {raw : Json} (hraw : ofJson raw = .malformed raw) : Canonical (.malformed raw)

/-- Pairs with distinct keys are read as canonical rules of a field. -/
theorem canonical_multi_ofPair {pairs : Entries Json} (h : (Entries.keys pairs).Nodup) :
    Canonical (.multi (pairs.map fun p => .ofPair p.1 p.2)) := by
  refine .multi ?_ ?_
  · simpa [Entries.keys, Function.comp_def] using h
  · intro e he
    obtain ⟨p, -, rfl⟩ := List.mem_map.1 he
    exact RuleEntry.canonical_ofPair p.1 p.2

/-- What is read from a value is canonical. -/
theorem canonical_ofJson {v : Json} (h : v.WellFormed) : (ofJson v).Canonical := by
  cases h with
  | string s => exact .single s
  | object hkeys _ => exact canonical_multi_ofPair hkeys
  | array _ => exact canonical_multi_ofPair (Json.nodup_keys_indexed _)
  | null | bool _ | number _ => exact .malformed rfl

/-- Taking the rules of a field as several keeps them canonical. -/
theorem Canonical.toEntries {spec : RuleSpec} (h : spec.Canonical) :
    Canonical (.multi spec.toEntries) := by
  cases h with
  | single rule =>
    refine .multi (by simp [RuleSpec.toEntries]) ?_
    intro e he
    rw [List.mem_singleton.1 he]
    exact RuleEntry.canonical_shorthand "0" rule
  | multi hkeys hentries => exact .multi hkeys hentries
  | malformed _ => exact .multi (by simp [RuleSpec.toEntries]) (by simp [RuleSpec.toEntries])

end RuleSpec

/-! ## Rule sets -/

namespace RuleSet

/-- Whether the rules of each field are canonical. -/
def Canonical (s : RuleSet) : Prop :=
  ∀ p ∈ s.fields.entries, p.2.Canonical

/-- The rule set without fields is canonical. -/
theorem canonical_empty : Canonical .empty := by
  simp [Canonical, empty, OrderedMap.empty]

/-- What is read from a value is canonical. -/
theorem canonical_ofJson {v : Json} (hv : v.WellFormed) {s : RuleSet} (hs : ofJson v = .ok s) :
    s.Canonical := by
  cases hv with
  | object hkeys hentries =>
    rename_i entries
    have hnodup : (Entries.keys (entries.map fun p => (p.1, RuleSpec.ofJson p.2))).Nodup := by
      simpa [Entries.keys, Function.comp_def] using hkeys
    rw [ofJson, Except.ok.injEq] at hs
    subst hs
    intro q hq
    rw [OrderedMap.entries_ofPairs_of_nodup hnodup] at hq
    obtain ⟨p, hp, rfl⟩ := List.mem_map.1 hq
    exact RuleSpec.canonical_ofJson (hentries p hp)
  | null | bool _ | number _ | string _ | array _ => cases hs

/-- Setting the rules of a field to canonical ones keeps a rule set canonical. -/
theorem Canonical.field {s : RuleSet} (hs : s.Canonical) (name : String) {spec : RuleSpec}
    (hspec : spec.Canonical) : (s.field name spec).Canonical := by
  intro p hp
  rcases Entries.mem_insert hp with rfl | hp
  · exact hspec
  · exact hs p hp

/-- The rules of a field, taken as several, are canonical. -/
theorem Canonical.entriesAt {s : RuleSet} (hs : s.Canonical) (name : String) :
    RuleSpec.Canonical (.multi (s.entriesAt name)) := by
  unfold RuleSet.entriesAt
  cases hget : s.get? name with
  | none => exact .multi (by simp) (by simp)
  | some spec =>
    have hmem : (name, spec) ∈ s.fields.entries := Entries.mem_of_get? hget
    exact (hs _ hmem).toEntries

/-- Putting an entry among others is an insertion under its key. -/
theorem keyed_putEntry (entry : RuleEntry) (entries : List RuleEntry) :
    RuleEntry.keyed (putEntry entry entries) =
      Entries.insert entry.key entry (RuleEntry.keyed entries) := by
  induction entries with
  | nil => rfl
  | cons e rest ih =>
    have hcons (e : RuleEntry) (rest : List RuleEntry) :
        RuleEntry.keyed (e :: rest) = (e.key, e) :: RuleEntry.keyed rest := rfl
    by_cases h : e.key = entry.key
    · simp [putEntry, Entries.insert, hcons, h]
    · simp [putEntry, Entries.insert, hcons, h, ih]

/-- After putting an entry among others every entry is that one or was there before. -/
theorem mem_putEntry {entry e : RuleEntry} {entries : List RuleEntry}
    (h : e ∈ putEntry entry entries) : e = entry ∨ e ∈ entries := by
  have hmem : (e.key, e) ∈ RuleEntry.keyed (putEntry entry entries) := List.mem_map.2 ⟨e, h, rfl⟩
  rw [keyed_putEntry] at hmem
  rcases Entries.mem_insert hmem with heq | hold
  · exact Or.inl (Prod.mk.inj heq).2
  · obtain ⟨e', he', heq⟩ := List.mem_map.1 hold
    rw [← (Prod.mk.inj heq).2]
    exact Or.inr he'

/-- Putting an entry among others keeps their keys distinct. -/
theorem nodup_keys_putEntry (entry : RuleEntry) {entries : List RuleEntry}
    (h : (entries.map RuleEntry.key).Nodup) :
    ((putEntry entry entries).map RuleEntry.key).Nodup := by
  rw [← RuleEntry.keys_keyed] at h ⊢
  rw [keyed_putEntry]
  exact Entries.nodup_keys_insert _ _ h

/-- Putting a canonical entry among canonical rules of a field keeps them canonical. -/
theorem canonical_putEntry {entry : RuleEntry} (hentry : entry.Canonical)
    {entries : List RuleEntry} (h : RuleSpec.Canonical (.multi entries)) :
    RuleSpec.Canonical (.multi (putEntry entry entries)) := by
  cases h with
  | multi hkeys hentries =>
    refine .multi (nodup_keys_putEntry entry hkeys) ?_
    intro e he
    rcases mem_putEntry he with rfl | he
    · exact hentry
    · exact hentries e he

/-- Adding a rule under the free key keeps the rules of a field canonical. -/
theorem canonical_append_freeKey (rule : String) {entries : List RuleEntry}
    (h : RuleSpec.Canonical (.multi entries)) :
    RuleSpec.Canonical (.multi (entries ++ [.shorthand (freeKey entries) rule])) := by
  cases h with
  | multi hkeys hentries =>
    refine .multi (nodup_keys_append_freeKey rule hkeys) ?_
    intro e he
    rcases List.mem_append.1 he with he | he
    · exact hentries e he
    · rw [List.mem_singleton.1 he]
      exact RuleEntry.canonical_shorthand _ rule

/-- The rule sets that reading from JSON and building make. -/
inductive Reachable : RuleSet → Prop
  | empty : Reachable .empty
  | read {v : Json} {s : RuleSet} (hv : v.WellFormed) (hs : ofJson v = .ok s) : Reachable s
  | single {s : RuleSet} (name rule : String) (hs : Reachable s) : Reachable (s.single name rule)
  | rule {s : RuleSet} (name rule : String) (args : Args) (hs : Reachable s) :
      Reachable (s.rule name rule args)
  | bareRule {s : RuleSet} (name rule : String) (hs : Reachable s) :
      Reachable (s.bareRule name rule)
  | field {s : RuleSet} {v : Json} (name : String) (hv : v.WellFormed) (hs : Reachable s) :
      Reachable (s.field name (.ofJson v))

/-- Every rule set that reading and building make is canonical. -/
theorem Reachable.canonical {s : RuleSet} (h : Reachable s) : s.Canonical := by
  induction h with
  | empty => exact canonical_empty
  | read hv hs => exact canonical_ofJson hv hs
  | single name rule _ ih => exact ih.field name (.single rule)
  | rule name rule args _ ih =>
    have hentry := RuleEntry.canonical_withArgs rule args
    exact ih.field name (canonical_putEntry hentry (ih.entriesAt name))
  | bareRule name rule _ ih =>
    exact ih.field name (canonical_append_freeKey rule (ih.entriesAt name))
  | field name hv _ ih => exact ih.field name (RuleSpec.canonical_ofJson hv)

end RuleSet

end FieldRules
