import FieldRules.Proofs.RuleSet.Reachable
import Mathlib

/-!
# Rule sets and their JSON form

A canonical rule set is read back from its JSON form just as it is
(`RuleSet.Canonical.ofJson_toJson`).  Every rule set that is read or built is canonical, so reading,
writing and reading again gives what the first reading gave, although a list of rules is written as
an object and null as no arguments.
-/

set_option autoImplicit false

namespace FieldRules

/-- Canonical rules of a field are read back from their JSON form. -/
theorem RuleSpec.Canonical.ofJson_toJson {spec : RuleSpec} (h : spec.Canonical) :
    RuleSpec.ofJson spec.toJson = spec := by
  cases h with
  | single rule => rfl
  | malformed hraw => exact hraw
  | multi hkeys hentries =>
    rename_i entries
    have hnodup : (Entries.keys (entries.map fun e => (e.key, e.toJson))).Nodup := by
      simpa [Entries.keys, Function.comp_def] using hkeys
    rw [RuleSpec.toJson, Entries.ofPairs_of_nodup hnodup, RuleSpec.ofJson, List.map_map]
    congr 1
    exact (List.map_congr_left hentries).trans (List.map_id entries)

namespace RuleSet

/-- A canonical rule set is read back from its JSON form. -/
theorem Canonical.ofJson_toJson {s : RuleSet} (h : s.Canonical) : ofJson s.toJson = .ok s := by
  obtain ⟨m⟩ := s
  have hread : (Entries.mapValues (fun _ spec => spec.toJson) m.entries).map
      (fun p => (p.1, RuleSpec.ofJson p.2)) = m.entries := by
    rw [Entries.mapValues, List.map_map]
    refine (List.map_congr_left fun p hp => ?_).trans (List.map_id m.entries)
    exact Prod.ext rfl (h p hp).ofJson_toJson
  rw [toJson, ofJson, hread, OrderedMap.ofPairs_entries]

/-- The entries of each field of a canonical rule set have distinct keys. -/
theorem Canonical.nodup_keys {s : RuleSet} (h : s.Canonical) {field : String}
    {entries : List RuleEntry} (hfield : s.get? field = some (.multi entries)) :
    (entries.map RuleEntry.key).Nodup := by
  have hmem : (field, RuleSpec.multi entries) ∈ s.fields.entries := Entries.mem_of_get? hfield
  cases h _ hmem with
  | multi hkeys _ => exact hkeys

/-- **A rule set is read back from its JSON form.**  Every rule set that reading and building make
is, with its fields and their entries in order, what reading its JSON form gives, and the entries of
each of its fields have distinct keys.  In particular, writing what has been read and reading it
again changes nothing. -/
theorem ofJson_toJson_of_reachable :
    (∀ s : RuleSet, Reachable s →
      ofJson s.toJson = .ok s ∧
        ∀ field entries, s.get? field = some (.multi entries) →
          (entries.map RuleEntry.key).Nodup) ∧
      ∀ (v : Json) (s : RuleSet), v.WellFormed → ofJson v = .ok s → ofJson s.toJson = .ok s := by
  refine ⟨?_, ?_⟩
  · intro s hs
    refine ⟨hs.canonical.ofJson_toJson, ?_⟩
    intro field entries hfield
    exact hs.canonical.nodup_keys hfield
  · intro v s hv hs
    exact (canonical_ofJson hv hs).ofJson_toJson

/-- A list is written as an object and null as no arguments, and both are read back, also after a
rule has been added. -/
theorem ofJson_toJson_of_list :
    ∃ s, ofJson (.object [("a", .array [.string "required", .null])]) = .ok s ∧
      s.toJson = .object [("a", .object [("0", .string "required"), ("1", .object [])])] ∧
      ofJson s.toJson = .ok s ∧
      ofJson (s.bareRule "a" "in").toJson = .ok (s.bareRule "a" "in") := by
  have hv : (Json.object [("a", .array [.string "required", .null])]).WellFormed := by
    refine .object (by decide) ?_
    intro p hp
    rw [List.mem_singleton.1 hp]
    refine .array ?_
    intro item hitem
    rcases List.mem_pair.1 hitem with rfl | rfl
    · exact .string "required"
    · exact .null
  refine ⟨_, rfl, by cbv, ofJson_toJson_of_reachable.2 _ _ hv rfl, ?_⟩
  exact (ofJson_toJson_of_reachable.1 _ (.bareRule "a" "in" (.read hv rfl))).1

end RuleSet

end FieldRules
