import LiteserverFleet.Network.Config
import LiteserverFleet.Proofs.Json.RoundTrip

/-!
# Partitioned configs

Each document of a partition is a network config of its own: it parses to the config with the one entry,
and its partition is the document itself (`splitText_documents`).
-/

set_option autoImplicit false

namespace LiteserverFleet.NetworkConfig

open Json (Value Members)

/-! ## The fields of a value -/

section Fields

variable {members : Members} {name : String}

theorem fieldOf_eq_ok {v : Value} (found : fieldOf members name = .ok v) : (name, v) ∈ members := by
  unfold fieldOf at found
  split at found
  · next isFound =>
    cases found
    exact Members.mem_of_find? isFound
  · cases found

theorem objectField_eq_ok {inner : Members} (found : objectField members name = .ok inner) :
    (name, .object inner) ∈ members := by
  obtain ⟨v, field, more⟩ := Json.of_bind_eq_ok found
  cases v with
  | object inner =>
      cases more
      exact fieldOf_eq_ok field
  | null | boolean | number | text | array => cases more

theorem listField_eq_ok {items : List Value} (found : listField members name = .ok items) :
    (name, .array items) ∈ members := by
  obtain ⟨v, field, more⟩ := Json.of_bind_eq_ok found
  cases v with
  | array items =>
      cases more
      exact fieldOf_eq_ok field
  | null | boolean | number | text | object => cases more

end Fields

theorem ofValue_eq_ok {v : Value} {config : NetworkConfig} (read : ofValue v = .ok config) :
    ∃ members, v = .object members ∧ (directoryField, .object config.directory) ∈ members ∧
      (validatorField, .object config.validator) ∈ members ∧
        (entriesField, .array config.entries) ∈ members := by
  unfold ofValue at read
  split at read
  · next members =>
    obtain ⟨directory, isDirectory, read⟩ := Json.of_bind_eq_ok read
    obtain ⟨typeTag, -, read⟩ := Json.of_bind_eq_ok read
    obtain ⟨validator, isValidator, read⟩ := Json.of_bind_eq_ok read
    obtain ⟨entries, areEntries, read⟩ := Json.of_bind_eq_ok read
    cases read
    exact ⟨members, rfl, objectField_eq_ok isDirectory, objectField_eq_ok isValidator,
      listField_eq_ok areEntries⟩
  · cases read

theorem parse_eq_ok {text : String} {config : NetworkConfig} (parsed : parse text = .ok config) :
    ∃ v, Json.parse text = .ok v ∧ ofValue v = .ok config := by
  obtain ⟨v, isValue, read⟩ := Json.of_bind_eq_ok parsed
  exact ⟨v, Json.mapError_eq_ok_iff.mp isValue, read⟩

/-! ## Documents -/

theorem partition_of_entries {config : NetworkConfig} (filled : config.entries ≠ []) :
    config.partition = .ok (config.entries.map fun each => (config.withEntry each).toValue) := by
  rw [partition, List.isEmpty_eq_false_iff.mpr filled]
  rfl

theorem partition_of_noEntries {config : NetworkConfig} (empty : config.entries = []) :
    config.partition = .error .noLiteservers := by
  rw [partition, empty]
  rfl

/-- A config whose containers leave room for the two that hold its entries in a document. -/
structure Fits (depth : Nat) (config : NetworkConfig) : Prop where
  directory : (Value.object config.directory).Within (depth + 1)
  validator : (Value.object config.validator).Within (depth + 1)
  entries : ∀ entry ∈ config.entries, entry.Within depth

structure Integral (config : NetworkConfig) : Prop where
  directory : (Value.object config.directory).Integral
  validator : (Value.object config.validator).Integral
  entries : ∀ entry ∈ config.entries, entry.Integral

section Documents

variable {v : Value} {config : NetworkConfig} {depth : Nat}

theorem fits_of_within (within : v.Within (depth + 2)) (read : ofValue v = .ok config) :
    config.Fits depth := by
  obtain ⟨members, rfl, directory, validator, entries⟩ := ofValue_eq_ok read
  cases within with
  | object ascending each =>
      refine ⟨each _ directory, each _ validator, ?_⟩
      cases each _ entries with
      | array eachEntry => exact eachEntry

theorem integral_of_value (integral : v.Integral) (read : ofValue v = .ok config) :
    config.Integral := by
  obtain ⟨members, rfl, directory, validator, entries⟩ := ofValue_eq_ok read
  cases integral with
  | object each =>
      refine ⟨each _ directory, each _ validator, ?_⟩
      cases each _ entries with
      | array eachEntry => exact eachEntry

theorem Fits.withEntry (fits : config.Fits depth) {entry : Value} (member : entry ∈ config.entries) :
    (config.withEntry entry).Fits depth where
  directory := fits.directory
  validator := fits.validator
  entries := List.forall_mem_singleton.mpr (fits.entries entry member)

theorem Integral.withEntry (integral : config.Integral) {entry : Value}
    (member : entry ∈ config.entries) : (config.withEntry entry).Integral where
  directory := integral.directory
  validator := integral.validator
  entries := List.forall_mem_singleton.mpr (integral.entries entry member)

theorem Fits.toValue (fits : config.Fits depth) : config.toValue.Within (depth + 2) := by
  have names : [typeField, directoryField, entriesField, validatorField].Pairwise (· < ·) := by decide
  refine .object (Members.ascending_of_keys names) ?_
  simp only [List.forall_mem_cons]
  exact ⟨.text _, fits.directory, .array fits.entries, fits.validator, nofun⟩

theorem Integral.toValue (integral : config.Integral) : config.toValue.Integral := by
  refine .object ?_
  simp only [List.forall_mem_cons]
  exact ⟨.text _, integral.directory, .array integral.entries, integral.validator, nofun⟩

theorem ofValue_toValue (config : NetworkConfig) : ofValue config.toValue = .ok config :=
  rfl

theorem parse_document {text : String} (parsed : Json.parse text = .ok config.toValue) :
    parse text = .ok config := by
  rw [parse, parsed]
  exact ofValue_toValue config

theorem parse_compactText (fits : config.Fits 125) (integral : config.Integral) :
    parse config.toValue.compactText = .ok config :=
  parse_document (Json.parse_compactText fits.toValue integral.toValue)

end Documents

/-- Every document of a split text parses to the config of the text with one entry, in order, and is its
own split. -/
theorem splitText_documents {text : String} {documents : List String}
    (split : splitText text = .ok documents)
    (integral : ∀ v, Json.parse text = .ok v → v.Integral) :
    ∃ config, parse text = .ok config ∧ documents.length = config.entries.length ∧
      ∀ (i : Nat) (document : String), documents[i]? = some document →
        ∃ entry, config.entries[i]? = some entry ∧
          parse document = .ok (config.withEntry entry) ∧ splitText document = .ok [document] := by
  obtain ⟨config, parsed, split⟩ := Json.of_bind_eq_ok split
  obtain ⟨values, partitioned, split⟩ := Json.of_bind_eq_ok split
  cases split
  obtain ⟨v, isValue, read⟩ := parse_eq_ok parsed
  have fits : config.Fits 125 := fits_of_within (Json.within_of_parse isValue) read
  have integers : config.Integral := integral_of_value (integral v isValue) read
  unfold partition at partitioned
  split at partitioned
  · cases partitioned
  · cases partitioned
    refine ⟨config, parsed, by simp, ?_⟩
    intro i document isDocument
    rw [List.map_map, List.getElem?_map] at isDocument
    obtain ⟨entry, isEntry, rfl⟩ := Option.map_eq_some_iff.mp isDocument
    have member := List.mem_of_getElem? isEntry
    have parsedDocument := parse_compactText (fits.withEntry member) (integers.withEntry member)
    refine ⟨entry, isEntry, parsedDocument, ?_⟩
    simp only [Function.comp_apply, splitText, parsedDocument]
    rfl

/-- A text with two entries, a negative number and an escaped character among them. -/
theorem splitText_documents_two_entries :
    let text := "\x7b\"@type\":\"t\",\"dht\":\x7b\x7d," ++
      "\"liteservers\":[\x7b\"port\":-7\x7d,\"\\u0001\"],\"validator\":\x7b\x7d\x7d"
    let first := "\x7b\"@type\":\"t\",\"dht\":\x7b\x7d," ++
      "\"liteservers\":[\x7b\"port\":-7\x7d],\"validator\":\x7b\x7d\x7d"
    let second := "\x7b\"@type\":\"t\",\"dht\":\x7b\x7d," ++
      "\"liteservers\":[\"\\u0001\"],\"validator\":\x7b\x7d\x7d"
    ∃ config, parse text = .ok config ∧ splitText text = .ok [first, second] ∧
      parse second = .ok (config.withEntry (.text "\x01")) ∧ splitText second = .ok [second] := by
  intro text first second
  let config : NetworkConfig :=
    { directory := [], typeTag := "t", validator := []
      entries := [.object [("port", .ofInt (-7))], .text "\x01"] }
  have fits : config.Fits 125 := by
    refine ⟨.object .nil nofun, .object .nil nofun, ?_⟩
    simp only [config, List.forall_mem_cons]
    refine ⟨.object (List.pairwise_singleton _ _) ?_, .text _, nofun⟩
    exact List.forall_mem_singleton.mpr (.number _)
  have integers : config.Integral := by
    refine ⟨.object nofun, .object nofun, ?_⟩
    simp only [config, List.forall_mem_cons]
    refine ⟨.object (List.forall_mem_singleton.mpr ?_), .text _, nofun⟩
    exact .integer (-7) (by decide)
  have isText : config.toValue.compactText = text := by decide +kernel
  have areDocuments : config.entries.map (fun entry => (config.withEntry entry).toValue.compactText) =
      [first, second] := by decide +kernel
  have isValue : Json.parse text = .ok config.toValue := by
    rw [← isText]
    exact Json.parse_compactText fits.toValue integers.toValue
  have integral : ∀ v, Json.parse text = .ok v → v.Integral := by
    intro v read
    rw [isValue] at read
    cases read
    exact integers.toValue
  have split : splitText text = .ok [first, second] := by
    rw [← areDocuments, splitText, parse_document isValue]
    rfl
  obtain ⟨same, parsed, -, each⟩ := splitText_documents split integral
  cases parsed.symm.trans (parse_document isValue)
  obtain ⟨entry, isEntry, parsedSecond, splitSecond⟩ := each 1 second rfl
  cases isEntry
  exact ⟨config, parsed, split, parsedSecond, splitSecond⟩

end LiteserverFleet.NetworkConfig
