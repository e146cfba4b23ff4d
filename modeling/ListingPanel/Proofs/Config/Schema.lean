import ListingPanel.Config.Schema
import ListingPanel.Proofs.Config.Meaning
import ListingPanel.Proofs.Json.Schema

/-!
The schema of configuration files describes the documents that mean a configuration.
-/
namespace ListingPanel

open Json

namespace Config

variable {root default : Value} {description : String} {holds : List (String × Value)}
  {d : Document}

theorem meets_fieldSchema_iff :
    Meets root (fieldSchema description holds default) d ↔ Meets root (.object holds) d :=
  meets_append_iff [("description", .string description)] holds [("default", default)]
    (by simp [assertions])

theorem meets_recordSchema_iff :
    Meets root (recordSchema description holds) d ↔
      Meets root (.object [("type", .string "object"), ("properties", .object holds)]) d :=
  meets_append_iff [("description", .string description)]
    [("type", .string "object"), ("properties", .object holds)] [] (by simp [assertions])

theorem meets_schema_reference_iff {name : String} :
    Meets root (reference description name default) d ↔
      ∃ s, definition? root (.string ("#/$defs/" ++ name)) = some s ∧ Meets root s d :=
  (meets_append_iff [("description", .string description)]
    [("$ref", .string ("#/$defs/" ++ name))] [("default", default)]
    (by simp [assertions])).trans meets_reference_iff

/-! ### Fields -/

theorem describes_optionalPath :
    Describes root (.object optionalPath) (Optional PythonConfig.IsPath) where
  meets := by
    rintro d (_ | p) h
    · exact meets_type_iff.mpr ⟨"null", by simp [typeNames, Value.strings], h⟩
    · exact meets_type_iff.mpr ⟨"string", by simp [typeNames, Value.strings], p.text, h⟩
  exists_of_meets := by
    intro d _ h
    obtain ⟨name, hname, h⟩ := meets_type_iff.mp h
    obtain rfl | rfl : name = "string" ∨ name = "null" := by
      simpa [typeNames, Value.strings] using hname
    · obtain ⟨s, hs⟩ := h
      exact ⟨some ⟨s⟩, hs⟩
    · exact ⟨none, h⟩

theorem meets_type_string_iff {name : String} :
    Meets root (.object (typeOnly name)) d ↔ OfType name d := by
  simp [typeOnly, meets_type_iff, typeNames]

theorem describes_boolean : Describes root (.object (typeOnly "boolean")) IsBoolean where
  meets h := meets_type_string_iff.mpr ⟨_, h⟩
  exists_of_meets _ h := meets_type_string_iff.mp h

theorem describes_string : Describes root (.object (typeOnly "string")) IsString where
  meets h := meets_type_string_iff.mpr ⟨_, h⟩
  exists_of_meets _ h := meets_type_string_iff.mp h

theorem meets_unsigned_iff {format : String} {maximum : Option Nat} :
    Meets root (.object (unsigned format maximum)) d ↔
      (∃ n : ℤ, IsNumber d n) ∧ ∀ q : ℚ, IsNumber d q → 0 ≤ q ∧ ∀ m ∈ maximum, q ≤ m := by
  constructor
  · intro h
    have htype := h.ofType rfl
    obtain ⟨-, least, greatest, -⟩ := h
    refine ⟨htype, fun q hq => ⟨by simpa using least 0 q rfl hq, ?_⟩⟩
    rintro m rfl
    exact greatest m q rfl hq
  · rintro ⟨h, hq⟩
    cases maximum with
    | none =>
      refine .intro ?_ ?_ ?_ ?_ ?_ ?_ ?_ ?_ ?_ <;>
        simp [keyword?, unsigned, List.lookup_cons, typeNames, OfType, h]
      rintro _ q rfl h
      simpa using (hq q h).1
    | some m =>
      refine .intro ?_ ?_ ?_ ?_ ?_ ?_ ?_ ?_ ?_ <;>
        simp [keyword?, unsigned, List.lookup_cons, typeNames, OfType, h]
      · rintro _ q rfl h
        simpa using (hq q h).1
      · rintro _ q rfl h
        exact (hq q h).2 m rfl

theorem describes_unsigned {format : String} {maximum : Option Nat} :
    Describes root (.object (unsigned format maximum))
      fun d n => IsNatural Text.maxWord d n ∧ ∀ m ∈ maximum, n ≤ m where
  meets := by
    rintro d n ⟨⟨rfl, -⟩, hm⟩
    refine meets_unsigned_iff.mpr ⟨⟨n, isNumber_natural.mpr rfl⟩, fun q hq => ?_⟩
    rw [isNumber_natural.mp hq]
    exact ⟨n.cast_nonneg, fun m h => Nat.cast_le.mpr (hm m h)⟩
  exists_of_meets := by
    intro d hp h
    obtain ⟨⟨z, hz⟩, hbound⟩ := meets_unsigned_iff.mp h
    obtain ⟨n, hn, hzn⟩ := hp.natural hz
    refine ⟨n, hn, fun m hm => ?_⟩
    have hle := (hbound _ hz).2 m hm
    rw [hzn] at hle
    exact Nat.cast_le.mp hle

theorem describes_strings :
    Describes root (.object (typeOnly "array" ++ [("items", .object (typeOnly "string"))]))
      PythonConfig.extensionsField.Means :=
  (describes_string.array (P := fun _ => True) fun d => by simp [typeOnly, meets_array_iff]).congr
    (fun _ => Iff.rfl) fun d => by simp [PythonConfig.extensionsField]

/-- Three numbers of a byte each are those of a color. -/
theorem describes_color :
    Describes root (.object (typeOnly "array" ++ [("items", .object (unsigned "uint8" (some 255))),
      ("minItems", .natural 3), ("maxItems", .natural 3)])) PanelConfig.IsColor := by
  refine (describes_unsigned.array (P := (· = 3)) fun d => meets_array_length_iff).congr
    (fun _ => Iff.rfl) fun d => ⟨?_, ?_⟩
  · rintro ⟨ns, ds, rfl, hlen, hns⟩
    have hparts : List.Forall₂ (IsNatural 255) ds ns :=
      hns.imp fun _ n h => ⟨h.1.1, h.2 255 rfl⟩
    obtain ⟨r, g, b, rfl⟩ := List.length_eq_three.mp (hns.length_eq.symm.trans hlen)
    refine ⟨⟨r.toUInt8, g.toUInt8, b.toUInt8⟩, ds, rfl, ?_⟩
    have hback := hparts
    cases hparts with
    | cons hr hparts => cases hparts with
      | cons hg hparts => cases hparts with
        | cons hb _ =>
          rwa [PanelConfig.toNat_toUInt8 hr.2, PanelConfig.toNat_toUInt8 hg.2,
            PanelConfig.toNat_toUInt8 hb.2]
  · rintro ⟨c, ds, rfl, hc⟩
    refine ⟨_, ds, rfl, hc.length_eq, hc.imp fun _ n h => ?_⟩
    exact ⟨⟨h.1, h.2.trans (by decide)⟩, fun m hm => Option.mem_some_iff.mp hm ▸ h.2⟩

/-! ### Records -/

/-- Fields without a condition of their own. -/
theorem Describes.field {α : Type} {R : Document → α → Prop}
    (h : Describes root (.object holds) R) :
    Describes root (fieldSchema description holds default) fun x v => True ∧ R x v :=
  h.congr (fun _ => meets_fieldSchema_iff) fun d => by simp

theorem describes_pythonSchema : Describes root pythonSchema fun d c =>
    (∃ ms, d = .object ms) ∧ PythonConfig.Means d c := by
  refine (PythonConfig.plan.describes (P := fun _ _ => True) (.cons ⟨rfl, ?_⟩ (.cons ⟨rfl, ?_⟩
    (.cons ⟨rfl, ?_⟩ (.cons ⟨rfl, ?_⟩ .nil))))).congr (fun _ => meets_recordSchema_iff) fun d => ?_
  · exact Describes.field describes_optionalPath
  · exact Describes.field (describes_unsigned.congr (fun _ => Iff.rfl) fun d => by
      simp [PythonConfig.timeoutField])
  · exact Describes.field describes_optionalPath
  · exact Describes.field describes_strings
  · exact ⟨fun ⟨c, ms, hd, _, hc⟩ => ⟨c, ⟨ms, hd⟩, hc⟩,
      fun ⟨c, ⟨ms, hd⟩, hc⟩ => ⟨c, ms, hd, fun _ _ _ _ => trivial, hc⟩⟩

theorem describes_panelSchema : Describes root panelSchema fun d c =>
    (∃ ms, d = .object ms) ∧ PanelConfig.Means d c := by
  refine (PanelConfig.plan.describes (P := fun _ _ => True) (.cons ⟨rfl, ?_⟩ (.cons ⟨rfl, ?_⟩
    .nil))).congr (fun _ => meets_recordSchema_iff) fun d => ?_
  · exact Describes.field describes_boolean
  · exact Describes.field describes_color
  · exact ⟨fun ⟨c, ms, hd, _, hc⟩ => ⟨c, ⟨ms, hd⟩, hc⟩,
      fun ⟨c, ⟨ms, hd⟩, hc⟩ => ⟨c, ms, hd, fun _ _ _ _ => trivial, hc⟩⟩

theorem meets_schema_iff : Meets root schema d ↔
    Meets root (.object [("type", .string "object"), ("properties", .object [
      ("python", reference pythonPurpose "PythonConfig" (PythonConfig.toValue {})),
      ("panel", reference panelPurpose "PanelConfig" (PanelConfig.toValue {}))])]) d :=
  meets_append_iff [("$schema", _), ("title", _), ("description", _)]
    [("type", _), ("properties", _)]
    [("$defs", _)] (by simp [assertions])

/-- The document of the configuration and those of the records in it are objects. -/
def InObjects (d : Document) : Prop :=
  ∃ ms, d = .object ms ∧ ∀ p ∈ plan.slots, ∀ x, Member ms p.name x → ∃ ms', x = .object ms'

/-- The schema describes the documents that mean a configuration in the notation of objects. -/
theorem describes_schema : Describes schema schema fun d c => InObjects d ∧ Means d c := by
  have hrecords {s : Value} {name description : String} {default : Value} {α : Type}
      {R : Document → α → Prop} (hs : definition? schema (.string ("#/$defs/" ++ name)) = some s)
      (h : Describes schema s R) : Describes schema (reference description name default) R :=
    h.congr (fun _ => by simp [meets_schema_reference_iff, hs]) fun _ => Iff.rfl
  refine (plan.describes (P := fun _ x => ∃ ms, x = .object ms) (.cons ⟨rfl, ?_⟩ (.cons ⟨rfl, ?_⟩
    .nil))).congr (fun _ => meets_schema_iff) fun d => ?_
  · exact hrecords rfl describes_pythonSchema
  · exact hrecords rfl describes_panelSchema
  · exact ⟨fun ⟨c, ms, hd, hms, hc⟩ => ⟨c, ⟨ms, hd, hms⟩, hc⟩,
      fun ⟨c, ⟨ms, hd, hms⟩, hc⟩ => ⟨c, ms, hd, hms, hc⟩⟩

/-- What loads meets the schema, unless it writes a record as an array. -/
theorem meets_schema_of_ofText {text : String} {c : Config} (hd : d.Laid text.toList)
    (ho : InObjects d) (h : ofText text = .ok c) : Meets schema schema d := by
  obtain ⟨-, d', hd', hc⟩ := ofText_eq_ok_iff.mp h
  rw [hd'.unique hd] at hc
  exact describes_schema.meets ⟨ho, hc⟩

/-- A plain document that meets the schema is read. Its configuration is loaded if it leaves some
time for a listing, which the schema does not ask for. -/
theorem ofText_of_meets_schema {text : String} (hd : d.Laid text.toList) (hp : d.Plain)
    (h : Meets schema schema d) : ∃ c, Means d c ∧
      ofText text = if c.python.timeoutMs = 0 then .error .invalid else .ok c := by
  obtain ⟨c, -, hc⟩ := describes_schema.exists_of_meets hp h
  refine ⟨c, hc, ?_⟩
  rw [ofText, takes_reader.readText_eq_ok_iff.mpr ⟨d, hd, hc⟩]
  simp [isValid]

theorem inObjects_toValue (c : Config) : InObjects c.toValue.document := by
  refine ⟨_, rfl, fun p _ x hx => ?_⟩
  obtain ⟨v, hv, rfl⟩ := gives_object.mp (show c.toValue.document.Gives [] p.name x from hx)
  obtain heq | heq := List.mem_pair.mp hv
  · rw [(Prod.mk.inj heq).2]
    exact ⟨_, rfl⟩
  · rw [(Prod.mk.inj heq).2]
    exact ⟨_, rfl⟩

/-- Every configuration is written as the schema has it. -/
theorem meets_schema_toValue {c : Config} (h : c.python.timeoutMs ≤ Text.maxWord) :
    Meets schema schema c.toValue.document :=
  describes_schema.meets ⟨inObjects_toValue c, means_toValue h⟩

/-- If an object meets the schema of a record and consists of the defaults of its fields, these meet
the schemas of the fields. -/
theorem meets_default_of_meets {ms : List (String × Value)}
    (h : Meets root (.object [("type", .string "object"), ("properties", .object holds)])
      (Value.object ms).document)
    (hms : List.Forall₂ (fun p m => m.1 = p.1 ∧ keyword? p.2 "default" = some m.2) holds ms) :
    ∀ p ∈ holds, ∃ v, keyword? p.2 "default" = some v ∧ Meets root p.2 v.document := by
  intro p hp
  obtain ⟨m, hm, hname, hv⟩ := exists_of_mem_of_forall₂ hms hp
  obtain ⟨ds, hds, h⟩ := meets_object_iff.mp h
  cases hds
  have hgives : (Value.object ms).document.Gives [] p.1 m.2.document :=
    gives_object.mpr ⟨m.2, hname ▸ hm, rfl⟩
  exact ⟨m.2, hv, h p hp _ hgives⟩

/-- Each default that the schema gives meets the schema of its field. -/
theorem meets_default : ∀ s ∈ [schema, pythonSchema, panelSchema], ∀ ps,
    keyword? s "properties" = some (.object ps) → ∀ p ∈ ps,
      ∃ v, keyword? p.2 "default" = some v ∧ Meets schema p.2 v.document := by
  have hword : ({} : PythonConfig).timeoutMs ≤ Text.maxWord := by decide
  simp only [List.forall_mem_cons]
  refine ⟨?_, ?_, ?_, List.forall_mem_nil _⟩
  · rintro ps hps
    cases hps
    exact meets_default_of_meets (meets_schema_iff.mp (meets_schema_toValue (c := {}) hword))
      (.cons ⟨rfl, rfl⟩ (.cons ⟨rfl, rfl⟩ .nil))
  · rintro ps hps
    cases hps
    exact meets_default_of_meets (meets_recordSchema_iff.mp
      (describes_pythonSchema.meets ⟨⟨_, rfl⟩, PythonConfig.means_toValue hword⟩))
      (.cons ⟨rfl, rfl⟩ (.cons ⟨rfl, rfl⟩ (.cons ⟨rfl, rfl⟩ (.cons ⟨rfl, rfl⟩ .nil))))
  · rintro ps hps
    cases hps
    exact meets_default_of_meets (meets_recordSchema_iff.mp
      (describes_panelSchema.meets ⟨⟨_, rfl⟩, PanelConfig.means_toValue {}⟩))
      (.cons ⟨rfl, rfl⟩ (.cons ⟨rfl, rfl⟩ .nil))

end Config

end ListingPanel
