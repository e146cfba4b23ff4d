import ListingPanel.Proofs.Json.Record

/-!
What is printed of a value is a layout of its document.
-/
namespace ListingPanel.Json

namespace Value

mutual

def document : Value → Document
  | .null => Json.null
  | .bool b => .scalar (if b then "true" else "false").toList
  | .natural n => .scalar (Nat.toDigits 10 n)
  | .string s => .scalar (quote s)
  | .array vs => .array (documents vs)
  | .object ms => .object (memberDocuments ms)

def documents : List Value → List Document
  | [] => []
  | v :: vs => v.document :: documents vs

def memberDocuments : List (String × Value) → List (List Char × Document)
  | [] => []
  | (k, v) :: ms => (k.toList.flatMap escape, v.document) :: memberDocuments ms

end

end Value

open Value

theorem scalarText_quote (s : String) : ScalarText (quote s) :=
  .string (spells_flatMap_escape s.toList).stringText

mutual

theorem laid_pretty (level : Nat) {sp : List Char} (hs : Blank sp) (rest : List Char) :
    ∀ v : Value, Laid (.value v.document) (sp ++ (pretty level v ++ rest)) rest
  | .null => .scalar hs .null
  | .bool true => .scalar hs .true
  | .bool false => .scalar hs .false
  | .natural n => .scalar hs (scalarText_toDigits n)
  | .string s => .scalar hs (scalarText_quote s)
  | .array [] => by
    have hend : Laid (.items true []) (']' :: rest) rest := .noItem blank_nil
    simpa [pretty, document, documents] using Laid.array hs hend
  | .array (v :: vs) => by
    have hvs := laid_prettyItems (level + 1) (blank_newline level) rest vs
    have hitems : Laid (.items true (v.document :: documents vs)) _ rest :=
      .item blank_nil (laid_pretty (level + 1) (blank_newline (level + 1)) _ v) hvs
    simpa [pretty, document, documents, separator] using Laid.array hs hitems
  | .object [] => by
    have hend : Laid (.members true []) ('\x7d' :: rest) rest := .noMember blank_nil
    simpa [pretty, document, memberDocuments] using Laid.object hs hend
  | .object ((k, v) :: ms) => by
    have hms := laid_prettyMembers (level + 1) (blank_newline level) rest ms
    have hk := (spells_flatMap_escape k.toList).stringText
    have hmembers : Laid (.members true ((_, v.document) :: memberDocuments ms)) _ rest :=
      .member blank_nil (blank_newline (level + 1)) hk blank_nil
        (laid_pretty (level + 1) (blank_singleton (c := ' ') rfl) _ v) hms
    simpa [pretty, document, memberDocuments, separator, quote] using Laid.object hs hmembers

theorem laid_prettyItems (level : Nat) {sp : List Char} (hs : Blank sp) (rest : List Char) :
    ∀ vs : List Value,
      Laid (.items false (documents vs)) (prettyItems level vs ++ (sp ++ ']' :: rest)) rest
  | [] => .noItem hs
  | v :: vs => by
    have hvs := laid_prettyItems level hs rest vs
    have hitems : Laid (.items false (v.document :: documents vs)) _ rest :=
      .item blank_nil (laid_pretty level (blank_newline level) _ v) hvs
    simpa [prettyItems, documents, separator] using hitems

theorem laid_prettyMembers (level : Nat) {sp : List Char} (hs : Blank sp) (rest : List Char) :
    ∀ ms : List (String × Value), Laid (.members false (memberDocuments ms))
      (prettyMembers level ms ++ (sp ++ '\x7d' :: rest)) rest
  | [] => .noMember hs
  | (k, v) :: ms => by
    have hms := laid_prettyMembers level hs rest ms
    have hk := (spells_flatMap_escape k.toList).stringText
    have hmembers : Laid (.members false ((_, v.document) :: memberDocuments ms)) _ rest :=
      .member blank_nil (blank_newline level) hk blank_nil
        (laid_pretty level (blank_singleton (c := ' ') rfl) _ v) hms
    simpa [prettyMembers, memberDocuments, separator, quote] using hmembers

end

theorem Value.laid_text (v : Value) {sp : List Char} (hs : Blank sp) :
    v.document.Laid (v.text ++ String.ofList sp).toList := by
  rw [String.toList_append, String.toList_ofList, text, String.toList_ofList]
  exact ⟨sp, laid_pretty 0 blank_nil sp v, hs⟩

/-! ### Printed records -/

theorem memberDocuments_eq (ms : List (String × Value)) :
    memberDocuments ms = ms.map fun m => (m.1.toList.flatMap escape, m.2.document) := by
  induction ms with
  | nil => rw [memberDocuments, List.map_nil]
  | cons m ms ih => rw [memberDocuments, ih, List.map_cons]

theorem documents_eq (vs : List Value) : documents vs = vs.map document := by
  induction vs with
  | nil => rw [documents, List.map_nil]
  | cons v vs ih => rw [documents, ih, List.map_cons]

theorem spells_flatMap_escape_iff {k name : String} :
    Spells (k.toList.flatMap escape) name.toList ↔ name = k := by
  constructor
  · exact fun h => String.toList_inj.mp (h.unique (spells_flatMap_escape k.toList))
  · rintro rfl
    exact spells_flatMap_escape name.toList

variable {γ : Type} {fields : List (DocumentField γ)} {default c : γ} {ms : List (String × Value)}

theorem gives_object {names : List String} {name : String} {x : Document} :
    (object ms).document.Gives names name x ↔ ∃ v, (name, v) ∈ ms ∧ x = v.document := by
  simp only [document, memberDocuments_eq, Document.Gives, Member, List.mem_map, Prod.mk.injEq,
    Prod.exists]
  constructor
  · rintro ⟨t, ht, k, v, hv, rfl, rfl⟩
    obtain rfl := spells_flatMap_escape_iff.mp ht
    exact ⟨v, hv, rfl⟩
  · rintro ⟨v, hv, rfl⟩
    exact ⟨_, spells_flatMap_escape name.toList, name, v, hv, rfl, rfl⟩

theorem isRecord_object {names : List String} (hk : (ms.map Prod.fst).Nodup) :
    (object ms).document.IsRecord names := by
  rw [document, memberDocuments_eq]
  refine ⟨List.forall_mem_map.mpr fun m _ => ⟨m.1, spells_flatMap_escape _⟩, ?_⟩
  rw [List.pairwise_map]
  refine (List.pairwise_map.mp hk).imp fun hne k _ h h' => hne ?_
  rw [← spells_flatMap_escape_iff.mp h, ← spells_flatMap_escape_iff.mp h']

/-- An object means a record if each field has the value of its member, or else its default. -/
theorem Record.means_object (hk : (ms.map Prod.fst).Nodup)
    (h : ∀ f ∈ fields, (∃ v, (f.name, v) ∈ ms ∧ f.Means v.document (f.get c)) ∨
      f.name ∉ ms.map Prod.fst ∧ f.get c = f.get default) :
    Record.Means fields default (object ms).document c := by
  refine ⟨isRecord_object hk, fun f hf => ⟨fun x hx => ?_, fun hno => ?_⟩⟩
  · obtain ⟨w, hw, rfl⟩ := gives_object.mp hx
    rcases h f hf with ⟨v, hv, hmeans⟩ | ⟨habsent, -⟩
    · cases List.inj_on_of_nodup_map hk hv hw rfl
      exact hmeans
    · exact absurd (List.mem_map_of_mem hw) habsent
  · rcases h f hf with ⟨v, hv, -⟩ | ⟨-, hdefault⟩
    · exact absurd (gives_object.mpr ⟨v, hv, rfl⟩) (hno _)
    · exact hdefault

/-- An object that gives every field of a record means it. -/
theorem Record.means_object_of_forall (hk : (ms.map Prod.fst).Nodup)
    (h : ∀ f ∈ fields, ∃ v, (f.name, v) ∈ ms ∧ f.Means v.document (f.get c)) :
    Record.Means fields default (object ms).document c :=
  means_object hk fun f hf => Or.inl (h f hf)

end ListingPanel.Json
