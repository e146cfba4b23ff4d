import ListingPanel.Proofs.Json.Printing
import Mathlib.Data.List.Pairwise
import Mathlib.Data.Rat.Cast.Order

/-!
JSON schemas, as far as the schema of the configuration uses them: which documents meet one.
-/
namespace ListingPanel.Json

/-! ### Numbers -/

/-- The power of ten that an exponent stands for. -/
def exponentOf : List Char → ℤ
  | _ :: '-' :: ds => -(Nat.ofDigitChars 10 ds 0 : ℤ)
  | _ :: '+' :: ds => Nat.ofDigitChars 10 ds 0
  | _ :: ds => Nat.ofDigitChars 10 ds 0
  | [] => 0

/-- The number that a text of a number stands for. -/
def numberOf (t : List Char) : ℚ :=
  let sign : ℚ := if t.head? = some '-' then -1 else 1
  let unsigned := t.dropWhile (· = '-')
  let whole := unsigned.takeWhile (·.isDigit)
  let rest := unsigned.dropWhile (·.isDigit)
  let fraction := (rest.drop 1).takeWhile (·.isDigit)
  if rest.head? = some '.' then
    sign * Nat.ofDigitChars 10 (whole ++ fraction) 0 *
      10 ^ (exponentOf ((rest.drop 1).dropWhile (·.isDigit)) - fraction.length)
  else sign * Nat.ofDigitChars 10 whole 0 * 10 ^ exponentOf rest

def IsNumber (d : Document) (q : ℚ) : Prop := ∃ t, NumberText t ∧ d = .scalar t ∧ q = numberOf t

theorem numberOf_toDigits (n : ℕ) : numberOf (Nat.toDigits 10 n) = n := by
  obtain ⟨c, ds, hs, hc⟩ := Text.toDigits_eq_cons n
  have hminus : c ≠ '-' := by
    rintro rfl
    exact absurd hc (by decide)
  have hall : ∀ d ∈ c :: ds, d.isDigit = true := fun d hd =>
    Text.isDigit_of_mem_toDigits (n := n) (hs ▸ hd)
  have hdrop : (c :: ds).dropWhile (·.isDigit) = [] := List.dropWhile_eq_nil_iff.mpr hall
  have htake : (c :: ds).takeWhile (·.isDigit) = c :: ds := List.takeWhile_eq_self_iff.mpr hall
  have hsign : (c :: ds).dropWhile (· = '-') = c :: ds :=
    List.dropWhile_cons_of_neg (by simpa using hminus)
  have hvalue : Nat.ofDigitChars 10 (c :: ds) 0 = n := by rw [← hs, Nat.ofDigitChars_ten_toDigits]
  rw [hs]
  simp [numberOf, hsign, htake, hdrop, hminus, hvalue, exponentOf]

theorem isNumber_natural {n : ℕ} {q : ℚ} :
    IsNumber (.scalar (Nat.toDigits 10 n)) q ↔ q = n := by
  constructor
  · rintro ⟨t, -, ht, rfl⟩
    cases ht
    exact numberOf_toDigits n
  · rintro rfl
    exact ⟨_, numberText_toDigits n, rfl, (numberOf_toDigits n).symm⟩

/-! ### Meeting a schema -/

def keyword? (s : Value) (name : String) : Option Value :=
  match s with
  | .object ms => ms.lookup name
  | _ => none

/-- The names that stand for types, one or more. -/
def typeNames : Value → List String
  | .string name => [name]
  | .array vs => vs.filterMap fun v =>
    match v with
    | .string name => some name
    | _ => none
  | _ => []

def OfType (name : String) (d : Document) : Prop :=
  match name with
  | "null" => d = null
  | "boolean" => ∃ b, IsBoolean d b
  | "integer" => ∃ n : ℤ, IsNumber d n
  | "string" => ∃ s, IsString d s
  | "array" => ∃ ds, d = .array ds
  | "object" => ∃ ms, d = .object ms
  | _ => False

/-- The schema that a reference stands for, among the definitions of `root`. -/
def definition? (root reference : Value) : Option Value :=
  match keyword? root "$defs", reference with
  | some (.object ms), .string r => (ms.find? fun m => "#/$defs/" ++ m.1 = r).map (·.2)
  | _, _ => none

/-- The keywords that a document may fail. The others only describe. -/
def assertions : List String :=
  ["type", "minimum", "maximum", "minItems", "maxItems", "items", "properties", "$ref"]

/-- The document meets the schema `s`, whose references are to definitions of `root`. -/
inductive Meets (root : Value) : Value → Document → Prop
  | intro {s : Value} {d : Document}
    (type : ∀ t, keyword? s "type" = some t → ∃ name ∈ typeNames t, OfType name d)
    (minimum : ∀ (n : ℕ) (q : ℚ), keyword? s "minimum" = some (.natural n) → IsNumber d q → n ≤ q)
    (maximum : ∀ (n : ℕ) (q : ℚ), keyword? s "maximum" = some (.natural n) → IsNumber d q → q ≤ n)
    (minItems : ∀ n ds, keyword? s "minItems" = some (.natural n) → d = .array ds → n ≤ ds.length)
    (maxItems : ∀ n ds, keyword? s "maxItems" = some (.natural n) → d = .array ds → ds.length ≤ n)
    (items : ∀ i ds, keyword? s "items" = some i → d = .array ds → ∀ x ∈ ds, Meets root i x)
    (properties : ∀ ps ms, keyword? s "properties" = some (.object ps) → d = .object ms →
      ∀ p ∈ ps, ∀ x, Member ms p.1 x → Meets root p.2 x)
    (resolves : ∀ r, keyword? s "$ref" = some r → ∃ s', definition? root r = some s')
    (reference : ∀ r s', keyword? s "$ref" = some r → definition? root r = some s' →
      Meets root s' d) :
    Meets root s d

variable {root s s' : Value} {d : Document}

theorem Meets.congr (h : ∀ k ∈ assertions, keyword? s k = keyword? s' k) (hm : Meets root s d) :
    Meets root s' d := by
  simp only [assertions, List.forall_mem_cons] at h
  obtain ⟨htype, hmin, hmax, hleast, hmost, hitems, hprops, href, -⟩ := h
  obtain ⟨type, minimum, maximum, minItems, maxItems, items, properties, resolves, reference⟩ := hm
  rw [htype] at type
  rw [hmin] at minimum
  rw [hmax] at maximum
  rw [hleast] at minItems
  rw [hmost] at maxItems
  simp only [hitems] at items
  simp only [hprops] at properties
  rw [href] at resolves
  simp only [href] at reference
  exact ⟨type, minimum, maximum, minItems, maxItems, items, properties, resolves, reference⟩

theorem Meets.ofType {name : String} (h : Meets root s d)
    (hs : keyword? s "type" = some (.string name)) : OfType name d := by
  obtain ⟨type, -⟩ := h
  obtain ⟨name', hname, h⟩ := type _ hs
  obtain rfl := List.mem_singleton.mp hname
  exact h

/-- What only describes may stand before and after what asserts. -/
theorem meets_append_iff (before ms after : List (String × Value))
    (h : ∀ m ∈ before ++ after, m.1 ∉ assertions) :
    Meets root (.object (before ++ ms ++ after)) d ↔ Meets root (.object ms) d := by
  have hnone : ∀ k ∈ assertions, ∀ ns : List (String × Value), (∀ m ∈ ns, m.1 ∉ assertions) →
      ns.lookup k = none := fun k hk ns hns =>
    List.lookup_eq_none_iff.mpr fun m hm => by
      simpa using fun heq : k = m.1 => hns m hm (heq ▸ hk)
  have hsame : ∀ k ∈ assertions,
      keyword? (.object (before ++ ms ++ after)) k = keyword? (.object ms) k := fun k hk => by
    simp only [keyword?, List.lookup_append,
      hnone k hk before fun m hm => h m (List.mem_append_left _ hm),
      hnone k hk after fun m hm => h m (List.mem_append_right _ hm), Option.none_or, Option.or_none]
  exact ⟨.congr hsame, .congr fun k hk => (hsame k hk).symm⟩

/-! ### Documents that readers and schemas see in the same way -/

/-- Numbers need neither a sign nor a fraction nor an exponent, and fit a word. Members have names,
and no two of an object have the same one. -/
inductive Document.Plain : Document → Prop
  | scalar {t : List Char} (h : ∀ q, IsNumber (.scalar t) q →
      ∃ n, IsNatural Text.maxWord (.scalar t) n) : Plain (.scalar t)
  | array {ds : List Document} (h : ∀ d ∈ ds, Plain d) : Plain (.array ds)
  | object {ms : List (List Char × Document)}
    (names : ∀ m ∈ ms, ∃ k : String, Spells m.1 k.toList)
    (distinct : ms.Pairwise fun m m' => ∀ k : String, Spells m.1 k.toList → ¬ Spells m'.1 k.toList)
    (h : ∀ m ∈ ms, Plain m.2) : Plain (.object ms)

namespace Document.Plain

variable {ms : List (List Char × Document)} {names : List String} {x : Document}

theorem isRecord (h : (Document.object ms).Plain) : (Document.object ms).IsRecord names := by
  cases h with
  | object hnames hdistinct => exact ⟨hnames, hdistinct.imp fun h k _ => h k⟩

theorem member {name : String} (h : (Document.object ms).Plain) (hx : Member ms name x) :
    x.Plain := by
  obtain ⟨t, -, hmem⟩ := hx
  cases h with
  | object _ _ h => exact h (t, x) hmem

theorem member_unique {name : String} {y : Document} (h : (Document.object ms).Plain)
    (hx : Member ms name x) (hy : Member ms name y) : x = y := by
  obtain ⟨t, ht, hmem⟩ := hx
  obtain ⟨u, hu, hmem'⟩ := hy
  by_contra hne
  cases h with
  | object _ hdistinct =>
    have : Std.Symm fun m m' : List Char × Document =>
        ∀ k : String, Spells m.1 k.toList → ¬ Spells m'.1 k.toList :=
      ⟨fun m m' h k hk' hk => h k hk hk'⟩
    have hpair : (t, x) ≠ (u, y) := fun heq => hne (congrArg Prod.snd heq)
    exact hdistinct.forall hmem hmem' hpair name ht hu

theorem item {ds : List Document} (h : (Document.array ds).Plain) (hx : x ∈ ds) : x.Plain := by
  cases h with
  | array h => exact h x hx

theorem natural {q : ℚ} (h : d.Plain) (hq : IsNumber d q) :
    ∃ n : ℕ, IsNatural Text.maxWord d n ∧ q = n := by
  obtain ⟨t, ht, rfl, rfl⟩ := hq
  cases h with
  | scalar h =>
    obtain ⟨n, hn⟩ := h _ ⟨t, ht, rfl, rfl⟩
    refine ⟨n, hn, ?_⟩
    cases hn.1
    exact numberOf_toDigits n

end Document.Plain

/-- The schema says of plain documents which ones have a value. -/
structure Describes {α : Type} (root s : Value) (R : Document → α → Prop) : Prop where
  meets {d : Document} {a : α} (h : R d a) : Meets root s d
  exists_of_meets {d : Document} (hp : d.Plain) (h : Meets root s d) : ∃ a, R d a

/-- The same documents meet another schema, and there are values in another sense for those that
have values. -/
theorem Describes.congr {α β : Type} {R : Document → α → Prop} {R' : Document → β → Prop}
    (h : Describes root s R) (hs : ∀ d, Meets root s' d ↔ Meets root s d)
    (hR : ∀ d, (∃ a, R d a) ↔ ∃ b, R' d b) : Describes root s' R' where
  meets hb := by
    obtain ⟨a, ha⟩ := (hR _).mpr ⟨_, hb⟩
    exact (hs _).mpr (h.meets ha)
  exists_of_meets hp hm := (hR _).mp (h.exists_of_meets hp ((hs _).mp hm))

theorem meets_type_iff {t : Value} :
    Meets root (.object [("type", t)]) d ↔ ∃ name ∈ typeNames t, OfType name d := by
  constructor
  · rintro ⟨type, -⟩
    exact type t rfl
  · intro h
    refine .intro ?_ ?_ ?_ ?_ ?_ ?_ ?_ ?_ ?_ <;> simp [keyword?, List.lookup_cons, h]

theorem meets_array_iff {i : Value} :
    Meets root (.object [("type", .string "array"), ("items", i)]) d ↔
      ∃ ds, d = .array ds ∧ ∀ x ∈ ds, Meets root i x := by
  constructor
  · intro h
    obtain ⟨ds, rfl⟩ := h.ofType rfl
    obtain ⟨-, -, -, -, -, items, -⟩ := h
    exact ⟨ds, rfl, items i ds rfl rfl⟩
  · rintro ⟨ds, rfl, h⟩
    refine .intro ?_ ?_ ?_ ?_ ?_ ?_ ?_ ?_ ?_ <;>
      simp [keyword?, List.lookup_cons, typeNames, OfType]
    exact h

theorem meets_array_length_iff {i : Value} {n : Nat} :
    Meets root (.object [("type", .string "array"), ("items", i), ("minItems", .natural n),
      ("maxItems", .natural n)]) d ↔
        ∃ ds, d = .array ds ∧ ds.length = n ∧ ∀ x ∈ ds, Meets root i x := by
  constructor
  · intro h
    obtain ⟨ds, rfl⟩ := h.ofType rfl
    obtain ⟨-, -, -, minItems, maxItems, items, -⟩ := h
    have hlen : ds.length = n :=
      Nat.le_antisymm (maxItems n ds rfl rfl) (minItems n ds rfl rfl)
    exact ⟨ds, rfl, hlen, items i ds rfl rfl⟩
  · rintro ⟨ds, rfl, rfl, h⟩
    refine .intro ?_ ?_ ?_ ?_ ?_ ?_ ?_ ?_ ?_ <;>
      simp [keyword?, List.lookup_cons, typeNames, OfType]
    exact h

theorem meets_object_iff {ps : List (String × Value)} :
    Meets root (.object [("type", .string "object"), ("properties", .object ps)]) d ↔
      ∃ ms, d = .object ms ∧ ∀ p ∈ ps, ∀ x, Member ms p.1 x → Meets root p.2 x := by
  constructor
  · intro h
    obtain ⟨ms, rfl⟩ := h.ofType rfl
    obtain ⟨-, -, -, -, -, -, properties, -⟩ := h
    exact ⟨ms, rfl, properties ps ms rfl rfl⟩
  · rintro ⟨ms, rfl, h⟩
    refine .intro ?_ ?_ ?_ ?_ ?_ ?_ ?_ ?_ ?_ <;>
      simp [keyword?, List.lookup_cons, typeNames, OfType]
    simpa using h

theorem meets_reference_iff {r : Value} :
    Meets root (.object [("$ref", r)]) d ↔
      ∃ s', definition? root r = some s' ∧ Meets root s' d := by
  constructor
  · rintro ⟨-, -, -, -, -, -, -, resolves, reference⟩
    obtain ⟨s', hs⟩ := resolves r rfl
    exact ⟨s', hs, reference r s' rfl hs⟩
  · rintro ⟨s', hs, h⟩
    refine .intro ?_ ?_ ?_ ?_ ?_ ?_ ?_ ?_ ?_ <;> simp [keyword?, List.lookup_cons, hs]
    rintro _ s'' rfl hs''
    exact Option.some.inj (hs.symm.trans hs'') ▸ h

theorem exists_of_mem_of_forall₂ {α β : Type*} {R : α → β → Prop} {as : List α} {bs : List β}
    {a : α} (h : List.Forall₂ R as bs) (ha : a ∈ as) : ∃ b ∈ bs, R a b := by
  induction h with
  | nil => cases ha
  | cons hab _ ih =>
    rcases List.mem_cons.mp ha with rfl | ha
    · exact ⟨_, List.mem_cons_self, hab⟩
    · obtain ⟨b, hb, hR⟩ := ih ha
      exact ⟨b, List.mem_cons_of_mem _ hb, hR⟩

theorem exists_forall₂ {α β : Type*} {R : α → β → Prop} {as : List α}
    (h : ∀ a ∈ as, ∃ b, R a b) : ∃ bs, List.Forall₂ R as bs := by
  induction as with
  | nil => exact ⟨[], .nil⟩
  | cons a as ih =>
    obtain ⟨hb, hbs⟩ := List.forall_mem_cons.mp h
    obtain ⟨⟨b, hb⟩, bs, hbs⟩ := And.intro hb (ih hbs)
    exact ⟨b :: bs, .cons hb hbs⟩

/-- Arrays of what a schema describes, where the schema of the array may bound the length. -/
theorem Describes.array {α : Type} {R : Document → α → Prop} {i : Value} {P : Nat → Prop}
    (h : Describes root i R) (hs : ∀ d, Meets root s d ↔
      ∃ ds, d = .array ds ∧ P ds.length ∧ ∀ x ∈ ds, Meets root i x) :
    Describes root s fun d as => ∃ ds, d = .array ds ∧ P ds.length ∧ List.Forall₂ R ds as where
  meets := by
    rintro _ as ⟨ds, rfl, hlen, has⟩
    refine (hs _).mpr ⟨ds, rfl, hlen, fun x hx => ?_⟩
    obtain ⟨a, -, ha⟩ := exists_of_mem_of_forall₂ has hx
    exact h.meets ha
  exists_of_meets := by
    intro d hp hm
    obtain ⟨ds, rfl, hlen, hds⟩ := (hs d).mp hm
    obtain ⟨as, has⟩ := exists_forall₂ fun x hx => h.exists_of_meets (hp.item hx) (hds x hx)
    exact ⟨as, ds, rfl, hlen, has⟩

/-! ### Records -/

namespace Plan

variable {σ γ : Type} {S : Plan σ γ}

/-- The slots can be given any values. -/
theorem exists_given (S : Plan σ γ) (w : ∀ p : Slot σ γ, Option p.Value) :
    ∃ s, ∀ p ∈ S.slots, p.given s = w p := by
  suffices h : ∀ ps ⊆ S.slots, (ps.map (·.name)).Nodup → ∃ s, (∀ p ∈ ps, p.given s = w p) ∧
      ∀ p ∈ S.slots, p.name ∉ ps.map (·.name) → p.given s = none by
    obtain ⟨s, hs, -⟩ := h S.slots (List.Subset.refl _) S.nodup
    exact ⟨s, hs⟩
  intro ps hps hnodup
  induction ps with
  | nil => exact ⟨S.start, List.forall_mem_nil _, fun p hp _ => S.given_start p hp⟩
  | cons q ps ih =>
    obtain ⟨hq, hps⟩ := List.cons_subset.mp hps
    obtain ⟨hnot, hnodup⟩ := List.nodup_cons.mp hnodup
    obtain ⟨s, hs, hfree⟩ := ih hps hnodup
    cases hw : w q with
    | none =>
      refine ⟨s, List.forall_mem_cons.mpr ⟨(hfree q hq hnot).trans hw.symm, hs⟩, ?_⟩
      exact fun p hp hname => hfree p hp fun hmem => hname (List.mem_cons_of_mem _ hmem)
    | some v =>
      have hkeep : ∀ p ∈ S.slots, p.name ≠ q.name → p.given (q.give s v) = p.given s :=
        fun p hp hne => S.given_give_of_ne p hp q hq hne s v
      refine ⟨q.give s v, List.forall_mem_cons.mpr ⟨?_, fun p hp => ?_⟩, fun p hp hname => ?_⟩
      · rw [S.given_give q hq, hw]
      · have hne : p.name ≠ q.name := fun heq => hnot (List.mem_map.mpr ⟨p, hp, heq⟩)
        rw [hkeep p (hps hp) hne, hs p hp]
      · obtain ⟨hne, hname⟩ := not_or.mp (mt List.mem_cons.mpr hname)
        rw [hkeep p hp hne, hfree p hp hname]

/-- A record is meant by a plain object in which each field has a value. -/
theorem exists_means {ms : List (List Char × Document)} (hp : (Document.object ms).Plain)
    (h : ∀ p ∈ S.slots, ∀ x, Member ms p.name x → ∃ v, p.Means x v) :
    ∃ c, Record.Means S.fields S.default (.object ms) c := by
  classical
  -- the value of a field that is given, whichever there is
  let w (p : Slot σ γ) : Option p.Value :=
    if hx : ∃ x v, Member ms p.name x ∧ p.Means x v then some hx.choose_spec.choose else none
  obtain ⟨s, hs⟩ := S.exists_given w
  refine ⟨S.build s, means_iff.mpr ⟨hp.isRecord, fun p hmem => ?_⟩⟩
  rw [S.get_build p hmem, hs p hmem]
  refine ⟨fun x hx => ?_, fun hno => ?_⟩
  · obtain ⟨v, hv⟩ := h p hmem x hx
    have hex : ∃ x v, Member ms p.name x ∧ p.Means x v := ⟨x, v, hx, hv⟩
    obtain ⟨hx', hv'⟩ := hex.choose_spec.choose_spec
    rw [show w p = _ from dif_pos hex, Option.getD_some, hp.member_unique hx hx']
    exact hv'
  · rw [show w p = none from dif_neg fun ⟨x, v, hx, _⟩ => hno x hx, Option.getD_none]

/-- The schema of a record describes it, where each field has a schema that describes its values,
those that also pass `P`. Only objects meet it. -/
theorem describes (S : Plan σ γ) {P : String → Document → Prop} {ps : List (String × Value)}
    (h : List.Forall₂ (fun p m => m.1 = p.name ∧
      Describes root m.2 fun x v => P p.name x ∧ p.Means x v) S.slots ps) :
    Describes root (.object [("type", .string "object"), ("properties", .object ps)])
      fun d c => ∃ ms, d = .object ms ∧ (∀ p ∈ S.slots, ∀ x, Member ms p.name x → P p.name x) ∧
        Record.Means S.fields S.default d c where
  meets := by
    rintro _ c ⟨ms, rfl, hP, hmeans⟩
    refine meets_object_iff.mpr ⟨ms, rfl, fun m hm x hx => ?_⟩
    obtain ⟨p, hp, hname, hdescribes⟩ := exists_of_mem_of_forall₂ h.flip hm
    rw [hname] at hx
    exact hdescribes.meets ⟨hP p hp x hx, ((means_iff.mp hmeans).2 p hp).1 x hx⟩
  exists_of_meets := by
    intro d hplain hmeets
    obtain ⟨ms, rfl, hprops⟩ := meets_object_iff.mp hmeets
    have hvalue : ∀ p ∈ S.slots, ∀ x, Member ms p.name x → ∃ v, P p.name x ∧ p.Means x v := by
      intro p hp x hx
      obtain ⟨m, hm, hname, hdescribes⟩ := exists_of_mem_of_forall₂ h hp
      rw [← hname] at hx
      exact hdescribes.exists_of_meets (hplain.member hx) (hprops m hm x hx)
    obtain ⟨c, hc⟩ := exists_means hplain fun p hp x hx => (hvalue p hp x hx).imp fun _ h => h.2
    exact ⟨c, ms, rfl, fun p hp x hx => (hvalue p hp x hx).choose_spec.1, hc⟩

end Plan

end ListingPanel.Json
