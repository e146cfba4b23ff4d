import ListingPanel.Proofs.Json.Token

/-!
JSON documents and their layouts: which texts stand for a document, with any blanks between its
parts. Scalars and the names of members are kept as they are written.
-/
namespace ListingPanel.Json

/-! ### Scalars -/

/-- The number that hexadecimal digits make with `n` before them. -/
def hexValue? (n : Nat) : List Char → Option Nat
  | [] => some n
  | c :: cs => do hexValue? (16 * n + (← hexDigit? c)) cs

/-- What stands between the quotes of a string: characters and escapes. -/
inductive StringText : List Char → Prop
  | nil : StringText []
  | plain {c : Char} {t : List Char} (hq : c ≠ '"') (hb : c ≠ '\\') (hc : ¬ c.toNat < 0x20)
      (h : StringText t) : StringText (c :: t)
  | short {e c : Char} {t : List Char} (he : unescape? e = some c) (h : StringText t) :
      StringText ('\\' :: e :: t)
  | unicode {x₁ x₂ x₃ x₄ : Char} {n : Nat} {t : List Char}
      (hn : hexValue? 0 [x₁, x₂, x₃, x₄] = some n) (h : StringText t) :
      StringText ('\\' :: 'u' :: x₁ :: x₂ :: x₃ :: x₄ :: t)

/-- What stands between the quotes of a string is `t`, and it spells `s`. Surrogates come in
pairs. -/
inductive Spells : List Char → List Char → Prop
  | nil : Spells [] []
  | plain {c : Char} {t s : List Char} (hq : c ≠ '"') (hb : c ≠ '\\') (hc : ¬ c.toNat < 0x20)
      (h : Spells t s) : Spells (c :: t) (c :: s)
  | short {e c : Char} {t s : List Char} (he : unescape? e = some c) (h : Spells t s) :
      Spells ('\\' :: e :: t) (c :: s)
  | unicode {x₁ x₂ x₃ x₄ : Char} {n : Nat} {t s : List Char}
      (hn : hexValue? 0 [x₁, x₂, x₃, x₄] = some n) (hl : isLeading n = false)
      (ht : isTrailing n = false) (h : Spells t s) :
      Spells ('\\' :: 'u' :: x₁ :: x₂ :: x₃ :: x₄ :: t) (Char.ofNat n :: s)
  | pair {x₁ x₂ x₃ x₄ y₁ y₂ y₃ y₄ : Char} {m n : Nat} {t s : List Char}
      (hm : hexValue? 0 [x₁, x₂, x₃, x₄] = some m) (hl : isLeading m = true)
      (hn : hexValue? 0 [y₁, y₂, y₃, y₄] = some n) (ht : isTrailing n = true) (h : Spells t s) :
      Spells ('\\' :: 'u' :: x₁ :: x₂ :: x₃ :: x₄ :: '\\' :: 'u' :: y₁ :: y₂ :: y₃ :: y₄ :: t)
        (Char.ofNat (0x10000 + (m - 0xD800) * 0x400 + (n - 0xDC00)) :: s)

theorem Spells.stringText {t s : List Char} (h : Spells t s) : StringText t := by
  induction h with
  | nil => exact .nil
  | plain hq hb hc _ ih => exact .plain hq hb hc ih
  | short he _ ih => exact .short he ih
  | unicode hn _ _ _ ih => exact .unicode hn ih
  | pair hm _ hn _ _ ih => exact .unicode hm (.unicode hn ih)

/-- Digits, at least one. -/
def Digits (ds : List Char) : Prop := ds ≠ [] ∧ ∀ c ∈ ds, c.isDigit = true

/-- The whole part of a number: digits, of which the first is no zero unless it is the only one. -/
def WholeText (t : List Char) : Prop := t = ['0'] ∨ Digits t ∧ t.head? ≠ some '0'

def FractionText (t : List Char) : Prop := t = [] ∨ ∃ ds, Digits ds ∧ t = '.' :: ds

def ExponentText (t : List Char) : Prop :=
  t = [] ∨ ∃ e sign ds, (e = 'e' ∨ e = 'E') ∧ (sign = [] ∨ sign = ['+'] ∨ sign = ['-']) ∧
    Digits ds ∧ t = e :: (sign ++ ds)

def NumberText (t : List Char) : Prop :=
  ∃ sign w f e, (sign = [] ∨ sign = ['-']) ∧ WholeText w ∧ FractionText f ∧ ExponentText e ∧
    t = sign ++ (w ++ (f ++ e))

inductive ScalarText : List Char → Prop
  | null : ScalarText "null".toList
  | true : ScalarText "true".toList
  | false : ScalarText "false".toList
  | number {t : List Char} (h : NumberText t) : ScalarText t
  | string {t : List Char} (h : StringText t) : ScalarText ('"' :: (t ++ ['"']))

/-! ### Documents -/

/-- A document without its layout. -/
inductive Document where
  | scalar (text : List Char)
  | array (items : List Document)
  | object (members : List (List Char × Document))

/-- What is laid out: a value, or what an array or object goes on with up to its end, where items
and members follow the opening bracket or others. -/
inductive Part where
  | value (d : Document)
  | items (first : Bool) (ds : List Document)
  | members (first : Bool) (ms : List (List Char × Document))

/-- What stands before an item or a member. -/
def separator (first : Bool) : List Char := if first then [] else [',']

/-- `Laid p cs rest`: a layout of `p` is at the front of `cs`, and `rest` is left after it. -/
inductive Laid : Part → List Char → List Char → Prop
  | scalar {sp t rest : List Char} (hs : Blank sp) (h : ScalarText t) :
      Laid (.value (.scalar t)) (sp ++ (t ++ rest)) rest
  | array {sp cs rest : List Char} {ds : List Document} (hs : Blank sp)
      (h : Laid (.items true ds) cs rest) : Laid (.value (.array ds)) (sp ++ '[' :: cs) rest
  | object {sp cs rest : List Char} {ms : List (List Char × Document)} (hs : Blank sp)
      (h : Laid (.members true ms) cs rest) :
      Laid (.value (.object ms)) (sp ++ '\x7b' :: cs) rest
  | noItem {sp rest : List Char} {first : Bool} (hs : Blank sp) :
      Laid (.items first []) (sp ++ ']' :: rest) rest
  | item {sp cs cs' rest : List Char} {first : Bool} {d : Document} {ds : List Document}
      (hs : Blank sp) (h : Laid (.value d) cs cs') (hr : Laid (.items false ds) cs' rest) :
      Laid (.items first (d :: ds)) (sp ++ (separator first ++ cs)) rest
  | noMember {sp rest : List Char} {first : Bool} (hs : Blank sp) :
      Laid (.members first []) (sp ++ '\x7d' :: rest) rest
  | member {sp sp' gap t cs cs' rest : List Char} {first : Bool} {d : Document}
      {ms : List (List Char × Document)} (hs : Blank sp) (hs' : Blank sp') (ht : StringText t)
      (hg : Blank gap) (h : Laid (.value d) cs cs') (hr : Laid (.members false ms) cs' rest) :
      Laid (.members first ((t, d) :: ms))
        (sp ++ (separator first ++ (sp' ++ '"' :: (t ++ '"' :: (gap ++ ':' :: cs))))) rest

/-- The whole text is a layout of the document, up to blanks. -/
def Document.Laid (d : Document) (text : List Char) : Prop :=
  ∃ rest, Json.Laid (.value d) text rest ∧ Blank rest

end ListingPanel.Json
