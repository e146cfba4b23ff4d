import ListingPanel.Json.Skip

/-!
Reading JSON values of wanted types. A value of another type is described as far as it has to be
read for that.
-/
namespace ListingPanel.Json

/-- Reports the value ahead, which is not the `expected` one. -/
def mismatch {α : Type} (expected : String) : Reader α := do
  match ← peek with
  | some 'n' => word "null".toList; throw (.wrongType .null expected)
  | some 't' => word "true".toList; throw (.wrongType (.bool true) expected)
  | some 'f' => word "false".toList; throw (.wrongType (.bool false) expected)
  | some '-' => advance; throw (.wrongType (.number (← number true)) expected)
  | some '"' => advance; throw (.wrongType (.string (← stringBody)) expected)
  | some '[' => throw (.wrongType .sequence expected)
  | some '\x7b' => throw (.wrongType .map expected)
  | some c =>
    if c.isDigit then throw (.wrongType (.number (← number false)) expected)
    else throw .noValue
  | none => throw .noValue

/-- A number from 0 to `limit`. -/
def natural (limit : Nat) (expected : String) : Reader Nat := do
  let n ← match ← peek with
    | none => throw .endInValue
    | some '-' => advance; number true
    | some c => if c.isDigit then number false else mismatch expected
  match n with
  | .natural m => if m ≤ limit then return m else throw (.wrongValue (.number n) expected)
  | .negative _ => throw (.wrongValue (.number n) expected)
  | .real .. => throw (.wrongType (.number n) expected)

def boolean : Reader Bool := do
  match ← peek with
  | none => throw .endInValue
  | some 't' => word "true".toList; return true
  | some 'f' => word "false".toList; return false
  | some _ => mismatch "a boolean"

def string (expected : String) : Reader String := do
  match ← peek with
  | none => throw .endInValue
  | some '"' => advance; stringBody
  | some _ => mismatch expected

def optional {α : Type} (value : Reader α) : Reader (Option α) := do
  match ← peek with
  | some 'n' => word "null".toList; return none
  | _ => some <$> value

/-! ### Arrays -/

/-- Whether another item is ahead. It is `first` if it follows the opening bracket. -/
def itemAhead (first : Bool) : Reader Bool := do
  match ← peek with
  | none => throw .endInList
  | some ']' => return false
  | some c =>
    if first then return true
    else if c = ',' then
      advance
      match ← peek with
      | some ']' => throw .trailingComma
      | some _ => return true
      | none => throw .endInValue
    else throw .noListSeparator

/-- Reads the end of an array of which no further item is wanted. -/
def closeArray : Reader Unit := do
  match ← peek with
  | some ']' => advance
  | some ',' =>
    advance
    match ← peek with
    | some ']' => throw .trailingComma
    | _ => throw .trailingCharacters
  | some _ => throw .trailingCharacters
  | none => throw .endInList

/-- Items up to the end of an array. Each takes a character, so the length of the text is enough
fuel. -/
def itemsWith {α : Type} (item : Reader α) : Nat → Bool → Reader (List α)
  | 0, _ => throw .noValue
  | fuel + 1, first => do
    if ← itemAhead first then
      let a ← item
      let as ← itemsWith item fuel false
      return a :: as
    else return []

def array {α : Type} (item : Reader α) : Reader (List α) := do
  match ← peek with
  | none => throw .endInValue
  | some '[' =>
    advance
    let items ← itemsWith item ((← get).length + 1) true
    closeArray
    return items
  | some _ => mismatch "a sequence"

/-- `count` items, the first of which has number `start`. -/
def exactlyFrom {α : Type} (item : Reader α) (expected : String) (start : Nat) :
    Nat → Reader (List α)
  | 0 => return []
  | count + 1 => do
    if ← itemAhead (start = 0) then
      let a ← item
      let as ← exactlyFrom item expected (start + 1) count
      return a :: as
    else throw (.wrongLength start expected)

def exactly {α : Type} (count : Nat) (item : Reader α) : Reader (List α) := do
  let expected := "an array of length " ++ toString count
  match ← peek with
  | none => throw .endInValue
  | some '[' =>
    advance
    let items ← exactlyFrom item expected 0 count
    closeArray
    return items
  | some _ => mismatch expected

/-! ### Records -/

/-- A field of a record of which `σ` holds what has been read. -/
structure RecordField (σ : Type) where
  name : String
  isSet : σ → Bool
  read : σ → Reader σ

def memberAhead (first : Bool) : Reader Bool := do
  match ← peek with
  | none => throw .endInObject
  | some '\x7d' => return false
  | some c =>
    if first then
      if c = '"' then return true else throw .keyNotString
    else if c = ',' then
      advance
      match ← peek with
      | some '"' => return true
      | some '\x7d' => throw .trailingComma
      | some _ => throw .keyNotString
      | none => throw .endInValue
    else throw .noObjectSeparator

/-- Members up to the end of an object. Unknown ones are passed over, and no field may be given
twice. -/
def membersWith {σ : Type} (fields : List (RecordField σ)) : Nat → Bool → σ → Reader σ
  | 0, _, _ => throw .noValue
  | fuel + 1, first, s => do
    if ← memberAhead first then
      advance
      let key ← stringBody
      match fields.find? (·.name = key) with
      | some f =>
        if f.isSet s then throw (.repeatedField f.name)
        colon
        membersWith fields fuel false (← f.read s)
      | none =>
        colon
        skipValue
        membersWith fields fuel false s
    else return s

/-- Fields in order of declaration, as far as the items of an array reach. -/
def positional {σ : Type} (first : Bool) : List (RecordField σ) → σ → Reader σ
  | [], s => return s
  | f :: fs, s => do
    if ← itemAhead first then positional false fs (← f.read s) else return s

/-- A record: an object, or an array of its fields. -/
def record {σ : Type} (expected : String) (fields : List (RecordField σ)) (start : σ) :
    Reader σ := do
  match ← peek with
  | none => throw .endInValue
  | some '[' =>
    advance
    let s ← positional true fields start
    closeArray
    return s
  | some '\x7b' =>
    advance
    let s ← membersWith fields ((← get).length + 1) true start
    advance
    return s
  | some _ => mismatch expected

def readText {α : Type} (value : Reader α) (text : List Char) : Except Fault α := do
  let (a, rest) ← value.run text
  match rest.dropWhile isSpace with
  | [] => return a
  | _ => throw .trailingCharacters

end ListingPanel.Json
