import ListingPanel.Json.Reader

/-!
Passing over a JSON value that nobody needs. Its text is still checked.
-/
namespace ListingPanel.Json

/-- Passes over the comma ahead. The `first` item or member of a value has none before it. -/
def skipSeparator (first : Bool) (fault : Fault) : Reader Unit := do
  if first then return ()
  else
    match ← get with
    | ',' :: r => set r
    | _ => throw fault

def skipName : Reader Unit := do
  match ← peek with
  | some '"' => advance; skipStringBody
  | some _ => throw .keyNotString
  | none => throw .endInObject

def colon : Reader Unit := do
  match ← peek with
  | some ':' => advance
  | some _ => throw .noColon
  | none => throw .endInObject

mutual

/-- Passes over a value. Of two calls one reads a character, so twice the length of the text is
enough fuel. -/
def skipValueWith : Nat → Reader Unit
  | 0 => throw .noValue
  | fuel + 1 => do
    match ← peek with
    | none => throw .endInValue
    | some 'n' => word "null".toList
    | some 't' => word "true".toList
    | some 'f' => word "false".toList
    | some '-' => advance; skipNumber
    | some '"' => advance; skipStringBody
    | some '[' => advance; skipItemsWith fuel true
    | some '\x7b' => advance; skipMembersWith fuel true
    | some c => if c.isDigit then skipNumber else throw .noValue

/-- Passes over what is left of an array, up to its end. -/
def skipItemsWith : Nat → Bool → Reader Unit
  | 0, _ => throw .noValue
  | fuel + 1, first => do
    match ← peek with
    | none => throw .endInList
    | some ']' => advance
    | some _ =>
      skipSeparator first .noListSeparator
      skipValueWith fuel
      skipItemsWith fuel false

/-- Passes over what is left of an object, up to its end. -/
def skipMembersWith : Nat → Bool → Reader Unit
  | 0, _ => throw .noValue
  | fuel + 1, first => do
    match ← peek with
    | none => throw .endInObject
    | some '\x7d' => advance
    | some _ =>
      skipSeparator first .noObjectSeparator
      skipName
      colon
      skipValueWith fuel
      skipMembersWith fuel false

end

def skipValue : Reader Unit := do
  skipValueWith (2 * (← get).length + 1)

end ListingPanel.Json
