/-!
UTF-8. Bytes are cut into units, each a character or an ill-formed part, where an ill-formed part
is as long as a beginning of some character allows. Strict reading refuses ill-formed parts; lenient
reading puts the replacement character for each.
-/
namespace ListingPanel.Text.Utf8

def encode (s : String) : List UInt8 := s.toUTF8.toList

/-- A character that has begun: how many bytes it still needs, the range of the next one, and the
bits so far. -/
structure Partial where
  owed : Nat
  low : UInt8
  high : UInt8
  bits : Nat

/-- What a byte does between two characters. -/
inductive Lead where
  | char (c : Char)
  | opens (p : Partial)
  | stray

def lead (b : UInt8) : Lead :=
  let n := b.toNat
  if n ≤ 0x7F then .char (Char.ofNat n)
  else if n < 0xC2 then .stray
  else if n ≤ 0xDF then .opens ⟨1, 0x80, 0xBF, n % 32⟩
  else if n = 0xE0 then .opens ⟨2, 0xA0, 0xBF, 0⟩
  else if n = 0xED then .opens ⟨2, 0x80, 0x9F, 0xD⟩
  else if n ≤ 0xEF then .opens ⟨2, 0x80, 0xBF, n % 16⟩
  else if n = 0xF0 then .opens ⟨3, 0x90, 0xBF, 0⟩
  else if n ≤ 0xF3 then .opens ⟨3, 0x80, 0xBF, n % 8⟩
  else if n = 0xF4 then .opens ⟨3, 0x80, 0x8F, 4⟩
  else .stray

mutual

/-- The units of `bs`, between two characters. -/
def units (bs : List UInt8) : List (Option Char) :=
  match bs with
  | [] => []
  | b :: r =>
    match lead b with
    | .char c => some c :: units r
    | .opens p => unitsWithin p r
    | .stray => none :: units r
termination_by (bs.length, 0)

/-- The units of `bs` after the beginning `p` of a character. -/
def unitsWithin (p : Partial) (bs : List UInt8) : List (Option Char) :=
  match bs with
  | [] => [none]
  | b :: r =>
    if p.low ≤ b && b ≤ p.high then
      let bits := 64 * p.bits + b.toNat % 64
      if p.owed ≤ 1 then some (Char.ofNat bits) :: units r
      else unitsWithin ⟨p.owed - 1, 0x80, 0xBF, bits⟩ r
    else none :: units (b :: r)
termination_by (bs.length, 1)

end

/-- The text that `bs` encodes, if they are well-formed. -/
def decode? (bs : List UInt8) : Option String :=
  ((units bs).mapM id).map String.ofList

/-- The text of `bs`, with U+FFFD for each ill-formed part. -/
def decodeLossy (bs : List UInt8) : String :=
  String.ofList ((units bs).map (·.getD '\uFFFD'))

end ListingPanel.Text.Utf8
