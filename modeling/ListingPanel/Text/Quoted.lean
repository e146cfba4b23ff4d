import ListingPanel.Text.Cluster
import ListingPanel.Text.Quoted.Table

/-!
Texts in double quotes, for messages: characters without a visible form are written as escapes.
-/
namespace ListingPanel.Text.Quoted

open Cluster (within)

def hex (n : Nat) : List Char := Nat.toDigits 16 n

def escape (c : Char) : List Char :=
  if c = '"' || c = '\\' then ['\\', c]
  else if c = '\t' then ['\\', 't']
  else if c = '\n' then ['\\', 'n']
  else if c = '\r' then ['\\', 'r']
  else if c.toNat = 0 then ['\\', '0']
  else if 0x20 ≤ c.toNat && c.toNat < 0x7F then [c]
  else if within unprintableRanges c || within Cluster.extenders c then
    ['\\', 'u', '\x7b'] ++ hex c.toNat ++ ['\x7d']
  else [c]

def quote (s : String) : String :=
  String.ofList ('"' :: (s.toList.flatMap escape ++ ['"']))

end ListingPanel.Text.Quoted
