import ListingPanel.Text.Utf8
import Mathlib.Data.List.Basic

/-!
The bytes of a text are read back as the text: each character's bytes make one unit.
-/
namespace ListingPanel.Text.Utf8

theorem units_of_char {b : UInt8} {c : Char} (h : lead b = .char c) (bs : List UInt8) :
    units (b :: bs) = some c :: units bs := by
  rw [units, h]

theorem units_of_opens {b : UInt8} {p : Partial} (h : lead b = .opens p) (bs : List UInt8) :
    units (b :: bs) = unitsWithin p bs := by
  rw [units, h]

/-- A further byte of a character: the six lowest bits of a number. -/
def trailing (n : Nat) : UInt8 := UInt8.ofNat (n % 64 + 128)

theorem toNat_trailing (n : Nat) : (trailing n).toNat = n % 64 + 128 := by
  simp only [trailing, UInt8.toNat_ofNat']
  omega

theorem unitsWithin_trailing {p : Partial} {n : Nat} (hlow : p.low.toNat ≤ n % 64 + 128)
    (hhigh : n % 64 + 128 ≤ p.high.toNat) (bs : List UInt8) :
    unitsWithin p (trailing n :: bs) =
      if p.owed ≤ 1 then some (Char.ofNat (64 * p.bits + n % 64)) :: units bs
      else unitsWithin ⟨p.owed - 1, 0x80, 0xBF, 64 * p.bits + n % 64⟩ bs := by
  have hr : (p.low ≤ trailing n && trailing n ≤ p.high) = true := by
    simp [UInt8.le_iff_toNat_le, toNat_trailing, hlow, hhigh]
  have hb : (trailing n).toNat % 64 = n % 64 := by
    rw [toNat_trailing]
    omega
  rw [unitsWithin]
  simp only [hr, if_true, hb]

/-- The last byte of a character ends its unit. -/
theorem unitsWithin_last (bits n : Nat) (bs : List UInt8) :
    unitsWithin ⟨1, 0x80, 0xBF, bits⟩ (trailing n :: bs) =
      some (Char.ofNat (64 * bits + n % 64)) :: units bs := by
  rw [unitsWithin_trailing (by show 128 ≤ _; omega) (by show _ ≤ 191; omega)]
  rfl

private theorem toNat_ofNat {n : Nat} (h : n < 256) : (UInt8.ofNat n).toNat = n :=
  UInt8.toNat_ofNat_of_lt' h

theorem lead_one {n : Nat} (h : n ≤ 127) : lead (UInt8.ofNat n) = .char (Char.ofNat n) := by
  have hn : (UInt8.ofNat n).toNat = n := toNat_ofNat (by omega)
  simp only [lead, hn]
  rw [if_pos h]

theorem lead_two {n : Nat} (h : 128 ≤ n) (h' : n ≤ 2047) :
    lead (UInt8.ofNat (n / 64 % 32 + 192)) = .opens ⟨1, 0x80, 0xBF, n / 64⟩ := by
  have hn : (UInt8.ofNat (n / 64 % 32 + 192)).toNat = n / 64 + 192 := by
    rw [toNat_ofNat (by omega)]
    omega
  simp only [lead, hn]
  rw [if_neg (by omega), if_neg (by omega), if_pos (by omega)]
  congr 2
  omega

/-- The first of three bytes leaves out the second bytes of shorter forms and of surrogates. -/
theorem lead_three {n : Nat} (h : 2048 ≤ n) (h' : n ≤ 65535)
    (hn : n < 0xD800 ∨ 0xDFFF < n) :
    ∃ low high : UInt8, lead (UInt8.ofNat (n / 4096 % 16 + 224)) =
        .opens ⟨2, low, high, n / 4096⟩ ∧
      low.toNat ≤ n / 64 % 64 + 128 ∧ n / 64 % 64 + 128 ≤ high.toNat := by
  have hb : (UInt8.ofNat (n / 4096 % 16 + 224)).toNat = n / 4096 + 224 := by
    rw [toNat_ofNat (by omega)]
    omega
  simp only [lead, hb]
  rw [if_neg (by omega), if_neg (by omega), if_neg (by omega)]
  by_cases h0 : n / 4096 = 0
  · refine ⟨0xA0, 0xBF, ?_, by show 160 ≤ _; omega, by show _ ≤ 191; omega⟩
    rw [if_pos (by omega), h0]
  by_cases hd : n / 4096 = 0xD
  · refine ⟨0x80, 0x9F, ?_, by show 128 ≤ _; omega, by show _ ≤ 159; omega⟩
    rw [if_neg (by omega), if_pos (by omega), hd]
  · refine ⟨0x80, 0xBF, ?_, by show 128 ≤ _; omega, by show _ ≤ 191; omega⟩
    rw [if_neg (by omega), if_neg (by omega), if_pos (by omega)]
    congr 2
    omega

/-- The first of four bytes leaves out the second bytes of shorter forms and of what is beyond the
last character. -/
theorem lead_four {n : Nat} (h : 65536 ≤ n) (h' : n < 0x110000) :
    ∃ low high : UInt8, lead (UInt8.ofNat (n / 262144 % 8 + 240)) =
        .opens ⟨3, low, high, n / 262144⟩ ∧
      low.toNat ≤ n / 4096 % 64 + 128 ∧ n / 4096 % 64 + 128 ≤ high.toNat := by
  have hb : (UInt8.ofNat (n / 262144 % 8 + 240)).toNat = n / 262144 + 240 := by
    rw [toNat_ofNat (by omega)]
    omega
  simp only [lead, hb]
  rw [if_neg (by omega), if_neg (by omega), if_neg (by omega), if_neg (by omega),
    if_neg (by omega), if_neg (by omega)]
  by_cases h0 : n / 262144 = 0
  · refine ⟨0x90, 0xBF, ?_, by show 144 ≤ _; omega, by show _ ≤ 191; omega⟩
    rw [if_pos (by omega), h0]
  by_cases h4 : n / 262144 = 4
  · refine ⟨0x80, 0x8F, ?_, by show 128 ≤ _; omega, by show _ ≤ 143; omega⟩
    rw [if_neg (by omega), if_neg (by omega), if_pos (by omega), h4]
  · refine ⟨0x80, 0xBF, ?_, by show 128 ≤ _; omega, by show _ ≤ 191; omega⟩
    rw [if_neg (by omega), if_pos (by omega)]
    congr 2
    omega

theorem units_utf8EncodeChar (c : Char) (bs : List UInt8) :
    units (String.utf8EncodeChar c ++ bs) = some c :: units bs := by
  have hc : ∀ n, n = c.val.toNat → Char.ofNat n = c := by
    rintro n rfl
    exact Char.ofNat_toNat c
  have hvalid : c.val.toNat < 0xD800 ∨ 0xDFFF < c.val.toNat ∧ c.val.toNat < 0x110000 := c.valid
  unfold String.utf8EncodeChar
  generalize c.val.toNat = v at hc hvalid
  dsimp only
  by_cases h1 : v ≤ 127
  · rw [if_pos h1, List.singleton_append, units_of_char (lead_one h1), hc v rfl]
  rw [if_neg h1]
  by_cases h2 : v ≤ 2047
  · rw [if_pos h2]
    change units (_ :: trailing v :: bs) = _
    rw [units_of_opens (lead_two (by omega) h2), unitsWithin_last, hc _ (by omega)]
  rw [if_neg h2]
  by_cases h3 : v ≤ 65535
  · rw [if_pos h3]
    change units (_ :: trailing (v / 64) :: trailing v :: bs) = _
    obtain ⟨low, high, hl, hlow, hhigh⟩ := lead_three (by omega) h3 (by omega)
    rw [units_of_opens hl, unitsWithin_trailing hlow hhigh]
    dsimp only
    rw [if_neg (by omega), unitsWithin_last, hc _ (by omega)]
  · rw [if_neg h3]
    change units (_ :: trailing (v / 4096) :: trailing (v / 64) :: trailing v :: bs) = _
    obtain ⟨low, high, hl, hlow, hhigh⟩ := lead_four (by omega) (by omega : v < 0x110000)
    rw [units_of_opens hl, unitsWithin_trailing hlow hhigh]
    dsimp only
    rw [if_neg (by omega), unitsWithin_trailing (by show 128 ≤ _; omega) (by show _ ≤ 191; omega)]
    dsimp only
    rw [if_neg (by omega), unitsWithin_last, hc _ (by omega)]

private theorem toList_loop_eq (b : ByteArray) (i : Nat) (r : List UInt8) :
    ByteArray.toList.loop b i r = r.reverse ++ b.data.toList.drop i := by
  fun_induction ByteArray.toList.loop b i r with
  | case1 i r h ih =>
    rw [ih, List.drop_eq_getElem_cons (l := b.data.toList) (i := i) (by simpa using h)]
    simp [ByteArray.get!, h]
  | case2 i r h =>
    rw [List.drop_eq_nil_of_le (by simpa using h), List.append_nil]

theorem encode_eq (s : String) : encode s = s.toList.flatMap String.utf8EncodeChar := by
  have hs : s.toUTF8 = (s.toList.flatMap String.utf8EncodeChar).toByteArray :=
    String.utf8Encode_toList.symm
  rw [encode, hs, ByteArray.toList, toList_loop_eq, List.reverse_nil, List.nil_append,
    List.drop_zero, List.toList_data_toByteArray]

theorem units_encode (s : String) : units (encode s) = s.toList.map some := by
  rw [encode_eq]
  induction s.toList with
  | nil => rw [List.flatMap_nil, units, List.map_nil]
  | cons c cs ih => rw [List.flatMap_cons, units_utf8EncodeChar, ih, List.map_cons]

theorem decodeLossy_encode (s : String) : decodeLossy (encode s) = s := by
  have hm : (s.toList.map some).map (·.getD '\uFFFD') = s.toList := by
    rw [List.map_map]
    exact List.map_id s.toList
  rw [decodeLossy, units_encode, hm, String.ofList_toList]

theorem decode?_encode (s : String) : decode? (encode s) = some s := by
  have hm : ∀ cs : List Char, (cs.map some).mapM id = some cs := fun cs => by
    induction cs with
    | nil => rfl
    | cons c cs ih => simp [ih]
  rw [decode?, units_encode, hm, Option.map_some, String.ofList_toList]

end ListingPanel.Text.Utf8
