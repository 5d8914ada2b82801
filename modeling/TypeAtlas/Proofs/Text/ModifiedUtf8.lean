import TypeAtlas.Text.ModifiedUtf8

/-!
# Texts survive their encodings

Reading back the UTF-16 units of a text gives the text (`Utf16.decode_encode`), and so does reading
back its modified UTF-8 (`ModifiedUtf8.decode_encode`). The shorter way that `decode` takes for
plain bytes agrees with the longer one (`ModifiedUtf8.decode_eq`).
-/

set_option autoImplicit false

namespace TypeAtlas.Text

namespace Utf16

theorem isHigh_iff (u : UInt16) : isHigh u = true ↔ 0xD800 ≤ u.toNat ∧ u.toNat ≤ 0xDBFF := by
  unfold isHigh
  rw [Bool.and_eq_true, decide_eq_true_iff, decide_eq_true_iff, UInt16.le_iff_toNat_le,
    UInt16.le_iff_toNat_le]
  rfl

theorem isLow_iff (u : UInt16) : isLow u = true ↔ 0xDC00 ≤ u.toNat ∧ u.toNat ≤ 0xDFFF := by
  unfold isLow
  rw [Bool.and_eq_true, decide_eq_true_iff, decide_eq_true_iff, UInt16.le_iff_toNat_le,
    UInt16.le_iff_toNat_le]
  rfl

/-- A unit that is no surrogate stands for the character of its number. -/
theorem decode_cons {u : UInt16} (h : u.toNat < 0xD800 ∨ 0xDFFF < u.toNat) (rest : List UInt16) :
    decode (u :: rest) = Char.ofNat u.toNat :: decode rest := by
  have hhigh : ¬ isHigh u = true := by
    rw [isHigh_iff]
    omega
  have hlow : ¬ isLow u = true := by
    rw [isLow_iff]
    omega
  rw [decode.eq_def]
  simp only [if_neg hhigh, if_neg hlow]

/-- A high and a low surrogate stand for one character. -/
theorem decode_pair {u v : UInt16} (hu : isHigh u = true) (hv : isLow v = true)
    (rest : List UInt16) : decode (u :: v :: rest) = pairChar u v :: decode rest := by
  rw [decode.eq_def]
  simp only [if_pos hu, if_pos hv]

theorem decode_units (c : Char) (rest : List UInt16) :
    decode (units c ++ rest) = c :: decode rest := by
  have hvalid : c.toNat < 0xD800 ∨ 0xDFFF < c.toNat ∧ c.toNat < 0x110000 := c.valid
  unfold units
  by_cases hsmall : c.toNat < 0x10000
  · have hnat : (UInt16.ofNat c.toNat).toNat = c.toNat := UInt16.toNat_ofNat_of_lt hsmall
    rw [if_pos hsmall, List.singleton_append, decode_cons (by rw [hnat]; omega), hnat,
      Char.ofNat_toNat]
  · have hbound : c.toNat < 0x110000 := by omega
    -- a character past the first plane is split into its upper and its lower ten bits
    have hhigh : (UInt16.ofNat (0xD800 + (c.toNat - 0x10000) / 0x400)).toNat =
        0xD800 + (c.toNat - 0x10000) / 0x400 := UInt16.toNat_ofNat_of_lt (by show _ < 65536; omega)
    have hlow : (UInt16.ofNat (0xDC00 + (c.toNat - 0x10000) % 0x400)).toNat =
        0xDC00 + (c.toNat - 0x10000) % 0x400 := UInt16.toNat_ofNat_of_lt (by show _ < 65536; omega)
    have hchar : pairChar (UInt16.ofNat (0xD800 + (c.toNat - 0x10000) / 0x400))
        (UInt16.ofNat (0xDC00 + (c.toNat - 0x10000) % 0x400)) = c := by
      unfold pairChar
      rw [hhigh, hlow]
      have hnumber : 0x10000 + (0xD800 + (c.toNat - 0x10000) / 0x400 - 0xD800) * 0x400 +
          (0xDC00 + (c.toNat - 0x10000) % 0x400 - 0xDC00) = c.toNat := by
        omega
      rw [hnumber, Char.ofNat_toNat]
    rw [if_neg hsmall]
    show decode (_ :: _ :: rest) = _
    rw [decode_pair ((isHigh_iff _).2 (by rw [hhigh]; omega))
      ((isLow_iff _).2 (by rw [hlow]; omega)), hchar]

/-- Reading back the units of a text gives the text. -/
theorem decode_encode (text : List Char) : decode (encode text) = text := by
  unfold encode
  induction text with
  | nil => rw [List.flatMap_nil, decode]
  | cons c rest ih => rw [List.flatMap_cons, decode_units, ih]

end Utf16

namespace ModifiedUtf8

/-! ## The groups of units -/

theorem within_iff (low high b : UInt8) :
    (low ≤ b && b ≤ high) = true ↔ low.toNat ≤ b.toNat ∧ b.toNat ≤ high.toNat := by
  rw [Bool.and_eq_true, decide_eq_true_iff, decide_eq_true_iff, UInt8.le_iff_toNat_le,
    UInt8.le_iff_toNat_le]

theorem decodeUnits_plain {b : UInt8} (h : isPlain b = true) (rest : Bytes) :
    decodeUnits (b :: rest) = (decodeUnits rest).map (b.toUInt16 :: ·) := by
  rw [decodeUnits.eq_def]
  simp only [if_pos h]

theorem decodeUnits_two {b c : UInt8} (hb : leadsTwo b = true) (hc : continues c = true)
    (rest : Bytes) :
    decodeUnits (b :: c :: rest) = (decodeUnits rest).map (unitOfTwo b c :: ·) := by
  have hplain : ¬ isPlain b = true := by
    have hlead := (within_iff _ _ _).1 hb
    intro h
    have hsmall := (within_iff _ _ _).1 h
    have h1 : (0xC0 : UInt8).toNat = 0xC0 := rfl
    have h2 : (0x7F : UInt8).toNat = 0x7F := rfl
    omega
  rw [decodeUnits.eq_def]
  simp only [if_neg hplain, if_pos hb, if_pos hc]

theorem decodeUnits_three {b c d : UInt8} (hb : leadsThree b = true) (hc : continues c = true)
    (hd : continues d = true) (rest : Bytes) :
    decodeUnits (b :: c :: d :: rest) = (decodeUnits rest).map (unitOfThree b c d :: ·) := by
  have hlead := (within_iff _ _ _).1 hb
  have h1 : (0xE0 : UInt8).toNat = 0xE0 := rfl
  have hplain : ¬ isPlain b = true := by
    intro h
    have hsmall := (within_iff _ _ _).1 h
    have h2 : (0x7F : UInt8).toNat = 0x7F := rfl
    omega
  have htwo : ¬ leadsTwo b = true := by
    intro h
    have hsmall := (within_iff _ _ _).1 h
    have h2 : (0xDF : UInt8).toNat = 0xDF := rfl
    omega
  rw [decodeUnits.eq_def]
  simp only [if_neg hplain, if_neg htwo, if_pos hb, hc, hd, Bool.and_self, if_true]

/-- A unit is read back from its group. -/
theorem decodeUnits_encodeUnit (u : UInt16) (rest : Bytes) :
    decodeUnits (encodeUnit u ++ rest) = (decodeUnits rest).map (u :: ·) := by
  have hbyte : ∀ n, n < 0x100 → (UInt8.ofNat n).toNat = n := fun n hn =>
    UInt8.toNat_ofNat_of_lt hn
  have hbound : u.toNat < 0x10000 := u.toNat_lt
  unfold encodeUnit
  -- one case for each length of a group
  by_cases hone : 0x01 ≤ u.toNat ∧ u.toNat ≤ 0x7F
  · have hplain : isPlain (UInt8.ofNat u.toNat) = true := by
      rw [isPlain, within_iff, hbyte _ (by omega)]
      exact hone
    have hunit : (UInt8.ofNat u.toNat).toUInt16 = u := by
      rw [← UInt16.toNat_inj, UInt8.toNat_toUInt16, hbyte _ (by omega)]
    simp only [if_pos hone, List.singleton_append]
    rw [decodeUnits_plain hplain, hunit]
  · by_cases htwo : u.toNat ≤ 0x7FF
    · have hb := hbyte (0xC0 + u.toNat / 0x40) (by omega)
      have hc := hbyte (0x80 + u.toNat % 0x40) (by omega)
      have hlead : leadsTwo (UInt8.ofNat (0xC0 + u.toNat / 0x40)) = true := by
        rw [leadsTwo, within_iff, hb]
        exact ⟨Nat.le_add_right _ _, by show _ ≤ 0xDF; omega⟩
      have htail : continues (UInt8.ofNat (0x80 + u.toNat % 0x40)) = true := by
        rw [continues, within_iff, hc]
        exact ⟨Nat.le_add_right _ _, by show _ ≤ 0xBF; omega⟩
      have hunit : unitOfTwo (UInt8.ofNat (0xC0 + u.toNat / 0x40))
          (UInt8.ofNat (0x80 + u.toNat % 0x40)) = u := by
        rw [unitOfTwo, hb, hc]
        have hnumber : (0xC0 + u.toNat / 0x40) % 0x20 * 0x40 + (0x80 + u.toNat % 0x40) % 0x40 =
            u.toNat := by
          omega
        rw [hnumber, UInt16.ofNat_toNat]
      simp only [if_neg hone, if_pos htwo, List.cons_append, List.nil_append]
      rw [decodeUnits_two hlead htail, hunit]
    · have hb := hbyte (0xE0 + u.toNat / 0x1000) (by omega)
      have hc := hbyte (0x80 + u.toNat / 0x40 % 0x40) (by omega)
      have hd := hbyte (0x80 + u.toNat % 0x40) (by omega)
      have hlead : leadsThree (UInt8.ofNat (0xE0 + u.toNat / 0x1000)) = true := by
        rw [leadsThree, within_iff, hb]
        exact ⟨Nat.le_add_right _ _, by show _ ≤ 0xEF; omega⟩
      have hmiddle : continues (UInt8.ofNat (0x80 + u.toNat / 0x40 % 0x40)) = true := by
        rw [continues, within_iff, hc]
        exact ⟨Nat.le_add_right _ _, by show _ ≤ 0xBF; omega⟩
      have htail : continues (UInt8.ofNat (0x80 + u.toNat % 0x40)) = true := by
        rw [continues, within_iff, hd]
        exact ⟨Nat.le_add_right _ _, by show _ ≤ 0xBF; omega⟩
      have hunit : unitOfThree (UInt8.ofNat (0xE0 + u.toNat / 0x1000))
          (UInt8.ofNat (0x80 + u.toNat / 0x40 % 0x40)) (UInt8.ofNat (0x80 + u.toNat % 0x40)) =
          u := by
        rw [unitOfThree, hb, hc, hd]
        have hnumber : (0xE0 + u.toNat / 0x1000) % 0x10 * 0x1000 +
            (0x80 + u.toNat / 0x40 % 0x40) % 0x40 * 0x40 + (0x80 + u.toNat % 0x40) % 0x40 =
            u.toNat := by
          omega
        rw [hnumber, UInt16.ofNat_toNat]
      simp only [if_neg hone, if_neg htwo, List.cons_append, List.nil_append]
      rw [decodeUnits_three hlead hmiddle htail, hunit]

theorem decodeUnits_flatMap (us : List UInt16) : decodeUnits (us.flatMap encodeUnit) = some us := by
  induction us with
  | nil => rw [List.flatMap_nil, decodeUnits]
  | cons u us ih => rw [List.flatMap_cons, decodeUnits_encodeUnit, ih, Option.map_some]

/-! ## Texts -/

theorem decodeUnits_of_plain {bytes : Bytes} (h : ∀ b ∈ bytes, isPlain b = true) :
    decodeUnits bytes = some (bytes.map UInt8.toUInt16) := by
  induction bytes with
  | nil => rw [decodeUnits, List.map_nil]
  | cons b rest ih =>
    rw [decodeUnits_plain (h b List.mem_cons_self), ih fun c hc => h c (List.mem_cons_of_mem b hc),
      Option.map_some, List.map_cons]

theorem decode_of_plain (bytes : Bytes) :
    Utf16.decode (bytes.map UInt8.toUInt16) = bytes.map fun b => Char.ofNat b.toNat := by
  induction bytes with
  | nil => rw [List.map_nil, Utf16.decode, List.map_nil]
  | cons b rest ih =>
    -- a byte is below the surrogates
    have hnat : b.toUInt16.toNat = b.toNat := UInt8.toNat_toUInt16 b
    have hbound := b.toNat_lt
    rw [List.map_cons, Utf16.decode_cons (by rw [hnat]; omega), ih, hnat, List.map_cons]

/-- The way through the units gives the text of plain bytes as well. -/
theorem decode_eq (bytes : Bytes) :
    decode bytes = (decodeUnits bytes).map fun us => String.ofList (Utf16.decode us) := by
  unfold decode
  by_cases h : bytes.all isPlain = true
  · rw [if_pos h, decodeUnits_of_plain (List.all_eq_true.1 h), Option.map_some, decode_of_plain]
  · rw [if_neg h]

/-- Reading back the bytes of a text gives the text. -/
theorem decode_encode (text : String) : decode (encode text) = some text := by
  rw [decode_eq, encode, decodeUnits_flatMap, Option.map_some, Utf16.decode_encode,
    String.ofList_toList]

end ModifiedUtf8

end TypeAtlas.Text
