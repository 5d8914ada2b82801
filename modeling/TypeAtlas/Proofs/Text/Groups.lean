import TypeAtlas.Proofs.Text.ByteOffsets
import TypeAtlas.Proofs.Text.ModifiedUtf8

/-!
# Groups of bytes and pairs of surrogates

What modified UTF-8 is, told without a decoder. `ModifiedUtf8.IsGroup` has the groups of one, two
and three bytes with the units they stand for, `ModifiedUtf8.Splits` cuts a byte string into groups,
and `Utf16.IsReading` reads units as a text. The decoder accepts exactly the byte strings that split
into groups (`ModifiedUtf8.decodeUnits_eq_some_iff`) and reads their units
(`Utf16.decode_eq_iff`). The encoder writes the shortest group of each unit
(`ModifiedUtf8.isShortest_iff`), so it writes a text back as it was spelled if that spent no byte
too many and left no surrogate alone (`ModifiedUtf8.codec_exact`).
-/

set_option autoImplicit false

namespace TypeAtlas.Text

namespace Utf16

/-! ## Reading units -/

/-- The text that units are read as: the units of a character are the character, and a surrogate
without its partner is U+FFFD. -/
inductive IsReading : List UInt16 → List Char → Prop where
  | nil : IsReading [] []
  | char (c : Char) {us : List UInt16} {text : List Char} (h : IsReading us text) :
    IsReading (units c ++ us) (c :: text)
  | low {u : UInt16} {us : List UInt16} {text : List Char} (hu : isLow u = true)
    (h : IsReading us text) : IsReading (u :: us) (replacement :: text)
  | high {u : UInt16} {us : List UInt16} {text : List Char} (hu : isHigh u = true)
    (halone : ∀ v ∈ us.head?, isLow v = false) (h : IsReading us text) :
    IsReading (u :: us) (replacement :: text)

/-- Every surrogate is half of a pair, the high one in front of the low one. -/
inductive Paired : List UInt16 → Prop where
  | nil : Paired []
  | unit {u : UInt16} {us : List UInt16} (hhigh : isHigh u = false) (hlow : isLow u = false)
    (h : Paired us) : Paired (u :: us)
  | pair {u v : UInt16} {us : List UInt16} (hu : isHigh u = true) (hv : isLow v = true)
    (h : Paired us) : Paired (u :: v :: us)

theorem isHigh_eq_false_of_isLow {u : UInt16} (h : isLow u = true) : isHigh u = false := by
  rw [isLow_iff] at h
  rw [Bool.eq_false_iff, Ne, isHigh_iff]
  omega

theorem not_surrogate {u : UInt16} (hhigh : isHigh u = false) (hlow : isLow u = false) :
    u.toNat < 0xD800 ∨ 0xDFFF < u.toNat := by
  rw [Bool.eq_false_iff, Ne, isHigh_iff] at hhigh
  rw [Bool.eq_false_iff, Ne, isLow_iff] at hlow
  omega

/-- A unit that is no surrogate is the only unit of its character. -/
theorem units_ofNat {u : UInt16} (h : u.toNat < 0xD800 ∨ 0xDFFF < u.toNat) :
    units (Char.ofNat u.toNat) = [u] := by
  have hbound : u.toNat < 0x10000 := u.toNat_lt
  have hvalid : u.toNat.isValidChar := h.imp id fun hlarge => ⟨hlarge, by omega⟩
  rw [units, toNat_charOfNat hvalid, if_pos hbound, UInt16.ofNat_toNat]

/-- The halves of a pair are the units of its character. -/
theorem units_pairChar {u v : UInt16} (hu : isHigh u = true) (hv : isLow v = true) :
    units (pairChar u v) = [u, v] := by
  rw [isHigh_iff] at hu
  rw [isLow_iff] at hv
  have hvalid : (0x10000 + (u.toNat - 0xD800) * 0x400 + (v.toNat - 0xDC00)).isValidChar :=
    Or.inr ⟨by omega, by omega⟩
  have hlarge : ¬ 0x10000 + (u.toNat - 0xD800) * 0x400 + (v.toNat - 0xDC00) < 0x10000 := by omega
  have hupper : 0xD800 + (0x10000 + (u.toNat - 0xD800) * 0x400 + (v.toNat - 0xDC00) - 0x10000) /
      0x400 = u.toNat := by omega
  have hlower : 0xDC00 + (0x10000 + (u.toNat - 0xD800) * 0x400 + (v.toNat - 0xDC00) - 0x10000) %
      0x400 = v.toNat := by omega
  rw [units, pairChar, toNat_charOfNat hvalid, if_neg hlarge]
  simp only [hupper, hlower, UInt16.ofNat_toNat]

theorem decode_low {u : UInt16} (h : isLow u = true) (rest : List UInt16) :
    decode (u :: rest) = replacement :: decode rest := by
  have hhigh : ¬ isHigh u = true := Bool.eq_false_iff.1 (isHigh_eq_false_of_isLow h)
  rw [decode.eq_def]
  simp only [if_neg hhigh, if_pos h]

theorem decode_high_alone {u : UInt16} {rest : List UInt16} (h : isHigh u = true)
    (halone : ∀ v ∈ rest.head?, isLow v = false) :
    decode (u :: rest) = replacement :: decode rest := by
  rw [decode.eq_def]
  simp only [if_pos h]
  cases rest with
  | nil => rw [decode]
  | cons v after =>
    have hv : ¬ isLow v = true := Bool.eq_false_iff.1 (halone v rfl)
    simp only [if_neg hv]

theorem isReading_decode (us : List UInt16) : IsReading us (decode us) := by
  fun_induction decode us with
  | case1 => exact .nil
  -- a pair
  | case2 u hu v after hv ih =>
    have hpair := IsReading.char (pairChar u v) ih
    rwa [units_pairChar hu hv] at hpair
  -- a high surrogate, in front of another unit or at the end
  | case3 u hu v after hv ih =>
    refine .high hu (fun w hw => ?_) ih
    cases hw
    exact Bool.eq_false_iff.2 hv
  | case4 u hu => exact .high hu (fun v hv => by cases hv) .nil
  | case5 u rest hu hlow ih => exact .low hlow ih
  | case6 u rest hu hlow ih =>
    have hchar := IsReading.char (Char.ofNat u.toNat) ih
    rwa [units_ofNat (not_surrogate (Bool.eq_false_iff.2 hu) (Bool.eq_false_iff.2 hlow))] at hchar

/-- Units are decoded as the text that they are read as. -/
theorem decode_eq_iff {us : List UInt16} {text : List Char} :
    decode us = text ↔ IsReading us text := by
  constructor
  · rintro rfl
    exact isReading_decode us
  · intro h
    induction h with
    | nil => rw [decode]
    | char c _ ih => rw [decode_units, ih]
    | low hu _ ih => rw [decode_low hu, ih]
    | high hu halone _ ih => rw [decode_high_alone hu halone, ih]

/-- Units without a lone surrogate are the units of their text. -/
theorem encode_decode {us : List UInt16} (h : Paired us) : encode (decode us) = us := by
  induction h with
  | nil => rw [decode, encode, List.flatMap_nil]
  | unit hhigh hlow _ ih =>
    have hu := not_surrogate hhigh hlow
    rw [decode_cons hu, encode, List.flatMap_cons, units_ofNat hu, ← encode, ih,
      List.singleton_append]
  | pair hu hv _ ih =>
    rw [decode_pair hu hv, encode, List.flatMap_cons, units_pairChar hu hv, ← encode, ih,
      List.cons_append, List.singleton_append]

end Utf16

namespace ModifiedUtf8

/-! ## Groups -/

/-- A group of bytes and the unit that it stands for. -/
inductive IsGroup : Bytes → UInt16 → Prop where
  | one {b : UInt8} (hb : 0x01 ≤ b.toNat ∧ b.toNat ≤ 0x7F) : IsGroup [b] b.toUInt16
  | two {b c : UInt8} (hb : 0xC0 ≤ b.toNat ∧ b.toNat ≤ 0xDF)
    (hc : 0x80 ≤ c.toNat ∧ c.toNat ≤ 0xBF) :
    IsGroup [b, c] (UInt16.ofNat ((b.toNat - 0xC0) * 0x40 + (c.toNat - 0x80)))
  | three {b c d : UInt8} (hb : 0xE0 ≤ b.toNat ∧ b.toNat ≤ 0xEF)
    (hc : 0x80 ≤ c.toNat ∧ c.toNat ≤ 0xBF) (hd : 0x80 ≤ d.toNat ∧ d.toNat ≤ 0xBF) :
    IsGroup [b, c, d]
      (UInt16.ofNat ((b.toNat - 0xE0) * 0x1000 + (c.toNat - 0x80) * 0x40 + (d.toNat - 0x80)))

/-- A group that no other one of its unit is shorter than. -/
def IsShortest (group : Bytes) (u : UInt16) : Prop :=
  IsGroup group u ∧ ∀ other, IsGroup other u → group.length ≤ other.length

/-- A byte string is made of groups of a kind, which stand for the units. -/
inductive Splits (Kind : Bytes → UInt16 → Prop) : Bytes → List UInt16 → Prop where
  | nil : Splits Kind [] []
  | cons {group rest : Bytes} {u : UInt16} {us : List UInt16} (hgroup : Kind group u)
    (h : Splits Kind rest us) : Splits Kind (group ++ rest) (u :: us)

theorem unitOfTwo_eq {b c : UInt8} (hb : 0xC0 ≤ b.toNat ∧ b.toNat ≤ 0xDF)
    (hc : 0x80 ≤ c.toNat ∧ c.toNat ≤ 0xBF) :
    unitOfTwo b c = UInt16.ofNat ((b.toNat - 0xC0) * 0x40 + (c.toNat - 0x80)) := by
  have hnumber : b.toNat % 0x20 * 0x40 + c.toNat % 0x40 =
      (b.toNat - 0xC0) * 0x40 + (c.toNat - 0x80) := by omega
  rw [unitOfTwo, hnumber]

theorem unitOfThree_eq {b c d : UInt8} (hb : 0xE0 ≤ b.toNat ∧ b.toNat ≤ 0xEF)
    (hc : 0x80 ≤ c.toNat ∧ c.toNat ≤ 0xBF) (hd : 0x80 ≤ d.toNat ∧ d.toNat ≤ 0xBF) :
    unitOfThree b c d =
      UInt16.ofNat ((b.toNat - 0xE0) * 0x1000 + (c.toNat - 0x80) * 0x40 + (d.toNat - 0x80)) := by
  have hnumber : b.toNat % 0x10 * 0x1000 + c.toNat % 0x40 * 0x40 + d.toNat % 0x40 =
      (b.toNat - 0xE0) * 0x1000 + (c.toNat - 0x80) * 0x40 + (d.toNat - 0x80) := by omega
  rw [unitOfThree, hnumber]

/-- The unit of a group is read off its bytes. -/
theorem decodeUnits_group {group : Bytes} {u : UInt16} (h : IsGroup group u) (rest : Bytes) :
    decodeUnits (group ++ rest) = (decodeUnits rest).map (u :: ·) := by
  cases h with
  | one hb => exact decodeUnits_plain ((within_iff _ _ _).2 hb) rest
  | two hb hc =>
    rw [← unitOfTwo_eq hb hc]
    exact decodeUnits_two ((within_iff _ _ _).2 hb) ((within_iff _ _ _).2 hc) rest
  | three hb hc hd =>
    rw [← unitOfThree_eq hb hc hd]
    exact decodeUnits_three ((within_iff _ _ _).2 hb) ((within_iff _ _ _).2 hc)
      ((within_iff _ _ _).2 hd) rest

/-- What is decoded starts with a group. -/
theorem exists_group_of_decodeUnits {b : UInt8} {bytes : Bytes} {us : List UInt16}
    (h : decodeUnits (b :: bytes) = some us) :
    ∃ group rest u units, b :: bytes = group ++ rest ∧ IsGroup group u ∧
      decodeUnits rest = some units ∧ us = u :: units := by
  unfold decodeUnits at h
  split at h
  · rename_i hb
    obtain ⟨units, hunits, rfl⟩ := Option.map_eq_some_iff.1 h
    exact ⟨[b], bytes, _, units, rfl, .one ((within_iff _ _ _).1 hb), hunits, rfl⟩
  split at h
  · rename_i hb
    split at h
    · rename_i c rest
      split at h
      · rename_i hc
        obtain ⟨units, hunits, rfl⟩ := Option.map_eq_some_iff.1 h
        have hlead := (within_iff _ _ _).1 hb
        have htail := (within_iff _ _ _).1 hc
        exact ⟨[b, c], rest, _, units, rfl, .two hlead htail, hunits,
          by rw [unitOfTwo_eq hlead htail]⟩
      · cases h
    · cases h
  split at h
  · rename_i hb
    split at h
    · rename_i c d rest
      split at h
      · rename_i hcd
        obtain ⟨units, hunits, rfl⟩ := Option.map_eq_some_iff.1 h
        obtain ⟨hc, hd⟩ := (Bool.and_eq_true _ _).mp hcd
        have hlead := (within_iff _ _ _).1 hb
        have hmiddle := (within_iff _ _ _).1 hc
        have htail := (within_iff _ _ _).1 hd
        exact ⟨[b, c, d], rest, _, units, rfl, .three hlead hmiddle htail, hunits,
          by rw [unitOfThree_eq hlead hmiddle htail]⟩
      · cases h
    · cases h
  · cases h

theorem IsGroup.length_pos {group : Bytes} {u : UInt16} (h : IsGroup group u) :
    0 < group.length := by
  cases h <;> exact Nat.succ_pos _

/-- Units are decoded from the byte strings that split into their groups, and from no others. -/
theorem decodeUnits_eq_some_iff {bytes : Bytes} {us : List UInt16} :
    decodeUnits bytes = some us ↔ Splits IsGroup bytes us := by
  constructor
  -- by induction on the number of bytes, group by group
  · intro h
    induction hlength : bytes.length using Nat.strongRecOn generalizing bytes us with
    | ind n ih =>
      cases bytes with
      | nil =>
        rw [decodeUnits] at h
        cases h
        exact .nil
      | cons b bytes =>
        obtain ⟨group, rest, u, units, hbytes, hgroup, hunits, rfl⟩ :=
          exists_group_of_decodeUnits h
        rw [hbytes] at hlength ⊢
        have hpos := hgroup.length_pos
        rw [List.length_append] at hlength
        exact .cons hgroup (ih rest.length (by omega) hunits rfl)
  · intro h
    induction h with
    | nil => rw [decodeUnits]
    | cons hgroup _ ih => rw [decodeUnits_group hgroup, ih, Option.map_some]

/-! ## The shortest groups -/

theorem isGroup_encodeUnit (u : UInt16) : IsGroup (encodeUnit u) u := by
  have hunits : decodeUnits (encodeUnit u ++ []) = some [u] := by
    rw [decodeUnits_encodeUnit, decodeUnits, Option.map_some]
  rw [List.append_nil] at hunits
  generalize encodeUnit u = bytes at hunits ⊢
  cases decodeUnits_eq_some_iff.1 hunits with
  | cons hgroup h =>
    cases h
    rwa [List.append_nil]

/-- The unit and the length of a group settle its bytes. -/
theorem IsGroup.bytes_eq {group : Bytes} {u : UInt16} (h : IsGroup group u) :
    (group = [UInt8.ofNat u.toNat] ∧ 0x01 ≤ u.toNat ∧ u.toNat ≤ 0x7F) ∨
      (group = [UInt8.ofNat (0xC0 + u.toNat / 0x40), UInt8.ofNat (0x80 + u.toNat % 0x40)] ∧
        u.toNat ≤ 0x7FF) ∨
      group = [UInt8.ofNat (0xE0 + u.toNat / 0x1000), UInt8.ofNat (0x80 + u.toNat / 0x40 % 0x40),
        UInt8.ofNat (0x80 + u.toNat % 0x40)] := by
  cases h with
  | one hb =>
    rw [UInt8.toNat_toUInt16, UInt8.ofNat_toNat]
    exact Or.inl ⟨rfl, hb⟩
  | @two b c hb hc =>
    have hu : (UInt16.ofNat ((b.toNat - 0xC0) * 0x40 + (c.toNat - 0x80))).toNat =
        (b.toNat - 0xC0) * 0x40 + (c.toNat - 0x80) :=
      UInt16.toNat_ofNat_of_lt (by show _ < 65536; omega)
    have hfirst : 0xC0 + ((b.toNat - 0xC0) * 0x40 + (c.toNat - 0x80)) / 0x40 = b.toNat := by omega
    have hsecond : 0x80 + ((b.toNat - 0xC0) * 0x40 + (c.toNat - 0x80)) % 0x40 = c.toNat := by omega
    rw [hu, hfirst, hsecond, UInt8.ofNat_toNat, UInt8.ofNat_toNat]
    exact Or.inr (Or.inl ⟨rfl, by omega⟩)
  | @three b c d hb hc hd =>
    have hu : (UInt16.ofNat
        ((b.toNat - 0xE0) * 0x1000 + (c.toNat - 0x80) * 0x40 + (d.toNat - 0x80))).toNat =
        (b.toNat - 0xE0) * 0x1000 + (c.toNat - 0x80) * 0x40 + (d.toNat - 0x80) :=
      UInt16.toNat_ofNat_of_lt (by show _ < 65536; omega)
    have hfirst : 0xE0 + ((b.toNat - 0xE0) * 0x1000 + (c.toNat - 0x80) * 0x40 +
        (d.toNat - 0x80)) / 0x1000 = b.toNat := by omega
    have hsecond : 0x80 + ((b.toNat - 0xE0) * 0x1000 + (c.toNat - 0x80) * 0x40 +
        (d.toNat - 0x80)) / 0x40 % 0x40 = c.toNat := by omega
    have hthird : 0x80 + ((b.toNat - 0xE0) * 0x1000 + (c.toNat - 0x80) * 0x40 +
        (d.toNat - 0x80)) % 0x40 = d.toNat := by omega
    rw [hu, hfirst, hsecond, hthird, UInt8.ofNat_toNat, UInt8.ofNat_toNat, UInt8.ofNat_toNat]
    exact Or.inr (Or.inr rfl)

/-- A unit has at most one group of each length. -/
theorem IsGroup.eq_of_length_eq {group other : Bytes} {u : UInt16} (h : IsGroup group u)
    (hother : IsGroup other u) (hlength : group.length = other.length) : group = other := by
  obtain ⟨rfl, -⟩ | ⟨rfl, -⟩ | rfl := h.bytes_eq <;>
    obtain ⟨rfl, -⟩ | ⟨rfl, -⟩ | rfl := hother.bytes_eq <;>
    first | rfl | cases hlength

/-- No group of a unit is shorter than the one that is written. -/
theorem IsGroup.length_encodeUnit_le {group : Bytes} {u : UInt16} (h : IsGroup group u) :
    (encodeUnit u).length ≤ group.length := by
  unfold encodeUnit
  obtain ⟨rfl, hone⟩ | ⟨rfl, htwo⟩ | rfl := h.bytes_eq
  · simp only [if_pos hone]
    exact Nat.le_refl 1
  · simp only [if_pos htwo]
    split
    · exact Nat.le_succ 1
    · exact Nat.le_refl 2
  · simp only
    split
    · exact Nat.le_add_left 1 2
    · split
      · exact Nat.le_succ 2
      · exact Nat.le_refl 3

theorem isShortest_iff {group : Bytes} {u : UInt16} : IsShortest group u ↔ group = encodeUnit u := by
  constructor
  · rintro ⟨hgroup, hshortest⟩
    exact hgroup.eq_of_length_eq (isGroup_encodeUnit u)
      (Nat.le_antisymm (hshortest _ (isGroup_encodeUnit u)) hgroup.length_encodeUnit_le)
  · rintro rfl
    exact ⟨isGroup_encodeUnit u, fun other hother => hother.length_encodeUnit_le⟩

theorem Splits.eq_flatMap {bytes : Bytes} {us : List UInt16} (h : Splits IsShortest bytes us) :
    bytes = us.flatMap encodeUnit := by
  induction h with
  | nil => rw [List.flatMap_nil]
  | cons hgroup _ ih => rw [List.flatMap_cons, ← ih, ← isShortest_iff.1 hgroup]

/-! ## Byte strings and texts -/

/-- A text is decoded from the byte strings that split into groups whose units are read as it. -/
theorem decode_eq_some_iff {bytes : Bytes} {text : String} :
    decode bytes = some text ↔
      ∃ us, Splits IsGroup bytes us ∧ Utf16.IsReading us text.toList := by
  rw [decode_eq, Option.map_eq_some_iff]
  refine exists_congr fun us => and_congr decodeUnits_eq_some_iff ?_
  rw [← Utf16.decode_eq_iff]
  constructor
  · rintro rfl
    exact String.toList_ofList.symm
  · intro h
    rw [h, String.ofList_toList]

/-- Byte strings that split into groups are decoded, as the texts that the units of the groups are
read as, and no others. Encoding a text and decoding it again changes nothing, and neither does
decoding bytes that were spelled with the shortest groups and without a lone surrogate, and encoding
them again. -/
theorem codec_exact :
    (∀ text, decode (encode text) = some text) ∧
      (∀ bytes, (decode bytes).isSome = true ↔ ∃ us, Splits IsGroup bytes us) ∧
      (∀ bytes us text, Splits IsGroup bytes us →
        (decode bytes = some text ↔ Utf16.IsReading us text.toList)) ∧
      ∀ bytes us, Splits IsShortest bytes us → Utf16.Paired us →
        ∃ text, decode bytes = some text ∧ encode text = bytes := by
  refine ⟨decode_encode, fun bytes => ?_, fun bytes us text hsplits => ?_,
    fun bytes us hsplits hpaired => ?_⟩
  · rw [decode_eq, Option.isSome_map, Option.isSome_iff_exists]
    exact exists_congr fun us => decodeUnits_eq_some_iff
  · rw [decode_eq, decodeUnits_eq_some_iff.2 hsplits, Option.map_some, Option.some_inj,
      ← Utf16.decode_eq_iff]
    constructor
    · rintro rfl
      exact String.toList_ofList.symm
    · intro h
      rw [h, String.ofList_toList]
  · refine ⟨String.ofList (Utf16.decode us), ?_, ?_⟩
    · rw [decode_eq, hsplits.eq_flatMap, decodeUnits_flatMap, Option.map_some]
    · rw [encode, String.toList_ofList, Utf16.encode_decode hpaired, ← hsplits.eq_flatMap]

/-- The two bytes of the unit zero and the six of U+1F600 come back. -/
theorem codec_exact_zero_pair :
    ∃ text, decode [0xC0, 0x80, 0xED, 0xA0, 0xBD, 0xED, 0xB8, 0x80] = some text ∧
      encode text = [0xC0, 0x80, 0xED, 0xA0, 0xBD, 0xED, 0xB8, 0x80] := by
  have hzero : IsShortest [0xC0, 0x80] 0 := isShortest_iff.2 (by decide)
  have hhigh : IsShortest [0xED, 0xA0, 0xBD] 0xD83D := isShortest_iff.2 (by decide)
  have hlow : IsShortest [0xED, 0xB8, 0x80] 0xDE00 := isShortest_iff.2 (by decide)
  have hpaired : Utf16.Paired [0, 0xD83D, 0xDE00] :=
    .unit (by decide) (by decide) (.pair (by decide) (by decide) .nil)
  exact codec_exact.2.2.2 _ _ (.cons hzero (.cons hhigh (.cons hlow .nil))) hpaired

end ModifiedUtf8

end TypeAtlas.Text
