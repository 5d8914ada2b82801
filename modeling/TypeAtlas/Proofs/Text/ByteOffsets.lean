import TypeAtlas.Bytes

/-!
# Byte offsets into texts

A text in UTF-8 is a string of bytes, and a place in it may be given as a number of bytes. A text
can be cut there exactly if the bytes before the place are whole characters
(`Text.cutAt_eq_some_iff`). The place of an ASCII character is such a place (`Text.offsetOf?_append`),
and its byte is the byte of no other character (`Text.firstByte?_cons`).
-/

set_option autoImplicit false

namespace TypeAtlas.Text

/-- The number of bytes of a text. -/
def byteLength : List Char → Nat
  | [] => 0
  | c :: rest => c.utf8Size + byteLength rest

/-- The parts of a text before and after a byte offset; there are none if the offset is inside a
character or past the end. -/
def cutAt : Nat → List Char → Option (List Char × List Char)
  | 0, text => some ([], text)
  | _ + 1, [] => none
  | offset + 1, c :: rest =>
    if c.utf8Size ≤ offset + 1 then
      (cutAt (offset + 1 - c.utf8Size) rest).map fun parts => (c :: parts.1, parts.2)
    else none

/-- The part of a text from a byte offset on. -/
def sliceFrom (start : Nat) (text : List Char) : Option (List Char) :=
  (cutAt start text).map Prod.snd

/-- The part of a text between two byte offsets. -/
def slice (start stop : Nat) (text : List Char) : Option (List Char) :=
  (cutAt stop text).bind fun parts => sliceFrom start parts.1

/-- The first byte of a text. -/
def firstByte? : List Char → Option UInt8
  | [] => none
  | c :: _ => (String.utf8EncodeChar c).head?

/-- The byte offset of the first occurrence of a character. -/
def offsetOf? (wanted : Char) : List Char → Option Nat
  | [] => none
  | c :: rest => if c = wanted then some 0 else (offsetOf? wanted rest).map (c.utf8Size + ·)

theorem byteLength_cons (c : Char) (text : List Char) :
    byteLength (c :: text) = c.utf8Size + byteLength text := rfl

theorem byteLength_append (front back : List Char) :
    byteLength (front ++ back) = byteLength front + byteLength back := by
  induction front with
  | nil => rw [List.nil_append, byteLength, Nat.zero_add]
  | cons c front ih => rw [List.cons_append, byteLength_cons, ih, byteLength_cons, Nat.add_assoc]

/-- A text can be cut between any two characters. -/
theorem cutAt_byteLength (front back : List Char) :
    cutAt (byteLength front) (front ++ back) = some (front, back) := by
  induction front with
  | nil => rw [List.nil_append, byteLength, cutAt]
  | cons c front ih =>
    obtain ⟨n, hn⟩ : ∃ n, c.utf8Size + byteLength front = n + 1 :=
      Nat.exists_eq_succ_of_ne_zero (by have := c.utf8Size_pos; omega)
    have hle : c.utf8Size ≤ n + 1 := by omega
    have hrest : n + 1 - c.utf8Size = byteLength front := by omega
    rw [byteLength_cons, hn, List.cons_append, cutAt, if_pos hle, hrest, ih, Option.map_some]

/-- A text is cut exactly at the ends of its beginnings. -/
theorem cutAt_eq_some_iff {offset : Nat} {text front back : List Char} :
    cutAt offset text = some (front, back) ↔ text = front ++ back ∧ byteLength front = offset := by
  constructor
  · intro h
    induction text generalizing offset front with
    | nil =>
      cases offset with
      | zero =>
        cases h
        exact ⟨rfl, rfl⟩
      | succ offset => cases h
    | cons c rest ih =>
      cases offset with
      | zero =>
        cases h
        exact ⟨rfl, rfl⟩
      | succ offset =>
        rw [cutAt] at h
        split at h
        · rename_i hle
          obtain ⟨parts, hparts, hfront⟩ := Option.map_eq_some_iff.1 h
          cases hfront
          obtain ⟨hrest, hlength⟩ := ih hparts
          refine ⟨by rw [List.cons_append, ← hrest], ?_⟩
          rw [byteLength_cons, hlength, Nat.add_sub_cancel' hle]
        · cases h
  · rintro ⟨rfl, rfl⟩
    exact cutAt_byteLength front back

theorem sliceFrom_eq_some_iff {start : Nat} {text back : List Char} :
    sliceFrom start text = some back ↔
      ∃ front, text = front ++ back ∧ byteLength front = start := by
  rw [sliceFrom, Option.map_eq_some_iff]
  constructor
  · rintro ⟨⟨front, _⟩, hcut, rfl⟩
    exact ⟨front, cutAt_eq_some_iff.1 hcut⟩
  · rintro ⟨front, h⟩
    exact ⟨(front, back), cutAt_eq_some_iff.2 h, rfl⟩

theorem length_of_sliceFrom_one {text back : List Char} (h : sliceFrom 1 text = some back) :
    back.length < text.length := by
  obtain ⟨front, rfl, hlength⟩ := sliceFrom_eq_some_iff.1 h
  have hfront : front ≠ [] := by
    rintro rfl
    cases hlength
  rw [List.length_append]
  exact Nat.lt_add_of_pos_left (List.length_pos_iff.2 hfront)

/-- The part of a text in the middle is sliced out of it. -/
theorem slice_append (front middle back : List Char) :
    slice (byteLength front) (byteLength (front ++ middle)) (front ++ middle ++ back) =
      some middle := by
  rw [slice, cutAt_byteLength, Option.bind_some, sliceFrom, cutAt_byteLength, Option.map_some]

theorem offsetOf?_eq_none {wanted : Char} {text : List Char} (h : wanted ∉ text) :
    offsetOf? wanted text = none := by
  induction text with
  | nil => rfl
  | cons c rest ih =>
    rw [List.mem_cons, not_or] at h
    obtain ⟨hc, hrest⟩ := h
    rw [offsetOf?, if_neg (Ne.symm hc), ih hrest, Option.map_none]

/-- The first occurrence of a character is right behind the bytes of what has none. -/
theorem offsetOf?_append {wanted : Char} {front : List Char} (h : wanted ∉ front)
    (back : List Char) : offsetOf? wanted (front ++ wanted :: back) = some (byteLength front) := by
  induction front with
  | nil => rw [List.nil_append, offsetOf?, if_pos rfl]; rfl
  | cons c rest ih =>
    rw [List.mem_cons, not_or] at h
    obtain ⟨hc, hrest⟩ := h
    rw [List.cons_append, offsetOf?, if_neg (Ne.symm hc), ih hrest, Option.map_some,
      byteLength_cons]

/-- The first byte of a character is its number, or else it is above all the bytes that are. -/
theorem head?_utf8EncodeChar (c : Char) :
    ∃ b, (String.utf8EncodeChar c).head? = some b ∧
      (b.toNat = c.toNat ∨ 0xC0 ≤ b.toNat ∧ 0x7F < c.toNat) := by
  have hbyte : ∀ n, n < 0x100 → (UInt8.ofNat n).toNat = n := fun n hn =>
    UInt8.toNat_ofNat_of_lt' hn
  have hmarked : ∀ n, n ≤ 0x3F → 0xC0 ≤ (UInt8.ofNat (n + 0xC0)).toNat := by
    intro n hn
    rw [hbyte _ (by omega)]
    exact Nat.le_add_left _ _
  unfold String.utf8EncodeChar
  by_cases hone : c.val.toNat ≤ 0x7F
  · refine ⟨UInt8.ofNat c.val.toNat, by simp only [if_pos hone, List.head?_cons], Or.inl ?_⟩
    exact hbyte _ (Nat.lt_of_le_of_lt hone (by decide))
  -- otherwise the byte starts with two bits that are set
  · have hlarge : 0x7F < c.toNat := Nat.lt_of_not_le hone
    simp only [if_neg hone]
    split
    · exact ⟨_, rfl, Or.inr ⟨hmarked _ (by omega), hlarge⟩⟩
    · split
      · refine ⟨_, rfl, Or.inr ⟨?_, hlarge⟩⟩
        have h := hmarked (c.val.toNat / 4096 % 0x10 + 0x20) (by omega)
        rwa [Nat.add_assoc] at h
      · refine ⟨_, rfl, Or.inr ⟨?_, hlarge⟩⟩
        have h := hmarked (c.val.toNat / 262144 % 0x08 + 0x30) (by omega)
        rwa [Nat.add_assoc] at h

/-- The character of a number has that number, if there is one. -/
theorem toNat_charOfNat {n : Nat} (h : n.isValidChar) : (Char.ofNat n).toNat = n := by
  rw [Char.ofNat, dif_pos h]
  rfl

/-- A text starts with the byte of an ASCII character exactly if it starts with the character. -/
theorem firstByte?_cons (c : Char) (rest : List Char) :
    ∃ b, firstByte? (c :: rest) = some b ∧
      ∀ letter : Char, letter.toNat ≤ 0x7F → (Char.ofNat b.toNat = letter ↔ c = letter) := by
  obtain ⟨b, hb, hcases⟩ := head?_utf8EncodeChar c
  have hvalid : b.toNat.isValidChar := by
    have hlt := b.toNat_lt
    exact Or.inl (by omega)
  refine ⟨b, hb, fun letter hletter => ?_⟩
  rw [← Char.toNat_inj, toNat_charOfNat hvalid, ← Char.toNat_inj]
  omega

end TypeAtlas.Text
