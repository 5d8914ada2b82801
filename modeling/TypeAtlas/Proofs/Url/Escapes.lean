import TypeAtlas.Url.PercentEncoding

/-!
# What escapes change

Percent-encoding leaves a text as it is exactly if the text has no character of the set
(`percentEncode_eq_self_iff`), and decoding leaves bytes without a `%` as they are
(`decodeBytes_eq_self`).
-/

set_option autoImplicit false

namespace TypeAtlas.Url

variable {mustEscape : Char → Bool} {chars : List Char}

theorem percentEncode_cons (c : Char) (chars : List Char) :
    percentEncode mustEscape (c :: chars) =
      (if mustEscape c then escapeChar c else [c]) ++ percentEncode mustEscape chars :=
  List.flatMap_cons

theorem percentEncode_append (front back : List Char) :
    percentEncode mustEscape (front ++ back) =
      percentEncode mustEscape front ++ percentEncode mustEscape back :=
  List.flatMap_append

/-- An escape starts with a percent sign. -/
theorem exists_escapeChar (c : Char) : ∃ rest, escapeChar c = '%' :: rest := by
  cases hbytes : String.utf8EncodeChar c with
  | nil =>
    have hlength := String.length_utf8EncodeChar c
    rw [hbytes] at hlength
    exact absurd hlength.symm (Nat.ne_of_gt c.utf8Size_pos)
  | cons b rest => exact ⟨_, by rw [escapeChar, hbytes, List.flatMap_cons, escapeByte]; rfl⟩

theorem percentEncode_eq_self (h : ∀ c ∈ chars, mustEscape c = false) :
    percentEncode mustEscape chars = chars := by
  induction chars with
  | nil => rfl
  | cons c rest ih =>
    obtain ⟨hc, hrest⟩ := List.forall_mem_cons.1 h
    rw [percentEncode_cons, hc, ih hrest]
    rfl

/-- A text stays as it is exactly if none of its characters is to be escaped, provided that a
percent sign is not. -/
theorem percentEncode_eq_self_iff (hpercent : mustEscape '%' = false) :
    percentEncode mustEscape chars = chars ↔ ∀ c ∈ chars, mustEscape c = false := by
  refine ⟨fun h => ?_, percentEncode_eq_self⟩
  induction chars with
  | nil => exact fun c hc => absurd hc List.not_mem_nil
  | cons c rest ih =>
    rw [percentEncode_cons] at h
    cases hc : mustEscape c with
    | false =>
      rw [hc] at h
      exact List.forall_mem_cons.2 ⟨hc, ih (List.tail_eq_of_cons_eq h)⟩
    -- the text would have to start with a percent sign that is to be escaped
    | true =>
      obtain ⟨escape, hescape⟩ := exists_escapeChar c
      rw [hc, if_pos rfl, hescape] at h
      rw [← List.head_eq_of_cons_eq h, hpercent] at hc
      cases hc

theorem percentEncode_ne_nil (h : chars ≠ []) : percentEncode mustEscape chars ≠ [] := by
  obtain ⟨c, rest, rfl⟩ := List.exists_cons_of_ne_nil h
  rw [percentEncode_cons]
  split
  · obtain ⟨escape, hescape⟩ := exists_escapeChar c
    rw [hescape]
    exact List.cons_ne_nil _ _
  · exact List.cons_ne_nil _ _

/-- Bytes without a percent sign stand for themselves. -/
theorem decodeBytes_eq_self {bytes : Bytes} (h : 0x25 ∉ bytes) : decodeBytes bytes = bytes := by
  induction bytes with
  | nil => rfl
  | cons b rest ih =>
    rw [List.mem_cons, not_or] at h
    obtain ⟨hb, hrest⟩ := h
    rw [decodeBytes, ih hrest]
    rintro high low tail rfl
    exact absurd rfl hb

end TypeAtlas.Url
