import TypeAtlas.Proofs.ClassFile.Anchored
import TypeAtlas.Proofs.ClassFile.InstructionSet

/-!
# What stands in accepted bytes

A reader that succeeds tells what it was given: the bytes that it took off the front are those that
a writer makes of the value (`u2_eq_ok`, `u8_eq_ok`), and the bytes of a table are its length and
those of its entries one after another (`exists_of_table`). These are the converses of the laws on
what readers do with written bytes.
-/

set_option autoImplicit false

namespace TypeAtlas.ClassFile

section Primitives

variable {α β : Type} {c c' : Cursor}

/-- A reader whose value is passed on succeeds where the reader does. -/
theorem map_run_eq_ok_iff {f : α → β} {m : Reader α} {b : β} :
    (f <$> m) c = .ok (b, c') ↔ ∃ a, m c = .ok (a, c') ∧ f a = b := by
  show (m c >>= fun p => .ok (f p.1, p.2)) = _ ↔ _
  rw [bind_eq_ok_iff]
  constructor
  · rintro ⟨⟨a, middle⟩, hrun, hvalue⟩
    cases hvalue
    exact ⟨a, hrun, rfl⟩
  · rintro ⟨a, hrun, rfl⟩
    exact ⟨(a, c'), hrun, rfl⟩

/-- The number that is read is written by the bytes that were taken. -/
theorem exists_of_number {width n : Nat} (h : Reader.number width c = .ok (n, c')) :
    ∃ front, c.bytes = front ++ c'.bytes ∧ front.length = width ∧ ofBigEndian front = n := by
  rcases map_run_eq_ok_iff.1 h with ⟨front, htake, hvalue⟩
  rcases take_eq_ok htake with ⟨hbytes, hlength, -⟩
  exact ⟨front, hbytes, hlength, hvalue⟩

theorem u1_eq_ok {n : UInt8} (h : Reader.u1 c = .ok (n, c')) : c.bytes = [n] ++ c'.bytes := by
  rcases map_run_eq_ok_iff.1 h with ⟨value, hnumber, rfl⟩
  rcases exists_of_number hnumber with ⟨front, hbytes, hlength, rfl⟩
  obtain ⟨b, rfl⟩ := List.length_eq_one_iff.1 hlength
  rw [ofNat_ofBigEndian_singleton]
  exact hbytes

theorem u2_eq_ok {n : UInt16} (h : Reader.u2 c = .ok (n, c')) :
    c.bytes = word16 n ++ c'.bytes := by
  rcases map_run_eq_ok_iff.1 h with ⟨value, hnumber, rfl⟩
  rcases exists_of_number hnumber with ⟨front, hbytes, hlength, rfl⟩
  rw [word16_ofBigEndian hlength, hbytes]

theorem u4_eq_ok {n : UInt32} (h : Reader.u4 c = .ok (n, c')) :
    c.bytes = word32 n ++ c'.bytes := by
  rcases map_run_eq_ok_iff.1 h with ⟨value, hnumber, rfl⟩
  rcases exists_of_number hnumber with ⟨front, hbytes, hlength, rfl⟩
  rw [word32_ofBigEndian hlength, hbytes]

/-- The two halves that are read are those of the word. -/
theorem u8_eq_ok {n : UInt64} (h : Reader.u8 c = .ok (n, c')) :
    c.bytes = word64 n ++ c'.bytes := by
  rcases bind_eq_ok_iff.1 h with ⟨⟨high, c₁⟩, hhigh, h⟩
  rcases bind_eq_ok_iff.1 h with ⟨⟨low, c₂⟩, hlow, h⟩
  cases h
  rcases exists_of_number hhigh with ⟨front, hfront, hfrontLength, rfl⟩
  rcases exists_of_number hlow with ⟨back, hback, hbackLength, rfl⟩
  have hlength : (front ++ back).length = 8 := by
    rw [List.length_append, hfrontLength, hbackLength]
  have hvalue := ofBigEndian_concat front back
  rw [hbackLength] at hvalue
  have hword := word64_ofBigEndian hlength
  rw [hvalue] at hword
  rw [hfront, hback, ← List.append_assoc]
  exact congrArg (· ++ c'.bytes) hword.symm

end Primitives

section Tables

variable {α γ : Type} {item : Reader α} {R : γ → α → Prop} {write : γ → Bytes}

/-- If each accepted entry was written from something, so were the entries read one after
another. -/
theorem exists_of_times
    (hitem : ∀ c c' a, item c = .ok (a, c') → ∃ x, R x a ∧ c.bytes = write x ++ c'.bytes)
    {n : Nat} {c c' : Cursor} {list : List α} (h : Reader.times n item c = .ok (list, c')) :
    ∃ xs, List.Forall₂ R xs list ∧ xs.length = n ∧ c.bytes = xs.flatMap write ++ c'.bytes := by
  induction n generalizing c list with
  | zero =>
    cases h
    exact ⟨[], .nil, rfl, rfl⟩
  | succ n ih =>
    rcases bind_eq_ok_iff.1 h with ⟨⟨first, c₁⟩, hfirst, h⟩
    rcases bind_eq_ok_iff.1 h with ⟨⟨others, c₂⟩, hothers, h⟩
    cases h
    rcases hitem _ _ _ hfirst with ⟨x, hx, hfront⟩
    rcases ih hothers with ⟨xs, hxs, hlength, hback⟩
    refine ⟨x :: xs, .cons hx hxs, congrArg Nat.succ hlength, ?_⟩
    rw [List.flatMap_cons, List.append_assoc, ← hback]
    exact hfront

/-- An accepted table is its length and what its entries were written from. -/
theorem exists_of_table
    (hitem : ∀ c c' a, item c = .ok (a, c') → ∃ x, R x a ∧ c.bytes = write x ++ c'.bytes)
    {c c' : Cursor} {list : List α} (h : Reader.table item c = .ok (list, c')) :
    ∃ xs, List.Forall₂ R xs list ∧ xs.length ≤ 65535 ∧
      c.bytes = (count16 xs.length ++ xs.flatMap write) ++ c'.bytes := by
  rcases bind_eq_ok_iff.1 h with ⟨⟨count, c₁⟩, hcount, hentries⟩
  rcases exists_of_times hitem hentries with ⟨xs, hxs, hlength, hbytes⟩
  have hword : count16 xs.length = word16 count := by
    rw [count16, hlength, UInt16.ofNat_toNat]
  refine ⟨xs, hxs, ?_, ?_⟩
  · rw [hlength]
    exact Nat.le_of_lt_succ count.toNat_lt
  · rw [hword, u2_eq_ok hcount, List.append_assoc]
    exact congrArg (word16 count ++ ·) hbytes

end Tables

end TypeAtlas.ClassFile
