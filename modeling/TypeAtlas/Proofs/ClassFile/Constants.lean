import TypeAtlas.ClassFile.ConstantPool
import TypeAtlas.Proofs.ClassFile.Reads
import TypeAtlas.Proofs.Text.ModifiedUtf8

/-!
# Constants survive writing

A constant is read back from its bytes (`Constant.reads_encode`), and what constants are read from
one after another fills the slots of a pool (`ConstantPool.reads_layout`). The only constants that
do not fit into a class file are texts of more than 65535 bytes.
-/

set_option autoImplicit false

namespace TypeAtlas.ClassFile

namespace Constant

/-- The number of bytes of a text constant, and zero for any other. -/
def textLength : Constant → Nat
  | .utf8 text => (Text.ModifiedUtf8.encode text).length
  | _ => 0

/-- The length of a text fits into its two bytes. -/
def Fits (c : Constant) : Prop := c.textLength ≤ 65535

/-- Only a text can be too long. -/
theorem fits_of_ne_utf8 {c : Constant} (h : ∀ text, c ≠ .utf8 text) : c.Fits := by
  cases c with
  | utf8 text => exact absurd rfl (h text)
  | _ => exact Nat.zero_le _

instance (c : Constant) : Decidable c.Fits := inferInstanceAs (Decidable (c.textLength ≤ 65535))

/-- A text is read from any bytes that decode to it, behind their number. -/
theorem reads_utf8 {body : Bytes} {text : String} (hlength : body.length ≤ 65535)
    (hdecode : Text.ModifiedUtf8.decode body = some text) :
    Reads (1 :: count16 body.length ++ body) read (.utf8 text) := by
  refine Reads.u1_bind ((Reads.u2 _).bind ?_)
  rw [toNat_ofNat_of_le hlength]
  apply (Reads.take _).bind_nil
  rw [hdecode]
  exact Reads.pure

/-- A constant is read back from its bytes. -/
theorem reads_encode {c : Constant} (h : c.Fits) : Reads c.encode read c := by
  cases c with
  | utf8 text => exact reads_utf8 h (Text.ModifiedUtf8.decode_encode text)
  | integer value =>
    exact Reads.u1_bind ((Reads.u4 _).bind_nil Reads.pure)
  | float bits => exact Reads.u1_bind ((Reads.u4 _).bind_nil Reads.pure)
  | long value => exact Reads.u1_bind ((Reads.u8 _).bind_nil Reads.pure)
  | double bits => exact Reads.u1_bind ((Reads.u8 _).bind_nil Reads.pure)
  | classRef name => exact Reads.u1_bind ((Reads.u2 _).bind_nil Reads.pure)
  | string text => exact Reads.u1_bind ((Reads.u2 _).bind_nil Reads.pure)
  | fieldRef owner nat =>
    exact Reads.u1_bind ((Reads.u2 _).bind ((Reads.u2 _).bind_nil Reads.pure))
  | methodRef owner nat =>
    exact Reads.u1_bind ((Reads.u2 _).bind ((Reads.u2 _).bind_nil Reads.pure))
  | interfaceMethodRef owner nat =>
    exact Reads.u1_bind ((Reads.u2 _).bind ((Reads.u2 _).bind_nil Reads.pure))
  | nameAndType name descriptor =>
    exact Reads.u1_bind ((Reads.u2 _).bind ((Reads.u2 _).bind_nil Reads.pure))
  | methodHandle kind reference =>
    exact Reads.u1_bind (Reads.u1_bind ((Reads.u2 _).bind_nil Reads.pure))
  | methodType descriptor => exact Reads.u1_bind ((Reads.u2 _).bind_nil Reads.pure)
  | dynamic bootstrap nat =>
    exact Reads.u1_bind ((Reads.u2 _).bind ((Reads.u2 _).bind_nil Reads.pure))
  | invokeDynamic bootstrap nat =>
    exact Reads.u1_bind ((Reads.u2 _).bind ((Reads.u2 _).bind_nil Reads.pure))
  | module name => exact Reads.u1_bind ((Reads.u2 _).bind_nil Reads.pure)
  | package name => exact Reads.u1_bind ((Reads.u2 _).bind_nil Reads.pure)

end Constant

namespace ConstantPool

/-- The slots that constants fill, in order. -/
def layout : List Constant → List (Option Constant)
  | [] => []
  | c :: rest => if c.isWide then some c :: none :: layout rest else some c :: layout rest

theorem layout_wide {c : Constant} (h : c.isWide = true) (rest : List Constant) :
    layout (c :: rest) = some c :: none :: layout rest := by
  rw [layout, if_pos h]

theorem layout_narrow {c : Constant} (h : c.isWide = false) (rest : List Constant) :
    layout (c :: rest) = some c :: layout rest := by
  rw [layout, h]
  rfl

theorem layout_append (front back : List Constant) :
    layout (front ++ back) = layout front ++ layout back := by
  induction front with
  | nil => rfl
  | cons c rest ih =>
    rw [List.cons_append]
    cases h : c.isWide with
    | true => rw [layout_wide h, layout_wide h, ih, List.cons_append, List.cons_append]
    | false => rw [layout_narrow h, layout_narrow h, ih, List.cons_append]

/-- What constants are read from one after another fills their slots. -/
theorem reads_layout {pieces : List Bytes} {constants : List Constant}
    (h : List.Forall₂ (fun piece c => Reads piece Constant.read c) pieces constants) :
    Reads pieces.flatten (readSlots (layout constants).length) (layout constants) := by
  induction h with
  | nil => exact Reads.pure
  | @cons piece c pieces rest hc _ hrest =>
    rw [List.flatten_cons]
    cases hwide : c.isWide with
    | true =>
      -- a wide constant leaves the slot behind it empty
      rw [layout_wide hwide]
      apply hc.bind
      simp only [hwide, if_true]
      exact hrest.bind_nil Reads.pure
    | false =>
      rw [layout_narrow hwide]
      -- the last slot is read by a case of its own
      cases hslots : layout rest with
      | nil =>
        rw [hslots] at hrest
        apply hc.bind
        simp only [hwide]
        exact hrest.map fun others => some c :: others
      | cons slot slots =>
        rw [hslots] at hrest
        apply hc.bind
        simp only [hwide]
        exact hrest.bind_nil Reads.pure

end ConstantPool

end TypeAtlas.ClassFile
