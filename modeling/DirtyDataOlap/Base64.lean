import Mathlib.Data.List.Nodup
import Mathlib.Data.List.GetD
import Mathlib.Data.String.Basic

/-!
# Base 64 without padding

Three bytes are four letters of the alphabet that is safe in addresses and file names; what is left
over is two or three letters, which the padding would fill up. Without it the number of letters still
tells how many bytes are left over, so that **texts written alike are the same text**.
-/
namespace DirtyDataOlap.Base64

open List

def alphabet : List Char :=
  "ABCDEFGHIJKLMNOPQRSTUVWXYZabcdefghijklmnopqrstuvwxyz0123456789-_".toList

/-- The letter of six bits. -/
def letter (n : Nat) : Char := alphabet.getD n 'A'

theorem letter_inj {m n : Nat} (hm : m < 64) (hn : n < 64) : letter m = letter n ↔ m = n := by
  have hlength : alphabet.length = 64 := by decide
  have hnodup : alphabet.Nodup := by decide
  rw [letter, letter, getD_eq_getElem _ _ (hlength ▸ hm), getD_eq_getElem _ _ (hlength ▸ hn)]
  exact hnodup.getElem_inj_iff

/-- The letters of some bytes. -/
def encode : List UInt8 → List Char
  | a :: b :: c :: rest =>
    letter (a.toNat / 4) :: letter (a.toNat % 4 * 16 + b.toNat / 16) ::
      letter (b.toNat % 16 * 4 + c.toNat / 64) :: letter (c.toNat % 64) :: encode rest
  | [a, b] =>
    [letter (a.toNat / 4), letter (a.toNat % 4 * 16 + b.toNat / 16), letter (b.toNat % 16 * 4)]
  | [a] => [letter (a.toNat / 4), letter (a.toNat % 4 * 16)]
  | [] => []

/-- The first byte and the top of the second are read off two letters. -/
theorem eq_of_letters {a a' x x' : Nat} (ha : a < 256) (ha' : a' < 256) (hx : x < 16) (hx' : x' < 16)
    (h : letter (a / 4) = letter (a' / 4))
    (h' : letter (a % 4 * 16 + x) = letter (a' % 4 * 16 + x')) : a = a' ∧ x = x' := by
  have htop := (letter_inj (by omega) (by omega)).1 h
  have hlow := (letter_inj (by omega) (by omega)).1 h'
  omega

theorem encode_injective : Function.Injective encode := by
  intro xs
  induction xs using encode.induct with
  | case1 a b c rest ih =>
    intro ys h
    match ys with
    | [] => exact absurd (congrArg length h) (by simp [encode])
    | [_] => exact absurd (congrArg length h) (by simp [encode])
    | [_, _] => exact absurd (congrArg length h) (by simp [encode])
    | a' :: b' :: c' :: rest' =>
      simp only [encode, cons.injEq] at h
      obtain ⟨h1, h2, h3, h4, h5⟩ := h
      have hb := b.toNat_lt
      have hb' := b'.toNat_lt
      have hc := c.toNat_lt
      have hc' := c'.toNat_lt
      obtain ⟨hfirst, htop⟩ := eq_of_letters a.toNat_lt a'.toNat_lt (by omega) (by omega) h1 h2
      have hmiddle := (letter_inj (by omega) (by omega)).1 h3
      have hlast := (letter_inj (by omega) (by omega)).1 h4
      have hsecond : b.toNat = b'.toNat := by omega
      have hthird : c.toNat = c'.toNat := by omega
      rw [UInt8.toNat_inj.1 hfirst, UInt8.toNat_inj.1 hsecond, UInt8.toNat_inj.1 hthird, ih h5]
  | case2 a b =>
    intro ys h
    match ys with
    | [] => exact absurd (congrArg length h) (by simp [encode])
    | [_] => exact absurd (congrArg length h) (by simp [encode])
    | _ :: _ :: _ :: _ => exact absurd (congrArg length h) (by simp [encode])
    | [a', b'] =>
      simp only [encode, cons.injEq, and_true] at h
      obtain ⟨h1, h2, h3⟩ := h
      have hb := b.toNat_lt
      have hb' := b'.toNat_lt
      obtain ⟨hfirst, htop⟩ := eq_of_letters a.toNat_lt a'.toNat_lt (by omega) (by omega) h1 h2
      have hlast := (letter_inj (by omega) (by omega)).1 h3
      have hsecond : b.toNat = b'.toNat := by omega
      rw [UInt8.toNat_inj.1 hfirst, UInt8.toNat_inj.1 hsecond]
  | case3 a =>
    intro ys h
    match ys with
    | [] => exact absurd (congrArg length h) (by simp [encode])
    | [_, _] => exact absurd (congrArg length h) (by simp [encode])
    | _ :: _ :: _ :: _ => exact absurd (congrArg length h) (by simp [encode])
    | [a'] =>
      simp only [encode, cons.injEq, and_true] at h
      have hzero : letter (a.toNat % 4 * 16 + 0) = letter (a'.toNat % 4 * 16 + 0) := h.2
      rw [UInt8.toNat_inj.1 (eq_of_letters a.toNat_lt a'.toNat_lt (by omega) (by omega) h.1 hzero).1]
  | case4 =>
    intro ys h
    match ys with
    | [] => rfl
    | [_] => exact absurd (congrArg length h) (by simp [encode])
    | [_, _] => exact absurd (congrArg length h) (by simp [encode])
    | _ :: _ :: _ :: _ => exact absurd (congrArg length h) (by simp [encode])

def encodeText (text : String) : String := String.ofList (encode text.toUTF8.data.toList)

theorem encodeText_injective : Function.Injective encodeText := by
  intro a b h
  have hbytes := encode_injective (String.ofList_injective h)
  have hdata : a.toUTF8 = b.toUTF8 := ByteArray.ext (Array.toList_inj.1 hbytes)
  exact String.toByteArray_inj.1 hdata

end DirtyDataOlap.Base64
