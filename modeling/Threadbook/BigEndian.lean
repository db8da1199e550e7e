import Mathlib.Data.List.Induction
import Mathlib.Tactic.Ring

/-!
# Numbers in bytes, the highest first

A number is written into a fixed number of bytes (`write`) and read back from them (`read`). What
fits comes back (`read_write`), and bytes of the right number are those of the number they denote
(`write_read`): a fixed width has exactly one form for a number.
-/

namespace Threadbook.BigEndian

/-- The lowest `width` bytes of a number, the highest of them first. -/
def write : ℕ → ℕ → List UInt8
  | 0, _ => []
  | width + 1, n => write width (n / 256) ++ [UInt8.ofNat n]

def read (bytes : List UInt8) : ℕ := bytes.foldl (fun n byte => n * 256 + byte.toNat) 0

@[simp] theorem write_length (width n : ℕ) : (write width n).length = width := by
  induction width generalizing n with
  | zero => rfl
  | succ width ih => simp [write, ih]

@[simp] theorem read_append_singleton (bytes : List UInt8) (byte : UInt8) :
    read (bytes ++ [byte]) = read bytes * 256 + byte.toNat := by
  simp [read]

theorem read_write {width n : ℕ} (h : n < 256 ^ width) : read (write width n) = n := by
  induction width generalizing n with
  | zero =>
    rw [pow_zero, Nat.lt_one_iff] at h
    rw [h]
    rfl
  | succ width ih =>
    have hfits : n / 256 < 256 ^ width := by
      apply Nat.div_lt_of_lt_mul
      rwa [pow_succ'] at h
    have hlow : (UInt8.ofNat n).toNat = n % 256 := by simp
    rw [write, read_append_singleton, ih hfits, hlow]
    omega

theorem read_lt (bytes : List UInt8) : read bytes < 256 ^ bytes.length := by
  induction bytes using List.reverseRecOn with
  | nil => exact Nat.one_pos
  | append_singleton bytes byte ih =>
    have hlt : byte.toNat < 256 := UInt8.toNat_lt byte
    rw [read_append_singleton, List.length_append, List.length_singleton, pow_succ]
    omega

theorem write_read (bytes : List UInt8) : write bytes.length (read bytes) = bytes := by
  induction bytes using List.reverseRecOn with
  | nil => rfl
  | append_singleton bytes byte ih =>
    have hlt : byte.toNat < 256 := UInt8.toNat_lt byte
    have hhigh : (read bytes * 256 + byte.toNat) / 256 = read bytes := by omega
    have hlow : UInt8.ofNat (read bytes * 256 + byte.toNat) = byte := by
      apply UInt8.toNat_inj.mp
      simp
    rw [List.length_append, List.length_singleton, write, read_append_singleton, hhigh, ih, hlow]

theorem write_read_of_length {bytes : List UInt8} {width : ℕ} (h : bytes.length = width) :
    write width (read bytes) = bytes := by
  rw [← h, write_read]

end Threadbook.BigEndian
