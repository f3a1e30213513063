import Mathlib.Data.Nat.Notation
/-! # Numbers in big-endian bytes

The two directions are inverse to each other: `u16_bytes16` and `bytes16_u16`, and the same for four
bytes. -/

namespace BigEndian

/-- The number in two bytes. -/
def u16 (b₁ b₀ : UInt8) : UInt16 := UInt16.ofNat (256 * b₁.toNat + b₀.toNat)

/-- The number in four bytes. -/
def u32 (b₃ b₂ b₁ b₀ : UInt8) : UInt32 :=
  UInt32.ofNat (16777216 * b₃.toNat + 65536 * b₂.toNat + 256 * b₁.toNat + b₀.toNat)

/-- The bytes of a number. -/
def bytes16 (n : UInt16) : List UInt8 := [.ofNat (n.toNat / 256), .ofNat n.toNat]

/-- The bytes of a number. -/
def bytes32 (n : UInt32) : List UInt8 :=
  [.ofNat (n.toNat / 16777216), .ofNat (n.toNat / 65536), .ofNat (n.toNat / 256), .ofNat n.toNat]

/-- Two bytes. -/
@[simp] theorem length_bytes16 (n : UInt16) : (bytes16 n).length = 2 := rfl

/-- Four bytes. -/
@[simp] theorem length_bytes32 (n : UInt32) : (bytes32 n).length = 4 := rfl

/-- Two bytes as a number. -/
theorem toNat_u16 (b₁ b₀ : UInt8) : (u16 b₁ b₀).toNat = 256 * b₁.toNat + b₀.toNat := by
  have high := b₁.toNat_lt
  have low := b₀.toNat_lt
  rw [u16, UInt16.toNat_ofNat']
  omega

/-- Four bytes as a number. -/
theorem toNat_u32 (b₃ b₂ b₁ b₀ : UInt8) : (u32 b₃ b₂ b₁ b₀).toNat =
    16777216 * b₃.toNat + 65536 * b₂.toNat + 256 * b₁.toNat + b₀.toNat := by
  have h₃ := b₃.toNat_lt
  have h₂ := b₂.toNat_lt
  have h₁ := b₁.toNat_lt
  have h₀ := b₀.toNat_lt
  rw [u32, UInt32.toNat_ofNat']
  omega

/-- **Reading two bytes back.** -/
theorem u16_bytes16 (n : UInt16) : u16 (.ofNat (n.toNat / 256)) (.ofNat n.toNat) = n := by
  have bound := n.toNat_lt
  apply UInt16.toNat_inj.1
  rw [toNat_u16, UInt8.toNat_ofNat', UInt8.toNat_ofNat']
  omega

/-- **Reading four bytes back.** -/
theorem u32_bytes32 (n : UInt32) : u32 (.ofNat (n.toNat / 16777216)) (.ofNat (n.toNat / 65536))
    (.ofNat (n.toNat / 256)) (.ofNat n.toNat) = n := by
  have bound := n.toNat_lt
  apply UInt32.toNat_inj.1
  rw [toNat_u32, UInt8.toNat_ofNat', UInt8.toNat_ofNat', UInt8.toNat_ofNat', UInt8.toNat_ofNat']
  omega

/-- A byte is determined by its number. -/
theorem ofNat_eq {n : ℕ} {b : UInt8} (same : n % 256 = b.toNat) : UInt8.ofNat n = b := by
  apply UInt8.toNat_inj.1
  rw [UInt8.toNat_ofNat']
  exact same

/-- Two bytes that are read are written back. -/
theorem bytes16_u16 (b₁ b₀ : UInt8) : bytes16 (u16 b₁ b₀) = [b₁, b₀] := by
  have high := b₁.toNat_lt
  have low := b₀.toNat_lt
  rw [bytes16, toNat_u16, ofNat_eq (by omega : _ = b₁.toNat), ofNat_eq (by omega : _ = b₀.toNat)]

/-- Four bytes that are read are written back. -/
theorem bytes32_u32 (b₃ b₂ b₁ b₀ : UInt8) : bytes32 (u32 b₃ b₂ b₁ b₀) = [b₃, b₂, b₁, b₀] := by
  have h₃ := b₃.toNat_lt
  have h₂ := b₂.toNat_lt
  have h₁ := b₁.toNat_lt
  have h₀ := b₀.toNat_lt
  rw [bytes32, toNat_u32, ofNat_eq (by omega : _ = b₃.toNat), ofNat_eq (by omega : _ = b₂.toNat),
    ofNat_eq (by omega : _ = b₁.toNat), ofNat_eq (by omega : _ = b₀.toNat)]

end BigEndian
