namespace ChipEight

/-!
# Checksums

The cyclic redundancy check of 32 bits with the reflected polynomial
`0xEDB88320`, and the check that adds bytes modulo 65521.
-/

namespace Checksum

/-- One bit of the division by the polynomial. -/
def crcBit (value : UInt32) : UInt32 :=
  if value &&& 1 = 1 then (value >>> 1) ^^^ 0xEDB88320 else value >>> 1

/-- The remainder that one byte leaves. -/
def crcOfByte (byte : Nat) : UInt32 :=
  (List.range 8).foldl (fun value _ => crcBit value) (UInt32.ofNat byte)

/-- The remainders of all bytes. -/
def crcTable : Array UInt32 :=
  (Array.range 256).map crcOfByte

/-- Go on with one more byte. -/
def crcStep (value : UInt32) (byte : UInt8) : UInt32 :=
  crcTable.getD ((value ^^^ byte.toUInt32) &&& 0xFF).toNat 0 ^^^ (value >>> 8)

/-- The cyclic redundancy check of a byte string. -/
def crc32 (bytes : List UInt8) : UInt32 :=
  bytes.foldl crcStep 0xFFFFFFFF ^^^ 0xFFFFFFFF

/-- The modulus of the additive check, the largest prime below `2 ^ 16`. -/
def adlerModulus : Nat := 65521

/-- The additive check of a byte string. -/
def adler32 (bytes : List UInt8) : UInt32 :=
  let (low, high) := bytes.foldl
    (fun (sums : Nat × Nat) byte =>
      let low := (sums.1 + byte.toNat) % adlerModulus
      (low, (sums.2 + low) % adlerModulus))
    (1, 0)
  UInt32.ofNat (65536 * high + low)

end Checksum

end ChipEight
