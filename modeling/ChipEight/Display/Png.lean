import ChipEight.Checksum
import ChipEight.Display.Export

namespace ChipEight

/-!
# Image files

A grayscale image is written as a portable network graphics file with eight
bits for each pixel.  The rows are stored without filtering and without
compression, in blocks of at most 65535 bytes.
-/

namespace Png

/-- Four bytes, the highest first. -/
def bigEndian (value : Nat) : List UInt8 :=
  [24, 16, 8, 0].map fun shift => UInt8.ofNat ((value >>> shift) % 256)

/-- Two bytes, the lowest first. -/
def littleEndian (value : Nat) : List UInt8 :=
  [UInt8.ofNat (value % 256), UInt8.ofNat (value / 256 % 256)]

/-- A chunk: its length, its four-letter kind, its content and their check. -/
def chunk (kind : String) (content : List UInt8) : List UInt8 :=
  let body := kind.toUTF8.toList ++ content
  bigEndian content.length ++ body ++ bigEndian (Checksum.crc32 body).toNat

/-- The largest content of a stored block. -/
def blockLimit : Nat := 65535

/-- A stored block. -/
def storedBlock (last : Bool) (content : List UInt8) : List UInt8 :=
  (if last then 1 else 0) :: (littleEndian content.length ++
    littleEndian (blockLimit - content.length) ++ content)

/-- A byte string as stored blocks.  The number bounds the blocks. -/
def storedBlocks : Nat → List UInt8 → List UInt8
  | 0, content => storedBlock true content
  | more + 1, content =>
      if content.length ≤ blockLimit then storedBlock true content
      else
        storedBlock false (content.take blockLimit) ++
          storedBlocks more (content.drop blockLimit)

/-- A byte string as an uncompressed stream with its check. -/
def stored (content : List UInt8) : List UInt8 :=
  [0x78, 0x01] ++ storedBlocks (content.length / blockLimit) content ++
    bigEndian (Checksum.adler32 content).toNat

/-- The signature at the start of a file. -/
def signature : List UInt8 :=
  [0x89, 0x50, 0x4E, 0x47, 0x0D, 0x0A, 0x1A, 0x0A]

/-- An image as the content of a file. -/
def encode (image : Image) : List UInt8 :=
  signature ++
    chunk "IHDR"
      (bigEndian image.width ++ bigEndian image.height ++ [8, 0, 0, 0, 0]) ++
    chunk "IDAT" (stored (image.rows.flatMap fun row => 0 :: row)) ++
    chunk "IEND" []

end Png

end ChipEight
