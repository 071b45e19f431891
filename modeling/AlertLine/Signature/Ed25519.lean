import AlertLine.Signature.Sha512
import AlertLine.Signature.Edwards

/-!
# Ed25519 verification

A signature is a point `R` and a scalar `s`. It holds for a message when `s B - k A`, with `k` the
hash of `R`, the key and the message, is written with exactly the bytes of `R`. The scalar has to
be below the group order; the key may be any encoding of any point of the curve.
-/

namespace AlertLine.Ed25519

/-- A public key: the bytes as given, which the hash takes in, and the point that they encode. -/
structure PublicKey where
  /-- The encoding as given. -/
  bytes : Bytes
  /-- The point that it stands for. -/
  point : Edwards.Point

/-- The key with the given encoding, if it has thirty-two bytes and stands for a point. -/
def PublicKey.ofBytes? (bs : Bytes) : Option PublicKey :=
  if bs.length == 32 then (Edwards.Point.decode bs).map fun p => ⟨bs, p⟩ else none

/-- Sixty-four bytes: the encoded point, then the scalar. -/
structure Signature where
  /-- The bytes of the signature. -/
  bytes : Bytes
  /-- There are sixty-four of them. -/
  length_eq : bytes.length = 64

/-- The signature with the given bytes, if there are sixty-four. -/
def Signature.ofBytes? (bs : Bytes) : Option Signature :=
  if h : bs.length = 64 then some ⟨bs, h⟩ else none

/-- The encoding of the point of a signature. -/
def Signature.point (s : Signature) : Bytes := s.bytes.take 32

/-- The scalar of a signature. -/
def Signature.scalar (s : Signature) : Nat := Edwards.natOfBytes (s.bytes.drop 32)

/-- Whether the signature holds for the message under the key. -/
def verify (key : PublicKey) (message : Bytes) (signature : Signature) : Bool :=
  let s := signature.scalar
  if s < Edwards.groupOrder then
    let digest := Sha512.hash (signature.point ++ key.bytes ++ message)
    let k := Edwards.natOfBytes digest % Edwards.groupOrder
    let r := (Edwards.Point.base.multiple s).plus (key.point.negate.multiple k)
    r.encode == signature.point
  else false

end AlertLine.Ed25519
