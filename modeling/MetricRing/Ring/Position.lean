import MetricRing.Digest.Md5
/-!
# Ring positions

The ring has 65536 positions. A key sits at the position read big-endian from the first two
bytes of the MD5 digest of its UTF-8 text, the placement the Graphite carbon daemons use, so
every member of a cluster agrees on it. A member with `r` virtual nodes places its `i`-th at
the position of `replicaKey kv i`, where `kv` is the member's key value.
-/

namespace MetricRing

/-- A place on the ring. -/
abbrev Position := UInt16

/-- The big-endian reading of the first two bytes of a byte list, `0` when it is shorter. -/
def readPosition : List UInt8 → Position
  | b0 :: b1 :: _ => (b0.toUInt16 <<< 8) ||| b1.toUInt16
  | _ => 0

/-- Where a key lives on the ring. -/
def positionOf (key : String) : Position :=
  readPosition (Md5.digest key.toUTF8.toList)

/-- The text hashed for the `i`-th virtual node of a member with key value `kv`. -/
def replicaKey (kv : String) (i : Nat) : String :=
  kv ++ ":" ++ toString i

theorem readPosition_toNat (b0 b1 : UInt8) (rest : List UInt8) :
    (readPosition (b0 :: b1 :: rest)).toNat = b0.toNat * 256 + b1.toNat := by
  simp only [readPosition]
  rw [UInt16.toNat_or, UInt16.toNat_shiftLeft]
  simp only [UInt8.toNat_toUInt16]
  have h0 := b0.toNat_lt
  have h1 := b1.toNat_lt
  rw [Nat.shiftLeft_eq]
  simp only [show (8 : UInt16).toNat % 16 = 8 from rfl]
  rw [Nat.mod_eq_of_lt (by omega)]
  have hor : b0.toNat * 2 ^ 8 ||| b1.toNat = b0.toNat * 2 ^ 8 + b1.toNat := by
    rw [← Nat.shiftLeft_eq, Nat.shiftLeft_add_eq_or_of_lt h1]
  omega

end MetricRing
