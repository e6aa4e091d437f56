import AtomicSwap.Bytes
import AtomicSwap.Numeral

/-!
The Keccak sponge with a digest of thirty-two bytes. The two digests built on it differ in the byte
that ends the message only: the standardised SHA3-256 has `0x06` there, the older Keccak-256 `0x01`.
-/

set_option autoImplicit false
set_option relaxedAutoImplicit false

namespace AtomicSwap.Keccak

/-- The sponge's twenty-five lanes, the lane in column `x` of row `y` at place `x + 5 * y`. -/
abbrev Lanes := List UInt64

/-- The lane in column `x` of row `y`, the two counted around. -/
def lane (s : Lanes) (x y : Nat) : UInt64 := s.getD (x % 5 + 5 * (y % 5)) 0

def lanes (f : Nat → Nat → UInt64) : Lanes := (List.range 25).map fun i => f (i % 5) (i / 5)

def rotate (x n : UInt64) : UInt64 := (x <<< n) ||| (x >>> (64 - n))

def offsets : List UInt64 :=
  [0, 1, 62, 28, 27, 36, 44, 6, 55, 20, 3, 10, 43, 25, 39, 41, 45, 15, 21, 8, 18, 2, 61, 56, 14]

def constants : List UInt64 :=
  [0x0000000000000001, 0x0000000000008082, 0x800000000000808a, 0x8000000080008000,
   0x000000000000808b, 0x0000000080000001, 0x8000000080008081, 0x8000000000008009,
   0x000000000000008a, 0x0000000000000088, 0x0000000080008009, 0x000000008000000a,
   0x000000008000808b, 0x800000000000008b, 0x8000000000008089, 0x8000000000008003,
   0x8000000000008002, 0x8000000000000080, 0x000000000000800a, 0x800000008000000a,
   0x8000000080008081, 0x8000000000008080, 0x0000000080000001, 0x8000000080008008]

def parity (s : Lanes) (x : Nat) : UInt64 :=
  lane s x 0 ^^^ lane s x 1 ^^^ lane s x 2 ^^^ lane s x 3 ^^^ lane s x 4

/-- Adds to each lane the parities of two columns beside it. -/
def mixColumns (s : Lanes) : Lanes :=
  let parities := (List.range 5).map (parity s)
  let effects := (List.range 5).map fun x =>
    parities.getD ((x + 4) % 5) 0 ^^^ rotate (parities.getD ((x + 1) % 5) 0) 1
  lanes fun x y => lane s x y ^^^ effects.getD x 0

/-- Rotates each lane by its offset and moves it to its new place. -/
def scatter (s : Lanes) : Lanes :=
  lanes fun x y => rotate (lane s (x + 3 * y) x) (lane offsets (x + 3 * y) x)

/-- Mixes each lane with the two that follow it in its row. -/
def mixRows (s : Lanes) : Lanes :=
  lanes fun x y => lane s x y ^^^ (~~~lane s (x + 1) y &&& lane s (x + 2) y)

def step (s : Lanes) (constant : UInt64) : Lanes :=
  match mixRows (scatter (mixColumns s)) with
  | [] => []
  | first :: rest => (first ^^^ constant) :: rest

def permute (s : Lanes) : Lanes := constants.foldl step s

/-- The number of bytes that a block brings in. -/
def rate : Nat := 136

/-- The message behind the byte that ends it, the zeros that fill the last block, and a last bit. -/
def pad (ending : UInt8) (message : List UInt8) : List UInt8 :=
  match rate - message.length % rate with
  | 0 => message
  | 1 => message ++ [ending ||| 0x80]
  | room + 2 => message ++ ending :: List.replicate room 0 ++ [0x80]

/-- The lane that eight bytes write, least significant first. -/
def laneOfBytes (bs : List UInt8) : UInt64 := UInt64.ofNat (BigEndian.decode bs.reverse)

/-- The eight bytes of a lane, least significant first. -/
def bytesOfLane (x : UInt64) : List UInt8 := (BigEndian.encode 8 x.toNat).reverse

def absorb (s : Lanes) (block : List UInt8) : Lanes :=
  permute ((List.range 25).map fun i =>
    s.getD i 0 ^^^ laneOfBytes ((block.drop (8 * i)).take 8))

def blocks (padded : List UInt8) : List (List UInt8) :=
  (List.range (padded.length / rate)).map fun i => (padded.drop (rate * i)).take rate

/-- The digest of a message that ends with the byte `ending`. -/
def digest (ending : UInt8) (message : List UInt8) : Bytes 32 where
  toList :=
    let s := (blocks (pad ending message)).foldl absorb (List.replicate 25 0)
    (List.range 4).flatMap fun i => bytesOfLane (s.getD i 0)
  length_eq := by simp [bytesOfLane, List.range, List.range.loop]

def sha3 (message : List UInt8) : Bytes 32 := digest 0x06 message

/-- The Keccak-256 digest, as it was before the standard. -/
def keccak (message : List UInt8) : Bytes 32 := digest 0x01 message

end AtomicSwap.Keccak
