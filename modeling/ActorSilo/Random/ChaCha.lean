/-! # A seeded stream of random numbers

Faults are injected at random, drawn from a stream that a 64-bit seed fixes.

* The seed is spread into a 256-bit key by eight steps of the PCG32 generator: each step
  multiplies the state by `6364136223846793005` and adds `11634580027462260723` (modulo
  `2^64`), then outputs the state's high bits, xor-shifted and rotated.
* The stream is the ChaCha keystream of that key with 12 rounds, the block counter from
  zero and the stream number zero: the words of block 0, then of block 1, and so on.
* A 64-bit number is two words of the stream, the first one low; a number in `[0, 1)` is
  the high 53 bits of a 64-bit number divided by `2^53`.
-/

namespace ActorSilo.Random

/-- Rotates a word left by `n` bits, `n` below 32. -/
def rotateLeft (x n : UInt32) : UInt32 := (x <<< n) ||| (x >>> (32 - n))

/-- Rotates a word right by `n` bits, `n` below 32. -/
def rotateRight (x n : UInt32) : UInt32 := (x >>> n) ||| (x <<< (32 - n))

abbrev State := Vector UInt32 16

/-- The quarter round on the words at `a`, `b`, `c` and `d`. -/
def quarter (s : State) (a b c d : Fin 16) : State :=
  let va := s[a] + s[b]
  let vd := rotateLeft (s[d] ^^^ va) 16
  let vc := s[c] + vd
  let vb := rotateLeft (s[b] ^^^ vc) 12
  let va := va + vb
  let vd := rotateLeft (vd ^^^ va) 8
  let vc := vc + vd
  let vb := rotateLeft (vb ^^^ vc) 7
  ((((s.set a va).set b vb).set c vc).set d vd)

/-- Two rounds: one on the columns of the state, then one on its diagonals. -/
def doubleRound (s : State) : State :=
  let s := quarter s 0 4 8 12
  let s := quarter s 1 5 9 13
  let s := quarter s 2 6 10 14
  let s := quarter s 3 7 11 15
  let s := quarter s 0 5 10 15
  let s := quarter s 1 6 11 12
  let s := quarter s 2 7 8 13
  quarter s 3 4 9 14

/-- The words "expand 32-byte k" that open every state. -/
def sigma : List UInt32 := [0x61707865, 0x3320646e, 0x79622d32, 0x6b206574]

/-- A block of the keystream: `2 * doubles` rounds on the state made of the constants,
the key and the four words `tail` (counter and stream), added to that state word by
word. -/
def block (doubles : Nat) (key : Vector UInt32 8) (tail : Vector UInt32 4) : List UInt32 :=
  let start : State := Vector.ofFn fun i : Fin 16 =>
    if h : i.val < 4 then (sigma[i.val]?).getD 0
    else if h2 : i.val < 12 then key[i.val - 4]
    else tail[i.val - 12]
  let mixed := (List.range doubles).foldl (fun s _ => doubleRound s) start
  (List.zipWith (· + ·) mixed.toList start.toList)

example : block 10 (Vector.ofFn fun i => [0x03020100, 0x07060504, 0x0b0a0908, 0x0f0e0d0c,
      0x13121110, 0x17161514, 0x1b1a1918, 0x1f1e1d1c].getD i.val 0)
    (Vector.ofFn fun i => [1, 0x09000000, 0x4a000000, 0].getD i.val 0) =
    [0xe4e7f110, 0x15593bd1, 0x1fdd0f50, 0xc47120a3, 0xc7f4d1c7, 0x0368c033, 0x9aaa2204,
      0x4e6cd4c3, 0x466482d2, 0x09aa9f07, 0x05d7c214, 0xa2028bd9, 0xd19c12b5, 0xb94e16de,
      0xe883d0cb, 0x4e3c50a2] := by
  decide +kernel

/-- One step of PCG32: the next state and the word it outputs. -/
def pcgStep (state : UInt64) : UInt64 × UInt32 :=
  let state := state * 6364136223846793005 + 11634580027462260723
  let mixed := (((state >>> 18) ^^^ state) >>> 27).toUInt32
  (state, rotateRight mixed (state >>> 59).toUInt32)

/-- The key a seed spreads into: eight words of PCG32 from the seed. -/
def keyOfSeed (seed : UInt64) : Vector UInt32 8 :=
  let (_, words) := (List.range 8).foldl
    (fun (acc : UInt64 × List UInt32) _ => let (s, w) := pcgStep acc.1; (s, acc.2 ++ [w])) (seed, [])
  Vector.ofFn fun i => words.getD i.val 0

/-- A position in the keystream of a key: the next block, and the words of the current
block not yet drawn. -/
structure Generator where
  key : Vector UInt32 8
  nextBlock : Nat := 0
  pending : List UInt32 := []
  deriving Repr

namespace Generator

def ofSeed (seed : UInt64) : Generator := { key := keyOfSeed seed }

def doubles : Nat := 6

def blockAt (g : Generator) (n : Nat) : List UInt32 :=
  let c := UInt64.ofNat n
  block doubles g.key (Vector.ofFn fun i => [c.toUInt32, (c >>> 32).toUInt32, 0, 0].getD i.val 0)

/-- The next 64-bit number: two words of the stream, the first one low. A block has an
even number of words, so both come from one block. -/
def next (g : Generator) : UInt64 × Generator :=
  let g := if g.pending.length < 2 then
      { g with pending := g.blockAt g.nextBlock, nextBlock := g.nextBlock + 1 }
    else g
  match g.pending with
  | lo :: hi :: rest => ((hi.toUInt64 <<< 32) ||| lo.toUInt64, { g with pending := rest })
  | _ => (0, g)

/-- The next number in `[0, 1)`: the high 53 bits of the next 64-bit number over `2^53`. -/
def unit (g : Generator) : Float × Generator :=
  let (v, g) := g.next
  (Float.ofNat (v >>> 11).toNat / 9007199254740992.0, g)

end Generator

end ActorSilo.Random
