import DualSlot.Bytes.LittleEndian

/-!
# Seeded bytes

Where payloads come from: a `ByteSource` gives as many bytes as it is asked for, and the same ones for the
same seed.

`Random.source` is a reproducible stream. The generator is xoshiro256+, whose four state words are the first
four outputs of SplitMix64 started at the seed. Every draw gives eight bytes; a rest of at most four
bytes takes the upper half of one more draw.
-/

namespace DualSlot

/-- A source of bytes: as many as are asked for, from any seed. -/
structure ByteSource where
  bytes : (seed : UInt64) → (count : Nat) → List UInt8
  length_bytes : ∀ seed count, (bytes seed count).length = count

namespace Random

/-! ## SplitMix64: from a seed to state words -/

/-- The distance between two SplitMix64 states. -/
def increment : UInt64 := 0x9e3779b97f4a7c15

/-- The SplitMix64 output at a state. -/
def mix (x : UInt64) : UInt64 :=
  let y := (x ^^^ (x >>> 30)) * 0xbf58476d1ce4e5b9
  let z := (y ^^^ (y >>> 27)) * 0x94d049bb133111eb
  z ^^^ (z >>> 31)

/-! ## xoshiro256+ -/

/-- The state of the generator. -/
structure Generator where
  s0 : UInt64
  s1 : UInt64
  s2 : UInt64
  s3 : UInt64
  deriving DecidableEq, Repr

namespace Generator

def ofSeed (seed : UInt64) : Generator where
  s0 := mix (seed + increment)
  s1 := mix (seed + 2 * increment)
  s2 := mix (seed + 3 * increment)
  s3 := mix (seed + 4 * increment)

/-- The next output. -/
def output (g : Generator) : UInt64 := g.s0 + g.s3

/-- The state after one draw. -/
def next (g : Generator) : Generator :=
  let s2 := g.s2 ^^^ g.s0
  let s3 := g.s3 ^^^ g.s1
  { s0 := g.s0 ^^^ s3
    s1 := g.s1 ^^^ s2
    s2 := s2 ^^^ (g.s1 <<< 17)
    s3 := (s3 <<< 45) ||| (s3 >>> 19) }

/-- The bytes of a draw that end a stream: the first `count` of eight. -/
def tail (g : Generator) (count : Nat) : List UInt8 :=
  if 4 < count then LittleEndian.bytes count g.output.toNat
  else LittleEndian.bytes count (g.output >>> 32).toNat

/-- Draw `words` times eight bytes and then `rest` more, behind the bytes so far. -/
def fill (rest : Nat) : (words : Nat) → Generator → Array UInt8 → Array UInt8
  | 0, g, sofar => sofar ++ g.tail rest
  | words + 1, g, sofar =>
    fill rest words g.next (sofar ++ LittleEndian.bytes 8 g.output.toNat)

end Generator

/-- The first `count` bytes of the stream of a seed. -/
def bytes (seed : UInt64) (count : Nat) : List UInt8 :=
  (Generator.fill (count % 8) (count / 8) (Generator.ofSeed seed) #[]).toList

theorem length_tail (g : Generator) (count : Nat) : (g.tail count).length = count := by
  unfold Generator.tail
  split <;> exact LittleEndian.length_bytes _ _

theorem length_fill (rest words : Nat) (g : Generator) (sofar : Array UInt8) :
    (Generator.fill rest words g sofar).toList.length = sofar.toList.length + 8 * words + rest := by
  induction words generalizing g sofar with
  | zero => simp only [Generator.fill, Array.toList_appendList, List.length_append, length_tail,
      Nat.mul_zero, Nat.add_zero]
  | succ words ih =>
    simp only [Generator.fill, ih, Array.toList_appendList, List.length_append,
      LittleEndian.length_bytes]
    omega

theorem length_bytes (seed : UInt64) (count : Nat) : (bytes seed count).length = count := by
  rw [bytes, length_fill, List.length_nil]
  omega

/-- The stream as a source of bytes. -/
def source : ByteSource := ⟨bytes, length_bytes⟩

end Random

end DualSlot
