/-
# Random bytes

The generator is the 32-bit Mersenne twister with 624 words of state.  It is
seeded with an integer through the 32-bit pieces of its absolute value, lowest
piece first, and a byte is drawn from the top nine bits of its words: a draw of
256 or more is thrown away and the next word is taken.

`nextByte` is the only thing a machine uses, and it is a function of the state:
machines in equal states draw equal bytes.
-/

namespace Chip8

/-- The state of the generator: its words, and how many of them have been given out. -/
structure Twister where
  words : Vector UInt32 624
  used : Nat
  deriving DecidableEq, Repr

namespace Twister

/-- The word at a position counted cyclically. -/
def wordAt (ws : Vector UInt32 624) (k : Nat) : UInt32 :=
  ws.get ⟨k % 624, Nat.mod_lt k (by decide)⟩

/-- The words with the one at a cyclic position replaced. -/
def put (ws : Vector UInt32 624) (k : Nat) (w : UInt32) : Vector UInt32 624 :=
  ws.set (k % 624) w (Nat.mod_lt k (by decide))

/-- One step of the multiplicative mixing that the seeding uses. -/
def scramble (w : UInt32) : UInt32 := w ^^^ (w >>> 30)

/-- The words that seeding starts from. -/
def startWords : Vector UInt32 624 :=
  (List.range 623).foldl
    (fun ws k => put ws (k + 1) (1812433253 * scramble (wordAt ws k) + UInt32.ofNat (k + 1)))
    (put (Vector.replicate 624 0) 0 19650218)

/-- Position `1, …, 623, 1, …` of the `k`-th mixing step. -/
def mixPosition (k : Nat) : Nat := k % 623 + 1

/-- After the last position its word becomes word 0 as well. -/
def closeRound (ws : Vector UInt32 624) (position : Nat) : Vector UInt32 624 :=
  if position = 623 then put ws 0 (wordAt ws 623) else ws

/-- Mixes the key into the words: each position in turn takes up the next piece of the key. -/
def mixKey (key : Array UInt32) (ws : Vector UInt32 624) : Vector UInt32 624 :=
  (List.range (max 624 key.size)).foldl
    (fun ws k =>
      let i := mixPosition k
      let j := k % key.size
      let w := wordAt ws i ^^^ (scramble (wordAt ws (i - 1)) * 1664525)
      let w := w + key.getD j 0 + UInt32.ofNat j
      closeRound (put ws i w) i)
    ws

/-- The second round of mixing, which goes on where the first one stopped. -/
def mixIndex (steps : Nat) (ws : Vector UInt32 624) : Vector UInt32 624 :=
  (List.range 623).foldl
    (fun ws k =>
      let i := mixPosition (steps + k)
      let w := (wordAt ws i ^^^ (scramble (wordAt ws (i - 1)) * 1566083941)) - UInt32.ofNat i
      closeRound (put ws i w) i)
    ws

/-- The 32-bit pieces of a number, lowest first; zero has the one piece zero. -/
def pieces (n : Nat) : List UInt32 :=
  if n < 4294967296 then [UInt32.ofNat n]
  else UInt32.ofNat (n % 4294967296) :: pieces (n / 4294967296)

/-- The generator seeded with an integer; the sign of the seed does not matter. -/
def seeded (seed : Int) : Twister :=
  let key := (pieces seed.natAbs).toArray
  let words := mixIndex (max 624 key.size) (mixKey key startWords)
  ⟨put words 0 0x80000000, 624⟩

/-- The next 624 words from the last 624. -/
def twist (ws : Vector UInt32 624) : Vector UInt32 624 :=
  (List.range 624).foldl
    (fun ws k =>
      let y := (wordAt ws k &&& 0x80000000) ||| (wordAt ws (k + 1) &&& 0x7fffffff)
      let odd : UInt32 := if y &&& 1 = 1 then 0x9908b0df else 0
      put ws k (wordAt ws (k + 397) ^^^ (y >>> 1) ^^^ odd))
    ws

/-- The bit mixing between a word of state and a word given out. -/
def temper (w : UInt32) : UInt32 :=
  let w := w ^^^ (w >>> 11)
  let w := w ^^^ ((w <<< 7) &&& 0x9d2c5680)
  let w := w ^^^ ((w <<< 15) &&& 0xefc60000)
  w ^^^ (w >>> 18)

/-- The next word. -/
def nextWord (g : Twister) : Twister × UInt32 :=
  let g := if g.used < 624 then g else ⟨twist g.words, 0⟩
  (⟨g.words, g.used + 1⟩, temper (wordAt g.words g.used))

/-- At most `tries` draws of nine bits, the first one below 256 is the answer. -/
def drawByte : Nat → Twister → Twister × UInt8
  | 0, g => (g, 0)
  | tries + 1, g =>
    let (g, w) := g.nextWord
    let draw := (w >>> 23).toNat
    if draw < 256 then (g, UInt8.ofNat draw) else drawByte tries g

/-- The next byte.  The top bits of successive words obey a linear recurrence over 19937
bits of state, so there are never more than 19937 rejected draws in a row. -/
def nextByte (g : Twister) : Twister × UInt8 := drawByte 19938 g

/-- The state after `n` bytes have been drawn. -/
def skip (g : Twister) : Nat → Twister
  | 0 => g
  | n + 1 => (g.skip n).nextByte.1

/-- The bytes of a generator as a stream: `g.bytes k` is the draw after `k` earlier ones. -/
def bytes (g : Twister) (k : Nat) : UInt8 := (g.skip k).nextByte.2

end Twister
end Chip8
