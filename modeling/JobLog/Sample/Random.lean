/-!
# A fixed stream of random numbers

The stream cipher ChaCha with eight rounds, keyed from a seed, gives words of 32 bits.

* `RandomStream.word` and `RandomStream.doubleWord` draw from the stream.
* `RandomStream.upTo` draws a number of a range, `RandomStream.letter` the place of a letter among
  letters and digits.
-/

namespace JobLog.Sample

/-- Rotates a word to the left. -/
def rotateLeft (x : UInt32) (n : UInt32) : UInt32 := (x <<< n) ||| (x >>> (32 - n))

/-- The sixteen words of the cipher's state. -/
abbrev Words := Array UInt32

/-- Mixes four words. -/
def quarterRound (w : Words) (a b c d : Nat) : Words :=
  let get := fun (w : Words) i => w.getD i 0
  let add := fun (w : Words) i j => w.setIfInBounds i (get w i + get w j)
  let mix := fun (w : Words) i j n => w.setIfInBounds i (rotateLeft (get w i ^^^ get w j) n)
  let w := mix (add w a b) d a 16
  let w := mix (add w c d) b c 12
  let w := mix (add w a b) d a 8
  mix (add w c d) b c 7

/-- Mixes the columns and then the diagonals. -/
def doubleRound (w : Words) : Words :=
  let w := quarterRound w 0 4 8 12
  let w := quarterRound w 1 5 9 13
  let w := quarterRound w 2 6 10 14
  let w := quarterRound w 3 7 11 15
  let w := quarterRound w 0 5 10 15
  let w := quarterRound w 1 6 11 12
  let w := quarterRound w 2 7 8 13
  quarterRound w 3 4 9 14

/-- The key that a seed of 64 bits gives. -/
def keyOf (seed : UInt64) : List UInt32 :=
  ((List.range 8).foldl (fun (key, s) _ =>
    let s : UInt64 := s * 6364136223846793005 + 11634580027462260723
    let x : UInt32 := (((s >>> 18) ^^^ s) >>> 27).toUInt32
    let r : UInt32 := (s >>> 59).toUInt32
    (key ++ [rotateLeft x ((32 - r) % 32)], s)) (([] : List UInt32), seed)).1

/-- The constants of the cipher. -/
def constants : List UInt32 := [0x61707865, 0x3320646e, 0x79622d32, 0x6b206574]

/-- A block of sixteen words. -/
def block (key : List UInt32) (counter : Nat) : List UInt32 :=
  let input : Words := (constants ++ key ++
    [UInt32.ofNat counter, UInt32.ofNat (counter >>> 32), 0, 0]).toArray
  let mixed := (List.range 4).foldl (fun w _ => doubleRound w) input
  mixed.toList.zipWith (· + ·) input.toList

/-- A stream, as far as it was drawn from. -/
structure RandomStream where
  key : List UInt32
  /-- The number of blocks that were made. -/
  blocks : Nat
  /-- The words of the last block that were not drawn yet. -/
  left : List UInt32

namespace RandomStream

/-- The stream of a seed. -/
def ofSeed (seed : UInt64) : RandomStream := ⟨keyOf seed, 0, []⟩

/-- Draws a word. -/
def word (s : RandomStream) : Nat × RandomStream :=
  match s.left with
  | w :: rest => (w.toNat, { s with left := rest })
  | [] =>
    match block s.key s.blocks with
    | w :: rest => (w.toNat, { s with blocks := s.blocks + 1, left := rest })
    | [] => (0, s)

/-- Draws a word of 64 bits, the low half first. -/
def doubleWord (s : RandomStream) : Nat × RandomStream :=
  let (low, s) := s.word
  let (high, s) := s.word
  (low + high <<< 32, s)

/-- Draws a number up to `n` by scaling numbers of `bits` bits; where the remainder of the first
one is too large to be fair, a second one decides whether to go one up. -/
def upTo (bits : Nat) (draw : RandomStream → Nat × RandomStream) (n : Nat) (s : RandomStream) :
    Fin (n + 1) × RandomStream :=
  let (x, s) := draw s
  let product := x * (n + 1)
  let bound := 1 <<< bits
  let rest := product % bound
  if bound - (n + 1) < rest then
    let (y, s) := draw s
    let up := if bound ≤ rest + y * (n + 1) / bound then 1 else 0
    (Fin.ofNat (n + 1) (product / bound + up), s)
  else (Fin.ofNat (n + 1) (product / bound), s)

/-- Draws the place of a letter: words are drawn until the leading six bits of one are in range, at
most `fuel` times. -/
def letterIn (s : RandomStream) : Nat → Fin 62 × RandomStream
  | 0 => (0, s)
  | fuel + 1 =>
    let (w, s) := s.word
    if h : w >>> 26 < 62 then (⟨w >>> 26, h⟩, s) else s.letterIn fuel

/-- Draws the place of a letter. -/
def letter (s : RandomStream) : Fin 62 × RandomStream := s.letterIn 1000

end RandomStream
end JobLog.Sample
