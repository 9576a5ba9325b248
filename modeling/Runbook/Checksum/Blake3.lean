/-!
# The BLAKE3 hash

A message is cut into chunks of 1024 octets. Each chunk is compressed block by block, and the chunks
are the leaves of a binary tree whose left subtrees are as large a power of two as fits. A node is
kept as the input of its last compression, because the root compresses that input with one more
flag.
-/

namespace Runbook.Blake3

/-- Four words that are worked on side by side. -/
structure Quad where
  a : UInt32
  b : UInt32
  c : UInt32
  d : UInt32
  deriving Repr, DecidableEq

namespace Quad

/-- The lane-wise combination of two quads. -/
@[inline] def zip (f : UInt32 → UInt32 → UInt32) (x y : Quad) : Quad :=
  ⟨f x.a y.a, f x.b y.b, f x.c y.c, f x.d y.d⟩

/-- The lane-wise sum. -/
def add (x y : Quad) : Quad := zip (· + ·) x y

/-- The lane-wise exclusive or. -/
def xor (x y : Quad) : Quad := zip (· ^^^ ·) x y

/-- Every lane rotated right by `n` bits. -/
def rotateRight (x : Quad) (n : UInt32) : Quad :=
  let rotate (w : UInt32) := (w >>> n) ||| (w <<< (32 - n))
  ⟨rotate x.a, rotate x.b, rotate x.c, rotate x.d⟩

/-- The lanes moved one place to the left. -/
def shift1 (x : Quad) : Quad := ⟨x.b, x.c, x.d, x.a⟩

/-- The lanes moved two places. -/
def shift2 (x : Quad) : Quad := ⟨x.c, x.d, x.a, x.b⟩

/-- The lanes moved three places to the left. -/
def shift3 (x : Quad) : Quad := ⟨x.d, x.a, x.b, x.c⟩

/-- The lanes in order. -/
def toList (x : Quad) : List UInt32 := [x.a, x.b, x.c, x.d]

end Quad

/-- A chaining value: eight words. -/
structure Chain where
  low : Quad
  high : Quad
  deriving Repr, DecidableEq

/-- The initial chaining value. -/
def initial : Chain :=
  ⟨⟨0x6A09E667, 0xBB67AE85, 0x3C6EF372, 0xA54FF53A⟩,
    ⟨0x510E527F, 0x9B05688C, 0x1F83D9AB, 0x5BE0CD19⟩⟩

/-- The working state of a compression: four rows of four words. -/
structure Rows where
  first : Quad
  second : Quad
  third : Quad
  fourth : Quad

/-- One mixing step on all four columns, with two message words for each column. -/
def Rows.mix (s : Rows) (x y : Quad) : Rows :=
  let a := (s.first.add s.second).add x
  let d := (s.fourth.xor a).rotateRight 16
  let c := s.third.add d
  let b := (s.second.xor c).rotateRight 12
  let a := (a.add b).add y
  let d := (d.xor a).rotateRight 8
  let c := c.add d
  let b := (b.xor c).rotateRight 7
  ⟨a, b, c, d⟩

/-- One round: the columns are mixed, and then the diagonals. -/
def Rows.round (s : Rows) (m : Array UInt32) : Rows :=
  let word (i : Nat) := m.getD i 0
  let s := s.mix ⟨word 0, word 2, word 4, word 6⟩ ⟨word 1, word 3, word 5, word 7⟩
  let s : Rows := ⟨s.first, s.second.shift1, s.third.shift2, s.fourth.shift3⟩
  let s := s.mix ⟨word 8, word 10, word 12, word 14⟩ ⟨word 9, word 11, word 13, word 15⟩
  ⟨s.first, s.second.shift3, s.third.shift2, s.fourth.shift1⟩

/-- The order in which the message words enter the next round. -/
def schedule : Array Nat :=
  #[2, 6, 3, 10, 7, 0, 4, 13, 1, 11, 12, 5, 9, 14, 15, 8]

/-- The message words in the order of the next round. -/
def permute (m : Array UInt32) : Array UInt32 :=
  schedule.map fun i => m.getD i 0

/-- A number of rounds, with the message words permuted between them. -/
def Rows.rounds : Nat → Rows → Array UInt32 → Rows
  | 0, s, _ => s
  | n + 1, s, m => Rows.rounds n (s.round m) (permute m)

/-- The input of a compression. -/
structure Node where
  chain : Chain
  words : Array UInt32
  counter : Nat
  length : Nat
  flags : UInt32

/-- The flag of the first block of a chunk. -/
def chunkStart : UInt32 := 1

/-- The flag of the last block of a chunk. -/
def chunkEnd : UInt32 := 2

/-- The flag of a node with two children. -/
def parent : UInt32 := 4

/-- The flag of the root. -/
def root : UInt32 := 8

/-- The chaining value that a compression yields. -/
def Node.compress (node : Node) (flags : UInt32) : Chain :=
  let rows : Rows :=
    ⟨node.chain.low, node.chain.high, initial.low,
      ⟨UInt32.ofNat node.counter, UInt32.ofNat (node.counter / 4294967296),
        UInt32.ofNat node.length, node.flags ||| flags⟩⟩
  let rows := rows.rounds 7 node.words
  ⟨rows.first.xor rows.third, rows.second.xor rows.fourth⟩

/-- The words of an octet sequence, least significant octet first. Missing octets count as zero. -/
def wordsOf : List UInt8 → List UInt32
  | a :: b :: c :: d :: rest =>
    (a.toUInt32 ||| (b.toUInt32 <<< 8) ||| (c.toUInt32 <<< 16) ||| (d.toUInt32 <<< 24)) ::
      wordsOf rest
  | [a, b, c] => [a.toUInt32 ||| (b.toUInt32 <<< 8) ||| (c.toUInt32 <<< 16)]
  | [a, b] => [a.toUInt32 ||| (b.toUInt32 <<< 8)]
  | [a] => [a.toUInt32]
  | [] => []

/-- The node of a chunk: all blocks but the last are compressed into the chaining value. -/
def chunkNode (chain : Chain) (counter : Nat) (flags : UInt32) (octets : List UInt8) : Node :=
  if octets.length ≤ 64 then
    ⟨chain, (wordsOf octets).toArray, counter, octets.length, flags ||| chunkEnd⟩
  else
    let block : Node := ⟨chain, (wordsOf (octets.take 64)).toArray, counter, 64, flags⟩
    chunkNode (block.compress 0) counter 0 (octets.drop 64)
  termination_by octets.length
  decreasing_by
    rw [List.length_drop]
    omega

/-- The node above two subtrees. -/
def parentNode (left right : Node) : Node :=
  let l := left.compress 0
  let r := right.compress 0
  ⟨initial, (l.low.toList ++ l.high.toList ++ r.low.toList ++ r.high.toList).toArray, 0, 64, parent⟩

/-- The size of the left subtree of a message of more than one chunk: the largest power of two of
chunks that leaves something for the right one. -/
def leftSize (size : Nat) : Nat :=
  1024 * Nat.pow 2 ((size - 1) / 1024).log2

/-- The left subtree is never empty. -/
theorem leftSize_pos (size : Nat) : 0 < leftSize size :=
  Nat.mul_pos (by decide) (Nat.two_pow_pos _)

/-- The left subtree is never the whole message. -/
theorem leftSize_lt {size : Nat} (h : 1024 < size) : leftSize size < size := by
  have chunks : (size - 1) / 1024 ≠ 0 := by
    have : 1 ≤ (size - 1) / 1024 := (Nat.le_div_iff_mul_le (by decide)).2 (by omega)
    omega
  have power : Nat.pow 2 ((size - 1) / 1024).log2 ≤ (size - 1) / 1024 := Nat.log2_self_le chunks
  have product : 1024 * ((size - 1) / 1024) ≤ size - 1 := Nat.mul_div_le _ _
  have : leftSize size ≤ 1024 * ((size - 1) / 1024) := Nat.mul_le_mul_left _ power
  omega

/-- The node of a message whose first chunk has the number `counter`. -/
def tree (counter : Nat) (octets : List UInt8) : Node :=
  if h : octets.length ≤ 1024 then
    chunkNode initial counter chunkStart octets
  else
    let left := leftSize octets.length
    parentNode (tree counter (octets.take left)) (tree (counter + left / 1024) (octets.drop left))
  termination_by octets.length
  decreasing_by
    · rw [List.length_take]
      have := leftSize_lt (Nat.lt_of_not_le h)
      omega
    · rw [List.length_drop]
      have := leftSize_pos octets.length
      omega

/-- The octets of a word, least significant first. -/
def octetsOf (word : UInt32) : List UInt8 :=
  [word.toUInt8, (word >>> 8).toUInt8, (word >>> 16).toUInt8, (word >>> 24).toUInt8]

/-- The digest of a message: 32 octets. -/
def hash (octets : List UInt8) : List UInt8 :=
  let chain := (tree 0 octets).compress root
  (chain.low.toList ++ chain.high.toList).flatMap octetsOf

end Runbook.Blake3
