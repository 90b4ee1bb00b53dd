/-!
The BLAKE3 hash of a byte string. The input is cut into chunks of 1024 bytes, a chunk into blocks
of 64; chunks are the leaves of a binary tree whose left branch always holds the largest power of
two of chunks that leaves something for the right.
-/
namespace AspectLoom.Blake3

abbrev Word := UInt32

def initial : Vector Word 8 :=
  #v[0x6A09E667, 0xBB67AE85, 0x3C6EF372, 0xA54FF53A, 0x510E527F, 0x9B05688C, 0x1F83D9AB, 0x5BE0CD19]

/-- The order in which a round reads the words that the round before it read in order. -/
def schedule : Vector (Fin 16) 16 := #v[2, 6, 3, 10, 7, 0, 4, 13, 1, 11, 12, 5, 9, 14, 15, 8]

def rotateRight (word : Word) (count : Word) : Word :=
  (word >>> count) ||| (word <<< (32 - count))

def mix (state : Vector Word 16) (a b c d : Fin 16) (x y : Word) : Vector Word 16 :=
  let a₁ := state[a] + state[b] + x
  let d₁ := rotateRight (state[d] ^^^ a₁) 16
  let c₁ := state[c] + d₁
  let b₁ := rotateRight (state[b] ^^^ c₁) 12
  let a₂ := a₁ + b₁ + y
  let d₂ := rotateRight (d₁ ^^^ a₂) 8
  let c₂ := c₁ + d₂
  let b₂ := rotateRight (b₁ ^^^ c₂) 7
  (((state.set a a₂).set b b₂).set c c₂).set d d₂

/-- Mixes the four columns of the state and then its four diagonals. -/
def mixAll (state : Vector Word 16) (m : Vector Word 16) : Vector Word 16 :=
  let state := mix state 0 4 8 12 m[0] m[1]
  let state := mix state 1 5 9 13 m[2] m[3]
  let state := mix state 2 6 10 14 m[4] m[5]
  let state := mix state 3 7 11 15 m[6] m[7]
  let state := mix state 0 5 10 15 m[8] m[9]
  let state := mix state 1 6 11 12 m[10] m[11]
  let state := mix state 2 7 8 13 m[12] m[13]
  mix state 3 4 9 14 m[14] m[15]

def rounds : Nat → Vector Word 16 → Vector Word 16 → Vector Word 16
  | 0, state, _ => state
  | 1, state, m => mixAll state m
  | count + 2, state, m => rounds (count + 1) (mixAll state m) (schedule.map fun i => m[i])

/-- What is about to be compressed: a parent's two halves, or the last block of a chunk. -/
structure Pending where
  chaining : Vector Word 8
  block : Vector Word 16
  counter : UInt64
  length : Word
  flags : Word

def chunkStart : Word := 1
def chunkEnd : Word := 2
def parentNode : Word := 4
def rootNode : Word := 8

def Pending.compress (pending : Pending) (extra : Word) : Vector Word 16 :=
  let h := pending.chaining
  let state : Vector Word 16 := #v[h[0], h[1], h[2], h[3], h[4], h[5], h[6], h[7],
    initial[0], initial[1], initial[2], initial[3],
    pending.counter.toUInt32, (pending.counter >>> 32).toUInt32, pending.length,
    pending.flags ||| extra]
  rounds 7 state pending.block

def Pending.chain (pending : Pending) : Vector Word 8 :=
  let state := pending.compress 0
  Vector.ofFn fun i => state[i.val] ^^^ state[i.val + 8]

def wordBytes (word : Word) : List UInt8 :=
  [word.toUInt8, (word >>> 8).toUInt8, (word >>> 16).toUInt8, (word >>> 24).toUInt8]

def Pending.digest (pending : Pending) : List UInt8 :=
  let state := pending.compress rootNode
  (Vector.ofFn fun i : Fin 8 => state[i.val] ^^^ state[i.val + 8]).toList.flatMap wordBytes

def byteAt (bytes : List UInt8) (index : Nat) : Word := (bytes.getD index 0).toUInt32

/-- Sixteen little-endian words; bytes past the end are zero. -/
def blockWords (bytes : List UInt8) : Vector Word 16 :=
  Vector.ofFn fun i =>
    let bytes := bytes.drop (4 * i.val)
    byteAt bytes 0 ||| (byteAt bytes 1 <<< 8) ||| (byteAt bytes 2 <<< 16)
      ||| (byteAt bytes 3 <<< 24)

/-- The pieces of a given size in order, the last one shorter; an empty input is one empty piece. -/
def piecesOf (size : Nat) (bytes : List UInt8) : List (List UInt8) :=
  if size = 0 ∨ bytes.length ≤ size then [bytes]
  else bytes.take size :: piecesOf size (bytes.drop size)
termination_by bytes.length
decreasing_by simp only [List.length_drop]; omega

def chunkBlocks (counter : UInt64) (chaining : Vector Word 8) (start : Word) :
    List (List UInt8) → Pending
  | [] => ⟨chaining, blockWords [], counter, 0, start ||| chunkEnd⟩
  | [last] => ⟨chaining, blockWords last, counter, last.length.toUInt32, start ||| chunkEnd⟩
  | block :: rest =>
    let done : Pending := ⟨chaining, blockWords block, counter, block.length.toUInt32, start⟩
    chunkBlocks counter done.chain 0 rest

def leaf (counter : Nat) (chunk : List UInt8) : Pending :=
  chunkBlocks counter.toUInt64 initial chunkStart (piecesOf 64 chunk)

def parent (left right : Vector Word 8) : Pending :=
  ⟨initial, left ++ right, 0, 64, parentNode⟩

/-- The largest power of two below a count of at least two. -/
def leftSize (count : Nat) : Nat := 1 <<< (count - 1).log2

theorem leftSize_lt {count : Nat} (many : 2 ≤ count) : leftSize count < count := by
  have below : 2 ^ (count - 1).log2 ≤ count - 1 := Nat.log2_self_le (by omega)
  rw [leftSize, Nat.one_shiftLeft]
  omega

theorem leftSize_pos (count : Nat) : 0 < leftSize count := by
  rw [leftSize, Nat.one_shiftLeft]
  exact Nat.two_pow_pos _

def tree (first : Nat) (chunks : List (List UInt8)) : Pending :=
  if many : 2 ≤ chunks.length then
    let size := leftSize chunks.length
    have := leftSize_lt many
    have := leftSize_pos chunks.length
    parent (tree first (chunks.take size)).chain (tree (first + size) (chunks.drop size)).chain
  else leaf first (chunks.headD [])
termination_by chunks.length
decreasing_by
  all_goals simp only [List.length_take, List.length_drop]; omega

/-- The 32 bytes of the digest. -/
def hash (bytes : List UInt8) : List UInt8 := (tree 0 (piecesOf 1024 bytes)).digest

end AspectLoom.Blake3
