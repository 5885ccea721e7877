/-!
# The SHA-1 message digest

A message is padded to whole blocks of sixteen 32-bit words, and the blocks are
worked one after the other into a state of five words.
-/

namespace ProjectFiles.Sha1

/-- The five words worked on. -/
structure State where
  a : UInt32
  b : UInt32
  c : UInt32
  d : UInt32
  e : UInt32
  deriving DecidableEq, Repr

/-- The state before the first block. -/
def initial : State :=
  ⟨0x67452301, 0xEFCDAB89, 0x98BADCFE, 0x10325476, 0xC3D2E1F0⟩

/-- Rotate a word to the left. -/
def rotate (word : UInt32) (amount : UInt32) : UInt32 :=
  (word <<< amount) ||| (word >>> (32 - amount))

/-- The last `count` bytes of a number, most significant first. -/
def bigEndian : Nat → Nat → List UInt8
  | 0, _ => []
  | count + 1, n => bigEndian count (n / 256) ++ [UInt8.ofNat (n % 256)]

/-- A message with its end mark, zeros, and its length in bits. -/
def padded (message : List UInt8) : List UInt8 :=
  let zeros := (119 - message.length % 64) % 64
  message ++ [0x80] ++ List.replicate zeros 0 ++ bigEndian 8 (8 * message.length)

/-- Put four bytes at a time together into words. -/
def words : List UInt8 → List UInt32
  | a :: b :: c :: d :: rest =>
      ((a.toUInt32 <<< 24) ||| (b.toUInt32 <<< 16) ||| (c.toUInt32 <<< 8) ||| d.toUInt32) ::
        words rest
  | _ => []

/-- The words of all rounds.  `recent` holds the last sixteen words, newest
first; every further word mixes four of them. -/
def schedule : Nat → List UInt32 → List UInt32
  | 0, _ => []
  | rounds + 1, recent =>
      let next := rotate (recent.getD 2 0 ^^^ recent.getD 7 0 ^^^ recent.getD 13 0 ^^^
        recent.getD 15 0) 1
      next :: schedule rounds (next :: recent.take 15)

/-- The mixing function and the constant of a round. -/
def mix (round : Nat) (state : State) : UInt32 :=
  if round < 20 then
    ((state.b &&& state.c) ||| (~~~state.b &&& state.d)) + 0x5A827999
  else if round < 40 then
    (state.b ^^^ state.c ^^^ state.d) + 0x6ED9EBA1
  else if round < 60 then
    ((state.b &&& state.c) ||| (state.b &&& state.d) ||| (state.c &&& state.d)) + 0x8F1BBCDC
  else
    (state.b ^^^ state.c ^^^ state.d) + 0xCA62C1D6

/-- Work one word into the state. -/
def step (current : Nat × State) (word : UInt32) : Nat × State :=
  let (round, state) := current
  (round + 1,
    { a := rotate state.a 5 + mix round state + state.e + word
      b := state.a
      c := rotate state.b 30
      d := state.c
      e := state.d })

/-- Work one block of sixteen words into the state. -/
def block (state : State) (block : List UInt32) : State :=
  let worked := ((block ++ schedule 64 block.reverse).foldl step (0, state)).2
  ⟨state.a + worked.a, state.b + worked.b, state.c + worked.c, state.d + worked.d,
    state.e + worked.e⟩

/-- Work a number of blocks into the state. -/
def blocks : Nat → State → List UInt32 → State
  | 0, state, _ => state
  | count + 1, state, message =>
      blocks count (block state (message.take 16)) (message.drop 16)

/-- The digest of a message, as a number of 160 bits. -/
def digest (message : List UInt8) : Nat :=
  let message := words (padded message)
  let state := blocks (message.length / 16) initial message
  [state.a, state.b, state.c, state.d, state.e].foldl
    (fun total word => total * 0x100000000 + word.toNat) 0

end ProjectFiles.Sha1
