import Mathlib.Data.List.Basic
import Mathlib.Tactic.IntervalCases
import Mathlib.Tactic.Lemma

set_option relaxedAutoImplicit false
set_option autoImplicit false

/-!
# SHA-256 and hexadecimal text

The hash function as its standard defines it, on words that are natural numbers below `2 ^ 32`, and
the lowercase hexadecimal text of a list of bytes. Both are structurally recursive, so that closed
terms evaluate.

## Main definitions

* `Sha256.sum256` — the 32 bytes of the digest of a message.
* `Hex.encode` — two digits for every byte.

## Main results

* `Sha256.sum256_length`, `Hex.encode_length` — the lengths.
-/

namespace Sha256

/-! ## Words -/

def add (x y : ℕ) : ℕ := (x + y) % 2 ^ 32

def rotateRight (x n : ℕ) : ℕ := (x >>> n) ||| ((x <<< (32 - n)) % 2 ^ 32)

def choose (x y z : ℕ) : ℕ := (x &&& y) ^^^ ((2 ^ 32 - 1 - x) &&& z)

def majority (x y z : ℕ) : ℕ := (x &&& y) ^^^ (x &&& z) ^^^ (y &&& z)

def bigSigma0 (x : ℕ) : ℕ := rotateRight x 2 ^^^ rotateRight x 13 ^^^ rotateRight x 22

def bigSigma1 (x : ℕ) : ℕ := rotateRight x 6 ^^^ rotateRight x 11 ^^^ rotateRight x 25

def smallSigma0 (x : ℕ) : ℕ := rotateRight x 7 ^^^ rotateRight x 18 ^^^ (x >>> 3)

def smallSigma1 (x : ℕ) : ℕ := rotateRight x 17 ^^^ rotateRight x 19 ^^^ (x >>> 10)

/-- The round constants. -/
def constants : List ℕ :=
  [0x428a2f98, 0x71374491, 0xb5c0fbcf, 0xe9b5dba5, 0x3956c25b, 0x59f111f1, 0x923f82a4, 0xab1c5ed5,
    0xd807aa98, 0x12835b01, 0x243185be, 0x550c7dc3, 0x72be5d74, 0x80deb1fe, 0x9bdc06a7, 0xc19bf174,
    0xe49b69c1, 0xefbe4786, 0x0fc19dc6, 0x240ca1cc, 0x2de92c6f, 0x4a7484aa, 0x5cb0a9dc, 0x76f988da,
    0x983e5152, 0xa831c66d, 0xb00327c8, 0xbf597fc7, 0xc6e00bf3, 0xd5a79147, 0x06ca6351, 0x14292967,
    0x27b70a85, 0x2e1b2138, 0x4d2c6dfc, 0x53380d13, 0x650a7354, 0x766a0abb, 0x81c2c92e, 0x92722c85,
    0xa2bfe8a1, 0xa81a664b, 0xc24b8b70, 0xc76c51a3, 0xd192e819, 0xd6990624, 0xf40e3585, 0x106aa070,
    0x19a4c116, 0x1e376c08, 0x2748774c, 0x34b0bcb5, 0x391c0cb3, 0x4ed8aa4a, 0x5b9cca4f, 0x682e6ff3,
    0x748f82ee, 0x78a5636f, 0x84c87814, 0x8cc70208, 0x90befffa, 0xa4506ceb, 0xbef9a3f7, 0xc67178f2]

/-! ## Compression -/

/-- The eight working variables. -/
structure State where
  a : ℕ
  b : ℕ
  c : ℕ
  d : ℕ
  e : ℕ
  f : ℕ
  g : ℕ
  h : ℕ

def initial : State :=
  ⟨0x6a09e667, 0xbb67ae85, 0x3c6ef372, 0xa54ff53a, 0x510e527f, 0x9b05688c, 0x1f83d9ab, 0x5be0cd19⟩

/-- One round, with its constant and its message word. -/
def round (s : State) (k w : ℕ) : State :=
  let t₁ := (s.h + bigSigma1 s.e + choose s.e s.f s.g + k + w) % 2 ^ 32
  let t₂ := (bigSigma0 s.a + majority s.a s.b s.c) % 2 ^ 32
  ⟨add t₁ t₂, s.a, s.b, s.c, add s.d t₁, s.e, s.f, s.g⟩

/-- The message word that follows the sixteen words `w`. -/
def schedule (w : List ℕ) : ℕ :=
  (smallSigma1 (w.getD 14 0) + w.getD 9 0 + smallSigma0 (w.getD 1 0) + w.getD 0 0) % 2 ^ 32

/-- The rounds with the constants `ks`, where `w` are the next sixteen message words. -/
def rounds : List ℕ → List ℕ → State → State
  | [], _, s => s
  | k :: ks, w, s => rounds ks (w.tail ++ [schedule w]) (round s k (w.headD 0))

/-- Add one block of sixteen words to the digest. -/
def compress (s : State) (block : List ℕ) : State :=
  let t := rounds constants block s
  ⟨add s.a t.a, add s.b t.b, add s.c t.c, add s.d t.d, add s.e t.e, add s.f t.f, add s.g t.g,
    add s.h t.h⟩

/-! ## Messages -/

/-- The message, a one bit, zeros, and the length in bits in the last eight bytes of a block. -/
def pad (m : List ℕ) : List ℕ :=
  m ++ 0x80 :: List.replicate ((119 - m.length % 64) % 64) 0 ++
    [7, 6, 5, 4, 3, 2, 1, 0].map fun i => m.length * 8 / 256 ^ i % 256

/-- The big-endian words of a message. -/
def words : List ℕ → List ℕ
  | a :: b :: c :: d :: rest => (((a * 256 + b) * 256 + c) * 256 + d) :: words rest
  | _ => []

/-- The first `n` blocks of sixteen words. -/
def blocks : ℕ → List ℕ → List (List ℕ)
  | 0, _ => []
  | n + 1, ws => ws.take 16 :: blocks n (ws.drop 16)

/-- The big-endian bytes of a word. -/
def wordBytes (x : ℕ) : List ℕ := [x / 2 ^ 24 % 256, x / 2 ^ 16 % 256, x / 2 ^ 8 % 256, x % 256]

/-- The digest of a message of bytes. -/
def sum256 (m : List ℕ) : List ℕ :=
  let ws := words (pad m)
  let s := (blocks (ws.length / 16) ws).foldl compress initial
  [s.a, s.b, s.c, s.d, s.e, s.f, s.g, s.h].flatMap wordBytes

lemma sum256_length (m : List ℕ) : (sum256 m).length = 32 := by
  simp [sum256, wordBytes]

end Sha256

namespace Hex

/-- The lowercase digit of a number below 16. -/
def digit (n : ℕ) : Char := if n < 10 then Char.ofNat (48 + n) else Char.ofNat (87 + n)

/-- Two digits for every byte. -/
def encode (bytes : List ℕ) : List Char := bytes.flatMap fun b => [digit (b / 16 % 16), digit (b % 16)]

lemma encode_length (bytes : List ℕ) : (encode bytes).length = 2 * bytes.length := by
  induction bytes with
  | nil => rfl
  | cons b bytes ih =>
    rw [encode, List.flatMap_cons, ← encode, List.length_append, ih, List.length_cons]
    simp only [List.length_cons, List.length_nil]
    omega

lemma digit_ne_dash (n : ℕ) (h : n < 16) : digit n ≠ '-' := by
  interval_cases n <;> decide

lemma dash_notMem_encode (bytes : List ℕ) : '-' ∉ encode bytes := by
  simp only [encode, List.mem_flatMap, not_exists, not_and]
  intro b _ hmem
  simp only [List.mem_cons, List.not_mem_nil, or_false] at hmem
  rcases hmem with h | h
  · exact digit_ne_dash _ (Nat.mod_lt _ (by decide)) h.symm
  · exact digit_ne_dash _ (Nat.mod_lt _ (by decide)) h.symm

end Hex
