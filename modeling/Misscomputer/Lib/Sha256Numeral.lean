import Misscomputer.Lib.Sha256

set_option relaxedAutoImplicit false
set_option autoImplicit false

/-!
# SHA-256 in the kernel

The hash of `Misscomputer.Lib.Sha256` once more, in the form the kernel evaluates fastest: the operations
are those it computes on numerals, the message words and the working variables are arguments instead of
lists and fields, and every one of them is a numeral before it is passed on.

## Main definitions

* `Sha256.Numeral.sum256` — the digest of a message of bytes.

## Main results

* `Sha256.sum256_eq_numeral` — the two are the same hash, so that a closed digest is decided by rewriting
  with it.
-/

namespace Sha256

namespace Numeral

/-! ## Words -/

/-- Pass a number on as a numeral: the match makes the kernel evaluate it first. -/
def pass {α : Type} (n : ℕ) (k : ℕ → α) : α :=
  match n with
  | 0 => k 0
  | m + 1 => k m.succ

lemma pass_eq {α : Type} (n : ℕ) (k : ℕ → α) : pass n k = k n := by
  cases n <;> rfl

def low (x : ℕ) : ℕ := Nat.mod x 4294967296

def rotate (x n m : ℕ) : ℕ := Nat.lor (Nat.shiftRight x n) (low (Nat.shiftLeft x m))

def choose (x y z : ℕ) : ℕ := Nat.xor (Nat.land x y) (Nat.land (Nat.sub 4294967295 x) z)

def majority (x y z : ℕ) : ℕ := Nat.xor (Nat.xor (Nat.land x y) (Nat.land x z)) (Nat.land y z)

def bigSigma0 (x : ℕ) : ℕ := Nat.xor (Nat.xor (rotate x 2 30) (rotate x 13 19)) (rotate x 22 10)

def bigSigma1 (x : ℕ) : ℕ := Nat.xor (Nat.xor (rotate x 6 26) (rotate x 11 21)) (rotate x 25 7)

def smallSigma0 (x : ℕ) : ℕ := Nat.xor (Nat.xor (rotate x 7 25) (rotate x 18 14)) (Nat.shiftRight x 3)

def smallSigma1 (x : ℕ) : ℕ := Nat.xor (Nat.xor (rotate x 17 15) (rotate x 19 13)) (Nat.shiftRight x 10)

/-! ## Compression -/

/-- The rounds with the constants `ks`, from sixteen message words and eight working variables. -/
def rounds : List ℕ → ℕ → ℕ → ℕ → ℕ → ℕ → ℕ → ℕ → ℕ → ℕ → ℕ → ℕ → ℕ → ℕ → ℕ → ℕ → ℕ →
    ℕ → ℕ → ℕ → ℕ → ℕ → ℕ → ℕ → ℕ → State
  | [], _, _, _, _, _, _, _, _, _, _, _, _, _, _, _, _, a, b, c, d, e, f, g, h => ⟨a, b, c, d, e, f, g, h⟩
  | k :: ks, w0, w1, w2, w3, w4, w5, w6, w7, w8, w9, w10, w11, w12, w13, w14, w15, a, b, c, d, e, f, g, h =>
    pass (low (Nat.add (Nat.add (Nat.add (Nat.add h (bigSigma1 e)) (choose e f g)) k) w0)) fun t₁ =>
    pass (low (Nat.add t₁ (low (Nat.add (bigSigma0 a) (majority a b c))))) fun a' =>
    pass (low (Nat.add d t₁)) fun e' =>
    pass (low (Nat.add (Nat.add (Nat.add (smallSigma1 w14) w9) (smallSigma0 w1)) w0)) fun w16 =>
    rounds ks w1 w2 w3 w4 w5 w6 w7 w8 w9 w10 w11 w12 w13 w14 w15 w16 a' a b c e' e f g

/-- Add the working variables to the digest. -/
def absorb (s t : State) : State :=
  match s, t with
  | ⟨a, b, c, d, e, f, g, h⟩, ⟨a', b', c', d', e', f', g', h'⟩ =>
    pass (low (Nat.add a a')) fun a => pass (low (Nat.add b b')) fun b =>
    pass (low (Nat.add c c')) fun c => pass (low (Nat.add d d')) fun d =>
    pass (low (Nat.add e e')) fun e => pass (low (Nat.add f f')) fun f =>
    pass (low (Nat.add g g')) fun g => pass (low (Nat.add h h')) fun h => ⟨a, b, c, d, e, f, g, h⟩

/-- Add one block to the digest, after rounds with the constants `ks`. -/
def compress (ks : List ℕ) (s : State) (block : List ℕ) : State :=
  match s with
  | ⟨a, b, c, d, e, f, g, h⟩ =>
    pass (block.getD 0 0) fun w0 => pass (block.getD 1 0) fun w1 => pass (block.getD 2 0) fun w2 =>
    pass (block.getD 3 0) fun w3 => pass (block.getD 4 0) fun w4 => pass (block.getD 5 0) fun w5 =>
    pass (block.getD 6 0) fun w6 => pass (block.getD 7 0) fun w7 => pass (block.getD 8 0) fun w8 =>
    pass (block.getD 9 0) fun w9 => pass (block.getD 10 0) fun w10 => pass (block.getD 11 0) fun w11 =>
    pass (block.getD 12 0) fun w12 => pass (block.getD 13 0) fun w13 => pass (block.getD 14 0) fun w14 =>
    pass (block.getD 15 0) fun w15 =>
    absorb s (rounds ks w0 w1 w2 w3 w4 w5 w6 w7 w8 w9 w10 w11 w12 w13 w14 w15 a b c d e f g h)

/-- The digest of a message of bytes. -/
def sum256 (m : List ℕ) : List ℕ :=
  let ws := words (pad m)
  match (blocks (ws.length / 16) ws).foldl (compress constants) initial with
  | ⟨a, b, c, d, e, f, g, h⟩ => [a, b, c, d, e, f, g, h].flatMap wordBytes

end Numeral

/-! ## The two hashes -/

namespace Numeral

lemma low_eq (x : ℕ) : low x = x % 2 ^ 32 := rfl

lemma choose_eq (x y z : ℕ) : choose x y z = Sha256.choose x y z := by
  have hones : 2 ^ 32 - 1 = 4294967295 := rfl
  rw [Sha256.choose, hones]
  rfl

lemma majority_eq (x y z : ℕ) : majority x y z = Sha256.majority x y z := rfl

lemma rotate_eq {x n m : ℕ} (hm : 32 - n = m) : rotate x n m = rotateRight x n := by
  rw [rotateRight, hm, ← low_eq]
  rfl

lemma bigSigma0_eq (x : ℕ) : bigSigma0 x = Sha256.bigSigma0 x := by
  rw [Sha256.bigSigma0, ← rotate_eq (x := x) (n := 2) rfl, ← rotate_eq (x := x) (n := 13) rfl, ← rotate_eq (x := x) (n := 22) rfl]
  rfl

lemma bigSigma1_eq (x : ℕ) : bigSigma1 x = Sha256.bigSigma1 x := by
  rw [Sha256.bigSigma1, ← rotate_eq (x := x) (n := 6) rfl, ← rotate_eq (x := x) (n := 11) rfl, ← rotate_eq (x := x) (n := 25) rfl]
  rfl

lemma smallSigma0_eq (x : ℕ) : smallSigma0 x = Sha256.smallSigma0 x := by
  rw [Sha256.smallSigma0, ← rotate_eq (x := x) (n := 7) rfl, ← rotate_eq (x := x) (n := 18) rfl]
  rfl

lemma smallSigma1_eq (x : ℕ) : smallSigma1 x = Sha256.smallSigma1 x := by
  rw [Sha256.smallSigma1, ← rotate_eq (x := x) (n := 17) rfl, ← rotate_eq (x := x) (n := 19) rfl]
  rfl

end Numeral

lemma rounds_eq_numeral (ks : List ℕ) (w0 w1 w2 w3 w4 w5 w6 w7 w8 w9 w10 w11 w12 w13 w14 w15 a b c d e f g h : ℕ) :
    rounds ks [w0, w1, w2, w3, w4, w5, w6, w7, w8, w9, w10, w11, w12, w13, w14, w15] ⟨a, b, c, d, e, f, g, h⟩ =
      Numeral.rounds ks w0 w1 w2 w3 w4 w5 w6 w7 w8 w9 w10 w11 w12 w13 w14 w15 a b c d e f g h := by
  induction ks generalizing w0 w1 w2 w3 w4 w5 w6 w7 w8 w9 w10 w11 w12 w13 w14 w15 a b c d e f g h with
  | nil => rfl
  | cons k ks ih =>
    rw [rounds, Numeral.rounds]
    simp only [Numeral.pass_eq, ← ih, Numeral.low_eq, Numeral.choose_eq, Numeral.majority_eq, Numeral.bigSigma0_eq,
      Numeral.bigSigma1_eq, Numeral.smallSigma0_eq, Numeral.smallSigma1_eq, Nat.add_eq]
    rw [round, schedule]
    simp only [add, List.tail_cons, List.cons_append, List.nil_append, List.headD_cons, List.getD_cons_succ,
      List.getD_cons_zero]

lemma absorb_eq_numeral (s t : State) : Numeral.absorb s t =
    ⟨add s.a t.a, add s.b t.b, add s.c t.c, add s.d t.d, add s.e t.e, add s.f t.f, add s.g t.g, add s.h t.h⟩ := by
  obtain ⟨a, b, c, d, e, f, g, h⟩ := s
  obtain ⟨a', b', c', d', e', f', g', h'⟩ := t
  simp only [Numeral.absorb, Numeral.pass_eq, Numeral.low_eq, Nat.add_eq, add]

lemma compress_eq_numeral (s : State) {block : List ℕ} (hblock : block.length = 16) :
    compress s block = Numeral.compress constants s block := by
  rw [compress, ← absorb_eq_numeral]
  generalize constants = ks
  obtain ⟨a, b, c, d, e, f, g, h⟩ := s
  match block, hblock with
  | [w0, w1, w2, w3, w4, w5, w6, w7, w8, w9, w10, w11, w12, w13, w14, w15], _ =>
    simp only [rounds_eq_numeral, Numeral.compress, Numeral.pass_eq, List.getD_cons_succ, List.getD_cons_zero]

/-- The blocks of a message have sixteen words each. -/
lemma foldl_eq_numeral (n : ℕ) (ws : List ℕ) (hws : 16 * n ≤ ws.length) (s : State) :
    (blocks n ws).foldl compress s = (blocks n ws).foldl (Numeral.compress constants) s := by
  induction n generalizing ws s with
  | zero => rw [blocks, List.foldl_nil, List.foldl_nil]
  | succ n ih =>
    have hblock : (ws.take 16).length = 16 := by rw [List.length_take]; omega
    have hrest : 16 * n ≤ (ws.drop 16).length := by rw [List.length_drop]; omega
    rw [blocks, List.foldl_cons, List.foldl_cons, compress_eq_numeral s hblock]
    exact ih _ hrest _

/-- **The hash the kernel evaluates is the hash.** -/
theorem sum256_eq_numeral (m : List ℕ) : sum256 m = Numeral.sum256 m := by
  rw [sum256, Numeral.sum256, foldl_eq_numeral _ _ (Nat.mul_div_le _ _)]

end Sha256
