/-!
# Memory blocks of Argon2

A block is 1024 bytes, held as eight lines of sixteen 64-bit words. `Block.mix` is the compression
function of RFC 9106: the permutation of BLAKE2b, with a multiplication added to every sum, runs
over the rows of the exclusive or of two blocks and then over its columns.
-/

namespace Accounts.Argon2

/-- Sixteen words: a row of a block, or a column read as a row. -/
structure Line where
  (w0 w1 w2 w3 w4 w5 w6 w7 w8 w9 w10 w11 w12 w13 w14 w15 : UInt64)

/-- Eight rows of sixteen words. -/
structure Block where
  (r0 r1 r2 r3 r4 r5 r6 r7 : Line)

namespace Line

def zero : Line := ⟨0, 0, 0, 0, 0, 0, 0, 0, 0, 0, 0, 0, 0, 0, 0, 0⟩

def xor (x y : Line) : Line :=
  ⟨x.w0 ^^^ y.w0, x.w1 ^^^ y.w1, x.w2 ^^^ y.w2, x.w3 ^^^ y.w3,
    x.w4 ^^^ y.w4, x.w5 ^^^ y.w5, x.w6 ^^^ y.w6, x.w7 ^^^ y.w7,
    x.w8 ^^^ y.w8, x.w9 ^^^ y.w9, x.w10 ^^^ y.w10, x.w11 ^^^ y.w11,
    x.w12 ^^^ y.w12, x.w13 ^^^ y.w13, x.w14 ^^^ y.w14, x.w15 ^^^ y.w15⟩

@[inline] def rotateRight (x n : UInt64) : UInt64 := (x >>> n) ||| (x <<< (64 - n))

/-- The sum of two words and of twice the product of their low halves. -/
@[inline] def addMul (a b : UInt64) : UInt64 :=
  a + b + 2 * ((a &&& 0xffffffff) * (b &&& 0xffffffff))

/-- The quarter round, handing its four words on. -/
@[inline] def quarter {α : Type} (a b c d : UInt64)
    (next : UInt64 → UInt64 → UInt64 → UInt64 → α) : α :=
  let a := addMul a b
  let d := rotateRight (d ^^^ a) 32
  let c := addMul c d
  let b := rotateRight (b ^^^ c) 24
  let a := addMul a b
  let d := rotateRight (d ^^^ a) 16
  let c := addMul c d
  let b := rotateRight (b ^^^ c) 63
  next a b c d

/-- One round of the permutation: columns of the four by four square, then diagonals. -/
def permute (x : Line) : Line :=
  quarter x.w0 x.w4 x.w8 x.w12 fun v0 v4 v8 v12 =>
  quarter x.w1 x.w5 x.w9 x.w13 fun v1 v5 v9 v13 =>
  quarter x.w2 x.w6 x.w10 x.w14 fun v2 v6 v10 v14 =>
  quarter x.w3 x.w7 x.w11 x.w15 fun v3 v7 v11 v15 =>
  quarter v0 v5 v10 v15 fun u0 u5 u10 u15 =>
  quarter v1 v6 v11 v12 fun u1 u6 u11 u12 =>
  quarter v2 v7 v8 v13 fun u2 u7 u8 u13 =>
  quarter v3 v4 v9 v14 fun u3 u4 u9 u14 =>
  ⟨u0, u1, u2, u3, u4, u5, u6, u7, u8, u9, u10, u11, u12, u13, u14, u15⟩

end Line

namespace Block

def zero : Block :=
  ⟨.zero, .zero, .zero, .zero, .zero, .zero, .zero, .zero⟩

instance : Inhabited Block := ⟨zero⟩

def xor (x y : Block) : Block :=
  ⟨x.r0.xor y.r0, x.r1.xor y.r1, x.r2.xor y.r2, x.r3.xor y.r3,
    x.r4.xor y.r4, x.r5.xor y.r5, x.r6.xor y.r6, x.r7.xor y.r7⟩

def permuteRows (x : Block) : Block :=
  ⟨x.r0.permute, x.r1.permute, x.r2.permute, x.r3.permute,
    x.r4.permute, x.r5.permute, x.r6.permute, x.r7.permute⟩

/-- Exchanges rows and columns, two neighbouring words counting as one entry. -/
def transpose (x : Block) : Block :=
  ⟨⟨x.r0.w0, x.r0.w1, x.r1.w0, x.r1.w1, x.r2.w0, x.r2.w1, x.r3.w0, x.r3.w1,
      x.r4.w0, x.r4.w1, x.r5.w0, x.r5.w1, x.r6.w0, x.r6.w1, x.r7.w0, x.r7.w1⟩,
    ⟨x.r0.w2, x.r0.w3, x.r1.w2, x.r1.w3, x.r2.w2, x.r2.w3, x.r3.w2, x.r3.w3,
      x.r4.w2, x.r4.w3, x.r5.w2, x.r5.w3, x.r6.w2, x.r6.w3, x.r7.w2, x.r7.w3⟩,
    ⟨x.r0.w4, x.r0.w5, x.r1.w4, x.r1.w5, x.r2.w4, x.r2.w5, x.r3.w4, x.r3.w5,
      x.r4.w4, x.r4.w5, x.r5.w4, x.r5.w5, x.r6.w4, x.r6.w5, x.r7.w4, x.r7.w5⟩,
    ⟨x.r0.w6, x.r0.w7, x.r1.w6, x.r1.w7, x.r2.w6, x.r2.w7, x.r3.w6, x.r3.w7,
      x.r4.w6, x.r4.w7, x.r5.w6, x.r5.w7, x.r6.w6, x.r6.w7, x.r7.w6, x.r7.w7⟩,
    ⟨x.r0.w8, x.r0.w9, x.r1.w8, x.r1.w9, x.r2.w8, x.r2.w9, x.r3.w8, x.r3.w9,
      x.r4.w8, x.r4.w9, x.r5.w8, x.r5.w9, x.r6.w8, x.r6.w9, x.r7.w8, x.r7.w9⟩,
    ⟨x.r0.w10, x.r0.w11, x.r1.w10, x.r1.w11, x.r2.w10, x.r2.w11, x.r3.w10, x.r3.w11,
      x.r4.w10, x.r4.w11, x.r5.w10, x.r5.w11, x.r6.w10, x.r6.w11, x.r7.w10, x.r7.w11⟩,
    ⟨x.r0.w12, x.r0.w13, x.r1.w12, x.r1.w13, x.r2.w12, x.r2.w13, x.r3.w12, x.r3.w13,
      x.r4.w12, x.r4.w13, x.r5.w12, x.r5.w13, x.r6.w12, x.r6.w13, x.r7.w12, x.r7.w13⟩,
    ⟨x.r0.w14, x.r0.w15, x.r1.w14, x.r1.w15, x.r2.w14, x.r2.w15, x.r3.w14, x.r3.w15,
      x.r4.w14, x.r4.w15, x.r5.w14, x.r5.w15, x.r6.w14, x.r6.w15, x.r7.w14, x.r7.w15⟩⟩

/-- The compression of two blocks into one. -/
def mix (x y : Block) : Block :=
  let r := x.xor y
  r.xor r.permuteRows.transpose.permuteRows.transpose

/-- The first word, from which data-dependent addressing takes its randomness. -/
@[inline] def first (x : Block) : UInt64 := x.r0.w0

/-- The words of a line, in order. -/
def lineWords (x : Line) : List UInt64 :=
  [x.w0, x.w1, x.w2, x.w3, x.w4, x.w5, x.w6, x.w7,
    x.w8, x.w9, x.w10, x.w11, x.w12, x.w13, x.w14, x.w15]

/-- The words of a block, row by row. -/
def words (x : Block) : List UInt64 :=
  [x.r0, x.r1, x.r2, x.r3, x.r4, x.r5, x.r6, x.r7].flatMap lineWords

/-- The line that starts at word `start` of an array. -/
def lineAt (w : Array UInt64) (start : Nat) : Line :=
  ⟨w.getD start 0, w.getD (start + 1) 0, w.getD (start + 2) 0, w.getD (start + 3) 0,
    w.getD (start + 4) 0, w.getD (start + 5) 0, w.getD (start + 6) 0, w.getD (start + 7) 0,
    w.getD (start + 8) 0, w.getD (start + 9) 0, w.getD (start + 10) 0, w.getD (start + 11) 0,
    w.getD (start + 12) 0, w.getD (start + 13) 0, w.getD (start + 14) 0, w.getD (start + 15) 0⟩

/-- The block of 128 words; missing words are zero. -/
def ofWords (w : Array UInt64) : Block :=
  ⟨lineAt w 0, lineAt w 16, lineAt w 32, lineAt w 48,
    lineAt w 64, lineAt w 80, lineAt w 96, lineAt w 112⟩

end Block

end Accounts.Argon2
