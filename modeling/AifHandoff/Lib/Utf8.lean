import Mathlib.Data.List.Basic

/-!
UTF-8 over bytes as natural numbers below 256.

The decoder is total: a truncated sequence and a byte that no character begins with are read as
U+FFFD, one for each longest part that could begin a character.
-/

namespace AifHandoff.Utf8

/-! ### Encoding -/

def encodeChar (c : Char) : List Nat :=
  let n := c.toNat
  if n < 0x80 then [n]
  else if n < 0x800 then [0xC0 + n / 0x40, 0x80 + n % 0x40]
  else if n < 0x10000 then [0xE0 + n / 0x1000, 0x80 + n / 0x40 % 0x40, 0x80 + n % 0x40]
  else [0xF0 + n / 0x40000, 0x80 + n / 0x1000 % 0x40, 0x80 + n / 0x40 % 0x40, 0x80 + n % 0x40]

def encode (cs : List Char) : List Nat := cs.flatMap encodeChar

/-! ### Decoding -/

/-- The bytes that a character still needs, the bounds of the next one, and the bits so far. -/
structure Pending where
  needed : Nat
  lower : Nat
  upper : Nat
  codePoint : Nat

def idle : Pending := ⟨0, 0x80, 0xBF, 0⟩

/-- A byte between characters. -/
def lead (b : Nat) : List Char × Pending :=
  if b < 0x80 then ([Char.ofNat b], idle)
  else if 0xC2 ≤ b ∧ b ≤ 0xDF then ([], ⟨1, 0x80, 0xBF, b - 0xC0⟩)
  else if 0xE0 ≤ b ∧ b ≤ 0xEF then
    ([], ⟨2, if b = 0xE0 then 0xA0 else 0x80, if b = 0xED then 0x9F else 0xBF, b - 0xE0⟩)
  else if 0xF0 ≤ b ∧ b ≤ 0xF4 then
    ([], ⟨3, if b = 0xF0 then 0x90 else 0x80, if b = 0xF4 then 0x8F else 0xBF, b - 0xF0⟩)
  else (['\uFFFD'], idle)

def step (p : Pending) (b : Nat) : List Char × Pending :=
  if p.needed = 0 then lead b
  else if p.lower ≤ b ∧ b ≤ p.upper then
    let codePoint := p.codePoint * 0x40 + (b - 0x80)
    if p.needed = 1 then ([Char.ofNat codePoint], idle)
    else ([], ⟨p.needed - 1, 0x80, 0xBF, codePoint⟩)
  else ('\uFFFD' :: (lead b).1, (lead b).2)

def run (p : Pending) : List Nat → List Char × Pending
  | [] => ([], p)
  | b :: bs => ((step p b).1 ++ (run (step p b).2 bs).1, (run (step p b).2 bs).2)

/-- The end of the bytes. -/
def flush (p : Pending) : List Char := if p.needed = 0 then [] else ['\uFFFD']

def decode (bytes : List Nat) : List Char := (run idle bytes).1 ++ flush (run idle bytes).2

/-! ### Chunks -/

/-- The bytes from one size to the next. -/
def chunks (bytes : List Nat) : Nat → List Nat → List (List Nat)
  | _, [] => []
  | offset, size :: sizes => (bytes.take size).drop offset :: chunks bytes size sizes

/-- What the chunks are decoded to one by one. -/
def chunksText (bytes : List Nat) (offset : Nat) (sizes : List Nat) : List Char :=
  (chunks bytes offset sizes).flatMap decode

end AifHandoff.Utf8
