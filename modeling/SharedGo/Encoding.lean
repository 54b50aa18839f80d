/-
This file has the encodings of bytes that credentials are made of, as Go's standard
library defines them: hexadecimal digits, the URL alphabet of base 64 without
padding, and the SHA-256 checksum. Of the first it proves that different bytes have
different digits.
-/

import Mathlib.Data.List.Basic

namespace SharedGo

abbrev Bytes := List UInt8

/-- The bytes of a text. -/
def textBytes (text : String) : Bytes := text.toUTF8.toList

/-! ### Hexadecimal digits -/

def hexDigit (value : Nat) : Char :=
  if value < 10 then Char.ofNat (48 + value) else Char.ofNat (87 + value)

/-- `hex.EncodeToString`. -/
def hexEncode (bytes : Bytes) : String :=
  String.ofList (bytes.flatMap fun byte =>
    [hexDigit (byte.toNat / 16), hexDigit (byte.toNat % 16)])

theorem hexDigit_injective (first second : Nat) (smallFirst : first < 16)
    (smallSecond : second < 16) (same : hexDigit first = hexDigit second) : first = second := by
  have digits : ∀ first < 16, ∀ second < 16, hexDigit first = hexDigit second → first = second := by
    decide
  exact digits first smallFirst second smallSecond same

/-- Different bytes have different digits. -/
theorem hexEncode_injective : Function.Injective hexEncode := by
  intro first second same
  have digits := String.ofList_inj.mp same
  clear same
  induction first generalizing second with
  | nil =>
    cases second with
    | nil => rfl
    | cons byte rest => cases digits
  | cons byte rest inductionHypothesis =>
    cases second with
    | nil => cases digits
    | cons other others =>
      simp only [List.flatMap_cons, List.cons_append, List.nil_append, List.cons.injEq] at digits
      obtain ⟨high, low, tails⟩ := digits
      have bound := byte.toNat_lt
      have otherBound := other.toNat_lt
      have sameHigh := hexDigit_injective _ _ (by omega) (by omega) high
      have sameLow := hexDigit_injective _ _ (by omega) (by omega) low
      have sameByte : byte = other := UInt8.toNat_inj.mp (by omega)
      rw [sameByte, inductionHypothesis tails]

/-! ### Base 64 -/

/-- The URL alphabet. -/
def base64Digit (value : Nat) : Char :=
  if value < 26 then Char.ofNat (65 + value)
  else if value < 52 then Char.ofNat (71 + value)
  else if value < 62 then Char.ofNat (value - 4)
  else if value = 62 then '-'
  else '_'

/-- Three bytes are four digits; the digits of one or two bytes at the end are not padded. -/
def base64Digits : Bytes → List Char
  | [] => []
  | [first] =>
    [base64Digit (first.toNat / 4), base64Digit (first.toNat % 4 * 16)]
  | [first, second] =>
    [base64Digit (first.toNat / 4), base64Digit (first.toNat % 4 * 16 + second.toNat / 16),
      base64Digit (second.toNat % 16 * 4)]
  | first :: second :: third :: rest =>
    base64Digit (first.toNat / 4) :: base64Digit (first.toNat % 4 * 16 + second.toNat / 16) ::
      base64Digit (second.toNat % 16 * 4 + third.toNat / 64) ::
      base64Digit (third.toNat % 64) :: base64Digits rest

/-- `base64.RawURLEncoding.EncodeToString`. -/
def rawURLEncode (bytes : Bytes) : String := String.ofList (base64Digits bytes)

/-! ### The SHA-256 checksum -/

namespace Sha256

/-- The constants of the rounds. -/
def roundConstants : List UInt32 :=
  [0x428a2f98, 0x71374491, 0xb5c0fbcf, 0xe9b5dba5, 0x3956c25b, 0x59f111f1, 0x923f82a4, 0xab1c5ed5,
    0xd807aa98, 0x12835b01, 0x243185be, 0x550c7dc3, 0x72be5d74, 0x80deb1fe, 0x9bdc06a7, 0xc19bf174,
    0xe49b69c1, 0xefbe4786, 0x0fc19dc6, 0x240ca1cc, 0x2de92c6f, 0x4a7484aa, 0x5cb0a9dc, 0x76f988da,
    0x983e5152, 0xa831c66d, 0xb00327c8, 0xbf597fc7, 0xc6e00bf3, 0xd5a79147, 0x06ca6351, 0x14292967,
    0x27b70a85, 0x2e1b2138, 0x4d2c6dfc, 0x53380d13, 0x650a7354, 0x766a0abb, 0x81c2c92e, 0x92722c85,
    0xa2bfe8a1, 0xa81a664b, 0xc24b8b70, 0xc76c51a3, 0xd192e819, 0xd6990624, 0xf40e3585, 0x106aa070,
    0x19a4c116, 0x1e376c08, 0x2748774c, 0x34b0bcb5, 0x391c0cb3, 0x4ed8aa4a, 0x5b9cca4f, 0x682e6ff3,
    0x748f82ee, 0x78a5636f, 0x84c87814, 0x8cc70208, 0x90befffa, 0xa4506ceb, 0xbef9a3f7, 0xc67178f2]

/-- The eight words that the rounds change. -/
structure Digest where
  a : UInt32
  b : UInt32
  c : UInt32
  d : UInt32
  e : UInt32
  f : UInt32
  g : UInt32
  h : UInt32
  deriving DecidableEq, Repr

def initial : Digest :=
  ⟨0x6a09e667, 0xbb67ae85, 0x3c6ef372, 0xa54ff53a, 0x510e527f, 0x9b05688c,
    0x1f83d9ab, 0x5be0cd19⟩

def rotateRight (word : UInt32) (count : UInt32) : UInt32 :=
  word >>> count ||| word <<< (32 - count)

/-- The schedule of a block, its last word first, with more words to add. -/
def extend : Nat → List UInt32 → List UInt32
  | 0, words => words
  | count + 1, words =>
    let early := words.getD 14 0
    let late := words.getD 1 0
    let mixedEarly := rotateRight early 7 ^^^ rotateRight early 18 ^^^ early >>> 3
    let mixedLate := rotateRight late 17 ^^^ rotateRight late 19 ^^^ late >>> 10
    extend count ((words.getD 15 0 + mixedEarly + words.getD 6 0 + mixedLate) :: words)

def round (digest : Digest) (input : UInt32 × UInt32) : Digest :=
  let mixed := rotateRight digest.e 6 ^^^ rotateRight digest.e 11 ^^^ rotateRight digest.e 25
  let choice := digest.e &&& digest.f ^^^ ~~~digest.e &&& digest.g
  let first := digest.h + mixed + choice + input.1 + input.2
  let rotated := rotateRight digest.a 2 ^^^ rotateRight digest.a 13 ^^^ rotateRight digest.a 22
  let majority := digest.a &&& digest.b ^^^ digest.a &&& digest.c ^^^ digest.b &&& digest.c
  ⟨first + (rotated + majority), digest.a, digest.b, digest.c, digest.d + first, digest.e,
    digest.f, digest.g⟩

def compress (digest : Digest) (words : List UInt32) : Digest :=
  let last := (roundConstants.zip (extend 48 words.reverse).reverse).foldl round digest
  ⟨digest.a + last.a, digest.b + last.b, digest.c + last.c, digest.d + last.d,
    digest.e + last.e, digest.f + last.f, digest.g + last.g, digest.h + last.h⟩

/-- The words of bytes, each from four of them. -/
def wordsOf : Bytes → List UInt32
  | first :: second :: third :: fourth :: rest =>
    (first.toUInt32 <<< 24 ||| second.toUInt32 <<< 16 ||| third.toUInt32 <<< 8 |||
      fourth.toUInt32) :: wordsOf rest
  | _ => []

def bytesOf (word : UInt32) : Bytes :=
  [(word >>> 24).toUInt8, (word >>> 16).toUInt8, (word >>> 8).toUInt8, word.toUInt8]

/-- The bytes with a one, zeros, and their length in bits at the end of the last block. -/
def pad (bytes : Bytes) : Bytes :=
  let bits := 8 * bytes.length
  bytes ++ 0x80 :: List.replicate ((119 - bytes.length % 64) % 64) 0 ++
    bytesOf (UInt32.ofNat (bits / 0x100000000)) ++ bytesOf (UInt32.ofNat bits)

/-- Compresses the blocks of sixteen words. -/
def compressAll : Nat → Digest → List UInt32 → Digest
  | 0, digest, _ => digest
  | blocks + 1, digest, words =>
    compressAll blocks (compress digest (words.take 16)) (words.drop 16)

/-- `sha256.Sum256`. -/
def sum (bytes : Bytes) : Bytes :=
  let words := wordsOf (pad bytes)
  let digest := compressAll (words.length / 16) initial words
  [digest.a, digest.b, digest.c, digest.d, digest.e, digest.f, digest.g, digest.h].flatMap bytesOf

end Sha256

end SharedGo
