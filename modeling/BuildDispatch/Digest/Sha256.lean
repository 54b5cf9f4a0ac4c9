import BuildDispatch.Bytes

/-! SHA-256. -/
namespace BuildDispatch.Sha256

def roundConstants : Vector UInt32 64 := #v[
  0x428A2F98, 0x71374491, 0xB5C0FBCF, 0xE9B5DBA5, 0x3956C25B, 0x59F111F1, 0x923F82A4, 0xAB1C5ED5,
  0xD807AA98, 0x12835B01, 0x243185BE, 0x550C7DC3, 0x72BE5D74, 0x80DEB1FE, 0x9BDC06A7, 0xC19BF174,
  0xE49B69C1, 0xEFBE4786, 0x0FC19DC6, 0x240CA1CC, 0x2DE92C6F, 0x4A7484AA, 0x5CB0A9DC, 0x76F988DA,
  0x983E5152, 0xA831C66D, 0xB00327C8, 0xBF597FC7, 0xC6E00BF3, 0xD5A79147, 0x06CA6351, 0x14292967,
  0x27B70A85, 0x2E1B2138, 0x4D2C6DFC, 0x53380D13, 0x650A7354, 0x766A0ABB, 0x81C2C92E, 0x92722C85,
  0xA2BFE8A1, 0xA81A664B, 0xC24B8B70, 0xC76C51A3, 0xD192E819, 0xD6990624, 0xF40E3585, 0x106AA070,
  0x19A4C116, 0x1E376C08, 0x2748774C, 0x34B0BCB5, 0x391C0CB3, 0x4ED8AA4A, 0x5B9CCA4F, 0x682E6FF3,
  0x748F82EE, 0x78A5636F, 0x84C87814, 0x8CC70208, 0x90BEFFFA, 0xA4506CEB, 0xBEF9A3F7, 0xC67178F2]

/-- The eight words that the blocks are folded into. -/
structure State where
  a : UInt32
  b : UInt32
  c : UInt32
  d : UInt32
  e : UInt32
  f : UInt32
  g : UInt32
  h : UInt32

def State.initial : State where
  a := 0x6A09E667
  b := 0xBB67AE85
  c := 0x3C6EF372
  d := 0xA54FF53A
  e := 0x510E527F
  f := 0x9B05688C
  g := 0x1F83D9AB
  h := 0x5BE0CD19

def State.add (s t : State) : State where
  a := s.a + t.a
  b := s.b + t.b
  c := s.c + t.c
  d := s.d + t.d
  e := s.e + t.e
  f := s.f + t.f
  g := s.g + t.g
  h := s.h + t.h

def rotateRight (x n : UInt32) : UInt32 := x >>> n ||| x <<< (32 - n)

def State.round (s : State) (k w : UInt32) : State :=
  let sum1 := rotateRight s.e 6 ^^^ rotateRight s.e 11 ^^^ rotateRight s.e 25
  let choice := s.e &&& s.f ^^^ ~~~s.e &&& s.g
  let t1 := s.h + sum1 + choice + k + w
  let sum0 := rotateRight s.a 2 ^^^ rotateRight s.a 13 ^^^ rotateRight s.a 22
  let majority := s.a &&& s.b ^^^ s.a &&& s.c ^^^ s.b &&& s.c
  { a := t1 + (sum0 + majority), b := s.a, c := s.b, d := s.c
    e := s.d + t1, f := s.e, g := s.f, h := s.g }

def words : Bytes → List UInt32
  | a :: b :: c :: d :: rest => Bytes.word a b c d :: words rest
  | _ => []

def nextWord (w0 w1 w9 w14 : UInt32) : UInt32 :=
  let small0 := rotateRight w1 7 ^^^ rotateRight w1 18 ^^^ w1 >>> 3
  let small1 := rotateRight w14 17 ^^^ rotateRight w14 19 ^^^ w14 >>> 10
  w0 + small0 + w9 + small1

/-- Folds in the rounds from `i` on; `window` holds the next sixteen words of the schedule. -/
def rounds (s : State) (window : Vector UInt32 16) : List UInt32 → State
  | [] => s
  | k :: rest =>
    let next := nextWord window[0] window[1] window[9] window[14]
    rounds (s.round k window[0]) ((window.eraseIdx 0).push next) rest

def compress (s : State) (block : Bytes) : State :=
  let ws := words block
  let window := Vector.ofFn fun i : Fin 16 => ws[i.val]?.getD 0
  s.add (rounds s window roundConstants.toList)

/-- The message with its end mark, zeros up to a whole block, and its length in bits. -/
def pad (message : Bytes) : Bytes :=
  let bits := message.length * 8
  let zeros := (119 - message.length % 64) % 64
  let length := (List.range 8).map fun i => (bits >>> (8 * (7 - i))).toUInt8
  message ++ 0x80 :: List.replicate zeros 0 ++ length

/-- Folds the blocks of a message, of which there are `n`. -/
def absorb (s : State) (message : Bytes) : Nat → State
  | 0 => s
  | n + 1 => absorb (compress s (message.take 64)) (message.drop 64) n

def digest (message : Bytes) : Bytes :=
  let padded := pad message
  let s := absorb .initial padded (padded.length / 64)
  [s.a, s.b, s.c, s.d, s.e, s.f, s.g, s.h].flatMap Bytes.ofWord

def hex (message : Bytes) : String := Bytes.hex (digest message)

end BuildDispatch.Sha256
