import Mathlib.Algebra.Group.Nat.Defs
import Mathlib.Data.List.Basic

/-!
SHA-256 over lists of bytes. Words are natural numbers below `2 ^ 32`, and every new word is
evaluated before it is used, so that the kernel can run the function on short messages.
-/
namespace Sha256

/-- The function applied to the number once it is evaluated. -/
def strictly {β : Type} (x : Nat) (next : Nat → β) : β :=
  match x with
  | 0 => next 0
  | n + 1 => next (n + 1)

def word (x : Nat) : Nat := x % 2 ^ 32

def rotate (n x : Nat) : Nat := (x >>> n) ||| word (x <<< (32 - n))

def choose (x y z : Nat) : Nat := (x &&& y) ^^^ ((0xffffffff ^^^ x) &&& z)

def majority (x y z : Nat) : Nat := (x &&& y) ^^^ (x &&& z) ^^^ (y &&& z)

def sum0 (x : Nat) : Nat := rotate 2 x ^^^ rotate 13 x ^^^ rotate 22 x

def sum1 (x : Nat) : Nat := rotate 6 x ^^^ rotate 11 x ^^^ rotate 25 x

def sigma0 (x : Nat) : Nat := rotate 7 x ^^^ rotate 18 x ^^^ (x >>> 3)

def sigma1 (x : Nat) : Nat := rotate 17 x ^^^ rotate 19 x ^^^ (x >>> 10)

structure State where
  a : Nat
  b : Nat
  c : Nat
  d : Nat
  e : Nat
  f : Nat
  g : Nat
  h : Nat

def initial : State where
  a := 0x6a09e667
  b := 0xbb67ae85
  c := 0x3c6ef372
  d := 0xa54ff53a
  e := 0x510e527f
  f := 0x9b05688c
  g := 0x1f83d9ab
  h := 0x5be0cd19

def constants : List Nat := [
  0x428a2f98, 0x71374491, 0xb5c0fbcf, 0xe9b5dba5, 0x3956c25b, 0x59f111f1,
  0x923f82a4, 0xab1c5ed5, 0xd807aa98, 0x12835b01, 0x243185be, 0x550c7dc3,
  0x72be5d74, 0x80deb1fe, 0x9bdc06a7, 0xc19bf174, 0xe49b69c1, 0xefbe4786,
  0x0fc19dc6, 0x240ca1cc, 0x2de92c6f, 0x4a7484aa, 0x5cb0a9dc, 0x76f988da,
  0x983e5152, 0xa831c66d, 0xb00327c8, 0xbf597fc7, 0xc6e00bf3, 0xd5a79147,
  0x06ca6351, 0x14292967, 0x27b70a85, 0x2e1b2138, 0x4d2c6dfc, 0x53380d13,
  0x650a7354, 0x766a0abb, 0x81c2c92e, 0x92722c85, 0xa2bfe8a1, 0xa81a664b,
  0xc24b8b70, 0xc76c51a3, 0xd192e819, 0xd6990624, 0xf40e3585, 0x106aa070,
  0x19a4c116, 0x1e376c08, 0x2748774c, 0x34b0bcb5, 0x391c0cb3, 0x4ed8aa4a,
  0x5b9cca4f, 0x682e6ff3, 0x748f82ee, 0x78a5636f, 0x84c87814, 0x8cc70208,
  0x90befffa, 0xa4506ceb, 0xbef9a3f7, 0xc67178f2]

def words : List UInt8 → List Nat
  | a :: b :: c :: d :: rest =>
    strictly (a.toNat * 2 ^ 24 + b.toNat * 2 ^ 16 + c.toNat * 2 ^ 8 + d.toNat) fun w =>
      w :: words rest
  | _ => []

/-- The message schedule, newest word first. -/
def extend : Nat → List Nat → List Nat
  | 0, schedule => schedule
  | n + 1, schedule =>
    strictly (word (sigma1 (schedule.getD 1 0) + schedule.getD 6 0 + sigma0 (schedule.getD 14 0) +
      schedule.getD 15 0)) fun w => extend n (w :: schedule)

def rounds : List Nat → List Nat → State → State
  | k :: constants, w :: schedule, s =>
    strictly (word (s.h + sum1 s.e + choose s.e s.f s.g + k + w)) fun t =>
      strictly (word (t + sum0 s.a + majority s.a s.b s.c)) fun a =>
        strictly (word (s.d + t)) fun e =>
          rounds constants schedule ⟨a, s.a, s.b, s.c, e, s.e, s.f, s.g⟩
  | _, _, s => s

def add (s t : State) : State :=
  strictly (word (s.a + t.a)) fun a => strictly (word (s.b + t.b)) fun b =>
    strictly (word (s.c + t.c)) fun c => strictly (word (s.d + t.d)) fun d =>
      strictly (word (s.e + t.e)) fun e => strictly (word (s.f + t.f)) fun f =>
        strictly (word (s.g + t.g)) fun g => strictly (word (s.h + t.h)) fun h =>
          ⟨a, b, c, d, e, f, g, h⟩

def compress (s : State) (block : List UInt8) : State :=
  add s (rounds constants (extend 48 (words block).reverse).reverse s)

def blocks : Nat → List UInt8 → State → State
  | 0, _, s => s
  | n + 1, message, s => blocks n (message.drop 64) (compress s (message.take 64))

def bigEndian : Nat → Nat → List UInt8
  | 0, _ => []
  | n + 1, x => UInt8.ofNat (x / 256 ^ n) :: bigEndian n x

def pad (message : List UInt8) : List UInt8 :=
  message ++ 0x80 :: List.replicate ((119 - message.length % 64) % 64) 0 ++
    bigEndian 8 (8 * message.length)

def sha256 (message : List UInt8) : Nat :=
  let s := blocks ((pad message).length / 64) (pad message) initial
  [s.a, s.b, s.c, s.d, s.e, s.f, s.g, s.h].foldl (fun total w => total * 2 ^ 32 + w) 0

example : sha256 [0x61, 0x62, 0x63] =
    0xba7816bf8f01cfea414140de5dae2223b00361a396177a9cb410ff61f20015ad := by
  decide +kernel

end Sha256
