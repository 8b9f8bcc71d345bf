namespace ActorDirectory.Xxh3

-- The 64-bit variant of the XXH3 hash with seed zero. Bytes past the end read as zero, so
-- every function here is total; no caller reads past the end.

def secret : ByteArray := ⟨#[
  0xb8, 0xfe, 0x6c, 0x39, 0x23, 0xa4, 0x4b, 0xbe, 0x7c, 0x01, 0x81, 0x2c, 0xf7, 0x21, 0xad, 0x1c,
  0xde, 0xd4, 0x6d, 0xe9, 0x83, 0x90, 0x97, 0xdb, 0x72, 0x40, 0xa4, 0xa4, 0xb7, 0xb3, 0x67, 0x1f,
  0xcb, 0x79, 0xe6, 0x4e, 0xcc, 0xc0, 0xe5, 0x78, 0x82, 0x5a, 0xd0, 0x7d, 0xcc, 0xff, 0x72, 0x21,
  0xb8, 0x08, 0x46, 0x74, 0xf7, 0x43, 0x24, 0x8e, 0xe0, 0x35, 0x90, 0xe6, 0x81, 0x3a, 0x26, 0x4c,
  0x3c, 0x28, 0x52, 0xbb, 0x91, 0xc3, 0x00, 0xcb, 0x88, 0xd0, 0x65, 0x8b, 0x1b, 0x53, 0x2e, 0xa3,
  0x71, 0x64, 0x48, 0x97, 0xa2, 0x0d, 0xf9, 0x4e, 0x38, 0x19, 0xef, 0x46, 0xa9, 0xde, 0xac, 0xd8,
  0xa8, 0xfa, 0x76, 0x3f, 0xe3, 0x9c, 0x34, 0x3f, 0xf9, 0xdc, 0xbb, 0xc7, 0xc7, 0x0b, 0x4f, 0x1d,
  0x8a, 0x51, 0xe0, 0x4b, 0xcd, 0xb4, 0x59, 0x31, 0xc8, 0x9f, 0x7e, 0xc9, 0xd9, 0x78, 0x73, 0x64,
  0xea, 0xc5, 0xac, 0x83, 0x34, 0xd3, 0xeb, 0xc3, 0xc5, 0x81, 0xa0, 0xff, 0xfa, 0x13, 0x63, 0xeb,
  0x17, 0x0d, 0xdd, 0x51, 0xb7, 0xf0, 0xda, 0x49, 0xd3, 0x16, 0x55, 0x26, 0x29, 0xd4, 0x68, 0x9e,
  0x2b, 0x16, 0xbe, 0x58, 0x7d, 0x47, 0xa1, 0xfc, 0x8f, 0xf8, 0xb8, 0xd1, 0x7a, 0xd0, 0x31, 0xce,
  0x45, 0xcb, 0x3a, 0x8f, 0x95, 0x16, 0x04, 0x28, 0xaf, 0xd7, 0xfb, 0xca, 0xbb, 0x4b, 0x40, 0x7e]⟩

def prime32A : UInt64 := 0x9E3779B1
def prime32B : UInt64 := 0x85EBCA77
def prime32C : UInt64 := 0xC2B2AE3D
def prime64A : UInt64 := 0x9E3779B185EBCA87
def prime64B : UInt64 := 0xC2B2AE3D27D4EB4F
def prime64C : UInt64 := 0x165667B19E3779F9
def prime64D : UInt64 := 0x85EBCA77C2B2AE63
def prime64E : UInt64 := 0x27D4EB2F165667C5
def mixA : UInt64 := 0x165667919E3779F9
def mixB : UInt64 := 0x9FB21C651E98DF25

def byteAt (bytes : ByteArray) (i : Nat) : UInt64 :=
  if inside : i < bytes.size then (bytes[i]).toUInt64 else 0

def word32 (bytes : ByteArray) (i : Nat) : UInt64 :=
  byteAt bytes i ||| byteAt bytes (i + 1) <<< 8 ||| byteAt bytes (i + 2) <<< 16 |||
    byteAt bytes (i + 3) <<< 24

def word64 (bytes : ByteArray) (i : Nat) : UInt64 :=
  word32 bytes i ||| word32 bytes (i + 4) <<< 32

def rotate (word : UInt64) (left : UInt64) : UInt64 :=
  word <<< left ||| word >>> (64 - left)

def swapBytes (word : UInt64) : UInt64 :=
  (List.range 8).foldl
    (fun swapped i => swapped <<< 8 ||| (word >>> (UInt64.ofNat (8 * i)) &&& 0xff)) 0

def shiftMix (word : UInt64) (right : UInt64) : UInt64 := word ^^^ word >>> right

def foldedProduct (x y : UInt64) : UInt64 :=
  let product := x.toNat * y.toNat
  UInt64.ofNat product ^^^ UInt64.ofNat (product / UInt64.size)

def scatter (word : UInt64) : UInt64 :=
  shiftMix (shiftMix (shiftMix word 33 * prime64B) 29 * prime64C) 32

def finish (word : UInt64) : UInt64 := shiftMix (shiftMix word 37 * mixA) 32

def mix16 (bytes : ByteArray) (i key : Nat) : UInt64 :=
  foldedProduct (word64 bytes i ^^^ word64 secret key)
    (word64 bytes (i + 8) ^^^ word64 secret (key + 8))

def upTo3 (bytes : ByteArray) : UInt64 :=
  let n := bytes.size
  let combined := byteAt bytes 0 <<< 16 ||| byteAt bytes (n / 2) <<< 24 |||
    byteAt bytes (n - 1) ||| (UInt64.ofNat n) <<< 8
  scatter (combined ^^^ (word32 secret 0 ^^^ word32 secret 4))

def upTo8 (bytes : ByteArray) : UInt64 :=
  let n := bytes.size
  let keyed := (word32 bytes (n - 4) + word32 bytes 0 <<< 32) ^^^
    (word64 secret 8 ^^^ word64 secret 16)
  let spread := (keyed ^^^ rotate keyed 49 ^^^ rotate keyed 24) * mixB
  shiftMix ((spread ^^^ (spread >>> 35 + UInt64.ofNat n)) * mixB) 28

def upTo16 (bytes : ByteArray) : UInt64 :=
  let n := bytes.size
  let low := word64 bytes 0 ^^^ (word64 secret 24 ^^^ word64 secret 32)
  let high := word64 bytes (n - 8) ^^^ (word64 secret 40 ^^^ word64 secret 48)
  finish (UInt64.ofNat n + swapBytes low + high + foldedProduct low high)

def upTo128 (bytes : ByteArray) : UInt64 :=
  let n := bytes.size
  finish <| (List.range ((n - 1) / 32 + 1)).foldl
    (fun total i => total + mix16 bytes (16 * i) (32 * i) +
      mix16 bytes (n - 16 * (i + 1)) (32 * i + 16))
    (UInt64.ofNat n * prime64A)

def upTo240 (bytes : ByteArray) : UInt64 :=
  let n := bytes.size
  let head := (List.range 8).foldl
    (fun total i => total + mix16 bytes (16 * i) (16 * i)) (UInt64.ofNat n * prime64A)
  let tail := (List.range (n / 16 - 8)).foldl
    (fun total i => total + mix16 bytes (16 * (i + 8)) (16 * i + 3)) (finish head)
  finish (tail + mix16 bytes (n - 16) (136 - 17))

def lane (lanes : List UInt64) (i : Nat) : UInt64 := lanes.getD i 0

def accumulate (lanes : List UInt64) (bytes : ByteArray) (start key : Nat) : List UInt64 :=
  (List.range 8).map fun i =>
    let keyed : UInt64 := word64 bytes (start + 8 * i) ^^^ word64 secret (key + 8 * i)
    let neighbour := if i % 2 = 0 then i + 1 else i - 1
    lane lanes i + word64 bytes (start + 8 * neighbour) +
      (keyed &&& (0xffffffff : UInt64)) * (keyed >>> (32 : UInt64))

def scramble (lanes : List UInt64) : List UInt64 :=
  (List.range 8).map fun i =>
    (shiftMix (lane lanes i) 47 ^^^ word64 secret (128 + 8 * i)) * prime32A

def stripes (lanes : List UInt64) (bytes : ByteArray) (start count : Nat) : List UInt64 :=
  (List.range count).foldl (fun lanes i => accumulate lanes bytes (start + 64 * i) (8 * i)) lanes

def long (bytes : ByteArray) : UInt64 :=
  let n := bytes.size
  let initial := [prime32C, prime64A, prime64B, prime64C, prime64D, prime32B, prime64E, prime32A]
  let blocks := (n - 1) / 1024
  let lanes := (List.range blocks).foldl
    (fun lanes block => scramble (stripes lanes bytes (1024 * block) 16)) initial
  let lanes := stripes lanes bytes (1024 * blocks) ((n - 1 - 1024 * blocks) / 64)
  let lanes := accumulate lanes bytes (n - 64) 121
  finish <| (List.range 4).foldl
    (fun total i => total + foldedProduct (lane lanes (2 * i) ^^^ word64 secret (11 + 16 * i))
      (lane lanes (2 * i + 1) ^^^ word64 secret (19 + 16 * i)))
    (UInt64.ofNat n * prime64A)

def hash (bytes : ByteArray) : UInt64 :=
  let n := bytes.size
  if n = 0 then scatter (word64 secret 56 ^^^ word64 secret 64)
  else if n ≤ 3 then upTo3 bytes
  else if n ≤ 8 then upTo8 bytes
  else if n ≤ 16 then upTo16 bytes
  else if n ≤ 128 then upTo128 bytes
  else if n ≤ 240 then upTo240 bytes
  else long bytes

def hashText (text : String) : UInt64 := hash text.toUTF8

end ActorDirectory.Xxh3
