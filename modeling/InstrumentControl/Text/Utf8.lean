/-! The UTF-8 encoding.  `encode` writes it, and `size`, `take` and `drop` count in its bytes;
`decode` reads any bytes and puts the replacement character where they do not encode a character:
once for each longest run of bytes that could have begun a character. -/

namespace InstrumentControl.Text.Utf8

def encode (s : List Char) : List UInt8 := s.flatMap String.utf8EncodeChar

/-- The number of bytes of a text. -/
def size : List Char → Nat
  | [] => 0
  | c :: s => c.utf8Size + size s

/-- The characters that a text begins with, as many as have no more than `bytes` bytes. -/
def take (bytes : Nat) : List Char → List Char
  | [] => []
  | c :: s => if c.utf8Size ≤ bytes then c :: take (bytes - c.utf8Size) s else []

/-- What follows the characters that begin in the first `bytes` bytes of a text. -/
def drop (bytes : Nat) : List Char → List Char
  | [] => []
  | c :: s => if bytes = 0 then c :: s else drop (bytes - c.utf8Size) s

def replacement : Char := '\ufffd'

/-- The byte continues a character. -/
def continues (b : UInt8) : Bool := 0x80 ≤ b && b ≤ 0xbf

/-- The second bytes that may follow the first byte `b` of a character of three or four bytes. -/
def maySecond (b second : UInt8) : Bool :=
  if b = 0xe0 then 0xa0 ≤ second && second ≤ 0xbf
  else if b = 0xed then 0x80 ≤ second && second ≤ 0x9f
  else if b = 0xf0 then 0x90 ≤ second && second ≤ 0xbf
  else if b = 0xf4 then 0x80 ≤ second && second ≤ 0x8f
  else continues second

/-- The character of the payload bits of its bytes. -/
def assemble (first : Nat) (others : List UInt8) : Char :=
  Char.ofNat (others.foldl (fun n b => 64 * n + b.toNat % 64) first)

/-- The character that begins with the byte `b`, and how many of the bytes after it belong to it. -/
def character (b : UInt8) (rest : List UInt8) : Char × Nat :=
  if b < 0x80 then (Char.ofNat b.toNat, 0)
  else if 0xc2 ≤ b && b ≤ 0xdf then
    match rest with
    | x :: _ => if continues x then (assemble (b.toNat % 32) [x], 1) else (replacement, 0)
    | [] => (replacement, 0)
  else if 0xe0 ≤ b && b ≤ 0xef then
    match rest with
    | x :: y :: _ =>
      if !maySecond b x then (replacement, 0)
      else if !continues y then (replacement, 1)
      else (assemble (b.toNat % 16) [x, y], 2)
    | [x] => (replacement, if maySecond b x then 1 else 0)
    | [] => (replacement, 0)
  else if 0xf0 ≤ b && b ≤ 0xf4 then
    match rest with
    | x :: y :: z :: _ =>
      if !maySecond b x then (replacement, 0)
      else if !continues y then (replacement, 1)
      else if !continues z then (replacement, 2)
      else (assemble (b.toNat % 8) [x, y, z], 3)
    | [x, y] =>
      (replacement, if maySecond b x then (if continues y then 2 else 1) else 0)
    | [x] => (replacement, if maySecond b x then 1 else 0)
    | [] => (replacement, 0)
  else (replacement, 0)

def decode : List UInt8 → List Char
  | [] => []
  | b :: rest => (character b rest).1 :: decode (rest.drop (character b rest).2)
termination_by bytes => bytes.length
decreasing_by simp only [List.length_drop, List.length_cons]; omega

end InstrumentControl.Text.Utf8
