/-!
# Decoding UTF-8

Bytes are read strictly: the first sequence that encodes no character is reported with its place.
-/

namespace DesignMetrics.Text.Utf8

/-- What is wrong with a sequence of bytes. -/
inductive Fault where
  | badStart
  | badContinuation
  | truncated
deriving DecidableEq, Repr

/-- The first bytes that encode no character: where they start, the bytes, and why. -/
structure DecodeError where
  start : Nat
  bytes : List UInt8
  fault : Fault
deriving DecidableEq, Repr

def isContinuation (b : UInt8) : Bool :=
  0x80 ≤ b && b < 0xC0

/-- The second byte of a sequence of three or four must rule out overlong forms, surrogates and
code points beyond the last. -/
def isSecond (lead b : UInt8) : Bool :=
  isContinuation b &&
    (lead != 0xE0 || 0xA0 ≤ b) && (lead != 0xED || b < 0xA0) &&
    (lead != 0xF0 || 0x90 ≤ b) && (lead != 0xF4 || b < 0x90)

/-- The code point that a lead byte and its continuation bytes stand for. -/
def join (lead : Nat) (continuation : List UInt8) : Char :=
  Char.ofNat (continuation.foldl (fun n b => n * 64 + b.toNat % 64) lead)

/-- Reads characters from the bytes at a position. The bytes of an error are the longest start
of a sequence that could still have become one. -/
def decodeAt (pos : Nat) : List UInt8 → Except DecodeError (List Char)
  | [] => .ok []
  | a :: rest =>
    if a < 0x80 then return Char.ofNat a.toNat :: (← decodeAt (pos + 1) rest)
    else if a < 0xC2 || 0xF5 ≤ a then .error ⟨pos, [a], .badStart⟩
    else
      match rest with
      | [] => .error ⟨pos, [a], .truncated⟩
      | b :: rest =>
        if !isSecond a b then .error ⟨pos, [a], .badContinuation⟩
        else if a < 0xE0 then
          return join (a.toNat - 0xC0) [b] :: (← decodeAt (pos + 2) rest)
        else
          match rest with
          | [] => .error ⟨pos, [a, b], .truncated⟩
          | c :: rest =>
            if !isContinuation c then .error ⟨pos, [a, b], .badContinuation⟩
            else if a < 0xF0 then
              return join (a.toNat - 0xE0) [b, c] :: (← decodeAt (pos + 3) rest)
            else
              match rest with
              | [] => .error ⟨pos, [a, b, c], .truncated⟩
              | d :: rest =>
                if !isContinuation d then .error ⟨pos, [a, b, c], .badContinuation⟩
                else return join (a.toNat - 0xF0) [b, c, d] :: (← decodeAt (pos + 4) rest)

/-- Reads bytes as characters and refuses every malformed sequence. -/
def decode (bytes : List UInt8) : Except DecodeError (List Char) :=
  decodeAt 0 bytes

end DesignMetrics.Text.Utf8
