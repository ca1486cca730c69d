/-! UTF-8. Octets are cut into well-formed sequences and maximal ill-formed
subparts; strict decoding refuses the latter and lossy decoding writes a
replacement character for each, so the two differ in nothing else. -/
namespace CommandPlan.Utf8

/-- What a decoder meets: one character, or the longest start of a sequence
that no well-formed sequence continues. -/
inductive Segment where
  | scalar (c : Char)
  | malformed
deriving DecidableEq, Repr

def isContinuation (octet : UInt8) : Bool :=
  0x80 ≤ octet && octet ≤ 0xBF

/-- The second octet decides about overlong forms, surrogates and code points
past the last one, so its range depends on the first. -/
def isSecond (lead octet : UInt8) : Bool :=
  if lead = 0xE0 then 0xA0 ≤ octet && octet ≤ 0xBF
  else if lead = 0xED then 0x80 ≤ octet && octet ≤ 0x9F
  else if lead = 0xF0 then 0x90 ≤ octet && octet ≤ 0xBF
  else if lead = 0xF4 then 0x80 ≤ octet && octet ≤ 0x8F
  else isContinuation octet

def payload (octet : UInt8) : Nat := octet.toNat % 0x40

/-- The character of a well-formed sequence of two, three or four octets. -/
def scalar2 (a b : UInt8) : Char :=
  Char.ofNat (a.toNat % 0x20 * 0x40 + payload b)

def scalar3 (a b c : UInt8) : Char :=
  Char.ofNat (a.toNat % 0x10 * 0x1000 + payload b * 0x40 + payload c)

def scalar4 (a b c d : UInt8) : Char :=
  Char.ofNat (a.toNat % 0x8 * 0x40000 + payload b * 0x1000 + payload c * 0x40 + payload d)

def segments : List UInt8 → List Segment
  | [] => []
  | a :: rest =>
    if a < 0x80 then .scalar (Char.ofNat a.toNat) :: segments rest
    else if 0xC2 ≤ a ∧ a ≤ 0xDF then
      match rest with
      | b :: rest' =>
        if isContinuation b then .scalar (scalar2 a b) :: segments rest'
        else .malformed :: segments (b :: rest')
      | [] => [.malformed]
    else if 0xE0 ≤ a ∧ a ≤ 0xEF then
      match rest with
      | b :: rest' =>
        if isSecond a b then
          match rest' with
          | c :: rest'' =>
            if isContinuation c then .scalar (scalar3 a b c) :: segments rest''
            else .malformed :: segments (c :: rest'')
          | [] => [.malformed]
        else .malformed :: segments (b :: rest')
      | [] => [.malformed]
    else if 0xF0 ≤ a ∧ a ≤ 0xF4 then
      match rest with
      | b :: rest' =>
        if isSecond a b then
          match rest' with
          | c :: rest'' =>
            if isContinuation c then
              match rest'' with
              | d :: rest''' =>
                if isContinuation d then .scalar (scalar4 a b c d) :: segments rest'''
                else .malformed :: segments (d :: rest''')
              | [] => [.malformed]
            else .malformed :: segments (c :: rest'')
          | [] => [.malformed]
        else .malformed :: segments (b :: rest')
      | [] => [.malformed]
    else .malformed :: segments rest

def replacement : Char := Char.ofNat 0xFFFD

namespace Segment

def char? : Segment → Option Char
  | scalar c => some c
  | malformed => none

def charOrReplacement : Segment → Char
  | scalar c => c
  | malformed => replacement

end Segment

def decode? (octets : List UInt8) : Option (List Char) :=
  (segments octets).mapM Segment.char?

def decodeLossy (octets : List UInt8) : List Char :=
  (segments octets).map Segment.charOrReplacement

def encodeChar (c : Char) : List UInt8 :=
  let code := c.toNat
  let tail (unit : Nat) : UInt8 := UInt8.ofNat (0x80 + code / unit % 0x40)
  if code < 0x80 then [UInt8.ofNat code]
  else if code < 0x800 then [UInt8.ofNat (0xC0 + code / 0x40), tail 1]
  else if code < 0x10000 then [UInt8.ofNat (0xE0 + code / 0x1000), tail 0x40, tail 1]
  else [UInt8.ofNat (0xF0 + code / 0x40000), tail 0x1000, tail 0x40, tail 1]

def encode (text : List Char) : List UInt8 :=
  text.flatMap encodeChar

end CommandPlan.Utf8
