/-!
# Bytes as text

UTF-8 read byte by byte. `Utf8.decode` yields one entry for each character and one for each
longest piece that starts no character; a strict reader refuses such pieces and a lenient
one shows each as `U+FFFD`.
-/

namespace GroupRoles.Text.Utf8

/-- The second bytes that may follow the lead byte `a`, and how many bytes follow it in all. -/
def follow (a : UInt8) : Option (Nat × UInt8 × UInt8) :=
  if 0xc2 ≤ a && a ≤ 0xdf then some (1, 0x80, 0xbf)
  else if a == 0xe0 then some (2, 0xa0, 0xbf)
  else if a == 0xed then some (2, 0x80, 0x9f)
  else if 0xe1 ≤ a && a ≤ 0xef then some (2, 0x80, 0xbf)
  else if a == 0xf0 then some (3, 0x90, 0xbf)
  else if 0xf1 ≤ a && a ≤ 0xf3 then some (3, 0x80, 0xbf)
  else if a == 0xf4 then some (3, 0x80, 0x8f)
  else none

/-- A byte that continues a character. -/
def isTail (b : UInt8) : Bool :=
  0x80 ≤ b && b ≤ 0xbf

/-- The six low bits that a continuing byte carries. -/
def payload (b : UInt8) : Nat :=
  b.toNat % 64

/-- Reads characters; `none` stands for a longest piece that starts no character. -/
def decode : List UInt8 → List (Option Char)
  | [] => []
  | a :: r =>
    if a < 0x80 then some (Char.ofNat a.toNat) :: decode r
    else
      match follow a with
      | none => none :: decode r
      | some (n, lo, hi) =>
        match r with
        | [] => [none]
        | b :: r =>
          if !(lo ≤ b && b ≤ hi) then none :: decode (b :: r)
          else if n == 1 then
            some (Char.ofNat (a.toNat % 32 * 64 + payload b)) :: decode r
          else
            match r with
            | [] => [none]
            | c :: r =>
              if !isTail c then none :: decode (c :: r)
              else if n == 2 then
                some (Char.ofNat ((a.toNat % 16 * 64 + payload b) * 64 + payload c)) :: decode r
              else
                match r with
                | [] => [none]
                | d :: r =>
                  if !isTail d then none :: decode (d :: r)
                  else
                    some (Char.ofNat
                      (((a.toNat % 8 * 64 + payload b) * 64 + payload c) * 64 + payload d))
                      :: decode r

/-- The text of well-formed bytes. -/
def strict? (bytes : List UInt8) : Option String :=
  ((decode bytes).mapM id).map String.ofList

/-- The text of any bytes, with `U+FFFD` where they are ill-formed. -/
def lossy (bytes : List UInt8) : String :=
  String.ofList ((decode bytes).map fun c => c.getD '\ufffd')

/-- The bytes of a text. -/
def encode (s : String) : List UInt8 :=
  s.toList.flatMap String.utf8EncodeChar

end GroupRoles.Text.Utf8
