import KaspaApp.Model.Types

/-! Screen texts: `common/format_local.c` and the C strings that the review screens show. -/

namespace KaspaApp

/-- The C string in a character array: the characters before the first zero. -/
def cString (chars : List UInt8) : List UInt8 := chars.takeWhile (· ≠ 0)

/-- `isspace` and `isprint` of the C locale. -/
def isSpace (c : UInt8) : Bool := c = 0x20 || (0x09 ≤ c && c ≤ 0x0d)
def isPrint (c : UInt8) : Bool := 0x20 ≤ c && c ≤ 0x7e

/-- The two characters that `%02x` prints for a byte. -/
def hexDigits (c : UInt8) : List UInt8 :=
  [c >>> 4, c &&& 0x0f].map fun digit => if digit < 10 then digit + 0x30 else digit + 0x57

/-- The writes that store `chars` from cell `start` on. -/
def writesAt (start : Nat) (chars : List UInt8) : List (Nat × UInt8) :=
  chars.zipIdx.map fun (char, offset) => (start + offset, char)

/-- The loop of `format_message_to_sign`: the cells it writes, in order. `sprintf` and
`snprintf` also write their terminating zero, and `snprintf` is given a size that cuts the
last character of an escape where exactly four cells remain.
-/
def formatMessageLoop (msgDestLen : Nat) : List UInt8 → Nat → List (Nat × UInt8)
  | [], _ => []
  | c :: rest, destIdx =>
      if destIdx < msgDestLen then
        let c := if isSpace c then 0x20 else c
        if isPrint c then
          writesAt destIdx [c, 0] ++ formatMessageLoop msgDestLen rest (destIdx + 1)
        else
          let remainingBufferLength := msgDestLen - destIdx - 1
          if 4 ≤ remainingBufferLength then
            writesAt destIdx
                (([0x5c, 0x78] ++ hexDigits c).take (remainingBufferLength - 1) ++ [0])
              ++ formatMessageLoop msgDestLen rest (destIdx + 4)
          else
            writesAt destIdx (List.replicate remainingBufferLength 0x20)
              ++ formatMessageLoop msgDestLen rest (destIdx + remainingBufferLength)
      else
        []

/-- `format_message_to_sign`: every cell it writes, counted from the start of `msg_dest`. -/
def formatMessageToSign (msgDestLen : Nat) (msgSrc : List UInt8) : List (Nat × UInt8) :=
  formatMessageLoop msgDestLen msgSrc 0

/-- The cells of a zero-filled destination after the given writes. -/
def cellsAfter (writes : List (Nat × UInt8)) (count : Nat) : List UInt8 :=
  (List.range count).map fun cell =>
    (writes.foldl (fun value write => if write.1 = cell then write.2 else value) 0)

/-- The text on the screen: the string that starts at `msg_dest`. A terminator can lie one
cell behind the destination.
-/
def messageText (msgDestLen : Nat) (msgSrc : List UInt8) : List UInt8 :=
  cString (cellsAfter (formatMessageToSign msgDestLen msgSrc) (msgDestLen + 1))

/-- `"KAS "` and an amount, as `snprintf` leaves them in a buffer of 30 characters. -/
def kasText (amount : List UInt8) : List UInt8 :=
  ([0x4b, 0x41, 0x53, 0x20] ++ cString amount).take 29

end KaspaApp
