import SchemaRegistry.Url.Basic

/-!
Hosts that are numbers. An IPv4 address may be written with one to four parts in decimal, octal or
hexadecimal notation and is shown as four decimal parts. An IPv6 address is eight pieces of sixteen
bits, and the longest run of two or more zero pieces is shown as `::`.
-/

namespace SchemaRegistry.Url

def splitAt (separator : Char) : List Char → List (List Char)
  | [] => [[]]
  | c :: rest =>
    if c = separator then [] :: splitAt separator rest
    else match splitAt separator rest with
      | [] => [[c]]
      | first :: others => (c :: first) :: others

namespace Ipv4

/-- The value of one part: hexadecimal after `0x`, octal after another leading zero, else decimal.
A bare `0x` is zero. -/
def part? : List Char → Option Nat
  | [] => none
  | '0' :: 'x' :: rest => Hex.digits? 16 rest
  | '0' :: 'X' :: rest => Hex.digits? 16 rest
  | '0' :: c :: rest => Hex.digits? 8 (c :: rest)
  | other => Hex.digits? 10 other

/-- The parts of a dotted text; an empty last part does not count. -/
def parts (text : List Char) : List (List Char) :=
  let all := splitAt '.' text
  if all.getLast? = some [] then all.dropLast else all

/-- Whether the last part of a domain is a number, so that the domain must be an address. -/
def endsInNumber (text : List Char) : Bool :=
  match (parts text).getLast? with
  | none => false
  | some last => (!last.isEmpty && last.all Char.isDigit) || (part? last).isSome

/-- The address, if the parts are numbers of which all but the last fit a byte and the last fits
the bytes that remain. -/
def parse? (text : List Char) : Option Nat := do
  let numbers ← (parts text).mapM part?
  let last ← numbers.getLast?
  let leading := numbers.dropLast
  if leading.length ≤ 3 && leading.all (· ≤ 255) && last < Nat.pow 256 (4 - leading.length) then
    return leading.zipIdx.foldl (fun sum entry => sum + entry.1 * Nat.pow 256 (3 - entry.2)) last
  else none

def render (address : Nat) : String :=
  ".".intercalate ([3, 2, 1, 0].map fun place => toString (address / Nat.pow 256 place % 256))

end Ipv4

namespace Ipv6

/-- The pieces read so far, and how many of them stand before `::` if it was met. -/
structure Progress where
  pieces : List Nat
  gap : Option Nat

def decimalByte? (text : List Char) : Option (Nat × List Char) :=
  let digits := text.takeWhile Char.isDigit
  match digits with
  | [] => none
  | '0' :: _ :: _ => none
  | _ => do
    let n ← Hex.digits? 10 digits
    if n ≤ 255 then some (n, text.drop digits.length) else none

def embedded? (text : List Char) : Option (List Nat) := do
  let (a, rest) ← decimalByte? text
  let '.' :: rest := rest | none
  let (b, rest) ← decimalByte? rest
  let '.' :: rest := rest | none
  let (c, rest) ← decimalByte? rest
  let '.' :: rest := rest | none
  let (d, rest) ← decimalByte? rest
  if rest.isEmpty then some [a * 256 + b, c * 256 + d] else none

/-- Reads pieces until the text ends. `steps` bounds their number; a text with more of them is no
address. -/
def read? (steps : Nat) (progress : Progress) (text : List Char) : Option Progress :=
  match steps, text with
  | _, [] => some progress
  | 0, _ => none
  | steps + 1, ':' :: rest =>
    if progress.gap.isSome then none
    else read? steps { progress with gap := some progress.pieces.length } rest
  | steps + 1, text =>
    -- A dot after the digits shows that they belong to an IPv4 address, which is then the rest.
    let digits := (text.take 4).takeWhile Hex.isDigit
    let value := (Hex.digits? 16 digits).getD 0
    let progress' : Progress := { progress with pieces := progress.pieces ++ [value] }
    match text.drop digits.length with
    | [] => some progress'
    | ':' :: rest => if rest.isEmpty then none else read? steps progress' rest
    | '.' :: _ =>
      if digits.isEmpty then none
      else do
        let tail ← embedded? text
        some { progress with pieces := progress.pieces ++ tail }
    | _ => none

/-- The eight pieces of an address. A `::` fills up with zeros and stands for at least one piece. -/
def parse? (text : List Char) : Option (List Nat) := do
  let start ← match text with
    | ':' :: ':' :: rest => some (Progress.mk [] (some 0), rest)
    | ':' :: _ => none
    | _ => if text.length < 2 then none else some (Progress.mk [] none, text)
  let progress ← read? 9 start.1 start.2
  match progress.gap with
  | none => if progress.pieces.length = 8 then some progress.pieces else none
  | some gap =>
    if progress.pieces.length ≤ 7 then
      some (progress.pieces.take gap ++ List.replicate (8 - progress.pieces.length) 0 ++
        progress.pieces.drop gap)
    else none

def zeroRun (pieces : List Nat) : Nat := (pieces.takeWhile (· = 0)).length

/-- Where the longest run of at least two zeros starts, and its length; the first one of several. -/
def longestZeroRun (pieces : List Nat) : Option (Nat × Nat) :=
  let runs := (List.range pieces.length).map fun start => (start, zeroRun (pieces.drop start))
  runs.foldl (fun best run =>
    let length := match best with
      | some (_, n) => n
      | none => 1
    if length < run.2 then some run else best) none

def hexPiece (n : Nat) : String := String.ofList (Nat.toDigits 16 n)

def joined (pieces : List Nat) : String := ":".intercalate (pieces.map hexPiece)

def render (pieces : List Nat) : String :=
  match longestZeroRun pieces with
  | some (start, length) =>
    joined (pieces.take start) ++ "::" ++ joined (pieces.drop (start + length))
  | none => joined pieces

end Ipv6

end SchemaRegistry.Url
