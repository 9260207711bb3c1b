import PageAudit.Picture.Canvas

/-!
Canvases as PNG files. They are written without compression, and read back in the form in which they
are written.
-/

namespace PageAudit.Png

/-! ## Numbers and sums -/

/-- A number as four bytes, the highest first. -/
def word (n : Nat) : List UInt8 :=
  [(n / 2 ^ 24).toUInt8, (n / 2 ^ 16).toUInt8, (n / 2 ^ 8).toUInt8, n.toUInt8]

/-- A number as two bytes, the lowest first. -/
def shortWord (n : Nat) : List UInt8 := [n.toUInt8, (n / 2 ^ 8).toUInt8]

def value (bytes : List UInt8) : Nat := bytes.foldl (fun n b => n * 256 + b.toNat) 0

def crcEntry (b : UInt32) : UInt32 :=
  (List.range 8).foldl
    (fun r _ => if r &&& 1 = 1 then (r >>> 1) ^^^ (0xedb88320 : UInt32) else r >>> 1) b

def crcTable : Array UInt32 := (Array.range 256).map fun n => crcEntry n.toUInt32

def crcStep (r : UInt32) (b : UInt8) : UInt32 :=
  crcTable.getD ((r ^^^ b.toUInt32) &&& 0xff).toNat 0 ^^^ (r >>> 8)

def crc (bytes : ByteArray) : Nat := (bytes.foldl crcStep 0xffffffff ^^^ 0xffffffff).toNat

def adlerStep (sums : Nat × Nat) (b : UInt8) : Nat × Nat :=
  let low := (sums.1 + b.toNat) % 65521
  (low, (sums.2 + low) % 65521)

def adler (bytes : ByteArray) : Nat :=
  let (low, high) := bytes.foldl adlerStep (1, 0)
  high * 65536 + low

/-! ## Writing -/

def pushAll (bytes : ByteArray) (more : List UInt8) : ByteArray := more.foldl ByteArray.push bytes

def ofList (bytes : List UInt8) : ByteArray := pushAll .empty bytes

def signature : List UInt8 := [0x89, 0x50, 0x4e, 0x47, 0x0d, 0x0a, 0x1a, 0x0a]

def headerKind : List UInt8 := "IHDR".toUTF8.toList
def dataKind : List UInt8 := "IDAT".toUTF8.toList
def endKind : List UInt8 := "IEND".toUTF8.toList

def chunk (kind : List UInt8) (data : ByteArray) : ByteArray :=
  let body := ofList kind ++ data
  ofList (word data.size) ++ body ++ ofList (word (crc body))

def format : List UInt8 := [8, 2, 0, 0, 0]

/-- The rows of a canvas, each after a zero that says that nothing was done to it. -/
def scanlines (c : Canvas) : ByteArray :=
  (List.range c.height).foldl
    (fun bytes y =>
      (c.row y).foldl (fun bytes p => ((bytes.push p.red).push p.green).push p.blue) (bytes.push 0))
    .empty

def blockLimit : Nat := 65535

def storedBlocks (bytes : ByteArray) (start : Nat) (acc : ByteArray) : ByteArray :=
  let stop := min (start + blockLimit) bytes.size
  let size := stop - start
  let last := decide (bytes.size ≤ stop)
  let acc := pushAll acc ((if last then 1 else 0) :: shortWord size ++ shortWord (65535 - size))
  let acc := acc ++ bytes.extract start stop
  if bytes.size ≤ start + blockLimit then acc else storedBlocks bytes (start + blockLimit) acc
termination_by bytes.size - start
decreasing_by simp only [blockLimit] at *; omega

def packed (c : Canvas) : ByteArray :=
  let lines := scanlines c
  storedBlocks lines 0 (ofList [0x78, 0x01]) ++ ofList (word (adler lines))

inductive Fault where
  | zeroWidth
  | zeroHeight
  deriving DecidableEq

def Fault.message : Fault → String
  | zeroWidth => "Zero width not allowed"
  | zeroHeight => "Zero height not allowed"

def encode (c : Canvas) : Except Fault ByteArray :=
  if c.width = 0 then .error .zeroWidth
  else if c.height = 0 then .error .zeroHeight
  else .ok <| ofList signature ++
    chunk headerKind (ofList (word c.width ++ word c.height ++ format)) ++
    chunk dataKind (packed c) ++ chunk endKind .empty

/-! ## Reading -/

def expect (front bytes : List UInt8) : Option (List UInt8) :=
  if front.isPrefixOf bytes then some (bytes.drop front.length) else none

def readChunk (kind : List UInt8) (bytes : List UInt8) : Option (List UInt8 × List UInt8) := do
  let size := value (bytes.take 4)
  let rest ← expect kind (bytes.drop 4)
  let data := rest.take size
  let after ← expect (word (crc (ofList (kind ++ data)))) (rest.drop size)
  some (data, after)

def joinBlocks : Nat → List UInt8 → Option (List UInt8)
  | count + 1, last :: low :: high :: _ :: _ :: rest =>
    let size := high.toNat * 256 + low.toNat
    if last = 1 then some (rest.take size)
    else if last = 0 then (joinBlocks count (rest.drop size)).map (rest.take size ++ ·)
    else none
  | _, _ => none

def readRow : Nat → List UInt8 → Option (List Color × List UInt8)
  | 0, bytes => some ([], bytes)
  | count + 1, red :: green :: blue :: rest =>
    (readRow count rest).map fun (colors, after) => (⟨red, green, blue⟩ :: colors, after)
  | _ + 1, _ => none

def readRows (width : Nat) : Nat → List UInt8 → Option (List Color)
  | 0, _ => some []
  | count + 1, 0 :: bytes => do
    let (colors, rest) ← readRow width bytes
    some (colors ++ (← readRows width count rest))
  | _ + 1, _ => none

def assemble (width height : Nat) (pixels : Array Color) : Option Canvas :=
  if h : width < sizeLimit ∧ height < sizeLimit ∧ 3 * (width * height) < sizeLimit ∧
      pixels.size = width * height then
    some ⟨width, height, pixels, h.1, h.2.1, h.2.2.1, h.2.2.2⟩
  else none

def decode? (bytes : ByteArray) : Option Canvas := do
  let rest ← expect signature bytes.toList
  let (header, rest) ← readChunk headerKind rest
  let (data, rest) ← readChunk dataKind rest
  let _ ← readChunk endKind rest
  let _ ← expect format (header.drop 8)
  let width := value (header.take 4)
  let height := value ((header.drop 4).take 4)
  let lines ← joinBlocks data.length (← expect [0x78, 0x01] data)
  let colors ← readRows width height lines
  assemble width height colors.toArray

end PageAudit.Png
