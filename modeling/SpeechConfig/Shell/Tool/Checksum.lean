/-
# Checksums and encodings

Tools that show checksums of files, and that turn octets into letters and back.
-/
import SpeechConfig.Digest.Sha256
import SpeechConfig.Shell.Tool.Show

namespace SpeechConfig.Shell.Tool

/-! ## Digests -/

def turned (bits : UInt32) (x : UInt32) : UInt32 :=
  (x <<< bits) ||| (x >>> (32 - bits))

def paddedMessage (octets : List Char) : List Char :=
  let length := octets.length
  let zeros := (119 - length % 64) % 64
  let size := (List.range 8).map fun i => Char.ofNat (8 * length / Nat.pow 256 i % 256)
  octets ++ ['\x80'] ++ List.replicate zeros '\x00' ++ size

/-- The words of a block, the lowest octet of each first. -/
def blockWords (block : List Char) : Array UInt32 :=
  ((chunks 4 17 block).map fun w =>
    UInt32.ofNat (w.reverse.foldl (fun n c => n * 256 + c.toNat) 0)).toArray

/-- A word in hexadecimal digits, the lowest octet first. -/
def hexWord (x : UInt32) : String :=
  String.join ((List.range 4).map fun i =>
    Floating.zeroFilled 2 (digitsIn 16 (x.toNat / Nat.pow 256 i % 256)))

/-- The whole parts of the sines that the short digest mixes in. -/
def sineWord (i : Nat) : UInt32 :=
  [3614090360, 3905402710, 606105819, 3250441966, 4118548399, 1200080426, 2821735955, 4249261313,
    1770035416, 2336552879, 4294925233, 2304563134, 1804603682, 4254626195, 2792965006, 1236535329,
    4129170786, 3225465664, 643717713, 3921069994, 3593408605, 38016083, 3634488961, 3889429448,
    568446438, 3275163606, 4107603335, 1163531501, 2850285829, 4243563512, 1735328473, 2368359562,
    4294588738, 2272392833, 1839030562, 4259657740, 2763975236, 1272893353, 4139469664, 3200236656,
    681279174, 3936430074, 3572445317, 76029189, 3654602809, 3873151461, 530742520, 3299628645,
    4096336452, 1126891415, 2878612391, 4237533241, 1700485571, 2399980690, 4293915773, 2240044497,
    1873313359, 4264355552, 2734768916, 1309151649, 4149444226, 3174756917, 718787259, 3951481745].getD i 0

/-- By how much a step of the short digest turns. -/
def turnOf (i : Nat) : UInt32 :=
  ([[7, 12, 17, 22], [5, 9, 14, 20], [4, 11, 16, 23], [6, 10, 15, 21]].getD (i / 16) []).getD (i % 4) 0

structure FourWords where
  a : UInt32
  b : UInt32
  c : UInt32
  d : UInt32

def shortStep (words : Array UInt32) (s : FourWords) (i : Nat) : FourWords :=
  let (f, g) :=
    if i < 16 then ((s.b &&& s.c) ||| (~~~s.b &&& s.d), i)
    else if i < 32 then ((s.d &&& s.b) ||| (~~~s.d &&& s.c), (5 * i + 1) % 16)
    else if i < 48 then (s.b ^^^ s.c ^^^ s.d, (3 * i + 5) % 16)
    else (s.c ^^^ (s.b ||| ~~~s.d), (7 * i) % 16)
  let mixed := f + s.a + sineWord i + words.getD g 0
  ⟨s.d, s.b + turned (turnOf i) mixed, s.b, s.c⟩

def md5 (text : String) : String :=
  let blocks := chunks 64 (text.length / 64 + 3) (paddedMessage text.toList)
  let final := blocks.foldl (fun (s : FourWords) block =>
    let words := blockWords block
    let t := (List.range 64).foldl (shortStep words) s
    ⟨s.a + t.a, s.b + t.b, s.c + t.c, s.d + t.d⟩) ⟨1732584193, 4023233417, 2562383102, 271733878⟩
  String.join ([final.a, final.b, final.c, final.d].map hexWord)

def sha256 (text : String) : String :=
  Digest.sha256 (Octets.toBytes text)

def digestTool (name : String) (digest : String → String) : Tool := fun _ args =>
  let style : FlagStyle :=
    { plain := "bctwz"
      long := [⟨"binary", 'b', false, false⟩, ⟨"check", 'c', false, false⟩, ⟨"text", 't', false, false⟩,
        ⟨"quiet", 'q', false, false⟩, ⟨"status", 's', false, false⟩, ⟨"tag", 'T', false, false⟩, ⟨"warn", 'w', false, false⟩] }
  withGiven name style args fun g => do
    let paths := if g.operands.isEmpty then ["-"] else g.operands
    let mut status := 0
    for path in paths do
      match ← readInput path with
      | .error fault => status ← report name (quotedIfNeeded path ++ ": " ++ fault.reason)
      | .ok text =>
        if g.has 'c' then
          let mut failed := 0
          let mut missing := 0
          for line in linesOf text do
            match splitFirst? ' ' line with
            | some (sum, rest) =>
              let file := dropText 1 rest
              match ← readInput file with
              | .ok content =>
                if digest content = sum then
                  if !g.has 'q' && !g.has 's' then Act.put 1 (file ++ ": OK\n")
                else
                  if !g.has 's' then Act.put 1 (file ++ ": FAILED\n")
                  failed := failed + 1
              | .error fault =>
                let _ ← report name (file ++ ": " ++ fault.reason)
                if !g.has 's' then Act.put 1 (file ++ ": FAILED open or read\n")
                missing := missing + 1
            | none => pure ()
          let plural (n : Nat) : String := if n = 1 then "" else "s"
          if missing > 0 && !g.has 's' then
            Act.warn (name ++ ": WARNING: " ++ Nat.repr missing ++ " listed file" ++ plural missing ++ " could not be read")
          if failed > 0 && !g.has 's' then
            Act.warn (name ++ ": WARNING: " ++ Nat.repr failed ++ " computed checksum" ++ plural failed ++ " did NOT match")
          if failed + missing > 0 then status := 1
        else Act.put 1 (digest text ++ (if g.has 'b' then " *" else "  ") ++ path ++ "\n")
    return status

/-- One octet taken into a check sum. -/
def crcStep (crc : Nat) (octet : Nat) : Nat :=
  (List.range 8).foldl (fun (c : Nat) _ =>
    let shifted := (c * 2) % 4294967296
    if c ≥ 2147483648 then shifted ^^^ 79764919 else shifted) (crc ^^^ (octet * 16777216))

def cksum : Tool := fun _ args =>
  withGiven "cksum" {} args fun g => do
    let paths := if g.operands.isEmpty then ["-"] else g.operands
    let mut status := 0
    for path in paths do
      match ← readInput path with
      | .error fault => status ← report "cksum" (quotedIfNeeded path ++ ": " ++ fault.reason)
      | .ok text =>
        let rec sizes : Nat → Nat → List Nat
          | 0, _ => []
          | fuel + 1, n => if n = 0 then [] else n % 256 :: sizes fuel (n / 256)
        let octets := text.toList.map Char.toNat ++ sizes 10 text.length
        let sum := 4294967295 - octets.foldl crcStep 0
        Act.put 1 (Nat.repr sum ++ " " ++ Nat.repr text.length ++ (if g.operands.isEmpty then "" else " " ++ path) ++ "\n")
    return status

/-! ## Letters for octets -/

/-- An encoding of octets: its letters, how many octets make a group, and how many bits a
letter has. -/
structure Encoding where
  letters : List Char
  group : Nat
  bits : Nat

def sixtyFour : Encoding :=
  ⟨"ABCDEFGHIJKLMNOPQRSTUVWXYZabcdefghijklmnopqrstuvwxyz0123456789+/".toList, 3, 6⟩

def thirtyTwo : Encoding :=
  ⟨"ABCDEFGHIJKLMNOPQRSTUVWXYZ234567".toList, 5, 5⟩

def Encoding.groupText (e : Encoding) (part : List Char) : String :=
  let size := 8 * e.group / e.bits
  let value := (part ++ List.replicate (e.group - part.length) '\x00').foldl (fun n c => n * 256 + c.toNat) 0
  let used := (8 * part.length + e.bits - 1) / e.bits
  String.ofList ((List.range size).map fun i =>
    if used ≤ i then '=' else e.letters.getD (value / Nat.pow 2 (e.bits * (size - 1 - i)) % Nat.pow 2 e.bits) '=')

def Encoding.encoded (e : Encoding) (text : String) : String :=
  String.join ((chunks e.group (text.length + 1) text.toList).map e.groupText)

/-- The octets of letters; the second part says whether everything could be read. -/
def Encoding.decoded (e : Encoding) : Nat → List Char → String × Bool
  | 0, _ => ("", true)
  | _, [] => ("", true)
  | n + 1, cs =>
    let size := 8 * e.group / e.bits
    let part := cs.take size
    let values := part.filterMap fun c => e.letters.findIdx? (· == c)
    let isWhole := values.length + (part.filter (· == '=')).length = part.length && part.length = size
    let count := values.length * e.bits / 8
    let value := (values ++ List.replicate (size - values.length) 0).foldl (fun n v => n * Nat.pow 2 e.bits + v) 0
    let octets := (List.range e.group).map fun i => Char.ofNat (value / Nat.pow 256 (e.group - 1 - i) % 256)
    let here := String.ofList (octets.take count)
    if !isWhole then (here, false)
    else
      let (rest, ok) := e.decoded n (cs.drop size)
      (here ++ rest, ok)

def encodingTool (name : String) (e : Encoding) : Tool := fun _ args =>
  let style : FlagStyle :=
    { plain := "di", valued := "w"
      long := [⟨"decode", 'd', false, false⟩, ⟨"ignore-garbage", 'i', false, false⟩, ⟨"wrap", 'w', true, false⟩] }
  withGiven name style args fun g => do
    match g.operands with
    | _ :: second :: _ => misuse name ("extra operand " ++ quotedName second)
    | operands =>
      match ← inputOf name (operands.headD "-") with
      | none => return 1
      | some text =>
        if g.has 'd' then
          let letters := text.toList.filter fun c => c != '\n' && !(g.has 'i' && !(e.letters.contains c || c == '='))
          let (out, ok) := e.decoded (letters.length + 1) letters
          let status ← say name out
          if ok then return status else report name "invalid input"
        else
          match count? ((g.value? 'w').getD "76") with
          | none => report name ("invalid wrap size: " ++ quotedName ((g.value? 'w').getD ""))
          | some 0 => say name (e.encoded text)
          | some width =>
            say name (unlines ((chunks width (2 * text.length + 2) (e.encoded text).toList).map String.ofList))

end SpeechConfig.Shell.Tool
