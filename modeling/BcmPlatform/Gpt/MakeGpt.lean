import BcmPlatform.Gpt.Efi
import BcmPlatform.Lib.Strtoul

/-! `main` of makegpt: the partitions that are given as arguments, and the pass that finds the starts and sizes that are given
    as `-`. -/

namespace BcmPlatform.Gpt
open Lib

/-! ### Arguments -/

/-- What is found in an argument `partitionName,startaddr,size,attr`; what is to be guessed is 0 until then. -/
structure PartArg where
  name : List Char
  start : Nat
  size : Nat
  attr : Nat
  guessStart : Bool
  guessSize : Bool
  start_guess : guessStart = true → start = 0
  size_guess : guessSize = true → size = 0
  deriving DecidableEq

/-- The text behind the first comma. -/
def splitComma (s : List Char) : Option (List Char × List Char) :=
  match s.dropWhile (· ≠ ',') with
  | [] => none
  | _ :: rest => some (s.takeWhile (· ≠ ','), rest)

/-- The factor of a suffix. -/
def suffixFactor : List Char → Nat
  | 'k' :: _ | 'K' :: _ => 1024
  | 'M' :: _ => 1024 * 1024
  | 'G' :: _ => 1024 * 1024 * 1024
  | _ => 1

/-- A start or size, and whether it is to be guessed: a minus sign is looked for in all of the argument that is left. -/
def parseAddress (s : List Char) : Nat × Bool :=
  let parsed := strtoul 64 s
  if parsed.1 = 0 ∧ '-' ∈ s then (0, true) else (parsed.1 * suffixFactor parsed.2 % 2 ^ 64, false)

theorem parseAddress_guess {s : List Char} (h : (parseAddress s).2 = true) : (parseAddress s).1 = 0 := by
  unfold parseAddress at h ⊢
  simp only at h ⊢
  split
  · rfl
  · rename_i hnot
    simp [hnot] at h

/-- The parse of an argument; an error for a missing comma. -/
def parsePart (arg : List Char) : Option PartArg :=
  match splitComma arg with
  | none => none
  | some (name, startStr) =>
    let start := parseAddress startStr
    match splitComma startStr with
    | none => none
    | some (_, sizeStr) =>
      let size := parseAddress sizeStr
      match splitComma sizeStr with
      | none => none
      | some (_, attrStr) =>
        some
          { name, start := start.1, size := size.1, attr := (strtoul 64 attrStr).1, guessStart := start.2
            guessSize := size.2, start_guess := parseAddress_guess, size_guess := parseAddress_guess }

/-- An element of `partinfo` with its `part_guess_start` and `part_guess_size`. -/
structure Part where
  name : List Char
  start : Nat
  stop : Nat
  attr : Nat
  guessStart : Bool
  guessSize : Bool
  deriving DecidableEq, Repr

/-- The element as it is before starts and sizes are found. -/
def PartArg.part (a : PartArg) : Part :=
  { name := a.name
    start := a.start
    stop := if a.size ≠ 0 then sub64 ((a.start + a.size) % 2 ^ 64) sectorSize else a.start
    attr := a.attr
    guessStart := a.guessStart
    guessSize := a.guessSize }

/-- The element as it is given to `efi_populate_tables`; `strncpy` fills the name up with nulls. -/
def Part.info (p : Part) : PartitionInfo where
  start := p.start
  stop := p.stop
  attributes := p.attr
  name := Vector.ofFn fun i => UInt8.ofNat ((p.name.getD i '\x00').toNat % 256)

/-! ### Starts and sizes -/

/-- `agpt_reserved_size` -/
def agptReservedSize (imgcount : Nat) : Nat :=
  if imgcount ≤ 128 then sectorSize * (1 + sectorAddr (part2Sect 128)) else sectorSize * (1 + sectorAddr (part2Sect imgcount))

/-- The start of an element behind the elements `done`; `size` is that of the last of them. -/
def finalizeStart (done : List Part) (size : Nat) (p : Part) : Option Part :=
  if p.guessStart then
    match done.getLast? with
    | none => some { p with start := 0 }
    | some prev =>
      if prev.guessSize then none
      else
        let start := (prev.start + size) % 2 ^ 64
        some { p with start, stop := (p.stop + start) % 2 ^ 64 }
  else some p

/-- The loop that looks for the next start, in the whole array as it is at that time. -/
def fillSize (parts : List Part) (start size : Nat) : Nat :=
  parts.foldl (fun size q => if q.start > start ∧ q.start - start < size then q.start - start else size) size

/-- The size of an element whose start was found, in the array `parts`. -/
def finalizeSize (limit : Nat) (parts : List Part) (p : Part) : Option (Part × Nat) :=
  if p.guessSize then
    if (p.start + sectorSize) % 2 ^ 64 ≥ limit then none
    else
      let size := fillSize parts p.start (sub64 limit p.start)
      some ({ p with stop := sub64 ((p.start + size) % 2 ^ 64) sectorSize }, size)
  else some (p, (sub64 p.stop p.start + sectorSize) % 2 ^ 64)

/-- The pass over the elements: `done` are final, `rest` are as they were parsed. An error ends it. -/
def finalize (limit : Nat) : List Part → Nat → List Part → Option (List Part)
  | done, _, [] => some done
  | done, size, p :: rest =>
    match finalizeStart done size p with
    | none => none
    | some p =>
      match finalizeSize limit (done ++ p :: rest) p with
      | none => none
      | some (p, size) => finalize limit (done ++ [p]) size rest

/-! ### The program -/

/-- The values of the options. -/
structure Options where
  outputFile : List Char
  totalDiskSize : Nat
  baseAddress : Nat
  deriving Repr

inductive Outcome where
  | exit
  | undefined -- a write behind the arrays
  | written (parts : List Part) (tables : Tables)

/-- The number of elements of the arrays. -/
def maxParts : Nat := 64

/-- The parse of the arguments; the arrays are written to only behind the first comma of an argument. -/
def parseParts : Nat → List (List Char) → List PartArg → Except Outcome (List PartArg)
  | _, [], args => .ok args
  | imgcount, arg :: rest, args =>
    if (splitComma arg).isNone then .error .exit
    else if maxParts ≤ imgcount then .error .undefined
    else
      match parsePart arg with
      | none => .error .exit
      | some a => parseParts (imgcount + 1) rest (args ++ [a])

/-- `main`, up to the file that is written. -/
def makegpt (options : Options) (argv : List (List Char)) (r : RandState) : Outcome :=
  if options.outputFile = [] then .exit
  else if options.totalDiskSize = 0 then .exit
  else if options.baseAddress = 2 ^ 64 - 1 then .exit
  else
    match parseParts 0 argv [] with
    | .error outcome => outcome
    | .ok args =>
      match finalize (sub64 options.totalDiskSize (agptReservedSize args.length)) [] 0 (args.map PartArg.part) with
      | none => .exit
      | some parts =>
        .written parts
          (populateTables (parts.map Part.info) options.totalDiskSize (sectorAddr options.baseAddress + 1) r)

end BcmPlatform.Gpt
