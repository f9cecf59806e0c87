import BcmPlatform.Lib.Bytes
import BcmPlatform.Lib.Crc

/-! `efi.c` of makegpt: the headers and entries of a GUID partition table, how they are written, and how they are checked. The
    tool runs on a 64-bit host with little-endian memory. -/

namespace BcmPlatform.Gpt
open Lib

/-! ### Sectors -/

/-- `EFI_SECTORSIZE` -/
def sectorSize : Nat := 512

/-- `EFI_SECTORADDR` -/
def sectorAddr (x : Nat) : Nat := x / sectorSize

/-- `EFI_GPT_HEADER_SIZE` -/
def gptHeaderSize : Nat := 92

/-- `sizeof(efi_gpt_entry_t)` -/
def gptEntrySize : Nat := 128

/-- `EFI_PART2SECT`, in bytes; the rounding is done on a `uint32_t`. -/
def part2Sect (numEntries : Nat) : Nat := (numEntries + 3) % 2 ^ 32 / 4 * 4 * gptEntrySize

/-- The difference of two `uint64_t`. -/
def sub64 (a b : Nat) : Nat := (a + (2 ^ 64 - b % 2 ^ 64)) % 2 ^ 64

/-! ### Check sums -/

/-- `crc32_tab` -/
def crc32Tab : List (BitVec 32) :=
  [0x00000000, 0x77073096, 0xee0e612c, 0x990951ba, 0x076dc419, 0x706af48f, 0xe963a535, 0x9e6495a3,
    0x0edb8832, 0x79dcb8a4, 0xe0d5e91e, 0x97d2d988, 0x09b64c2b, 0x7eb17cbd, 0xe7b82d07, 0x90bf1d91,
    0x1db71064, 0x6ab020f2, 0xf3b97148, 0x84be41de, 0x1adad47d, 0x6ddde4eb, 0xf4d4b551, 0x83d385c7,
    0x136c9856, 0x646ba8c0, 0xfd62f97a, 0x8a65c9ec, 0x14015c4f, 0x63066cd9, 0xfa0f3d63, 0x8d080df5,
    0x3b6e20c8, 0x4c69105e, 0xd56041e4, 0xa2677172, 0x3c03e4d1, 0x4b04d447, 0xd20d85fd, 0xa50ab56b,
    0x35b5a8fa, 0x42b2986c, 0xdbbbc9d6, 0xacbcf940, 0x32d86ce3, 0x45df5c75, 0xdcd60dcf, 0xabd13d59,
    0x26d930ac, 0x51de003a, 0xc8d75180, 0xbfd06116, 0x21b4f4b5, 0x56b3c423, 0xcfba9599, 0xb8bda50f,
    0x2802b89e, 0x5f058808, 0xc60cd9b2, 0xb10be924, 0x2f6f7c87, 0x58684c11, 0xc1611dab, 0xb6662d3d,
    0x76dc4190, 0x01db7106, 0x98d220bc, 0xefd5102a, 0x71b18589, 0x06b6b51f, 0x9fbfe4a5, 0xe8b8d433,
    0x7807c9a2, 0x0f00f934, 0x9609a88e, 0xe10e9818, 0x7f6a0dbb, 0x086d3d2d, 0x91646c97, 0xe6635c01,
    0x6b6b51f4, 0x1c6c6162, 0x856530d8, 0xf262004e, 0x6c0695ed, 0x1b01a57b, 0x8208f4c1, 0xf50fc457,
    0x65b0d9c6, 0x12b7e950, 0x8bbeb8ea, 0xfcb9887c, 0x62dd1ddf, 0x15da2d49, 0x8cd37cf3, 0xfbd44c65,
    0x4db26158, 0x3ab551ce, 0xa3bc0074, 0xd4bb30e2, 0x4adfa541, 0x3dd895d7, 0xa4d1c46d, 0xd3d6f4fb,
    0x4369e96a, 0x346ed9fc, 0xad678846, 0xda60b8d0, 0x44042d73, 0x33031de5, 0xaa0a4c5f, 0xdd0d7cc9,
    0x5005713c, 0x270241aa, 0xbe0b1010, 0xc90c2086, 0x5768b525, 0x206f85b3, 0xb966d409, 0xce61e49f,
    0x5edef90e, 0x29d9c998, 0xb0d09822, 0xc7d7a8b4, 0x59b33d17, 0x2eb40d81, 0xb7bd5c3b, 0xc0ba6cad,
    0xedb88320, 0x9abfb3b6, 0x03b6e20c, 0x74b1d29a, 0xead54739, 0x9dd277af, 0x04db2615, 0x73dc1683,
    0xe3630b12, 0x94643b84, 0x0d6d6a3e, 0x7a6a5aa8, 0xe40ecf0b, 0x9309ff9d, 0x0a00ae27, 0x7d079eb1,
    0xf00f9344, 0x8708a3d2, 0x1e01f268, 0x6906c2fe, 0xf762575d, 0x806567cb, 0x196c3671, 0x6e6b06e7,
    0xfed41b76, 0x89d32be0, 0x10da7a5a, 0x67dd4acc, 0xf9b9df6f, 0x8ebeeff9, 0x17b7be43, 0x60b08ed5,
    0xd6d6a3e8, 0xa1d1937e, 0x38d8c2c4, 0x4fdff252, 0xd1bb67f1, 0xa6bc5767, 0x3fb506dd, 0x48b2364b,
    0xd80d2bda, 0xaf0a1b4c, 0x36034af6, 0x41047a60, 0xdf60efc3, 0xa867df55, 0x316e8eef, 0x4669be79,
    0xcb61b38c, 0xbc66831a, 0x256fd2a0, 0x5268e236, 0xcc0c7795, 0xbb0b4703, 0x220216b9, 0x5505262f,
    0xc5ba3bbe, 0xb2bd0b28, 0x2bb45a92, 0x5cb36a04, 0xc2d7ffa7, 0xb5d0cf31, 0x2cd99e8b, 0x5bdeae1d,
    0x9b64c2b0, 0xec63f226, 0x756aa39c, 0x026d930a, 0x9c0906a9, 0xeb0e363f, 0x72076785, 0x05005713,
    0x95bf4a82, 0xe2b87a14, 0x7bb12bae, 0x0cb61b38, 0x92d28e9b, 0xe5d5be0d, 0x7cdcefb7, 0x0bdbdf21,
    0x86d3d2d4, 0xf1d4e242, 0x68ddb3f8, 0x1fda836e, 0x81be16cd, 0xf6b9265b, 0x6fb077e1, 0x18b74777,
    0x88085ae6, 0xff0f6a70, 0x66063bca, 0x11010b5c, 0x8f659eff, 0xf862ae69, 0x616bffd3, 0x166ccf45,
    0xa00ae278, 0xd70dd2ee, 0x4e048354, 0x3903b3c2, 0xa7672661, 0xd06016f7, 0x4969474d, 0x3e6e77db,
    0xaed16a4a, 0xd9d65adc, 0x40df0b66, 0x37d83bf0, 0xa9bcae53, 0xdebb9ec5, 0x47b2cf7f, 0x30b5ffe9,
    0xbdbdf21c, 0xcabac28a, 0x53b39330, 0x24b4a3a6, 0xbad03605, 0xcdd70693, 0x54de5729, 0x23d967bf,
    0xb3667a2e, 0xc4614ab8, 0x5d681b02, 0x2a6f2b94, 0xb40bbe37, 0xc30c8ea1, 0x5a05df1b, 0x2d02ef8d]

/-- `efi_crc32` -/
def efiCrc32 (buf : List UInt8) : BitVec 32 := crcUpdate crc32Tab 0xffffffff buf ^^^ 0xffffffff

/-! ### Guids -/

abbrev Guid := Vector UInt8 16

/-- `NULL_GUID` -/
def nullGuid : Guid := Vector.replicate 16 0

/-- `TYPE_GUID` -/
def typeGuid : Guid :=
  #v[0xa2, 0xa0, 0xd0, 0xeb, 0xe5, 0xb9, 0x33, 0x44, 0x87, 0xc0, 0x68, 0xb6, 0xb7, 0x26, 0x99, 0xc7]

/-- `rand_ms` and `rand_ls` -/
structure RandState where
  ms : Nat := 0x1234
  ls : Nat := 0x8765
  deriving DecidableEq, Repr

def rand (r : RandState) : Nat × RandState :=
  let r : RandState :=
    { ms := (21717 * (r.ms % 2 ^ 16) + r.ms / 2 ^ 16) % 2 ^ 32
      ls := (30003 * (r.ls % 2 ^ 16) + r.ls / 2 ^ 16) % 2 ^ 32 }
  ((r.ms * 2 ^ 16 + r.ls) % 2 ^ 32, r)

def randBytes : Nat → RandState → List UInt8 × RandState
  | 0, r => ([], r)
  | n + 1, r =>
    let b := rand r
    let bs := randBytes n b.2
    (UInt8.ofNat (b.1 % 256) :: bs.1, bs.2)

@[simp] theorem length_randBytes (n : Nat) (r : RandState) : (randBytes n r).1.length = n := by
  induction n generalizing r with
  | zero => rfl
  | succ n ih => rw [randBytes, List.length_cons, ih]

/-- `efi_randomize_guid` -/
def randomizeGuid (r : RandState) : Guid × RandState :=
  (⟨(randBytes 16 r).1.toArray, by rw [List.size_toArray, length_randBytes]⟩, (randBytes 16 r).2)

/-! ### Records -/

/-- `efi_gpt_header_t` up to the reserved bytes, which are 0. -/
structure Header where
  signature : Nat
  revision : Nat
  headerSize : Nat
  headerCrc32 : BitVec 32
  reserved1 : Nat
  myLba : Nat
  alternateLba : Nat
  firstUsableLba : Nat
  lastUsableLba : Nat
  diskGuid : Guid
  partitionEntryLba : Nat
  numPartitionEntries : Nat
  sizeofPartitionEntry : Nat
  partitionEntryArrayCrc32 : BitVec 32
  deriving DecidableEq

/-- The sector of a header. -/
def Header.bytes (h : Header) : List UInt8 :=
  leBytes 8 h.signature ++ leBytes 4 h.revision ++ leBytes 4 h.headerSize ++ leBytes 4 h.headerCrc32.toNat ++
    leBytes 4 h.reserved1 ++ leBytes 8 h.myLba ++ leBytes 8 h.alternateLba ++ leBytes 8 h.firstUsableLba ++
    leBytes 8 h.lastUsableLba ++ h.diskGuid.toList ++ leBytes 8 h.partitionEntryLba ++ leBytes 4 h.numPartitionEntries ++
    leBytes 4 h.sizeofPartitionEntry ++ leBytes 4 h.partitionEntryArrayCrc32.toNat ++
    List.replicate (sectorSize - gptHeaderSize) 0

/-- `efi_gpt_entry_t` -/
structure Entry where
  partitionTypeGuid : Guid
  uniquePartitionGuid : Guid
  startingLba : Nat
  endingLba : Nat
  attributes : Nat
  partitionName : Vector Nat 36
  deriving DecidableEq

def Entry.bytes (e : Entry) : List UInt8 :=
  e.partitionTypeGuid.toList ++ e.uniquePartitionGuid.toList ++ leBytes 8 e.startingLba ++ leBytes 8 e.endingLba ++
    leBytes 8 e.attributes ++ e.partitionName.toList.flatMap (leBytes 2)

/-- `efi_partition_info_t` -/
structure PartitionInfo where
  start : Nat
  stop : Nat
  attributes : Nat
  name : Vector UInt8 36
  deriving DecidableEq

/-- The protective MBR with its first record. -/
structure Pmbr where
  signature : Nat
  sysInd : Nat
  sector : Nat
  endHead : Nat
  endSector : Nat
  endCyl : Nat
  startSect : Nat
  nrSects : Nat
  deriving DecidableEq, Repr

/-! ### Writing -/

/-- `efi_populate_pmbr` -/
def populatePmbr (totalDiskSize : Nat) : Pmbr :=
  let last := sub64 (sectorAddr totalDiskSize) 1
  { signature := 0xaa55, sysInd := 0xee, sector := 1, endHead := 0xfe, endSector := 0xff, endCyl := 0xff, startSect := 1
    nrSects := if last > 0xffffffff then 0xffffffff else last }

/-- `efi_populate_header` -/
def populateHeader (numEntries : Nat) (entriesCrc : BitVec 32) (totalDiskSize gptLba : Nat) (isAlternateGptTable : Bool)
    (diskGuid : Guid) : Header :=
  let totalDiskSectors := sectorAddr totalDiskSize
  let imagesStart := sectorSize + sectorSize + part2Sect numEntries
  let imagesEnd := sub64 (sub64 (sub64 totalDiskSize sectorSize) (part2Sect numEntries)) 1
  let gpteSectors := sectorAddr (part2Sect numEntries) % 2 ^ 32
  let lastLba := sub64 totalDiskSectors 1
  let gpt : Header :=
    { signature := 0x5452415020494645
      revision := 0x00010000
      headerSize := gptHeaderSize
      headerCrc32 := 0
      reserved1 := 0
      myLba := if isAlternateGptTable then lastLba else gptLba
      alternateLba := if isAlternateGptTable then gptLba else lastLba
      firstUsableLba := sectorAddr imagesStart
      lastUsableLba := sectorAddr imagesEnd
      diskGuid
      partitionEntryLba := if isAlternateGptTable then sub64 lastLba gpteSectors else (gptLba + 1) % 2 ^ 64
      numPartitionEntries := numEntries
      sizeofPartitionEntry := gptEntrySize
      partitionEntryArrayCrc32 := entriesCrc }
  { gpt with headerCrc32 := efiCrc32 (gpt.bytes.take gpt.headerSize) }

/-- The conversion of a `char`, which has a sign, to `uint16_t`. -/
def charToU16 (c : UInt8) : Nat := if c.toNat < 128 then c.toNat else c.toNat + 0xff00

/-- The name in 16-bit characters, up to its first null. -/
def partitionName (name : Vector UInt8 36) : Vector Nat 36 :=
  Vector.ofFn fun i => if (name.toList.take (i + 1)).all (· ≠ 0) then charToU16 name[i] else 0

/-- `efi_populate_entry` -/
def populateEntry (info : PartitionInfo) (r : RandState) : Entry × RandState :=
  let guid := randomizeGuid r
  ({ partitionTypeGuid := typeGuid
     uniquePartitionGuid := guid.1
     startingLba := sectorAddr info.start
     endingLba := sectorAddr info.stop
     attributes := info.attributes
     partitionName := partitionName info.name }, guid.2)

def populateEntries : List PartitionInfo → RandState → List Entry × RandState
  | [], r => ([], r)
  | info :: infos, r =>
    let e := populateEntry info r
    let es := populateEntries infos e.2
    (e.1 :: es.1, es.2)

/-- The memory of an array of entries. -/
def entriesBytes (entries : List Entry) : List UInt8 := entries.flatMap Entry.bytes

structure Tables where
  pmbr : Pmbr
  gpt : Header
  agpt : Header
  entries : List Entry

/-- `efi_populate_tables` -/
def populateTables (infos : List PartitionInfo) (totalDiskSize gptLba : Nat) (r : RandState) : Tables :=
  let entries := populateEntries infos r
  let crc := efiCrc32 ((entriesBytes entries.1).take (infos.length * gptEntrySize))
  let diskGuid := (randomizeGuid entries.2).1
  { pmbr := populatePmbr totalDiskSize
    gpt := populateHeader infos.length crc totalDiskSize gptLba false diskGuid
    agpt := populateHeader infos.length crc totalDiskSize gptLba true diskGuid
    entries := entries.1 }

/-! ### Checking -/

/-- `efi_is_pte_valid` -/
def isPteValid (pte : Entry) (lastlba : Nat) : Bool :=
  ¬ (pte.partitionTypeGuid = nullGuid ∨ pte.startingLba > lastlba ∨ pte.endingLba > lastlba ∨
    pte.startingLba > pte.endingLba)

/-- `efi_is_gpt_header_valid`, with the header as it leaves it. What it finds in the entries it only reports. -/
def isGptHeaderValid (gpt : Header) (lba : Nat) (gpte : List Entry) (totalDiskSize : Nat) : Bool × Header :=
  if gpt.signature ≠ 0x5452415020494645 then (false, gpt)
  else
    let origcrc := gpt.headerCrc32
    let gpt := { gpt with headerCrc32 := 0 }
    if efiCrc32 (gpt.bytes.take gpt.headerSize) ≠ origcrc then (false, gpt)
    else
      let gpt := { gpt with headerCrc32 := origcrc }
      let lastlba := sub64 (sectorAddr totalDiskSize) 1
      if gpt.myLba ≠ lba then (false, gpt)
      else if gpt.firstUsableLba > lastlba then (false, gpt)
      else if gpt.lastUsableLba > lastlba then (false, gpt)
      else if efiCrc32 ((entriesBytes gpte).take (gpt.numPartitionEntries * gpt.sizeofPartitionEntry % 2 ^ 32)) ≠
          gpt.partitionEntryArrayCrc32 then (false, gpt)
      else (true, gpt)

/-- `efi_compare_gpts`: the number of differences between two headers that are not null. -/
def compareGpts (pgpt agpt : Header) (lastlba : Nat) : Nat :=
  (if pgpt.myLba ≠ agpt.alternateLba then 1 else 0) +
  (if pgpt.alternateLba ≠ agpt.myLba then 1 else 0) +
  (if pgpt.firstUsableLba ≠ agpt.firstUsableLba then 1 else 0) +
  (if pgpt.lastUsableLba ≠ agpt.lastUsableLba then 1 else 0) +
  (if pgpt.diskGuid ≠ agpt.diskGuid then 1 else 0) +
  (if pgpt.numPartitionEntries ≠ agpt.numPartitionEntries then 1 else 0) +
  (if pgpt.sizeofPartitionEntry ≠ agpt.sizeofPartitionEntry then 1 else 0) +
  (if pgpt.partitionEntryArrayCrc32 ≠ agpt.partitionEntryArrayCrc32 then 1 else 0) +
  (if pgpt.alternateLba ≠ lastlba then 1 else 0) +
  (if agpt.myLba ≠ lastlba then 1 else 0)

end BcmPlatform.Gpt
