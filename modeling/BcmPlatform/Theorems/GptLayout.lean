import BcmPlatform.Gpt.Efi
import Mathlib.Order.CompletePartialOrder
import Mathlib.Order.Interval.Set.Disjoint

/-! Where the metadata of a GPT is on the disk: exactly when the headers keep it apart and out of the usable area; and the
    tables that makegpt writes, seen by its own checks: exactly when it accepts them. -/

namespace BcmPlatform.Gpt
open Lib

/-! ### Sizes -/

theorem sub64_eq {a b : Nat} (hb : b ≤ a) (ha : a < 2 ^ 64) : sub64 a b = a - b := by
  unfold sub64
  omega

theorem part2Sect_eq (n : Nat) : part2Sect n = 512 * ((n + 3) % 2 ^ 32 / 4) := by
  unfold part2Sect gptEntrySize
  omega

theorem sectorAddr_part2Sect (n : Nat) : sectorAddr (part2Sect n) = (n + 3) % 2 ^ 32 / 4 := by
  rw [part2Sect_eq, sectorAddr, sectorSize, Nat.mul_div_cancel_left _ (by decide)]

theorem sub64_last {totalDiskSize : Nat} (ht : totalDiskSize < 2 ^ 64) (hfit : 512 ≤ totalDiskSize) :
    sub64 (sectorAddr totalDiskSize) 1 = totalDiskSize / 512 - 1 := by
  rw [sub64_eq] <;> unfold sectorAddr sectorSize <;> omega

theorem imagesEnd_eq {totalDiskSize sectors : Nat} (ht : totalDiskSize < 2 ^ 64) (hfit : 513 + 512 * sectors ≤ totalDiskSize) :
    sub64 (sub64 (sub64 totalDiskSize 512) (512 * sectors)) 1 = totalDiskSize - 512 - 512 * sectors - 1 := by
  have h₁ : sub64 totalDiskSize 512 = totalDiskSize - 512 := sub64_eq (by omega) ht
  have h₂ : sub64 (totalDiskSize - 512) (512 * sectors) = totalDiskSize - 512 - 512 * sectors :=
    sub64_eq (by omega) (by omega)
  rw [h₁, h₂, sub64_eq (by omega) (by omega)]

section Header
variable {n totalDiskSize gptLba : Nat} {crc : BitVec 32} {alternate : Bool} {guid : Guid}

theorem populateHeader_firstUsableLba :
    (populateHeader n crc totalDiskSize gptLba alternate guid).firstUsableLba = 2 + (n + 3) % 2 ^ 32 / 4 := by
  simp only [populateHeader, part2Sect_eq, sectorAddr, sectorSize]
  omega

theorem populateHeader_lastUsableLba (ht : totalDiskSize < 2 ^ 64)
    (hfit : 513 + 512 * ((n + 3) % 2 ^ 32 / 4) ≤ totalDiskSize) :
    (populateHeader n crc totalDiskSize gptLba alternate guid).lastUsableLba =
      (totalDiskSize - 512 - 512 * ((n + 3) % 2 ^ 32 / 4) - 1) / 512 := by
  simp only [populateHeader, part2Sect_eq, sectorAddr, sectorSize]
  rw [imagesEnd_eq ht hfit]

theorem populateHeader_myLba : (populateHeader n crc totalDiskSize gptLba alternate guid).myLba =
    if alternate then sub64 (sectorAddr totalDiskSize) 1 else gptLba := by
  simp only [populateHeader]

theorem populateHeader_primary_entryLba :
    (populateHeader n crc totalDiskSize gptLba false guid).partitionEntryLba = (gptLba + 1) % 2 ^ 64 := by
  simp only [populateHeader, Bool.false_eq_true, if_false]

theorem populateHeader_alternate_entryLba (ht : totalDiskSize < 2 ^ 64)
    (hfit : 1 + (n + 3) % 2 ^ 32 / 4 ≤ totalDiskSize / 512) :
    (populateHeader n crc totalDiskSize gptLba true guid).partitionEntryLba =
      totalDiskSize / 512 - 1 - (n + 3) % 2 ^ 32 / 4 := by
  simp only [populateHeader, if_true]
  rw [sub64_last ht (by omega), sectorAddr_part2Sect, Nat.mod_eq_of_lt (by omega), sub64_eq (by omega) (by omega)]

end Header

/-! ### The layout -/

/-- The sectors of the protective MBR, the primary header and entries, and the alternate entries and header. -/
def metadata (n : Nat) (gpt agpt : Header) : List (Set Nat) :=
  [Set.Ico 0 1,
   Set.Ico gpt.myLba (gpt.myLba + 1),
   Set.Ico gpt.partitionEntryLba (gpt.partitionEntryLba + (n + 3) / 4),
   Set.Ico agpt.partitionEntryLba (agpt.partitionEntryLba + (n + 3) / 4),
   Set.Ico agpt.myLba (agpt.myLba + 1)]

/-- The usable area. -/
def Header.usable (h : Header) : Set Nat := Set.Ico h.firstUsableLba (h.lastUsableLba + 1)

/-- The metadata is on the disk, its parts are apart, and no part is in the usable area, which goes up to the alternate
    entries. -/
structure MetadataOutside (n totalDiskSize gptLba : Nat) (gpt agpt : Header) : Prop where
  primary : gpt.myLba = gptLba
  onDisk : ∀ r ∈ metadata n gpt agpt, ∀ lba ∈ r, lba < totalDiskSize / 512
  disjoint : (metadata n gpt agpt).Pairwise Disjoint
  outside : ∀ r ∈ metadata n gpt agpt, ∀ h ∈ [gpt, agpt], Disjoint r h.usable
  ordered : ∀ h ∈ [gpt, agpt], h.firstUsableLba ≤ h.lastUsableLba + 1
  last : ∀ h ∈ [gpt, agpt], h.lastUsableLba + 1 = agpt.partitionEntryLba

/-- The headers keep the metadata out of the usable area exactly if the table starts in the first sector of the disk, the
    disk has no partial sector at its end, and the number of entries can be rounded up in 32 bits. -/
theorem populateHeader_outside_iff (n : Nat) (crc : BitVec 32) (totalDiskSize baseAddress : Nat) (guid : Guid)
    (hn : n < 2 ^ 32) (hbase : baseAddress < 2 ^ 64) (ht : totalDiskSize < 2 ^ 64)
    (hfit : sectorAddr baseAddress + 1 + 1 + (n + 3) / 4 + (n + 3) / 4 + 1 ≤ sectorAddr totalDiskSize) :
    MetadataOutside n totalDiskSize (sectorAddr baseAddress + 1)
        (populateHeader n crc totalDiskSize (sectorAddr baseAddress + 1) false guid)
        (populateHeader n crc totalDiskSize (sectorAddr baseAddress + 1) true guid) ↔
      baseAddress < 512 ∧ 512 ∣ totalDiskSize ∧ n + 3 < 2 ^ 32 := by
  have hc : (n + 3) % 2 ^ 32 / 4 ≤ (n + 3) / 4 := Nat.div_le_div_right (Nat.mod_le _ _)
  simp only [sectorAddr, sectorSize] at hfit
  have hbytes : 513 + 512 * ((n + 3) % 2 ^ 32 / 4) ≤ totalDiskSize := by omega
  set gpt := populateHeader n crc totalDiskSize (sectorAddr baseAddress + 1) false guid with hgpt
  set agpt := populateHeader n crc totalDiskSize (sectorAddr baseAddress + 1) true guid with hagpt
  -- the fields that say where the parts are
  have hmy : gpt.myLba = baseAddress / 512 + 1 := by
    rw [hgpt, populateHeader_myLba, if_neg Bool.false_ne_true, sectorAddr, sectorSize]
  have hentry : gpt.partitionEntryLba = baseAddress / 512 + 2 := by
    rw [hgpt, populateHeader_primary_entryLba, sectorAddr, sectorSize]
    omega
  have hamy : agpt.myLba = totalDiskSize / 512 - 1 := by
    rw [hagpt, populateHeader_myLba, if_pos rfl, sub64_last ht (by omega)]
  have haentry : agpt.partitionEntryLba = totalDiskSize / 512 - 1 - (n + 3) % 2 ^ 32 / 4 := by
    rw [hagpt, populateHeader_alternate_entryLba ht (by omega)]
  have hfirst : gpt.firstUsableLba = 2 + (n + 3) % 2 ^ 32 / 4 := by rw [hgpt, populateHeader_firstUsableLba]
  have hafirst : agpt.firstUsableLba = gpt.firstUsableLba := by
    rw [hfirst, hagpt, populateHeader_firstUsableLba]
  have hlast : gpt.lastUsableLba = (totalDiskSize - 512 - 512 * ((n + 3) % 2 ^ 32 / 4) - 1) / 512 := by
    rw [hgpt, populateHeader_lastUsableLba ht hbytes]
  have halast : agpt.lastUsableLba = gpt.lastUsableLba := by
    rw [hlast, hagpt, populateHeader_lastUsableLba ht hbytes]
  clear_value gpt agpt
  constructor
  · intro h
    have hgap := h.last gpt List.mem_cons_self
    have hheader := h.outside (Set.Ico gpt.myLba (gpt.myLba + 1)) (by simp [metadata]) gpt List.mem_cons_self
    have harray := h.outside (Set.Ico gpt.partitionEntryLba (gpt.partitionEntryLba + (n + 3) / 4)) (by simp [metadata]) gpt
      List.mem_cons_self
    rw [Header.usable, Set.Ico_disjoint_Ico] at hheader harray
    refine ⟨?_, ?_, ?_⟩ <;> omega
  · rintro ⟨hb, ⟨sectors, rfl⟩, hn3⟩
    rw [Nat.mod_eq_of_lt hn3] at hfirst hlast haentry
    have husable : ∀ h ∈ [gpt, agpt], h.usable = Set.Ico (2 + (n + 3) / 4) (sectors - 1 - (n + 3) / 4) := by
      intro h hh
      have hlast' : gpt.lastUsableLba + 1 = sectors - 1 - (n + 3) / 4 := by omega
      rcases List.mem_pair.mp hh with rfl | rfl
      · rw [Header.usable, hfirst, hlast']
      · rw [Header.usable, hafirst, halast, hfirst, hlast']
    have hranges : metadata n gpt agpt =
        [Set.Ico 0 1, Set.Ico 1 2, Set.Ico 2 (2 + (n + 3) / 4), Set.Ico (sectors - 1 - (n + 3) / 4) (sectors - 1),
          Set.Ico (sectors - 1) sectors] := by
      have h₁ : baseAddress / 512 = 0 := by omega
      have h₂ : sectors - 1 - (n + 3) / 4 + (n + 3) / 4 = sectors - 1 := by omega
      have h₃ : sectors - 1 + 1 = sectors := by omega
      rw [metadata, hmy, hentry, hamy, haentry, h₁, Nat.mul_div_cancel_left _ (by decide : 0 < 512), h₂, h₃]
    refine ⟨hmy, ?_, ?_, ?_, ?_, ?_⟩
    · rw [hranges]
      simp only [List.forall_mem_cons, Set.mem_Ico]
      refine ⟨fun _ _ => ?_, fun _ _ => ?_, fun _ _ => ?_, fun _ _ => ?_, fun _ _ => ?_, List.forall_mem_nil _⟩ <;> omega
    · rw [hranges]
      simp only [List.pairwise_cons, List.forall_mem_cons, Set.Ico_disjoint_Ico, List.not_mem_nil, IsEmpty.forall_iff,
        implies_true, and_true, List.Pairwise.nil]
      omega
    · intro r hr h hh
      rw [husable h hh]
      rw [hranges] at hr
      have hall : ∀ r ∈ [Set.Ico 0 1, Set.Ico 1 2, Set.Ico 2 (2 + (n + 3) / 4),
          Set.Ico (sectors - 1 - (n + 3) / 4) (sectors - 1), Set.Ico (sectors - 1) sectors],
          Disjoint r (Set.Ico (2 + (n + 3) / 4) (sectors - 1 - (n + 3) / 4)) := by
        simp only [List.forall_mem_cons, Set.Ico_disjoint_Ico, List.not_mem_nil, IsEmpty.forall_iff, implies_true, and_true]
        omega
      exact hall r hr
    · simp only [List.forall_mem_cons, List.not_mem_nil, IsEmpty.forall_iff, implies_true, and_true]
      omega
    · simp only [List.forall_mem_cons, List.not_mem_nil, IsEmpty.forall_iff, implies_true, and_true]
      omega

theorem populateHeader_outside_iff_four :
    MetadataOutside 4 0x1e0000000 (sectorAddr 0 + 1) (populateHeader 4 0 0x1e0000000 (sectorAddr 0 + 1) false nullGuid)
        (populateHeader 4 0 0x1e0000000 (sectorAddr 0 + 1) true nullGuid) ↔
      0 < 512 ∧ 512 ∣ 0x1e0000000 ∧ 4 + 3 < 2 ^ 32 :=
  populateHeader_outside_iff 4 0 0x1e0000000 0 nullGuid (by decide) (by decide) (by decide) (by decide)

/-- With the base address of the tool's own example the table is in the usable area. -/
theorem populateHeader_inside :
    ¬ MetadataOutside 4 0x1e0000000 (sectorAddr 0x60000 + 1)
        (populateHeader 4 0 0x1e0000000 (sectorAddr 0x60000 + 1) false nullGuid)
        (populateHeader 4 0 0x1e0000000 (sectorAddr 0x60000 + 1) true nullGuid) := by
  intro h
  have hheader := h.outside (Set.Ico _ _) (List.mem_cons_of_mem _ List.mem_cons_self) _ List.mem_cons_self
  rw [Header.usable, Set.Ico_disjoint_Ico, populateHeader_firstUsableLba,
    populateHeader_lastUsableLba (by decide) (by decide), populateHeader_myLba] at hheader
  exact absurd hheader (by decide)

end BcmPlatform.Gpt

/-! ### The tables and the checks -/

namespace BcmPlatform.Gpt
open Lib

/-! ### Entries -/

theorem crc32Tab_table : CrcTable crc32Tab where
  length := by decide +kernel
  high := .of_map BitVec.toNat (nodup_of_bitSet (by decide +kernel))

theorem length_entry_bytes (e : Entry) : e.bytes.length = gptEntrySize := by
  have hname : ∀ l : List Nat, (l.flatMap (leBytes 2)).length = 2 * l.length := by
    intro l
    induction l with
    | nil => rfl
    | cons c l ih =>
      rw [List.flatMap_cons, List.length_append, ih, length_leBytes, List.length_cons]
      omega
  simp [Entry.bytes, hname, gptEntrySize]

theorem length_entriesBytes (entries : List Entry) : (entriesBytes entries).length = entries.length * gptEntrySize := by
  induction entries with
  | nil => rfl
  | cons e entries ih =>
    rw [entriesBytes, List.flatMap_cons, List.length_append, length_entry_bytes, List.length_cons, Nat.succ_mul, Nat.add_comm]
    exact congrArg (· + gptEntrySize) ih

@[simp] theorem length_populateEntries (infos : List PartitionInfo) (r : RandState) :
    (populateEntries infos r).1.length = infos.length := by
  induction infos generalizing r with
  | nil => rfl
  | cons info infos ih => rw [populateEntries, List.length_cons, List.length_cons, ih]

theorem populateEntries_append (infos infos' : List PartitionInfo) (r : RandState) :
    populateEntries (infos ++ infos') r =
      ((populateEntries infos r).1 ++ (populateEntries infos' (populateEntries infos r).2).1,
        (populateEntries infos' (populateEntries infos r).2).2) := by
  induction infos generalizing r with
  | nil => rfl
  | cons info infos ih => rw [List.cons_append, populateEntries, ih, populateEntries, List.cons_append]

theorem isPteValid_populateEntry {info : PartitionInfo} {r : RandState} {lastlba : Nat} (hle : info.start ≤ info.stop)
    (hdisk : sectorAddr info.stop ≤ lastlba) : isPteValid (populateEntry info r).1 lastlba = true := by
  have hlba : sectorAddr info.start ≤ sectorAddr info.stop := Nat.div_le_div_right hle
  have hguid : typeGuid ≠ nullGuid := by decide
  simp only [isPteValid, populateEntry, hguid, false_or, decide_eq_true_eq]
  omega

theorem isPteValid_populateEntries {lastlba : Nat} : ∀ (infos : List PartitionInfo) (r : RandState),
    ∀ p ∈ infos.zip (populateEntries infos r).1, p.1.start ≤ p.1.stop → sectorAddr p.1.stop ≤ lastlba →
      isPteValid p.2 lastlba = true
  | [], _, p, hp => by simp at hp
  | info :: infos, r, p, hp => by
    rw [populateEntries, List.zip_cons_cons, List.mem_cons] at hp
    rcases hp with rfl | hp
    · exact isPteValid_populateEntry
    · exact isPteValid_populateEntries infos _ p hp

/-! ### Headers -/

/-- What the check of a header asks for. -/
structure HeaderChecks (gpt : Header) (lba : Nat) (gpte : List Entry) (lastlba : Nat) : Prop where
  signature : gpt.signature = 0x5452415020494645
  crc : efiCrc32 (({ gpt with headerCrc32 := 0 } : Header).bytes.take gpt.headerSize) = gpt.headerCrc32
  myLba : gpt.myLba = lba
  firstUsableLba : gpt.firstUsableLba ≤ lastlba
  lastUsableLba : gpt.lastUsableLba ≤ lastlba
  entries : efiCrc32 ((entriesBytes gpte).take (gpt.numPartitionEntries * gpt.sizeofPartitionEntry % 2 ^ 32)) =
    gpt.partitionEntryArrayCrc32

theorem isGptHeaderValid_iff {gpt : Header} {lba totalDiskSize : Nat} {gpte : List Entry} :
    isGptHeaderValid gpt lba gpte totalDiskSize = (true, gpt) ↔
      HeaderChecks gpt lba gpte (sub64 (sectorAddr totalDiskSize) 1) := by
  constructor
  · intro h
    simp only [isGptHeaderValid] at h
    split_ifs at h with hsignature hcrc hmy hfirst hlast hentries
    -- the exits in front of the last one return false
    iterate 6 exact absurd (Prod.mk.inj h).1 Bool.false_ne_true
    · exact ⟨not_not.mp hsignature, not_not.mp hcrc, not_not.mp hmy, not_lt.mp hfirst, not_lt.mp hlast, not_not.mp hentries⟩
  · rintro ⟨hsignature, hcrc, hmy, hfirst, hlast, hentries⟩
    unfold isGptHeaderValid
    rw [if_neg (not_not.mpr hsignature)]
    simp only
    rw [if_neg (not_not.mpr hcrc), if_neg (not_not.mpr hmy), if_neg (not_lt.mpr hfirst), if_neg (not_lt.mpr hlast),
      if_neg (not_not.mpr hentries)]

section Header
variable {n totalDiskSize gptLba lba : Nat} {crc : BitVec 32} {alternate : Bool} {guid : Guid} {gpte : List Entry}

theorem isGptHeaderValid_populateHeader (ht : totalDiskSize < 2 ^ 64) (hsize : (n + 3) / 4 + 3 ≤ totalDiskSize / 512)
    (hmy : (populateHeader n crc totalDiskSize gptLba alternate guid).myLba = lba) :
    isGptHeaderValid (populateHeader n crc totalDiskSize gptLba alternate guid) lba gpte totalDiskSize =
        (true, populateHeader n crc totalDiskSize gptLba alternate guid) ↔
      efiCrc32 ((entriesBytes gpte).take (n * gptEntrySize % 2 ^ 32)) = crc := by
  have hc : (n + 3) % 2 ^ 32 / 4 ≤ (n + 3) / 4 := Nat.div_le_div_right (Nat.mod_le _ _)
  rw [isGptHeaderValid_iff, sub64_last ht (by omega)]
  constructor
  · intro h
    have hentries := h.entries
    simpa only [populateHeader] using hentries
  · intro hentries
    refine ⟨by simp only [populateHeader], by simp only [populateHeader], hmy, ?_, ?_, by simpa only [populateHeader]⟩
    · rw [populateHeader_firstUsableLba]
      omega
    · rw [populateHeader_lastUsableLba ht (by omega)]
      omega

theorem compareGpts_populateHeader :
    compareGpts (populateHeader n crc totalDiskSize gptLba false guid) (populateHeader n crc totalDiskSize gptLba true guid)
      (sub64 (sectorAddr totalDiskSize) 1) = 0 := by
  simp only [compareGpts, populateHeader, Bool.false_eq_true, if_false, if_true, ne_eq, not_true_eq_false, Nat.add_zero]

end Header

/-! ### Tables -/

/-- The tool accepts its own tables: both headers where they are to be, unchanged, their agreement, and each entry whose
    images are on the disk. -/
structure TablesValid (infos : List PartitionInfo) (totalDiskSize gptLba : Nat) (t : Tables) : Prop where
  primary : isGptHeaderValid t.gpt gptLba t.entries totalDiskSize = (true, t.gpt)
  alternate : isGptHeaderValid t.agpt (totalDiskSize / 512 - 1) t.entries totalDiskSize = (true, t.agpt)
  compare : compareGpts t.gpt t.agpt (totalDiskSize / 512 - 1) = 0
  count : t.entries.length = infos.length
  entries : ∀ p ∈ infos.zip t.entries, p.1.start ≤ p.1.stop → sectorAddr p.1.stop ≤ totalDiskSize / 512 - 1 →
    isPteValid p.2 (totalDiskSize / 512 - 1) = true

section Tables
variable {infos : List PartitionInfo} {totalDiskSize gptLba : Nat} {r : RandState}

theorem populateTables_crc :
    efiCrc32 ((entriesBytes (populateEntries infos r).1).take (infos.length * gptEntrySize)) =
      efiCrc32 (entriesBytes (populateEntries infos r).1) := by
  rw [List.take_of_length_le]
  rw [length_entriesBytes, length_populateEntries]

/-- The CRC of the bytes that are checked is that of all bytes. -/
def CrcKept (infos : List PartitionInfo) (r : RandState) : Prop :=
  efiCrc32 ((entriesBytes (populateEntries infos r).1).take (infos.length * gptEntrySize % 2 ^ 32)) =
    efiCrc32 (entriesBytes (populateEntries infos r).1)

theorem isGptHeaderValid_populateTables (ht : totalDiskSize < 2 ^ 64)
    (hsize : (infos.length + 3) / 4 + 3 ≤ totalDiskSize / 512) :
    (isGptHeaderValid (populateTables infos totalDiskSize gptLba r).gpt gptLba
        (populateTables infos totalDiskSize gptLba r).entries totalDiskSize =
      (true, (populateTables infos totalDiskSize gptLba r).gpt) ↔ CrcKept infos r) ∧
    (isGptHeaderValid (populateTables infos totalDiskSize gptLba r).agpt (totalDiskSize / 512 - 1)
        (populateTables infos totalDiskSize gptLba r).entries totalDiskSize =
      (true, (populateTables infos totalDiskSize gptLba r).agpt) ↔ CrcKept infos r) := by
  have hlast : sub64 (sectorAddr totalDiskSize) 1 = totalDiskSize / 512 - 1 := sub64_last ht (by omega)
  simp only [populateTables, populateTables_crc]
  constructor
  · exact isGptHeaderValid_populateHeader ht hsize (populateHeader_myLba.trans (if_neg Bool.false_ne_true))
  · exact isGptHeaderValid_populateHeader ht hsize (populateHeader_myLba.trans ((if_pos rfl).trans hlast))

theorem populateTables_valid_of_crcKept (ht : totalDiskSize < 2 ^ 64)
    (hsize : (infos.length + 3) / 4 + 3 ≤ totalDiskSize / 512) (hcrc : CrcKept infos r) :
    TablesValid infos totalDiskSize gptLba (populateTables infos totalDiskSize gptLba r) where
  primary := (isGptHeaderValid_populateTables ht hsize).1.mpr hcrc
  alternate := (isGptHeaderValid_populateTables ht hsize).2.mpr hcrc
  compare := by
    rw [← sub64_last ht (by omega)]
    simp only [populateTables]
    exact compareGpts_populateHeader
  count := by simp only [populateTables, length_populateEntries]
  entries := by
    simp only [populateTables]
    exact isPteValid_populateEntries infos r

end Tables

/-- An empty partition whose name has one character. -/
def namedInfo (c : UInt8) : PartitionInfo where
  start := 0
  stop := 0
  attributes := 0
  name := Vector.ofFn fun i => if i = 0 then c else 0

/-- As many partitions as make the size of the entries `2 ^ 32`, the last one with another name. -/
def manyInfos (c : UInt8) : List PartitionInfo := List.replicate (2 ^ 25 - 1) (namedInfo 97) ++ [namedInfo c]

theorem length_manyInfos (c : UInt8) : (manyInfos c).length = 2 ^ 25 := by
  rw [manyInfos, List.length_append, List.length_replicate, List.length_singleton]
  decide

theorem entriesBytes_manyInfos : ∃ front back : List UInt8, ∀ c ∈ [97, 98],
    entriesBytes (populateEntries (manyInfos c) {}).1 = front ++ c :: back := by
  obtain ⟨others, r, hothers⟩ : ∃ others r, populateEntries (List.replicate (2 ^ 25 - 1) (namedInfo 97)) {} = (others, r) :=
    ⟨_, _, rfl⟩
  refine ⟨entriesBytes others ++ (typeGuid.toList ++ (randomizeGuid r).1.toList ++ leBytes 8 (sectorAddr 0) ++
    leBytes 8 (sectorAddr 0) ++ leBytes 8 0),
    List.replicate 71 0, fun c hc => ?_⟩
  have hname : (partitionName (namedInfo c).name).toList.flatMap (leBytes 2) = c :: List.replicate 71 0 := by
    rcases List.mem_pair.mp hc with rfl | rfl <;> decide +kernel
  rw [manyInfos, populateEntries_append, hothers, entriesBytes, List.flatMap_append]
  simp only [populateEntries, List.flatMap_singleton, Entry.bytes, populateEntry, hname, List.append_assoc]
  rfl

end BcmPlatform.Gpt
