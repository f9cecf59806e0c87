import BcmPlatform.Theorems.Reassembly

/-! Sections in transport stream packets. A section is collected from its packets, whatever comes between them; one that is damaged
    is dropped; what is written into a program association table or a program map is what the parser learns from it. -/

namespace BcmPlatform.Ts
open Lib

variable {σ φ : Type}

/-! ### Sections with a CRC -/

theorem crcTable_table : CrcTableMsb crcTable where
  length := by decide +kernel
  low := .of_map BitVec.toNat (nodup_of_bitSet (by decide +kernel))
  zero := rfl

/-- The bytes of a section: its header says how many there are. -/
structure Framed (d : List UInt8) : Prop where
  header : 3 ≤ d.length
  length : ((byte d 1 * 256 + byte d 2) &&& 0xfff) + 3 = d.length

section Framed
variable {d stuffing : List UInt8} {s : PSISection}

theorem byte_append {l : List UInt8} (l' : List UInt8) {i : Nat} (hi : i < l.length) : byte (l ++ l') i = byte l i := by
  unfold byte
  rw [List.getD_append _ _ _ _ hi]

theorem Framed.sectionLength (hd : Framed d) (hdata : s.data = d ++ stuffing) : s.sectionLength + 3 = d.length := by
  have hheader := hd.header
  rw [PSISection.sectionLength, hdata, byte_append _ (by omega), byte_append _ (by omega), hd.length]

theorem Framed.complete (hd : Framed d) (hdata : s.data = d ++ stuffing) : s.isComplete = true := by
  have hheader := hd.header
  have hlength := hd.sectionLength hdata
  have hsize : s.size = d.length + stuffing.length := by rw [PSISection.size, hdata, List.length_append]
  unfold PSISection.isComplete
  exact decide_eq_true ⟨by omega, by omega⟩

theorem Framed.incomplete (hd : Framed d) (hpre : s.data <+: d) (hlt : s.data.length < d.length) : s.isComplete = false := by
  obtain ⟨more, hmore⟩ := hpre
  refine decide_eq_false ?_
  rintro ⟨hheader, hsize⟩
  have hlength : s.sectionLength + 3 = d.length := by
    rw [PSISection.sectionLength, ← byte_append more (show 1 < s.data.length from Nat.lt_of_lt_of_le (by decide) hheader),
      ← byte_append more (show 2 < s.data.length from Nat.lt_of_lt_of_le (by decide) hheader), hmore, hd.length]
  rw [hlength] at hsize
  exact Nat.lt_irrefl _ (Nat.lt_of_lt_of_le hlt hsize)

theorem Framed.isCRCOkay (hd : Framed d) (hdata : s.data = d ++ stuffing) (hform : byte d 1 &&& 0x80 ≠ 0) {p : Nat}
    (hp : p ≤ d.length) (hskip : s.mSkipBytes = p + 1) :
    s.isCRCOkay = some (decide (crcUpdateMsb crcTable 0xffffffff#32 (d.take (d.length - p)) = 0#32)) := by
  have hheader := hd.header
  have hlength := hd.sectionLength hdata
  have hlt : s.sectionLength < 2 ^ 12 := Nat.lt_of_le_of_lt Nat.and_le_right (by decide)
  have hcrc : s.crcLength = d.length - p := by
    rw [PSISection.crcLength, hskip, Program.subWrap]
    omega
  have hsize : ¬ s.size < s.crcLength := by
    rw [hcrc, PSISection.size, hdata, List.length_append]
    omega
  have hform' : ¬ byte s.data 1 &&& 0x80 = 0 := by rwa [hdata, byte_append _ (by omega)]
  unfold PSISection.isCRCOkay
  rw [hd.complete hdata, if_neg (by decide), if_neg hform', if_neg hsize, hcrc, hdata,
    List.take_append_of_le_length (Nat.sub_le _ _)]

end Framed

/-- A section of the long form: the 64 bits of its header, and what is between the header and the CRC. -/
structure TableSection where
  header : Nat
  content : List UInt8
  deriving DecidableEq, Repr

namespace TableSection
variable (w : TableSection)

/-- What the CRC is of. -/
def text : List UInt8 := beBytes 8 w.header ++ w.content

def crc : Nat := (crcUpdateMsb crcTable 0xffffffff#32 w.text).toNat

def bytes : List UInt8 := w.text ++ beBytes 4 w.crc

/-- The header says that the section has the long form, and how much there is behind its length. -/
structure Sound (w : TableSection) : Prop where
  form : bitField 55 55 w.header = 1
  length : bitField 51 40 w.header = 9 + w.content.length

theorem length_bytes : w.bytes.length = 12 + w.content.length := by
  rw [bytes, text, List.length_append, List.length_append, length_beBytes, length_beBytes]
  omega

theorem crc_take {p : Nat} (hp : p ≤ 4) : crcUpdateMsb crcTable 0xffffffff#32 (w.bytes.take (w.bytes.length - p)) =
    crcUpdateMsb crcTable 0xffffffff#32 w.text <<< (8 * (4 - p)) := by
  have hlength : w.bytes.length - p = w.text.length + (4 - p) := by
    rw [bytes, List.length_append, length_beBytes]
    omega
  rw [hlength, bytes, List.take_length_add_append, crcUpdateMsb, List.foldl_append]
  exact crcUpdateMsb_take crcTable_table _ (Nat.sub_le 4 p)

theorem crc_bytes : crcUpdateMsb crcTable 0xffffffff#32 w.bytes = 0#32 := by
  have htake := w.crc_take (Nat.zero_le 4)
  rwa [Nat.sub_zero, List.take_length, BitVec.shiftLeft_eq_zero (Nat.le_refl 32)] at htake

end TableSection

section Crc
variable {w : TableSection} {s : PSISection} {stuffing : List UInt8}

theorem bytes_eq (w : TableSection) : ∃ b₀ b₁ b₂ l, w.bytes = b₀ :: b₁ :: b₂ :: l ∧
    b₁.toNat = w.header / 2 ^ 48 % 2 ^ 8 ∧ b₂.toNat = w.header / 2 ^ 40 % 2 ^ 8 := by
  refine ⟨_, _, _, _, rfl, ?_, ?_⟩ <;> rw [UInt8.toNat_ofNat'] <;> omega

theorem TableSection.Sound.framed (hw : w.Sound) : Framed w.bytes where
  header := by
    rw [w.length_bytes]
    omega
  length := by
    obtain ⟨b₀, b₁, b₂, l, hbytes, h₁, h₂⟩ := bytes_eq w
    have hlength : w.header / 2 ^ 40 % 2 ^ 12 = 9 + w.content.length := hw.length
    have hmask : ∀ v, v &&& 0xfff = v % 2 ^ 12 := fun v => Nat.and_two_pow_sub_one_eq_mod v 12
    rw [w.length_bytes, hbytes, hmask]
    change (b₁.toNat * 256 + b₂.toNat) % 2 ^ 12 + 3 = _
    rw [h₁, h₂]
    omega

theorem TableSection.Sound.form_and (hw : w.Sound) : byte w.bytes 1 &&& 0x80 ≠ 0 := by
  obtain ⟨b₀, b₁, b₂, l, hbytes, h₁, -⟩ := bytes_eq w
  have hform : w.header / 2 ^ 55 % 2 ^ 1 = 1 := hw.form
  rw [hbytes]
  change b₁.toNat &&& 2 ^ 7 ≠ 0
  rw [Nat.and_two_pow, h₁, Nat.testBit_eq_decide_div_mod_eq, decide_eq_true (by omega)]
  decide

theorem isCRCOkay_section (hw : w.Sound) (hdata : s.data = w.bytes ++ stuffing) {p : Nat} (hp : p ≤ 4)
    (hskip : s.mSkipBytes = p + 1) : s.isCRCOkay = some (decide (w.crc % 256 ^ p = 0)) := by
  have hshift : ∀ c : BitVec 32, c <<< (8 * (4 - p)) = 0#32 ↔ c.toNat % 256 ^ p = 0 := by
    intro c
    rw [← BitVec.toNat_inj, BitVec.toNat_shiftLeft, Nat.shiftLeft_eq, BitVec.toNat_zero]
    interval_cases p <;> omega
  have hlength : p ≤ w.bytes.length := Nat.le_trans hp (by rw [w.length_bytes]; omega)
  rw [hw.framed.isCRCOkay hdata hw.form_and hlength hskip, w.crc_take hp]
  exact congrArg some (decide_eq_decide.mpr (hshift _))

end Crc

/-! ### Collecting -/

namespace PSISection
variable (s : PSISection) (l : List UInt8)

@[simp] theorem data_clear : s.clear.data = [] := by
  unfold clear data
  cases s.mBuffer <;> rfl

theorem isEmpty_clear : s.clear.isEmpty = true := by
  unfold isEmpty size
  rw [data_clear]
  rfl

@[simp] theorem data_append : (s.append l).data = s.data ++ l := by
  have hdata : s.data = (s.mBuffer.getD noBuffer).data := by
    unfold data
    cases s.mBuffer <;> rfl
  rw [hdata]
  exact ABuffer.data_append _ _ _ _

end PSISection

/-- The payload of a packet with a part of a section; the first part is behind a pointer to it. -/
def sectionPayload (filler : Option (List UInt8)) (part : List UInt8) : List UInt8 :=
  filler.elim part fun filler => UInt8.ofNat filler.length :: (filler ++ part)

/-- A section has got a part. -/
structure Takes (psi : PSISection) (filler : Option (List UInt8)) (part : List UInt8) (psi' : PSISection) : Prop where
  data : psi'.data = filler.elim psi.data (fun _ => []) ++ part
  skip : psi'.mSkipBytes = filler.elim psi.mSkipBytes fun filler => (filler.length + 1) % 256

section Collecting
open ATSParser HeaderReader
variable {fw : TsFramework σ φ} {rest : σ → List Bool} {parser : ATSParser φ} {psi : PSISection} {packet : TsPacket} {pid : Nat}
  {br : ABitReader σ} {event : Option SyncEvent} {filler : Option (List UInt8)} {part : List UInt8}

/-- What is done with a section that has got a part. -/
def takenSection (fw : TsFramework σ φ) (p : ATSParser φ) (pid : Nat) (psi : PSISection) : Option (Status × ATSParser φ) :=
  if !psi.isComplete then some (.ok, p.setSection pid psi)
  else psi.isCRCOkay.bind fun okay =>
    if !okay then some (.badValue, p.setSection pid psi) else parseSection fw (p.setSection pid psi) pid psi

theorem startSection_takes (psi : PSISection) (h : fw.reader.Laws rest) {filler : List UInt8} (hfiller : filler.length < 256)
    (hbr : Left fw.reader rest br (sectionPayload (some filler) part)) :
    ∃ psi' br', startSection fw psi br = some (psi', br') ∧ psi'.data = [] ∧ psi'.mSkipBytes = (filler.length + 1) % 256 ∧
      Left fw.reader rest br' part := by
  have hbits : rest br.state = toBits 8 filler.length ++ (bitsOf filler ++ bitsOf part) := by
    rw [hbr.bits, sectionPayload, Option.elim_some, bitsOf_cons, bitsOf_append, UInt8.toNat_ofNat', Nat.mod_eq_of_lt hfiller]
  obtain ⟨s₁, h₁, hs₁⟩ := gives_field (k := 8) h (by decide) hfiller hbits
  have hlength : (bitsOf filler).length = filler.length * 8 := by rw [length_bitsOf, Nat.mul_comm]
  obtain ⟨s₂, h₂, hs₂⟩ := gives_skip (k := filler.length * 8) h
    (show _ ≤ (rest s₁).length by rw [hs₁, List.length_append, hlength]; exact Nat.le_add_right _ _)
  rw [hs₁, List.drop_left' hlength] at hs₂
  unfold startSection
  dsimp only
  rw [ABitReader.read_gives (h₁.bind (h₂.bind (gives_pure filler.length)))]
  refine ⟨_, _, rfl, ?_, rfl, hs₂, ((List.suffix_append filler part).trans (List.suffix_cons _ _)).trans hbr.suffix⟩
  change (if psi.isEmpty then psi else psi.clear).data = []
  split
  · next hempty => exact List.length_eq_zero_iff.mp (of_decide_eq_true hempty)
  · exact psi.data_clear

theorem collectSection_takes (parser : ATSParser φ) (pid : Nat) (psi : PSISection) (h : fw.reader.Laws rest)
    (hfiller : ∀ l ∈ filler, l.length < 256) (hbr : Left fw.reader rest br (sectionPayload filler part)) :
    ∃ psi', Takes psi filler part psi' ∧ collectSection fw parser pid psi filler.isSome br = takenSection fw parser pid psi' := by
  have hpart : ∀ (psi' : PSISection) {br' : ABitReader σ}, Left fw.reader rest br' part →
      (if br'.numBitsLeft fw.reader % 8 ≠ 0 then some (Status.malformed, parser.setSection pid psi')
        else takenSection fw parser pid (psi'.append ((br'.data fw.reader).take (br'.numBitsLeft fw.reader / 8)))) =
        takenSection fw parser pid (psi'.append part) := by
    intro psi' br' hbr'
    rw [hbr'.numBitsLeft h, hbr'.data h, if_neg (not_not_intro (Nat.mul_mod_right 8 _)), Nat.mul_div_cancel_left _ (by decide),
      List.take_length]
  cases filler with
  | none =>
    exact ⟨psi.append part, ⟨psi.data_append part, rfl⟩, hpart psi hbr⟩
  | some filler =>
    obtain ⟨psi', br', hstart, hdata, hskip, hbr'⟩ := startSection_takes psi h (hfiller filler rfl) hbr
    refine ⟨psi'.append part, ⟨by rw [PSISection.data_append, hdata]; rfl, hskip⟩, ?_⟩
    unfold collectSection
    rw [Option.isSome_some, if_pos rfl, hstart]
    exact hpart psi' hbr'

/-- A packet that brings something for a PID. -/
def brings (pid : Nat) (packet : TsPacket) : Bool := packet.tsHeader.pid = pid ∧ !packet.transportError ∧ packet.payload ≠ []

theorem feed_section (event : Option SyncEvent) (h : fw.reader.Laws rest) (hp : packet.Sound)
    (hpsi : parser.mPSISections.get? pid = some psi)
    (hbrings : brings pid packet = true) (hfiller : ∀ l ∈ filler, l.length < 256)
    (hpayload : packet.payload = sectionPayload filler part) (hstart : packet.tsHeader.payloadUnitStart = filler.isSome) :
    ∃ psi' kTSPacketSize, Takes psi filler part psi' ∧ parser.feedTSPacket fw packet.bytes event =
      (takenSection fw { parser with kTSPacketSize } pid psi').map fun result =>
        (result.1, { result.2 with mNumTSPacketsParsed := result.2.mNumTSPacketsParsed + 1 }, event) := by
  obtain ⟨hpid, herror, hne⟩ := of_decide_eq_true hbrings
  obtain ⟨br, k, hbr, hfeed⟩ := feedTSPacket_reads parser event h hp
  rw [hpayload] at hbr
  obtain ⟨psi', htakes, hcollect⟩ := collectSection_takes { parser with kTSPacketSize := k } pid psi h hfiller hbr
  refine ⟨psi', k, htakes, ?_⟩
  rw [hfeed, if_neg (by simpa using herror), if_neg hne, ← hcollect, ← hstart, ← hpid]
  rw [← hpid] at hpsi
  simp only [parsePID, hpsi]
  cases collectSection fw { parser with kTSPacketSize := k } packet.tsHeader.pid psi packet.tsHeader.payloadUnitStart br <;> rfl

theorem get?_associate (hpsi : parser.mPSISections.get? pid = some psi) (association : Nat × Nat) :
    (parser.associate association).mPSISections.get? pid = some psi := by
  unfold associate
  dsimp only
  split
  · exact hpsi
  · next hnone =>
    rw [KeyedVector.get?_add_of_ne _ fun heq => hnone (by rw [← heq, hpsi]; rfl), hpsi]

theorem get?_foldl_associate (hpsi : parser.mPSISections.get? pid = some psi) (associations : List (Nat × Nat)) :
    (associations.foldl associate parser).mPSISections.get? pid = some psi := by
  induction associations generalizing parser with
  | nil => exact hpsi
  | cons association associations ih => exact ih (get?_associate hpsi association)

theorem parseSection_other {pid' : Nat} {psi' : PSISection} (hpid : pid ≠ pid') (hpsi : parser.mPSISections.get? pid = some psi)
    {result : Status × ATSParser φ} (hresult : parseSection fw parser pid' psi' = some result) :
    result.2.mPSISections.get? pid = some psi := by
  unfold parseSection at hresult
  dsimp only at hresult
  split at hresult
  · obtain ⟨parser', hparser', rfl⟩ := Option.map_eq_some_iff.mp hresult
    unfold parseProgramAssociationTable at hparser'
    refine (KeyedVector.get?_add_of_ne _ hpid).trans ?_
    split at hparser'
    · cases hparser'
    · cases hparser'
      exact hpsi
    · cases hparser'
      exact get?_foldl_associate hpsi _
  · split at hresult <;> cases hresult
    · exact (KeyedVector.get?_removeItem_of_ne _ hpid).trans hpsi
    · exact (KeyedVector.get?_add_of_ne _ hpid).trans hpsi
    · exact hpsi

theorem setSection_other {pid' : Nat} (hpid : pid ≠ pid') (hpsi : parser.mPSISections.get? pid = some psi) (psi' : PSISection) :
    (parser.setSection pid' psi').mPSISections.get? pid = some psi := (KeyedVector.get?_add_of_ne _ hpid).trans hpsi

theorem takenSection_other {pid' : Nat} {psi' : PSISection} (hpid : pid ≠ pid') (hpsi : parser.mPSISections.get? pid = some psi)
    {result : Status × ATSParser φ} (hresult : takenSection fw parser pid' psi' = some result) :
    result.2.mPSISections.get? pid = some psi := by
  unfold takenSection at hresult
  split at hresult
  · cases hresult
    exact setSection_other hpid hpsi _
  · obtain ⟨okay, -, hresult⟩ := Option.bind_eq_some_iff.mp hresult
    split at hresult
    · cases hresult
      exact setSection_other hpid hpsi _
    · exact parseSection_other hpid (setSection_other hpid hpsi _) hresult

theorem collectSection_other (parser : ATSParser φ) {pid' : Nat} {psi' : PSISection} {start : Bool} (hpid : pid ≠ pid')
    (hpsi : parser.mPSISections.get? pid = some psi) {result : Status × ATSParser φ}
    (hresult : collectSection fw parser pid' psi' start br = some result) : result.2.mPSISections.get? pid = some psi := by
  have hcollect : collectSection fw parser pid' psi' start br =
      (if start then startSection fw psi' br else some (psi', br)).bind fun started =>
        if started.2.numBitsLeft fw.reader % 8 ≠ 0 then some (.malformed, parser.setSection pid' started.1)
        else takenSection fw parser pid'
          (started.1.append ((started.2.data fw.reader).take (started.2.numBitsLeft fw.reader / 8))) := by
    cases start <;> rfl
  rw [hcollect] at hresult
  obtain ⟨started, -, hresult⟩ := Option.bind_eq_some_iff.mp hresult
  split at hresult
  · cases hresult
    exact setSection_other hpid hpsi _
  · exact takenSection_other hpid hpsi hresult

theorem feed_other (h : fw.reader.Laws rest) (hp : packet.Sound) (hpsi : parser.mPSISections.get? pid = some psi)
    (hbrings : brings pid packet = false) {result : Status × ATSParser φ × Option SyncEvent}
    (hresult : parser.feedTSPacket fw packet.bytes event = some result) : result.2.1.mPSISections.get? pid = some psi := by
  obtain ⟨br, k, -, hfeed⟩ := feedTSPacket_reads parser event h hp
  rw [hfeed] at hresult
  split at hresult
  · cases hresult
    exact hpsi
  · next herror =>
    split at hresult
    · cases hresult
      exact hpsi
    · next hne =>
      have hpid : pid ≠ packet.tsHeader.pid := fun heq =>
        of_decide_eq_false hbrings ⟨heq.symm, by simpa using herror, hne⟩
      obtain ⟨parsed, hparsed, rfl⟩ := Option.map_eq_some_iff.mp hresult
      unfold parsePID at hparsed
      split at hparsed
      · obtain ⟨collected, hcollected, rfl⟩ := Option.map_eq_some_iff.mp hparsed
        exact collectSection_other { parser with kTSPacketSize := k } hpid hpsi hcollected
      · obtain ⟨found, -, rfl⟩ := Option.map_eq_some_iff.mp hparsed
        exact hpsi

end Collecting

/-! ### Runs -/

/-- What packets bring for a PID: whether it is the start of something, and the payload. -/
def brought (pid : Nat) (packets : List TsPacket) : List (Bool × List UInt8) :=
  (packets.filter (brings pid)).map fun packet => (packet.tsHeader.payloadUnitStart, packet.payload)

/-- A section in parts. -/
def sectionPackets (filler : List UInt8) : List (List UInt8) → List (Bool × List UInt8)
  | [] => []
  | part :: parts => (true, sectionPayload (some filler) part) :: parts.map fun part => (false, sectionPayload none part)

/-- Packets as they are fed. -/
def fed (packets : List (TsPacket × Option SyncEvent)) : List (List UInt8 × Option SyncEvent) :=
  packets.map fun packet => (packet.1.bytes, packet.2)

/-- Packets bring a section for a PID behind some bytes, and maybe stuffing behind it; the last one brings its end. What else they
    bring does not matter. -/
structure Arrives (pid : Nat) (filler d : List UInt8) (packets : List (TsPacket × Option SyncEvent)) (last : TsPacket) : Prop where
  sound : ∀ packet ∈ packets, packet.1.Sound
  lastSound : last.Sound
  lastBrings : brings pid last = true
  pointer : filler.length < 256
  parts : ∃ parts part stuffing,
    brought pid (packets.map (·.1) ++ [last]) = sectionPackets filler (parts ++ [part]) ∧
      (parts ++ [part]).flatten = d ++ stuffing ∧ parts.flatten.length < d.length

section Runs
variable {fw : TsFramework σ φ} {rest : σ → List Bool} {parser : ATSParser φ} {psi : PSISection} {pid : Nat}
  {filler d : List UInt8} {parts : List (List UInt8)} {packets : List (TsPacket × Option SyncEvent)} {last : TsPacket}
  {event : Option SyncEvent}

theorem feed_part (filler : Option (List UInt8)) (h : fw.reader.Laws rest) (hd : Framed d) {packet : TsPacket} (hp : packet.Sound)
    (hpsi : parser.mPSISections.get? pid = some psi) (hbrings : brings pid packet = true)
    {part : List UInt8} (hfiller : ∀ l ∈ filler, l.length < 256)
    (hpayload : (packet.tsHeader.payloadUnitStart, packet.payload) = (filler.isSome, sectionPayload filler part))
    (hpre : filler.elim psi.data (fun _ => []) ++ part <+: d)
    (hlt : (filler.elim psi.data (fun _ => []) ++ part).length < d.length)
    {result : Status × ATSParser φ × Option SyncEvent} (hresult : parser.feedTSPacket fw packet.bytes event = some result) :
    ∃ psi', result.2.1.mPSISections.get? pid = some psi' ∧ Takes psi filler part psi' := by
  obtain ⟨hstart, hpayload⟩ := Prod.mk.inj hpayload
  obtain ⟨psi', k, htakes, hfeed⟩ := feed_section event h hp hpsi hbrings hfiller hpayload hstart
  rw [← htakes.data] at hpre hlt
  rw [hfeed, takenSection, hd.incomplete hpre hlt] at hresult
  obtain rfl := Option.some.inj hresult
  exact ⟨psi', KeyedVector.get?_add_self _, htakes⟩

theorem feedAll_cons {packet : List UInt8 × Option SyncEvent} {packets : List (List UInt8 × Option SyncEvent)}
    {result : ATSParser φ × List (Option SyncEvent)} (hrun : feedAll fw parser (packet :: packets) = some result) :
    ∃ first more, parser.feedTSPacket fw packet.1 packet.2 = some first ∧ feedAll fw first.2.1 packets = some more ∧
      result.1 = more.1 := by
  obtain ⟨first, hfirst, hrun⟩ := Option.bind_eq_some_iff.mp hrun
  obtain ⟨more, hmore, hrun⟩ := Option.bind_eq_some_iff.mp hrun
  obtain rfl := Option.some.inj hrun
  exact ⟨first, more, hfirst, hmore, rfl⟩

theorem brought_cons (packet : TsPacket) (packets : List TsPacket) : brought pid (packet :: packets) =
    if brings pid packet then (packet.tsHeader.payloadUnitStart, packet.payload) :: brought pid packets
    else brought pid packets := by
  unfold brought
  rw [List.filter_cons]
  split <;> rfl

theorem brought_concat (packets : List TsPacket) (hbrings : brings pid last = true) :
    brought pid (packets ++ [last]) = brought pid packets ++ [(last.tsHeader.payloadUnitStart, last.payload)] := by
  unfold brought
  rw [List.filter_append, List.filter_cons_of_pos hbrings, List.map_append]
  rfl

theorem sectionPackets_concat (first : List UInt8) (parts : List (List UInt8)) (part : List UInt8) :
    sectionPackets filler (first :: parts ++ [part]) =
      sectionPackets filler (first :: parts) ++ [(false, sectionPayload none part)] := by
  rw [List.cons_append, sectionPackets, sectionPackets, List.map_append]
  rfl

theorem feedAll_more (h : fw.reader.Laws rest) (hd : Framed d) (hsound : ∀ packet ∈ packets, packet.1.Sound)
    (hpsi : parser.mPSISections.get? pid = some psi)
    (hparts : brought pid (packets.map (·.1)) = parts.map fun part => (false, sectionPayload none part))
    (hpre : psi.data ++ parts.flatten <+: d) (hlt : (psi.data ++ parts.flatten).length < d.length)
    {result : ATSParser φ × List (Option SyncEvent)} (hrun : feedAll fw parser (fed packets) = some result) :
    ∃ psi', result.1.mPSISections.get? pid = some psi' ∧ psi'.data = psi.data ++ parts.flatten ∧
      psi'.mSkipBytes = psi.mSkipBytes := by
  induction packets generalizing parser psi parts result with
  | nil =>
    obtain rfl := Option.some.inj hrun
    obtain rfl := List.map_eq_nil_iff.mp hparts.symm
    exact ⟨psi, hpsi, (List.append_nil _).symm, rfl⟩
  | cons packet packets ih =>
    obtain ⟨first, more, hfirst, hmore, hresult⟩ := feedAll_cons hrun
    rw [hresult]
    have hp := hsound packet List.mem_cons_self
    have hsound' : ∀ packet ∈ packets, packet.1.Sound := fun packet hmem => hsound packet (List.mem_cons_of_mem _ hmem)
    rw [List.map_cons, brought_cons] at hparts
    split at hparts
    · next hbrings =>
      cases parts with
      | nil => cases hparts
      | cons part parts =>
        obtain ⟨hpayload, hparts⟩ := List.cons.inj hparts
        rw [List.flatten_cons, ← List.append_assoc] at hpre hlt
        have hpart : psi.data ++ part <+: d := (List.prefix_append _ _).trans hpre
        have hpartLt : (psi.data ++ part).length < d.length := Nat.lt_of_le_of_lt (List.prefix_append _ _).length_le hlt
        obtain ⟨psi', hpsi', htakes⟩ := feed_part none h hd hp hpsi hbrings (fun l hl => by cases hl) hpayload hpart
          hpartLt hfirst
        have hdata : psi'.data = psi.data ++ part := htakes.data
        rw [← hdata] at hpre hlt
        obtain ⟨psi'', hpsi'', hdata'', hskip''⟩ := ih hsound' hpsi' hparts hpre hlt hmore
        exact ⟨psi'', hpsi'', by rw [hdata'', hdata, List.flatten_cons, List.append_assoc], hskip''.trans htakes.skip⟩
    · next hbrings =>
      exact ih hsound' (feed_other h hp hpsi (Bool.eq_false_iff.mpr hbrings) hfirst) hparts hpre hlt hmore

theorem feedAll_parts (parts : List (List UInt8)) (h : fw.reader.Laws rest) (hd : Framed d)
    (hsound : ∀ packet ∈ packets, packet.1.Sound)
    (hfiller : filler.length < 256) (hpsi : parser.mPSISections.get? pid = some psi)
    (hparts : brought pid (packets.map (·.1)) = sectionPackets filler parts)
    (hpre : parts.flatten <+: d) (hlt : parts.flatten.length < d.length)
    {result : ATSParser φ × List (Option SyncEvent)} (hrun : feedAll fw parser (fed packets) = some result) :
    ∃ psi', result.1.mPSISections.get? pid = some psi' ∧
      (parts ≠ [] → psi'.data = parts.flatten ∧ psi'.mSkipBytes = (filler.length + 1) % 256) := by
  induction packets generalizing parser psi result with
  | nil =>
    obtain rfl := Option.some.inj hrun
    cases parts with
    | nil => exact ⟨psi, hpsi, fun hne => absurd rfl hne⟩
    | cons part parts => cases hparts
  | cons packet packets ih =>
    obtain ⟨first, more, hfirst, hmore, hresult⟩ := feedAll_cons hrun
    rw [hresult]
    have hp := hsound packet List.mem_cons_self
    have hsound' : ∀ packet ∈ packets, packet.1.Sound := fun packet hmem => hsound packet (List.mem_cons_of_mem _ hmem)
    rw [List.map_cons, brought_cons] at hparts
    split at hparts
    · next hbrings =>
      cases parts with
      | nil => cases hparts
      | cons part parts =>
        obtain ⟨hpayload, hparts⟩ := List.cons.inj hparts
        rw [List.flatten_cons] at hpre hlt
        have hpart : part <+: d := (List.prefix_append _ _).trans hpre
        have hpartLt : part.length < d.length := Nat.lt_of_le_of_lt (List.prefix_append _ _).length_le hlt
        obtain ⟨psi', hpsi', htakes⟩ := feed_part (some filler) h hd hp hpsi hbrings
          (fun l hl => by obtain rfl := Option.some.inj hl; exact hfiller) hpayload hpart hpartLt hfirst
        have hdata : psi'.data = part := htakes.data
        rw [← hdata] at hpre hlt
        obtain ⟨psi'', hpsi'', hdata'', hskip''⟩ := feedAll_more h hd hsound' hpsi' hparts hpre hlt hmore
        exact ⟨psi'', hpsi'', fun _ => ⟨by rw [hdata'', hdata, List.flatten_cons], hskip''.trans htakes.skip⟩⟩
    · next hbrings =>
      exact ih hsound' (feed_other h hp hpsi (Bool.eq_false_iff.mpr hbrings) hfirst) hparts hmore

/-- What is there before the last packet of a section: all parts but one, unless that packet is the first as well. -/
theorem feedAll_untilLast {part payload : List UInt8} {start : Bool} (h : fw.reader.Laws rest) (hd : Framed d)
    (hsound : ∀ packet ∈ packets, packet.1.Sound) (hfiller : filler.length < 256) (hpsi : parser.mPSISections.get? pid = some psi)
    (hbrought : brought pid (packets.map (·.1)) ++ [(start, payload)] = sectionPackets filler (parts ++ [part]))
    (hpre : parts.flatten <+: d) (hlt : parts.flatten.length < d.length)
    {result : ATSParser φ × List (Option SyncEvent)} (hrun : feedAll fw parser (fed packets) = some result) :
    ∃ (psi : PSISection) (fill : Option (List UInt8)), result.1.mPSISections.get? pid = some psi ∧
      (∀ l ∈ fill, l.length < 256) ∧ (start, payload) = (fill.isSome, sectionPayload fill part) ∧
      fill.elim psi.data (fun _ => []) = parts.flatten ∧
      (fill.elim psi.mSkipBytes fun fill => (fill.length + 1) % 256) = (filler.length + 1) % 256 := by
  cases parts with
  | nil =>
    have hone : sectionPackets filler ([] ++ [part]) = [] ++ [(true, sectionPayload (some filler) part)] := rfl
    rw [hone] at hbrought
    obtain ⟨hnone, hstart⟩ := List.append_inj' hbrought rfl
    obtain ⟨psi', hpsi', -⟩ := feedAll_parts [] h hd hsound hfiller hpsi hnone hpre hlt hrun
    refine ⟨psi', some filler, hpsi', fun l hl => ?_, (List.cons.inj hstart).1, rfl, rfl⟩
    obtain rfl := Option.some.inj hl
    exact hfiller
  | cons first parts =>
    rw [sectionPackets_concat] at hbrought
    obtain ⟨hparts, hend⟩ := List.append_inj' hbrought rfl
    obtain ⟨psi', hpsi', hcollected⟩ := feedAll_parts _ h hd hsound hfiller hpsi hparts hpre hlt hrun
    obtain ⟨hdata, hskip⟩ := hcollected (List.cons_ne_nil _ _)
    exact ⟨psi', none, hpsi', (fun l hl => by cases hl), (List.cons.inj hend).1, hdata, hskip⟩

theorem Arrives.whole (event : Option SyncEvent) (h : fw.reader.Laws rest) (hd : Framed d) (ha : Arrives pid filler d packets last)
    (hpsi : parser.mPSISections.get? pid = some psi) {result : ATSParser φ × List (Option SyncEvent)}
    (hrun : feedAll fw parser (fed packets) = some result) :
    ∃ (psi' : PSISection) (stuffing : List UInt8) (kTSPacketSize : Nat), psi'.data = d ++ stuffing ∧
      psi'.mSkipBytes = (filler.length + 1) % 256 ∧
      result.1.feedTSPacket fw last.bytes event =
        (psi'.isCRCOkay.bind fun okay =>
          let parser' := { result.1 with kTSPacketSize }.setSection pid psi'
          if !okay then some (.badValue, parser') else ATSParser.parseSection fw parser' pid psi').map fun result =>
            (result.1, { result.2 with mNumTSPacketsParsed := result.2.mNumTSPacketsParsed + 1 }, event) := by
  obtain ⟨parts, part, stuffing, hbrought, hall, hlt⟩ := ha.parts
  rw [List.flatten_append, List.flatten_singleton] at hall
  have hpre : parts.flatten <+: d :=
    List.prefix_of_prefix_length_le ⟨part, hall⟩ (List.prefix_append d stuffing) (Nat.le_of_lt hlt)
  rw [brought_concat _ ha.lastBrings] at hbrought
  obtain ⟨psi₁, fill, hpsi₁, hfill, hpayload, hdata₁, hskip₁⟩ :=
    feedAll_untilLast h hd ha.sound ha.pointer hpsi hbrought hpre hlt hrun
  obtain ⟨hstart, hpayload⟩ := Prod.mk.inj hpayload
  obtain ⟨psi', k, htakes, hfeed⟩ := feed_section event h ha.lastSound hpsi₁ ha.lastBrings hfill hpayload hstart
  have hdata : psi'.data = d ++ stuffing := by rw [htakes.data, hdata₁, hall]
  refine ⟨psi', stuffing, k, hdata, htakes.skip.trans hskip₁, ?_⟩
  rw [hfeed, takenSection, hd.complete hdata]
  rfl

theorem Arrives.dropped (event : Option SyncEvent) (h : fw.reader.Laws rest) (hd : Framed d) (ha : Arrives pid filler d packets last)
    (hpsi : parser.mPSISections.get? pid = some psi) (hwrong : ∀ (psi : PSISection) (stuffing : List UInt8),
      psi.data = d ++ stuffing → psi.mSkipBytes = (filler.length + 1) % 256 → psi.isCRCOkay = some false)
    {result : ATSParser φ × List (Option SyncEvent)} (hrun : feedAll fw parser (fed packets) = some result) :
    ∃ parser', result.1.feedTSPacket fw last.bytes event = some (.badValue, parser', event) ∧
      parser'.mPrograms = result.1.mPrograms ∧
      ∀ pid' ≠ pid, parser'.mPSISections.get? pid' = result.1.mPSISections.get? pid' := by
  obtain ⟨psi', stuffing, k, hdata, hskip, hfeed⟩ := ha.whole event h hd hpsi hrun
  rw [hwrong psi' stuffing hdata hskip] at hfeed
  exact ⟨_, hfeed, rfl, fun pid' hne => KeyedVector.get?_add_of_ne _ hne⟩

end Runs

/-- A packet with a whole section and stuffing behind it. -/
def tablePacket (pid : Nat) (d : List UInt8) : TsPacket where
  front := []
  header := 2 ^ 22 + pid * 2 ^ 8 + 2 ^ 4
  adaptation := none
  payload := sectionPayload (some []) (d ++ List.replicate (183 - d.length) 0xff)

theorem tablePacket_arrives {pid : Nat} {d : List UInt8} (hpid : pid < 2 ^ 13) (hd : d ≠ []) (hlength : d.length ≤ 183) :
    Arrives pid [] d [] (tablePacket pid d) := by
  have hbrings : brings pid (tablePacket pid d) = true := by
    refine decide_eq_true ⟨?_, ?_, List.cons_ne_nil _ _⟩
    · change (2 ^ 22 + pid * 2 ^ 8 + 2 ^ 4) / 2 ^ 8 % 2 ^ 13 = pid
      omega
    · have hbit : (2 ^ 22 + pid * 2 ^ 8 + 2 ^ 4) / 2 ^ 23 % 2 ^ 1 = 0 := by omega
      unfold TsPacket.transportError
      rw [Bool.not_eq_true', decide_eq_false_iff_not, not_not]
      exact hbit
  have hstart : (tablePacket pid d).tsHeader.payloadUnitStart = true := by
    have hbit : (2 ^ 22 + pid * 2 ^ 8 + 2 ^ 4) / 2 ^ 22 % 2 ^ 1 ≠ 0 := by omega
    exact decide_eq_true hbit
  refine ⟨?_, ⟨.inl rfl, ?_, ?_, ?_⟩, hbrings, (by decide), [], d ++ List.replicate (183 - d.length) 0xff,
    List.replicate (183 - d.length) 0xff, ?_, List.append_nil _, List.length_pos_iff.mpr hd⟩
  · rintro packet ⟨⟩
  · change 0 + ((d ++ List.replicate (183 - d.length) 0xff).length + 1) = 184
    rw [List.length_append, List.length_replicate]
    omega
  · change (2 ^ 22 + pid * 2 ^ 8 + 2 ^ 4) / 2 ^ 4 % 2 ^ 2 = 1
    omega
  · rintro field ⟨⟩
  · change brought pid [tablePacket pid d] = _
    rw [brought_cons, if_pos hbrings, hstart]
    rfl

/-- A table with one program. -/
def oneProgram : TableSection where
  header := 0x00b00d0001c10000
  content := beBytes 4 0x0001e100

theorem oneProgram_sound : oneProgram.Sound where
  form := by decide
  length := by decide

/-- The programs that the entries of a table say: their numbers, and the PIDs of their maps. -/
def tablePrograms (entries : List Nat) : List (Nat × Nat) :=
  (entries.map fun entry => (bitField 31 16 entry, bitField 12 0 entry)).filter fun program => program.1 ≠ 0

/-- The PID of the map of a program. -/
def mapPID (programs : List (Program φ)) (programNumber : Nat) : Option Nat :=
  (programs.find? fun program => program.mProgramNumber = programNumber).map (·.mProgramMapPID)

section Associations
open HeaderReader ATSParser
variable {r : BitReader σ} {fw : TsFramework σ φ} {rest : σ → List Bool} {s : σ} {tail : List Bool} {w : TableSection}
  {stuffing : List UInt8} {parser : ATSParser φ} {programs : List (Program φ)}

theorem associations_gives (h : r.Laws rest) {entries : List Nat} (hs : rest s = bitsOf (entries.flatMap (beBytes 4)) ++ tail) :
    ∃ s', Gives (associations r entries.length) s (tablePrograms entries) s' ∧ rest s' = tail := by
  induction entries generalizing s with
  | nil => exact ⟨s, gives_pure [], hs⟩
  | cons entry entries ih =>
    rw [List.flatMap_cons, bitsOf_append, List.append_assoc, bitsOf_beBytes] at hs
    obtain ⟨s₁, h₁, hs₁⟩ := gives_getBits (k := 16) (m := 16) h (by decide) hs
    obtain ⟨s₂, h₂, hs₂⟩ := gives_getBits (k := 3) (m := 13) h (by decide) hs₁
    obtain ⟨s₃, h₃, hs₃⟩ := gives_getBits (k := 13) (m := 0) h (by decide) hs₂
    obtain ⟨s₄, h₄, hs₄⟩ := ih hs₃
    refine ⟨s₄, h₁.bind (h₂.bind (h₃.bind (h₄.bind ?_))), hs₄⟩
    have hcons : tablePrograms (entry :: entries) = if entry / 2 ^ 16 % 2 ^ 16 = 0 then tablePrograms entries
        else (entry / 2 ^ 16 % 2 ^ 16, entry / 2 ^ 0 % 2 ^ 13) :: tablePrograms entries := by
      unfold tablePrograms
      rw [List.map_cons, List.filter_cons]
      by_cases hzero : entry / 2 ^ 16 % 2 ^ 16 = 0
      · rw [if_pos hzero, if_neg (by rw [decide_eq_true_iff]; exact not_not_intro hzero)]
      · rw [if_neg hzero, if_pos (by rw [decide_eq_true_iff]; exact hzero)]
        rfl
    rw [hcons]
    exact gives_pure _

theorem programAssociationTable_gives (h : r.Laws rest) (hw : w.Sound) (htable : bitField 63 56 w.header = 0x00)
    {entries : List Nat} (hcontent : w.content = entries.flatMap (beBytes 4)) (hs : rest s = bitsOf (w.bytes ++ stuffing)) :
    ∃ s', Gives (programAssociationTable r) s (tablePrograms entries) s' := by
  have hbytes : w.bytes ++ stuffing = beBytes 8 w.header ++ (entries.flatMap (beBytes 4) ++ (beBytes 4 w.crc ++ stuffing)) := by
    rw [TableSection.bytes, TableSection.text, hcontent]
    simp only [List.append_assoc]
  rw [hbytes, bitsOf_append, bitsOf_append, bitsOf_append, bitsOf_beBytes, bitsOf_beBytes] at hs
  obtain ⟨s₁, h₁, hs₁⟩ := gives_getBits (k := 8) (m := 56) h (by decide) hs
  obtain ⟨s₂, h₂, hs₂⟩ := gives_getBits (k := 1) (m := 55) h (by decide) hs₁
  obtain ⟨s₃, h₃, hs₃⟩ := gives_skipBits (k := 1) (m := 54) h hs₂
  obtain ⟨s₄, h₄, hs₄⟩ := gives_getBits (k := 2) (m := 52) h (by decide) hs₃
  obtain ⟨s₅, h₅, hs₅⟩ := gives_getBits (k := 12) (m := 40) h (by decide) hs₄
  obtain ⟨s₆, h₆, hs₆⟩ := gives_getBits (k := 16) (m := 24) h (by decide) hs₅
  obtain ⟨s₇, h₇, hs₇⟩ := gives_getBits (k := 2) (m := 22) h (by decide) hs₆
  obtain ⟨s₈, h₈, hs₈⟩ := gives_getBits (k := 5) (m := 17) h (by decide) hs₇
  obtain ⟨s₉, h₉, hs₉⟩ := gives_getBits (k := 1) (m := 16) h (by decide) hs₈
  obtain ⟨s₁₀, h₁₀, hs₁₀⟩ := gives_getBits (k := 8) (m := 8) h (by decide) hs₉
  obtain ⟨s₁₁, h₁₁, hs₁₁⟩ := gives_getBits (k := 8) (m := 0) h (by decide) hs₁₀
  rw [toBits, List.nil_append] at hs₁₁
  obtain ⟨s₁₂, h₁₂, hs₁₂⟩ := associations_gives h hs₁₁
  obtain ⟨s₁₃, h₁₃, -⟩ := gives_getBits (k := 32) (m := 0) h (by decide) hs₁₂
  have hentries : (entries.flatMap (beBytes 4)).length = 4 * entries.length := by
    rw [List.length_flatMap]
    simp [Nat.mul_comm]
  have hlength : w.header / 2 ^ 40 % 2 ^ 12 = 9 + 4 * entries.length := by rw [← hentries, ← hcontent]; exact hw.length
  have hcount : Program.subWrap 32 (w.header / 2 ^ 40 % 2 ^ 12) 9 / 4 = entries.length := by
    rw [Program.subWrap]
    omega
  have hid : (w.header / 2 ^ 56 % 2 ^ 8 == 0x00) = true := beq_iff_eq.mpr htable
  refine ⟨s₁₃, h₁.bind ((gives_require hid).bind (h₂.bind (h₃.bind (h₄.bind (h₅.bind (h₆.bind (h₇.bind (h₈.bind (h₉.bind
    (h₁₀.bind (h₁₁.bind ?_)))))))))))⟩
  rw [hcount]
  exact h₁₂.bind (h₁₃.bind (gives_pure _))

theorem mapPID_cons (program : Program φ) (programs : List (Program φ)) (n : Nat) : mapPID (program :: programs) n =
    if program.mProgramNumber = n then some program.mProgramMapPID else mapPID programs n := by
  unfold mapPID
  rw [List.find?_cons]
  by_cases hn : program.mProgramNumber = n <;> simp [hn]

theorem mapPID_updateProgramMapPID (programNumber programMapPID n : Nat) {programs' : List (Program φ)}
    (hupdate : updateProgramMapPID programNumber programMapPID programs = some programs') :
    mapPID programs' n = if n = programNumber then some programMapPID else mapPID programs n := by
  induction programs generalizing programs' with
  | nil => cases hupdate
  | cons program programs ih =>
    rw [updateProgramMapPID] at hupdate
    split at hupdate
    · next hnumber =>
      obtain rfl := Option.some.inj hupdate
      rw [mapPID_cons, mapPID_cons]
      by_cases hn : program.mProgramNumber = n
      · rw [if_pos hn, if_pos (hn.symm.trans hnumber)]
      · rw [if_neg hn, if_neg hn, if_neg fun heq => hn (hnumber.trans heq.symm)]
    · next hnumber =>
      obtain ⟨rest, hrest, rfl⟩ := Option.map_eq_some_iff.mp hupdate
      rw [mapPID_cons, mapPID_cons, ih hrest]
      by_cases hn : program.mProgramNumber = n
      · rw [if_pos hn, if_pos hn, if_neg fun heq => hnumber (hn.trans heq)]
      · rw [if_neg hn, if_neg hn]

theorem mapPID_append (programs' : List (Program φ)) (n : Nat) :
    mapPID (programs ++ programs') n = (mapPID programs n).or (mapPID programs' n) := by
  unfold mapPID
  rw [List.find?_append, Option.map_or]

theorem updateProgramMapPID_eq_none {programNumber programMapPID : Nat}
    (hupdate : updateProgramMapPID programNumber programMapPID programs = none) : mapPID programs programNumber = none := by
  induction programs with
  | nil => rfl
  | cons program programs ih =>
    rw [updateProgramMapPID] at hupdate
    split at hupdate
    · cases hupdate
    · next hnumber =>
      rw [mapPID_cons, if_neg hnumber]
      exact ih (Option.map_eq_none_iff.mp hupdate)

theorem mapPID_associate (association : Nat × Nat) (n : Nat) : mapPID (parser.associate association).mPrograms n =
    if n = association.1 then some association.2 else mapPID parser.mPrograms n := by
  unfold associate
  dsimp only
  cases hupdate : updateProgramMapPID association.1 association.2 parser.mPrograms with
  | some programs' => exact mapPID_updateProgramMapPID _ _ n hupdate
  | none =>
    rw [Option.getD_none, mapPID_append, mapPID_cons]
    by_cases hn : n = association.1
    · rw [hn, updateProgramMapPID_eq_none hupdate, if_pos rfl, Option.none_or]
      exact if_pos rfl
    · rw [if_neg hn, if_neg fun heq => hn heq.symm]
      exact Option.or_none

theorem mapPID_foldl_associate (associations : List (Nat × Nat)) (n : Nat) :
    mapPID (associations.foldl associate parser).mPrograms n = (associations.reverse.lookup n).or (mapPID parser.mPrograms n) := by
  induction associations generalizing parser with
  | nil => rfl
  | cons association associations ih =>
    rw [List.foldl_cons, ih, mapPID_associate, List.reverse_cons, List.lookup_append]
    by_cases hn : n = association.1
    · simp [hn, List.lookup]
    · simp [hn, List.lookup, beq_false_of_ne hn]

theorem streamOf_eq (programs : List (Program φ)) (pid : Nat) :
    streamOf programs pid = (programs.map (·.mStreams)).findSome? (·.get? pid) := by
  unfold streamOf
  rw [List.findSome?_map]
  rfl

theorem updateProgramMapPID_streams {programNumber programMapPID : Nat} {programs' : List (Program φ)}
    (hupdate : updateProgramMapPID programNumber programMapPID programs = some programs') :
    programs'.map (·.mStreams) = programs.map (·.mStreams) := by
  induction programs generalizing programs' with
  | nil => cases hupdate
  | cons program programs ih =>
    rw [updateProgramMapPID] at hupdate
    split at hupdate
    · obtain rfl := Option.some.inj hupdate
      rfl
    · obtain ⟨rest, hrest, rfl⟩ := Option.map_eq_some_iff.mp hupdate
      rw [List.map_cons, List.map_cons, ih hrest]

theorem streamOf_associate (association : Nat × Nat) (pid : Nat) :
    streamOf (parser.associate association).mPrograms pid = streamOf parser.mPrograms pid := by
  unfold associate
  dsimp only
  cases hupdate : updateProgramMapPID association.1 association.2 parser.mPrograms with
  | some programs' => rw [Option.getD_some, streamOf_eq, streamOf_eq, updateProgramMapPID_streams hupdate]
  | none =>
    rw [Option.getD_none, streamOf_eq, streamOf_eq, List.map_append, List.findSome?_append]
    exact Option.or_none

theorem isSome_associate (association : Nat × Nat) (pid : Nat) :
    ((parser.associate association).mPSISections.get? pid).isSome =
      ((parser.mPSISections.get? pid).isSome || pid = association.2) := by
  unfold associate
  dsimp only
  split
  · next hsome =>
    by_cases hpid : pid = association.2
    · rw [hpid, hsome, Bool.true_or]
    · rw [decide_eq_false hpid, Bool.or_false]
  · rw [KeyedVector.get?_add]
    by_cases hpid : pid = association.2
    · rw [if_pos hpid, decide_eq_true hpid, Bool.or_true]
      rfl
    · rw [if_neg hpid, decide_eq_false hpid, Bool.or_false]

/-- What a program association table changes: it says which section has the map of a program, and such a section is collected from
    then on. The streams that there are go on. -/
structure Associated (programs : List (Nat × Nat)) (before after : ATSParser φ) : Prop where
  maps : ∀ n, mapPID after.mPrograms n = (programs.reverse.lookup n).or (mapPID before.mPrograms n)
  streams : ∀ pid, streamOf after.mPrograms pid = streamOf before.mPrograms pid
  sections : ∀ pid ≠ 0, (after.mPSISections.get? pid).isSome =
    ((before.mPSISections.get? pid).isSome || decide (pid ∈ programs.map (·.2)))

theorem foldl_associate (parser : ATSParser φ) (associations : List (Nat × Nat)) :
    Associated associations parser (associations.foldl associate parser) := by
  refine ⟨mapPID_foldl_associate associations, ?_, ?_⟩
  · intro pid
    induction associations generalizing parser with
    | nil => rfl
    | cons association associations ih => rw [List.foldl_cons, ih, streamOf_associate]
  · intro pid _
    induction associations generalizing parser with
    | nil => simp
    | cons association associations ih =>
      rw [List.foldl_cons, ih, isSome_associate, Bool.or_assoc, List.map_cons, ← Bool.decide_or]
      refine congrArg _ (decide_eq_decide.mpr ?_)
      rw [List.mem_cons]

end Associations

/-- A program association table that arrives behind at most four bytes, whatever comes before and between its packets: it is taken
    where as many last bytes of its CRC are 0, else it is dropped. -/
theorem associationTable_delivered (fw : TsFramework σ φ) (rest : σ → List Bool) (h : fw.reader.Laws rest) (parser : ATSParser φ)
    (psi : PSISection) (hpsi : parser.mPSISections.get? 0 = some psi) (w : TableSection) (hw : w.Sound)
    (htable : bitField 63 56 w.header = 0x00) (entries : List Nat) (hcontent : w.content = entries.flatMap (beBytes 4))
    (filler : List UInt8) (hfiller : filler.length ≤ 4) (packets : List (TsPacket × Option SyncEvent)) (last : TsPacket)
    (event : Option SyncEvent) (harrives : Arrives 0 filler w.bytes packets last) (result : ATSParser φ × List (Option SyncEvent))
    (hrun : feedAll fw parser (fed packets) = some result) :
    (w.crc % 256 ^ filler.length = 0 → ∃ parser', result.1.feedTSPacket fw last.bytes event = some (.ok, parser', event) ∧
      Associated (tablePrograms entries) result.1 parser' ∧ ∃ psi', parser'.mPSISections.get? 0 = some psi' ∧ psi'.isEmpty = true) ∧
    (w.crc % 256 ^ filler.length ≠ 0 → ∃ parser', result.1.feedTSPacket fw last.bytes event = some (.badValue, parser', event) ∧
      parser'.mPrograms = result.1.mPrograms) := by
  have hskip : (filler.length + 1) % 256 = filler.length + 1 := by omega
  constructor
  · intro hcrc
    obtain ⟨psi', stuffing, k, hdata, hskip', hfeed⟩ := harrives.whole event h hw.framed hpsi hrun
    have hokay : psi'.isCRCOkay = some true := by
      rw [isCRCOkay_section hw hdata hfiller (hskip'.trans hskip)]
      exact congrArg some (decide_eq_true hcrc)
    have hbits : rest (ABitReader.new fw.reader psi'.data).state = bitsOf (w.bytes ++ stuffing) := by
      rw [← hdata]
      exact h.ofBytes psi'.data
    obtain ⟨s', hread⟩ := programAssociationTable_gives h hw htable hcontent hbits
    have hparse : ATSParser.parseProgramAssociationTable fw ({ result.1 with kTSPacketSize := k }.setSection 0 psi')
        (.new fw.reader psi'.data) =
          some ((tablePrograms entries).foldl ATSParser.associate ({ result.1 with kTSPacketSize := k }.setSection 0 psi')) := by
      unfold ATSParser.parseProgramAssociationTable
      rw [ABitReader.read_gives hread]
    have hassociated := foldl_associate ({ result.1 with kTSPacketSize := k }.setSection 0 psi') (tablePrograms entries)
    rw [hokay, Option.bind_some] at hfeed
    unfold ATSParser.parseSection at hfeed
    dsimp only at hfeed
    rw [if_neg (by decide), if_pos rfl, hparse] at hfeed
    refine ⟨_, hfeed, ⟨hassociated.maps, hassociated.streams, fun pid hpid => ?_⟩, psi'.clear, KeyedVector.get?_add_self _,
      psi'.isEmpty_clear⟩
    have hbefore : ({ result.1 with kTSPacketSize := k }.setSection 0 psi').mPSISections.get? pid =
      result.1.mPSISections.get? pid := KeyedVector.get?_add_of_ne _ hpid
    rw [← hbefore, ← hassociated.sections pid hpid]
    exact congrArg Option.isSome (KeyedVector.get?_add_of_ne _ hpid)
  · intro hcrc
    obtain ⟨parser', hfeed, hprograms, -⟩ := harrives.dropped event h hw.framed hpsi
      (fun psi' stuffing hdata hskip' => by
        rw [isCRCOkay_section hw hdata hfiller (hskip'.trans hskip)]
        exact congrArg some (decide_eq_false hcrc)) hrun
    exact ⟨_, hfeed, hprograms⟩

theorem associationTable_delivered_one : ∃ parser',
    (ATSParser.new 0 : ATSParser Unit).feedTSPacket plainTsFramework (tablePacket 0 oneProgram.bytes).bytes none =
      some (.ok, parser', none) ∧ mapPID parser'.mPrograms 1 = some 256 ∧ (parser'.mPSISections.get? 256).isSome = true := by
  obtain ⟨htaken, -⟩ := associationTable_delivered plainTsFramework id listReader_laws (.new 0) .new rfl
    oneProgram oneProgram_sound (by decide) [0x0001e100] (by decide) [] (by decide) [] (tablePacket 0 oneProgram.bytes) none
    (tablePacket_arrives (by decide) (List.ne_nil_of_length_pos (by rw [oneProgram.length_bytes]; decide))
      (by rw [oneProgram.length_bytes]; decide)) _ rfl
  obtain ⟨parser', hfeed, hassociated, -⟩ := htaken (by rw [List.length_nil, Nat.pow_zero, Nat.mod_one])
  exact ⟨parser', hfeed, (hassociated.maps 1).trans (by decide), (hassociated.sections 256 (by decide)).trans (by decide)⟩

end BcmPlatform.Ts
