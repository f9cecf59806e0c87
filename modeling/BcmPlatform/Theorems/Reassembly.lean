import BcmPlatform.Lib.Reassembly
import BcmPlatform.Theorems.StreamQueues
import BcmPlatform.Ts.Programs

/-! Elementary streams in transport stream packets. Whatever order the packets of several streams come in, and whichever of them are
    lost, the parser of each stream gets those PES packets of it that are whole, as long as the continuity counter shows the gaps. -/

namespace BcmPlatform.Ts
open Lib

variable {σ φ : Type}

/-! ### Reading a packet -/

/-- A packet as it is sent: what is in front of it, the 24 bits behind its sync byte, the adaptation field behind its length, if
    there is one, and the payload. -/
structure TsPacket where
  front : List UInt8
  header : Nat
  adaptation : Option (List UInt8)
  payload : List UInt8
  deriving DecidableEq, Repr

namespace TsPacket
variable (p : TsPacket)

def transportError : Bool := bitField 23 23 p.header ≠ 0

def tsHeader : TsHeader where
  payloadUnitStart := bitField 22 22 p.header ≠ 0
  pid := bitField 20 8 p.header
  adaptationFieldControl := bitField 5 4 p.header
  continuityCounter := bitField 3 0 p.header

def adaptationBytes : List UInt8 := p.adaptation.elim [] fun field => UInt8.ofNat field.length :: field

def bytes : List UInt8 := p.front ++ 0x47 :: (beBytes 3 p.header ++ (p.adaptationBytes ++ p.payload))

/-- The packet is as it has to be: in front of it are no bytes or four, the parts have the right size, the header says which there
    are, and a clock reference has room. -/
structure Sound (p : TsPacket) : Prop where
  front : p.front = [] ∨ ∃ a l, p.front = a :: l ∧ l.length = 3 ∧ a ≠ 0x47
  size : p.adaptationBytes.length + p.payload.length = 184
  control : p.tsHeader.adaptationFieldControl = (if p.adaptation.isSome then 2 else 0) + if p.payload = [] then 0 else 1
  clock : ∀ field ∈ p.adaptation, (bitsOf field)[3]? = some true → 7 ≤ field.length

end TsPacket

namespace HeaderReader
variable {r : BitReader σ} {rest : σ → List Bool} {s s' : σ} {k : Nat}

theorem gives_bits (h : r.Laws rest) (hk : k ≤ 32) (hlength : k ≤ (rest s).length) :
    ∃ s', Gives (getBits r k) s (bitsValue ((rest s).take k)) s' ∧ rest s' = (rest s).drop k := by
  obtain ⟨s', hs', hrest⟩ := h.getBits s k hk hlength
  refine ⟨s', ?_, hrest⟩
  change (r.getBits k s).bind (fun q => some (Except.ok q.1, q.2)) = _
  rw [hs']
  rfl

theorem gives_skip (h : r.Laws rest) (hlength : k ≤ (rest s).length) :
    ∃ s', Gives (skipBits r k) s () s' ∧ rest s' = (rest s).drop k := by
  obtain ⟨s', hs', hrest⟩ := h.skipBits s k hlength
  refine ⟨s', ?_, hrest⟩
  change ((r.skipBits k s).map ((), ·)).bind (fun q => some (Except.ok q.1, q.2)) = _
  rw [hs']
  rfl

end HeaderReader

section Reading
open HeaderReader
variable {r : BitReader σ} {rest : σ → List Bool} {s : σ} {tail : List Bool} {p : TsPacket}

theorem bitsOf_cons (b : UInt8) (l : List UInt8) : bitsOf (b :: l) = toBits 8 b.toNat ++ bitsOf l := List.flatMap_cons

theorem tsHeader_gives (h : r.Laws rest) (hs : rest s = toBits 24 p.header ++ tail) :
    if p.transportError then ∃ s', Gives (tsHeader r) s none s'
    else ∃ s', Gives (tsHeader r) s (some p.tsHeader) s' ∧ rest s' = tail := by
  obtain ⟨s₁, h₁, hs₁⟩ := gives_getBits (k := 1) (m := 23) h (by decide) hs
  unfold tsHeader
  by_cases herror : p.transportError
  · have hne : p.header / 2 ^ 23 % 2 ^ 1 ≠ 0 := of_decide_eq_true herror
    rw [if_pos herror]
    refine ⟨s₁, h₁.bind ?_⟩
    rw [if_pos hne]
    exact gives_pure none
  · have heq : ¬ p.header / 2 ^ 23 % 2 ^ 1 ≠ 0 := fun hne => herror (decide_eq_true hne)
    obtain ⟨s₂, h₂, hs₂⟩ := gives_getBits (k := 1) (m := 22) h (by decide) hs₁
    obtain ⟨s₃, h₃, hs₃⟩ := gives_getBits (k := 1) (m := 21) h (by decide) hs₂
    obtain ⟨s₄, h₄, hs₄⟩ := gives_getBits (k := 13) (m := 8) h (by decide) hs₃
    obtain ⟨s₅, h₅, hs₅⟩ := gives_getBits (k := 2) (m := 6) h (by decide) hs₄
    obtain ⟨s₆, h₆, hs₆⟩ := gives_getBits (k := 2) (m := 4) h (by decide) hs₅
    obtain ⟨s₇, h₇, hs₇⟩ := gives_getBits (k := 4) (m := 0) h (by decide) hs₆
    rw [if_neg herror]
    refine ⟨s₇, h₁.bind ?_, hs₇⟩
    rw [if_neg heq]
    exact h₂.bind (h₃.bind (h₄.bind (h₅.bind (h₆.bind (h₇.bind (gives_pure _))))))

theorem adaptationField_gives (h : r.Laws rest) {field : List UInt8} (hlength : field.length < 256)
    (hclock : (bitsOf field)[3]? = some true → 7 ≤ field.length)
    (hs : rest s = bitsOf (UInt8.ofNat field.length :: field) ++ tail) :
    ∃ s', Gives (adaptationField r) s () s' ∧ rest s' = tail := by
  rw [bitsOf_cons, UInt8.toNat_ofNat', Nat.mod_eq_of_lt hlength, List.append_assoc] at hs
  obtain ⟨s₁, h₁, hs₁⟩ := gives_field (k := 8) h (by decide) hlength hs
  unfold adaptationField
  cases field with
  | nil =>
    refine ⟨s₁, h₁.bind ?_, hs₁⟩
    rw [if_neg (show ¬ 0 < ([] : List UInt8).length from Nat.lt_irrefl 0)]
    exact gives_pure ()
  | cons b l =>
    have hbits : (rest s₁).length = 8 * (b :: l).length + tail.length := by rw [hs₁, List.length_append, length_bitsOf]
    have hne : 0 < (b :: l).length := Nat.succ_pos _
    have hpos : 8 ≤ 8 * (b :: l).length := Nat.le_mul_of_pos_right 8 hne
    have hrequire : decide ((b :: l).length * 8 ≤ (rest s₁).length) = true := decide_eq_true (by rw [hbits]; omega)
    obtain ⟨s₂, h₂, hs₂⟩ := gives_bits (k := 1) h (by decide) (show 1 ≤ (rest s₁).length by omega)
    have hbits₂ : (rest s₂).length = (rest s₁).length - 1 := by rw [hs₂, List.length_drop]
    obtain ⟨s₃, h₃, hs₃⟩ := gives_skip (k := 2) h (show 2 ≤ (rest s₂).length by omega)
    have hbits₃ : (rest s₃).length = (rest s₁).length - 3 := by rw [hs₃, List.length_drop, hbits₂]; rfl
    obtain ⟨s₄, h₄, hs₄⟩ := gives_bits (k := 1) h (by decide) (show 1 ≤ (rest s₃).length by omega)
    have hbits₄ : (rest s₄).length = (rest s₁).length - 4 := by rw [hs₄, List.length_drop, hbits₃]; rfl
    have hall₄ : rest s₄ = (rest s₁).drop 4 := by rw [hs₄, hs₃, hs₂, List.drop_drop, List.drop_drop]
    have hflag : (rest s₃).take 1 = [((bitsOf (b :: l))[3]?).getD false] := by
      have hget : 3 < (bitsOf (b :: l)).length := by rw [length_bitsOf]; omega
      rw [hs₃, hs₂, List.drop_drop, hs₁, List.take_one, List.head?_drop, List.getElem?_append_left hget,
        List.getElem?_eq_getElem hget]
      rfl
    rw [hflag, bitsValue_singleton] at h₄
    cases hpcr : ((bitsOf (b :: l))[3]?).getD false with
    | true =>
      have hroom : 7 ≤ (b :: l).length := by
        refine hclock ?_
        cases hbit : (bitsOf (b :: l))[3]? with
        | none => rw [hbit] at hpcr; cases hpcr
        | some bit => rw [hbit] at hpcr; exact congrArg some hpcr
      have hclockRoom : decide (52 ≤ (b :: l).length * 8) = true := decide_eq_true (by omega)
      obtain ⟨s₅, h₅, hs₅⟩ := gives_skip (k := 4) h (show 4 ≤ (rest s₄).length by omega)
      have hbits₅ : (rest s₅).length = (rest s₁).length - 8 := by rw [hs₅, List.length_drop, hbits₄]; rfl
      obtain ⟨s₆, h₆, hs₆⟩ := gives_bits (k := 32) h (by decide) (show 32 ≤ (rest s₅).length by omega)
      have hbits₆ : (rest s₆).length = (rest s₁).length - 40 := by rw [hs₆, List.length_drop, hbits₅]; rfl
      obtain ⟨s₇, h₇, hs₇⟩ := gives_bits (k := 1) h (by decide) (show 1 ≤ (rest s₆).length by omega)
      have hbits₇ : (rest s₇).length = (rest s₁).length - 41 := by rw [hs₇, List.length_drop, hbits₆]; rfl
      obtain ⟨s₈, h₈, hs₈⟩ := gives_skip (k := 6) h (show 6 ≤ (rest s₇).length by omega)
      have hbits₈ : (rest s₈).length = (rest s₁).length - 47 := by rw [hs₈, List.length_drop, hbits₇]; rfl
      obtain ⟨s₉, h₉, hs₉⟩ := gives_bits (k := 9) h (by decide) (show 9 ≤ (rest s₈).length by omega)
      have hbits₉ : (rest s₉).length = (rest s₁).length - 56 := by rw [hs₉, List.length_drop, hbits₈]; rfl
      obtain ⟨s₁₀, h₁₀, hs₁₀⟩ := gives_skip (k := (b :: l).length * 8 - 56) h (show _ ≤ (rest s₉).length by omega)
      refine ⟨s₁₀, h₁.bind ?_, ?_⟩
      · rw [if_pos hne]
        refine (gives_numBitsLeft h).bind ((gives_require hrequire).bind (h₂.bind (h₃.bind (h₄.bind ?_))))
        rw [hpcr, if_pos (by decide)]
        exact (gives_require hclockRoom).bind (h₅.bind (h₆.bind (h₇.bind (h₈.bind (h₉.bind h₁₀)))))
      · rw [hs₁₀, hs₉, hs₈, hs₇, hs₆, hs₅, hall₄, hs₁]
        simp only [List.drop_drop]
        exact List.drop_left' (by rw [length_bitsOf]; omega)
    | false =>
      obtain ⟨s₅, h₅, hs₅⟩ := gives_skip (k := (b :: l).length * 8 - 4) h (show _ ≤ (rest s₄).length by omega)
      refine ⟨s₅, h₁.bind ?_, ?_⟩
      · rw [if_pos hne]
        refine (gives_numBitsLeft h).bind ((gives_require hrequire).bind (h₂.bind (h₃.bind (h₄.bind ?_))))
        rw [hpcr, if_neg (by decide)]
        exact h₅
      · rw [hs₅, hall₄, hs₁, List.drop_drop]
        exact List.drop_left' (by rw [length_bitsOf]; omega)

theorem syncByte_gives (h : r.Laws rest) {front : List UInt8} (hfront : front = [] ∨ ∃ a l, front = a :: l ∧ l.length = 3 ∧ a ≠ 0x47)
    (hs : rest s = bitsOf (front ++ [0x47]) ++ tail) :
    ∃ s' behind, Gives (syncByte r) s behind s' ∧ rest s' = tail := by
  unfold syncByte
  obtain rfl | ⟨a, l, rfl, hl, ha⟩ := hfront
  · obtain ⟨s₁, h₁, hs₁⟩ := gives_field (k := 8) (n := 0x47) h (by decide) (by decide) hs
    exact ⟨s₁, false, h₁.bind (gives_pure false), hs₁⟩
  · rw [List.cons_append, bitsOf_cons, bitsOf_append, List.append_assoc, List.append_assoc] at hs
    obtain ⟨s₁, h₁, hs₁⟩ := gives_field (k := 8) h (by decide) a.toNat_lt hs
    have hlength : (bitsOf l).length = 24 := by rw [length_bitsOf, hl]
    obtain ⟨s₂, h₂, hs₂⟩ := gives_bits (k := 24) h (by decide)
      (show 24 ≤ (rest s₁).length by rw [hs₁, List.length_append, hlength]; exact Nat.le_add_right _ _)
    rw [hs₁, List.drop_left' hlength] at hs₂
    obtain ⟨s₃, h₃, hs₃⟩ := gives_field (k := 8) (n := 0x47) h (by decide) (by decide) hs₂
    refine ⟨s₃, true, h₁.bind ?_, hs₃⟩
    have hne : a.toNat ≠ 0x47 := fun heq => ha (UInt8.toNat_inj.mp heq)
    rw [if_neg hne]
    exact h₂.bind (h₃.bind ((gives_require rfl).bind (gives_pure true)))

end Reading

/-- A reader has some bytes left. -/
structure Left (r : BitReader σ) (rest : σ → List Bool) (br : ABitReader σ) (bytes : List UInt8) : Prop where
  bits : rest br.state = bitsOf bytes
  suffix : bytes <:+ br.bytes

section Left
variable {r : BitReader σ} {rest : σ → List Bool} {br : ABitReader σ} {bytes : List UInt8}

theorem Left.numBitsLeft (hbr : Left r rest br bytes) (h : r.Laws rest) : br.numBitsLeft r = 8 * bytes.length := by
  rw [ABitReader.numBitsLeft, h.numBitsLeft, hbr.bits, length_bitsOf]

theorem Left.data (hbr : Left r rest br bytes) (h : r.Laws rest) : br.data r = bytes := by
  obtain ⟨before, hbytes⟩ := hbr.suffix
  have hdrop : br.bytes.length - (8 * bytes.length + 7) / 8 = before.length := by
    rw [← hbytes, List.length_append]
    omega
  rw [ABitReader.data, hbr.numBitsLeft h, hdrop, ← hbytes, List.drop_left]

theorem ABitReader.read_gives {α : Type} {p : HeaderReader σ α} {a : α} {s' : σ} (h : HeaderReader.Gives p br.state a s') :
    br.read p = some (.ok a, { br with state := s' }) := by
  rw [ABitReader.read, h]
  rfl

end Left

section Feeding
open ATSParser
variable {fw : TsFramework σ φ} {rest : σ → List Bool} {parser : ATSParser φ} {p : TsPacket} {event : Option SyncEvent}

theorem adaptation_gives {br : ABitReader σ} (h : fw.reader.Laws rest) (hp : p.Sound)
    (hbr : Left fw.reader rest br (p.adaptationBytes ++ p.payload)) :
    ∃ br', Left fw.reader rest br' p.payload ∧
      if p.tsHeader.adaptationFieldControl = 2 ∨ p.tsHeader.adaptationFieldControl = 3 then
        br.read (adaptationField fw.reader) = some (.ok (), br')
      else br = br' := by
  have hsize := hp.size
  have hsuffix : p.payload <:+ br.bytes := (List.suffix_append p.adaptationBytes p.payload).trans hbr.suffix
  have hbits := hbr.bits
  rw [hp.control]
  cases hfield : p.adaptation with
  | none =>
    have hempty : p.adaptationBytes = [] := by rw [TsPacket.adaptationBytes, hfield]; rfl
    rw [hempty] at hbr
    refine ⟨br, hbr, ?_⟩
    rw [if_neg (by by_cases hpayload : p.payload = [] <;> simp [hpayload])]
  | some field =>
    have hbytes : p.adaptationBytes = UInt8.ofNat field.length :: field := by rw [TsPacket.adaptationBytes, hfield]; rfl
    rw [hbytes, List.length_cons] at hsize
    rw [hbytes, bitsOf_append] at hbits
    obtain ⟨s', hs', hrest⟩ := adaptationField_gives h (show field.length < 256 by omega) (hp.clock field hfield) hbits
    refine ⟨{ br with state := s' }, ⟨hrest, hsuffix⟩, ?_⟩
    rw [if_pos (by by_cases hpayload : p.payload = [] <;> simp [hpayload])]
    exact ABitReader.read_gives hs'

theorem feedTSPacket_reads (parser : ATSParser φ) (event : Option SyncEvent) (h : fw.reader.Laws rest) (hp : p.Sound) :
    ∃ br kTSPacketSize, Left fw.reader rest br p.payload ∧
      parser.feedTSPacket fw p.bytes event =
        if p.transportError then some (.ok, { parser with kTSPacketSize }, event)
        else if p.payload = [] then
          some (.ok, { parser with kTSPacketSize, mNumTSPacketsParsed := parser.mNumTSPacketsParsed + 1 }, event)
        else
          (parsePID fw { parser with kTSPacketSize } p.tsHeader br event).map fun result =>
            (result.1, { result.2.1 with mNumTSPacketsParsed := result.2.1.mNumTSPacketsParsed + 1 }, result.2.2) := by
  have hlength : p.bytes.length = 192 ∨ p.bytes.length = 188 := by
    have hsize := hp.size
    rw [TsPacket.bytes, List.length_append, List.length_cons, List.length_append, length_beBytes, List.length_append, hsize]
    obtain hfront | ⟨a, l, hfront, hl, -⟩ := hp.front
    · exact .inr (by rw [hfront]; rfl)
    · exact .inl (by rw [hfront, List.length_cons, hl])
  have hbits : rest (ABitReader.new fw.reader p.bytes).state =
      bitsOf (p.front ++ [0x47]) ++ (toBits 24 p.header ++ bitsOf (p.adaptationBytes ++ p.payload)) := by
    rw [← bitsOf_beBytes 3, ← bitsOf_append, ← bitsOf_append, List.append_assoc]
    exact h.ofBytes p.bytes
  obtain ⟨s₁, behind, h₁, hs₁⟩ := syncByte_gives h hp.front hbits
  have hheader := tsHeader_gives h hs₁
  have hsize : p.bytes.length = (if p.bytes.length = 192 ∨ p.bytes.length = 188 then
    { parser with kTSPacketSize := p.bytes.length } else parser).kTSPacketSize := by rw [if_pos hlength]
  unfold feedTSPacket
  dsimp only
  rw [if_neg (not_not_intro hsize), if_pos hlength]
  unfold parseTS
  rw [ABitReader.read_gives h₁]
  obtain ⟨k, hk⟩ : ∃ k, (if behind then { parser with kTSPacketSize := 192 } else
      { parser with kTSPacketSize := p.bytes.length } : ATSParser φ) = { parser with kTSPacketSize := k } := by
    cases behind <;> exact ⟨_, rfl⟩
  dsimp only
  rw [hk]
  by_cases herror : p.transportError
  · rw [if_pos herror] at hheader
    obtain ⟨s₂, h₂⟩ := hheader
    refine ⟨.new fw.reader p.payload, k, ⟨h.ofBytes _, List.suffix_refl _⟩, ?_⟩
    rw [ABitReader.read_gives h₂, if_pos herror]
  · rw [if_neg herror] at hheader
    obtain ⟨s₂, h₂, hs₂⟩ := hheader
    have hleft : Left fw.reader rest { ABitReader.new fw.reader p.bytes with state := s₂ } (p.adaptationBytes ++ p.payload) :=
      ⟨hs₂, (List.suffix_append _ _).trans ((List.suffix_cons _ _).trans (List.suffix_append _ _))⟩
    obtain ⟨br, hbr, hread⟩ := adaptation_gives h hp hleft
    refine ⟨br, k, hbr, ?_⟩
    rw [ABitReader.read_gives h₂, if_neg herror]
    dsimp only
    by_cases hpayload : p.payload = []
    · have hcontrol : ¬ (p.tsHeader.adaptationFieldControl = 1 ∨ p.tsHeader.adaptationFieldControl = 3) := by
        rw [hp.control, if_pos hpayload]
        cases p.adaptation <;> simp
      simp only [if_neg hcontrol, if_pos hpayload]
      split at hread
      · next hfield =>
        rw [if_pos hfield, hread]
        rfl
      · next hfield =>
        rw [if_neg hfield]
        rfl
    · have hcontrol : p.tsHeader.adaptationFieldControl = 1 ∨ p.tsHeader.adaptationFieldControl = 3 := by
        rw [hp.control, if_neg hpayload]
        cases p.adaptation <;> simp
      simp only [if_pos hcontrol, if_neg hpayload]
      split at hread
      · next hfield =>
        simp only [if_pos hfield, hread, Option.bind_eq_bind, Option.bind_some]
        cases parsePID fw { parser with kTSPacketSize := k } p.tsHeader br event <;> rfl
      · next hfield =>
        simp only [if_neg hfield, hread, Option.bind_eq_bind, Option.bind_some]
        cases parsePID fw { parser with kTSPacketSize := k } p.tsHeader br event <;> rfl

/-- What a packet does that is not one of a section: its payload is for the first program that has a stream with its PID. -/
theorem feedTSPacket_sound (h : fw.reader.Laws rest) (hp : p.Sound) (hpsi : parser.mPSISections.get? p.tsHeader.pid = none) :
    ∃ br kTSPacketSize mNumTSPacketsParsed, Left fw.reader rest br p.payload ∧
      parser.feedTSPacket fw p.bytes event =
        (if p.transportError ∨ p.payload = [] then some (.ok, parser.mPrograms, event)
          else
            (firstProgram (fun program => program.parsePID fw parser.base p.tsHeader.pid p.tsHeader.continuityCounter
              p.tsHeader.payloadUnitStart br event) parser.mPrograms).map fun result =>
                (result.1.elim .ok (·.1), result.2, result.1.elim event (·.2))).map fun result =>
          (result.1, { parser with kTSPacketSize, mNumTSPacketsParsed, mPrograms := result.2.1 }, result.2.2) := by
  obtain ⟨br, k, hbr, hfeed⟩ := feedTSPacket_reads parser event h hp
  by_cases herror : p.transportError
  · have hskip : p.transportError ∨ p.payload = [] := .inl herror
    refine ⟨br, k, parser.mNumTSPacketsParsed, hbr, ?_⟩
    rw [hfeed, if_pos herror, if_pos hskip]
    rfl
  · refine ⟨br, k, parser.mNumTSPacketsParsed + 1, hbr, ?_⟩
    rw [hfeed, if_neg herror]
    by_cases hpayload : p.payload = []
    · have hskip : p.transportError ∨ p.payload = [] := .inr hpayload
      rw [if_pos hpayload, if_pos hskip]
      rfl
    · rw [if_neg hpayload, if_neg (not_or_intro herror hpayload)]
      simp only [parsePID, hpsi]
      cases firstProgram _ parser.mPrograms <;> rfl

end Feeding

/-! ### One stream -/

namespace Stream
variable {fw : TsFramework σ φ} {base : TimeBase} {s : Stream φ} {c : StreamCall φ}

/-- What a stream has of a PES packet. -/
def assembler (s : Stream φ) : Assembler UInt8 Int where
  expected := s.mExpectedContinuityCounter
  started := s.mPayloadStarted
  held := s.mBuffer.data
  mark := s.mPesStartOffset

/-- A stream with other fields of its assembler. -/
def assembling (s : Stream φ) (expected : Option Nat) (started : Bool) (buffer : ABuffer) : Stream φ :=
  { s with mExpectedContinuityCounter := expected, mPayloadStarted := started, mBuffer := buffer }

/-- A stream without what it has of a PES packet. -/
def outlet (s : Stream φ) : Stream φ := { s.assembling none false noBuffer with mPesStartOffset := 0 }

/-- A PES packet that began at an offset goes to a stream. -/
def deliver (fw : TsFramework σ φ) (base : TimeBase) (c : StreamCall φ) (unit : List UInt8 × Int) : Option (StreamCall φ) :=
  (parsePES fw base { c with stream := { c.stream with mPesStartOffset := unit.2 } } unit.1).map fun result =>
    { result.2 with stream := result.2.stream.outlet }

section Assembling
variable (expected : Option Nat) (started : Bool) (buffer : ABuffer)

theorem queueUnit_assembling (accessUnit : AccessUnit) (format : Option (Format φ)) :
    queueUnit fw (s.assembling expected started buffer) accessUnit format =
      (queueUnit fw s accessUnit format).map fun r => (r.1.assembling expected started buffer, r.2) := by
  unfold queueUnit
  have hsource : (s.assembling expected started buffer).mSource = s.mSource := rfl
  rw [hsource]
  cases s.mSource <;> cases format
  · rfl
  · dsimp only
    split
    · rfl
    · simp only [Option.bind_eq_bind, Option.map_bind]
      refine congrArg (Option.bind _) (funext fun source => ?_)
      simp only [Function.comp_apply, Option.map_bind]
      cases (source.queueAccessUnit accessUnit.toPacket).toOption <;> rfl
  · rfl
  · simp only [Option.bind_eq_bind, Option.map_bind]
    refine congrArg (Option.bind _) (funext fun r => ?_)
    simp only [Function.comp_apply]
    split
    · simp only [Option.map_bind]
      refine congrArg (Option.bind _) (funext fun source => ?_)
      simp only [Function.comp_apply, Option.map_bind]
      cases (source.queueAccessUnit accessUnit.toPacket).toOption <;> rfl
    · simp only [Option.bind_some, Option.map_bind]
      cases (r.2.queueAccessUnit accessUnit.toPacket).toOption <;> rfl

theorem queueUnits_assembling (units : List (AccessUnit × Option (Format φ))) :
    ∀ (s : Stream φ) (event : Option SyncEvent) (found : Bool),
      queueUnits fw (s.assembling expected started buffer) event found units =
        (queueUnits fw s event found units).map fun r => (r.1.assembling expected started buffer, r.2) := by
  induction units with
  | nil => exact fun _ _ _ => rfl
  | cons unit units ih =>
    intro s event found
    rw [queueUnits, queueUnits, queueUnit_assembling]
    cases queueUnit fw s unit.1 unit.2 with
    | none => rfl
    | some r =>
      simp only [Option.map_some]
      split
      · exact ih _ _ _
      · exact ih _ _ _

theorem onPayloadData_assembling (payload : PesPayload) (data : List UInt8) :
    onPayloadData fw base { c with stream := c.stream.assembling expected started buffer } payload data =
      (onPayloadData fw base c payload data).map fun r =>
        { r with stream := r.stream.assembling expected started buffer } := by
  unfold onPayloadData
  have hqueue : (c.stream.assembling expected started buffer).mQueue = c.stream.mQueue := rfl
  dsimp only
  rw [hqueue]
  cases c.stream.mQueue with
  | none => rfl
  | some queue =>
    simp only [Option.bind_eq_bind, Option.map_bind]
    refine congrArg (Option.bind _) (funext fun r => ?_)
    simp only [Function.comp_apply, Option.map_bind]
    change (queueUnits fw (assembling { c.stream with mQueue := some r.2 } expected started buffer) c.event false r.1).bind _ = _
    rw [queueUnits_assembling]
    cases queueUnits fw { c.stream with mQueue := some r.2 } c.event false r.1 <;> rfl

theorem parsePES_assembling (data : List UInt8) :
    parsePES fw base { c with stream := c.stream.assembling expected started buffer } data =
      (parsePES fw base c data).map fun r =>
        (r.1, { r.2 with stream := r.2.stream.assembling expected started buffer }) := by
  unfold parsePES
  split
  · rfl
  · rfl
  · rfl
  · next payload br _ =>
    rw [onPayloadData_assembling]
    cases onPayloadData fw base c payload ((br.data fw.reader).take payload.size) with
    | none => rfl
    | some c' => cases br.read (pesEnd fw.reader payload) <;> simp

end Assembling

theorem queueUnit_keeps {accessUnit : AccessUnit} {format : Option (Format φ)} {r : Stream φ × Bool}
    (h : queueUnit fw s accessUnit format = some r) : ∃ source, r.1 = { s with mSource := source } := by
  unfold queueUnit at h
  split at h
  · cases h
    exact ⟨s.mSource, rfl⟩
  · split at h
    · cases h
      exact ⟨s.mSource, rfl⟩
    · obtain ⟨_, -, h⟩ := Option.bind_eq_some_iff.mp h
      obtain ⟨source, -, h⟩ := Option.bind_eq_some_iff.mp h
      cases h
      exact ⟨some source, rfl⟩
  · cases h
    exact ⟨s.mSource, rfl⟩
  · obtain ⟨r', -, h⟩ := Option.bind_eq_some_iff.mp h
    dsimp only at h
    split at h
    all_goals
      obtain ⟨_, -, h⟩ := Option.bind_eq_some_iff.mp h
      obtain ⟨source, -, h⟩ := Option.bind_eq_some_iff.mp h
      cases h
      exact ⟨some source, rfl⟩

theorem queueUnits_keeps {units : List (AccessUnit × Option (Format φ))} :
    ∀ {s : Stream φ} {event : Option SyncEvent} {found : Bool} {r : Stream φ × Option SyncEvent},
      queueUnits fw s event found units = some r → ∃ source, r.1 = { s with mSource := source } := by
  induction units with
  | nil =>
    rintro s event found r ⟨⟩
    exact ⟨s.mSource, rfl⟩
  | cons unit units ih =>
    intro s event found r h
    rw [queueUnits] at h
    split at h
    · cases h
    · next s' goesOn hunit =>
      obtain ⟨source, hsource⟩ := queueUnit_keeps hunit
      obtain rfl : s' = { s with mSource := source } := hsource
      dsimp only at h
      split at h
      all_goals
        obtain ⟨source', hsource'⟩ := ih h
        exact ⟨source', hsource'⟩

theorem parsePES_keeps {data : List UInt8} {r : Status × StreamCall φ} (h : parsePES fw base c data = some r) :
    ∃ queue source, r.2.stream = { c.stream with mQueue := queue, mSource := source } ∧
      (c.stream.mQueue.isSome = true → queue.isSome = true) := by
  unfold parsePES at h
  split at h
  · cases h
  · cases h
    exact ⟨_, _, rfl, id⟩
  · cases h
    exact ⟨_, _, rfl, id⟩
  · obtain ⟨c', hc', h⟩ := Option.bind_eq_some_iff.mp h
    obtain ⟨_, -, h⟩ := Option.bind_eq_some_iff.mp h
    cases h
    unfold onPayloadData at hc'
    split at hc'
    · cases hc'
    · obtain ⟨taken, -, h⟩ := Option.bind_eq_some_iff.mp hc'
      obtain ⟨queued, hqueued, h⟩ := Option.bind_eq_some_iff.mp h
      cases h
      obtain ⟨source, hsource⟩ := queueUnits_keeps hqueued
      exact ⟨some taken.2, source, hsource, fun _ => rfl⟩

theorem parsePES_deliver (data : List UInt8) :
    (parsePES fw base c data).map (fun r => { r.2 with stream := r.2.stream.outlet }) =
      deliver fw base { c with stream := c.stream.outlet } (data, c.stream.mPesStartOffset) := by
  unfold deliver
  have hstream : ({ c.stream.outlet with mPesStartOffset := c.stream.mPesStartOffset } : Stream φ) =
      c.stream.assembling none false noBuffer := rfl
  dsimp only
  rw [hstream, parsePES_assembling, Option.map_map]
  rfl

/-- The call with its stream as an outlet. -/
def toOutlet (c : StreamCall φ) : StreamCall φ := { c with stream := c.stream.outlet }

/-- What a payload is to the assembler of its stream: it is marked with the offset of the event that it comes with. -/
def fragment (continuityCounter : Nat) (payloadUnitStart : Bool) (data : List UInt8) (event : Option SyncEvent) :
    Fragment UInt8 Int where
  counter := continuityCounter
  start := payloadUnitStart
  data := data
  mark := event.elim 0 (·.mOffset)

/-- A call of a stream did what its assembler does, and what that handed over was delivered. -/
structure Assembles (fw : TsFramework σ φ) (base : TimeBase) (c : StreamCall φ) (result : Option (Status × StreamCall φ))
    (step : Assembler UInt8 Int × Option (List UInt8 × Int)) : Prop where
  delivered : result.map (fun r => toOutlet r.2) = step.2.elim (some (toOutlet c)) (deliver fw base (toOutlet c))
  assembler : ∀ r ∈ result, r.2.stream.assembler = step.1
  queue : ∀ r ∈ result, r.2.stream.mQueue.isSome = true

/-- A stream that has no payload yet. -/
structure Fresh (s : Stream φ) : Prop where
  expected : s.mExpectedContinuityCounter = none
  started : s.mPayloadStarted = false
  buffer : s.mBuffer.data = []

theorem Fresh.assembler_eq (h : s.Fresh) : s.assembler = ⟨none, false, [], s.mPesStartOffset⟩ := by
  unfold assembler
  rw [h.expected, h.started, h.buffer]

theorem assembler_accumulate (s : Stream φ) (data : List UInt8) :
    (s.accumulate data).assembler = { s.assembler with held := s.mBuffer.data ++ data } := by
  unfold accumulate assembler
  rw [ABuffer.data_append]

theorem assembles_start {data : List UInt8} {offset : Int} {next : Option Nat} (hqueue : c.stream.mQueue.isSome = true)
    (hbuffer : c.stream.mBuffer.data = []) :
    Assembles fw base c
      (some (.ok, { c with
        stream := { c.stream with mExpectedContinuityCounter := next, mPayloadStarted := true, mPesStartOffset := offset }.accumulate
          data }))
      (⟨next, true, data, offset⟩, none) where
  delivered := rfl
  assembler := by
    rintro r ⟨⟩
    dsimp only
    rw [assembler_accumulate]
    exact congrArg (Assembler.mk next true · offset) (by rw [hbuffer, List.nil_append])
  queue := by
    rintro r ⟨⟩
    exact hqueue

theorem assembles_flush {data : List UInt8} {offset : Int} {next : Option Nat} (hqueue : c.stream.mQueue.isSome = true) :
    Assembles fw base c
      ((parsePES fw base { c with stream := { c.stream with mExpectedContinuityCounter := next } } c.stream.mBuffer.data).map
        fun r => (.ok, { r.2 with
          stream := { r.2.stream with mBuffer := r.2.stream.mBuffer.clear, mPayloadStarted := true, mPesStartOffset := offset
            }.accumulate data }))
      (⟨next, true, data, offset⟩, some (c.stream.mBuffer.data, c.stream.mPesStartOffset)) := by
  have hkeeps := fun r => @parsePES_keeps _ _ fw base { c with stream := { c.stream with mExpectedContinuityCounter := next } }
    c.stream.mBuffer.data r
  have hdeliver := @parsePES_deliver _ _ fw base { c with stream := { c.stream with mExpectedContinuityCounter := next } }
    c.stream.mBuffer.data
  refine ⟨?_, ?_, ?_⟩
  · rw [Option.map_map]
    exact hdeliver
  · intro r hr
    obtain ⟨r', hr', rfl⟩ := Option.map_eq_some_iff.mp hr
    obtain ⟨queue, source, hstream, -⟩ := hkeeps r' hr'
    dsimp only
    rw [assembler_accumulate, hstream]
    rfl
  · intro r hr
    obtain ⟨r', hr', rfl⟩ := Option.map_eq_some_iff.mp hr
    obtain ⟨queue, source, hstream, hsome⟩ := hkeeps r' hr'
    dsimp only
    rw [hstream]
    exact hsome hqueue

section Parse
variable {rest : σ → List Bool} {br : ABitReader σ} {data : List UInt8} {continuityCounter : Nat} {payloadUnitStart : Bool}

theorem parseCounted_assembles (h : fw.reader.Laws rest) (hbr : Left fw.reader rest br data)
    (hqueue : c.stream.mQueue.isSome = true) (hsettled : c.stream.mPayloadStarted = false → c.stream.mBuffer.data = []) :
    Assembles fw base c (parseCounted fw base c continuityCounter payloadUnitStart br)
      (c.stream.assembler.goesOn 16 (fragment continuityCounter payloadUnitStart data c.event)) := by
  have hcounter : (continuityCounter + 1) &&& 0x0f = (continuityCounter + 1) % 16 := Nat.and_two_pow_sub_one_eq_mod _ 4
  have haligned : ¬ br.numBitsLeft fw.reader % 8 ≠ 0 := by rw [hbr.numBitsLeft h, Nat.mul_mod_right]; exact fun hne => hne rfl
  have hdata : (br.data fw.reader).take (br.numBitsLeft fw.reader / 8) = data := by
    rw [hbr.data h, hbr.numBitsLeft h, Nat.mul_div_cancel_left _ (by decide), List.take_length]
  unfold parseCounted
  rw [hcounter]
  simp only [hdata, haligned, if_false]
  cases hstarted : c.stream.mPayloadStarted with
  | false =>
    cases payloadUnitStart with
    | false =>
      rw [Assembler.goesOn_unknown hstarted rfl]
      refine ⟨?_, ?_, ?_⟩
      · rfl
      · rintro r ⟨⟩
        exact congrArg (Assembler.mk _ · _ _) hstarted.symm
      · rintro r ⟨⟩
        exact hqueue
    | true =>
      rw [Assembler.goesOn_first hstarted rfl]
      exact assembles_start hqueue (hsettled hstarted)
  | true =>
    unfold Assembler.goesOn
    cases payloadUnitStart with
    | false =>
      have hgoesOn : c.stream.assembler.started = true := hstarted
      simp only [hgoesOn]
      refine ⟨?_, ?_, ?_⟩
      · rfl
      · rintro r ⟨⟩
        dsimp only
        rw [assembler_accumulate]
        rfl
      · rintro r ⟨⟩
        exact hqueue
    | true =>
      by_cases hempty : c.stream.mBuffer.data = []
      · have hnone : ¬ (c.stream.assembler.started = true ∧ c.stream.assembler.held ≠ []) := fun hboth => hboth.2 hempty
        have hflush : c.stream.mBuffer.size = 0 := List.length_eq_zero_iff.mpr hempty
        simp only [flush, hflush, if_neg hnone]
        exact assembles_start hqueue hempty
      · have hunit : c.stream.assembler.started = true ∧ c.stream.assembler.held ≠ [] := ⟨hstarted, hempty⟩
        have hflush : ¬ c.stream.mBuffer.size = 0 := fun hsize => hempty (List.length_eq_zero_iff.mp hsize)
        simp only [flush, hflush, if_pos hunit]
        have hassembles := @assembles_flush _ _ fw base c data (c.event.elim 0 (·.mOffset))
          (some ((continuityCounter + 1) % 16)) hqueue
        dsimp only at hassembles
        rw [hstarted] at hassembles
        convert hassembles using 1
        · generalize parsePES fw base _ c.stream.mBuffer.data = result
          cases result <;> rfl
        · rfl

theorem parse_assembles (h : fw.reader.Laws rest) (hbr : Left fw.reader rest br data)
    (hqueue : c.stream.mQueue.isSome = true) (hsettled : c.stream.mPayloadStarted = false → c.stream.mBuffer.data = []) :
    Assembles fw base c (parse fw base c continuityCounter payloadUnitStart br)
      (c.stream.assembler.step 16 (fragment continuityCounter payloadUnitStart data c.event)) := by
  have hnotNone : ¬ c.stream.mQueue.isNone = true := by
    rw [Option.isNone_iff_eq_none]
    intro hnone
    rw [hnone] at hqueue
    cases hqueue
  unfold parse Assembler.step
  rw [if_neg hnotNone]
  cases hdiscontinuous : c.stream.isDiscontinuous continuityCounter with
  | false =>
    have hany : ¬ c.stream.assembler.expected.any (· ≠ (fragment continuityCounter payloadUnitStart data c.event).counter) := by
      rw [Bool.not_eq_true]
      exact hdiscontinuous
    rw [if_neg Bool.false_ne_true, if_neg hany]
    exact parseCounted_assembles h hbr hqueue hsettled
  | true =>
    have hany : c.stream.assembler.expected.any (· ≠ (fragment continuityCounter payloadUnitStart data c.event).counter) :=
      hdiscontinuous
    rw [if_pos rfl, if_pos hany]
    cases payloadUnitStart with
    | false =>
      refine ⟨rfl, ?_, ?_⟩
      · rintro r ⟨⟩
        rfl
      · rintro r ⟨⟩
        exact hqueue
    | true =>
      have hcounted := @parseCounted_assembles _ _ fw base { c with
        stream := { c.stream with mPayloadStarted := false, mBuffer := c.stream.mBuffer.clear, mExpectedContinuityCounter := none } }
        rest br data continuityCounter true h hbr hqueue fun _ => rfl
      exact ⟨hcounted.delivered, hcounted.assembler, hcounted.queue⟩

end Parse

end Stream

/-! ### All streams -/

/-- The first stream with a PID. -/
def streamOf (programs : List (Program φ)) (pid : Nat) : Option (Stream φ) := programs.findSome? fun p => p.mStreams.get? pid

/-- There is a stream with a PID that takes what it gets. -/
def carries (programs : List (Program φ)) (pid : Nat) : Bool := (streamOf programs pid).any (·.mQueue.isSome)

def Program.outlets (p : Program φ) : Program φ := { p with mStreams := p.mStreams.map Stream.outlet }

/-- A program after a call of one of its streams. -/
def Program.put (p : Program φ) (pid : Nat) (c : StreamCall φ) : Program φ :=
  { p with mStreams := p.mStreams.add pid c.stream, pts := c.pts }

theorem Program.outlets_put (p : Program φ) (pid : Nat) (c : StreamCall φ) :
    (p.put pid c).outlets = p.outlets.put pid (Stream.toOutlet c) :=
  congrArg (fun mStreams => ({ p with mStreams, pts := c.pts } : Program φ)) (KeyedVector.map_add _ _ _ _)

/-- A PES packet goes to the first stream with its PID. -/
def deliver (fw : TsFramework σ φ) (base : TimeBase) (programs : List (Program φ)) (event : Option SyncEvent)
    (unit : Nat × List UInt8 × Int) : Option (List (Program φ) × Option SyncEvent) :=
  (firstProgram
    (fun program =>
      match program.mStreams.get? unit.1 with
      | none => some (none, program)
      | some stream =>
        (Stream.deliver fw base { stream, pts := program.pts, event } unit.2).map fun c =>
          (some c.event, program.put unit.1 c))
    programs).map fun r => (r.2, r.1.getD event)

section Programs
variable {fw : TsFramework σ φ} {base : TimeBase} {programs before after : List (Program φ)} {program : Program φ} {pid : Nat}
  {stream : Stream φ} {event : Option SyncEvent} {live : Nat → Bool} {s : Nat → Assembler UInt8 Int}

theorem firstProgram_append {α : Type} {take : Program φ → Option (Option α × Program φ)}
    (hbefore : ∀ p ∈ before, take p = some (none, p)) :
    firstProgram take (before ++ programs) = (firstProgram take programs).map fun r => (r.1, before ++ r.2) := by
  induction before with
  | nil => exact (Option.map_id_fun' ▸ rfl : firstProgram take programs = (firstProgram take programs).map fun r => (r.1, r.2))
  | cons p before ih =>
    rw [List.cons_append, firstProgram, hbefore p List.mem_cons_self]
    dsimp only
    rw [ih fun q hq => hbefore q (List.mem_cons_of_mem _ hq), Option.map_map]
    rfl

theorem streamOf_append (hbefore : ∀ p ∈ before, p.mStreams.get? pid = none) (program : Program φ) (after : List (Program φ)) :
    streamOf (before ++ program :: after) pid = (program.mStreams.get? pid).or (streamOf after pid) := by
  unfold streamOf
  rw [List.findSome?_append, List.findSome?_eq_none_iff.mpr hbefore, Option.none_or, List.findSome?_cons]
  cases program.mStreams.get? pid <;> rfl

theorem firstProgram_found {α : Type} {take : Program φ → Option (Option α × Program φ)} {x : Option (α × Program φ)}
    (hbefore : ∀ p ∈ before, take p = some (none, p)) (htake : take program = x.map fun a => (some a.1, a.2)) :
    firstProgram take (before ++ program :: after) = x.map fun a => (some a.1, before ++ a.2 :: after) := by
  rw [firstProgram_append hbefore, firstProgram, htake]
  cases x <;> rfl

theorem streamOf_put (hbefore : ∀ p ∈ before, p.mStreams.get? pid = none) (c : StreamCall φ) (pid' : Nat) :
    streamOf (before ++ program.put pid c :: after) pid' =
      if pid' = pid then some c.stream else streamOf (before ++ program :: after) pid' := by
  split
  · next heq =>
    subst heq
    rw [streamOf_append hbefore, Program.put, KeyedVector.get?_add_self]
    rfl
  · next hne =>
    simp only [streamOf, List.findSome?_append, List.findSome?_cons, Program.put, KeyedVector.get?_add_of_ne _ hne]

/-- What the assembler of a PID does with a payload; there may be none. -/
def streamStep (live : Nat → Bool) (pid : Nat) (a : Assembler UInt8 Int) (f : Fragment UInt8 Int) :
    Assembler UInt8 Int × Option (List UInt8 × Int) := if live pid then a.step 16 f else (a, none)

/-- The streams are where their assemblers are. -/
structure Running (programs : List (Program φ)) (live : Nat → Bool) (s : Nat → Assembler UInt8 Int) : Prop where
  assembler : ∀ pid, ∀ stream ∈ streamOf programs pid, stream.assembler = s pid
  live : ∀ pid, carries programs pid = live pid
  settled : ∀ pid, (s pid).Settled

theorem Running.put (hrun : Running (before ++ program :: after) live s) (hbefore : ∀ p ∈ before, p.mStreams.get? pid = none)
    {c : StreamCall φ} (hqueue : c.stream.mQueue.isSome = live pid) (hsettled : c.stream.assembler.Settled) :
    Running (before ++ program.put pid c :: after) live (Function.update s pid c.stream.assembler) := by
  refine ⟨?_, ?_, ?_⟩
  · intro pid' stream' hstream'
    rw [streamOf_put hbefore] at hstream'
    by_cases hpid : pid' = pid
    · rw [if_pos hpid] at hstream'
      cases hstream'
      rw [hpid, Function.update_self]
    · rw [if_neg hpid] at hstream'
      rw [Function.update_of_ne hpid]
      exact hrun.assembler pid' stream' hstream'
  · intro pid'
    by_cases hpid : pid' = pid
    · rw [carries, streamOf_put hbefore, if_pos hpid, hpid]
      exact hqueue
    · rw [carries, streamOf_put hbefore, if_neg hpid]
      exact hrun.live pid'
  · intro pid'
    by_cases hpid : pid' = pid
    · rw [hpid, Function.update_self]
      exact hsettled
    · rw [Function.update_of_ne hpid]
      exact hrun.settled pid'

theorem deliver_found (hbefore : ∀ p ∈ before, p.mStreams.get? pid = none) (hstream : program.mStreams.get? pid = some stream)
    (unit : List UInt8 × Int) :
    deliver fw base (before ++ program :: after) event (pid, unit) =
      (Stream.deliver fw base { stream, pts := program.pts, event } unit).map fun c =>
        (before ++ program.put pid c :: after, c.event) := by
  unfold deliver
  rw [firstProgram_found (x := (Stream.deliver fw base { stream, pts := program.pts, event } unit).map fun c =>
    (c.event, program.put pid c)), Option.map_map, Option.map_map]
  · rfl
  · intro p hp
    rw [hbefore p hp]
  · rw [hstream, Option.map_map]
    rfl

theorem parsePID_found (br : ABitReader σ) (continuityCounter : Nat) (payloadUnitStart : Bool)
    (hbefore : ∀ p ∈ before, p.mStreams.get? pid = none) (hstream : program.mStreams.get? pid = some stream) :
    firstProgram (fun program => program.parsePID fw base pid continuityCounter payloadUnitStart br event)
        (before ++ program :: after) =
      (Stream.parse fw base { stream, pts := program.pts, event } continuityCounter payloadUnitStart br).map
        fun r => (some (r.1, r.2.event), before ++ program.put pid r.2 :: after) := by
  rw [firstProgram_found (x := (Stream.parse fw base { stream, pts := program.pts, event } continuityCounter payloadUnitStart
    br).map fun r => ((r.1, r.2.event), program.put pid r.2)), Option.map_map]
  · rfl
  · intro p hp
    rw [Program.parsePID, hbefore p hp]
  · rw [Program.parsePID, hstream, Option.map_map]
    rfl

section Feed
variable {rest : σ → List Bool} {br : ABitReader σ} {data : List UInt8} {continuityCounter : Nat} {payloadUnitStart : Bool}

theorem Running.feed_stream (h : fw.reader.Laws rest) (hbr : Left fw.reader rest br data)
    (hrun : Running (before ++ program :: after) live s) (hbefore : ∀ p ∈ before, p.mStreams.get? pid = none)
    (hstream : program.mStreams.get? pid = some stream) (hlive : live pid = true) :
    let step := sideBySide (streamStep live) s (pid, Stream.fragment continuityCounter payloadUnitStart data event)
    let result := firstProgram (fun program => program.parsePID fw base pid continuityCounter payloadUnitStart br event)
      (before ++ program :: after)
    result.map (fun r => (r.2.map Program.outlets, r.1.elim event (·.2))) =
        step.2.elim (some ((before ++ program :: after).map Program.outlets, event))
          (deliver fw base ((before ++ program :: after).map Program.outlets) event) ∧
      ∀ r ∈ result, Running r.2 live step.1 := by
  intro step result
  have hof : streamOf (before ++ program :: after) pid = some stream := by rw [streamOf_append hbefore, hstream]; rfl
  have hassembler := hrun.assembler pid stream hof
  have hsettled : stream.assembler.Settled := hassembler ▸ hrun.settled pid
  have hqueue : stream.mQueue.isSome = true := by
    have hcarries := hrun.live pid
    rw [carries, hof, hlive] at hcarries
    exact hcarries
  have hassembles := @Stream.parse_assembles _ _ fw base { stream, pts := program.pts, event } rest br data continuityCounter
    payloadUnitStart h hbr hqueue hsettled
  have hstep : step = (Function.update s pid (stream.assembler.step 16
      (Stream.fragment continuityCounter payloadUnitStart data event)).1,
        (stream.assembler.step 16 (Stream.fragment continuityCounter payloadUnitStart data event)).2.map (pid, ·)) := by
    unfold step sideBySide streamStep
    rw [if_pos hlive, hassembler]
  have hresult : result = (Stream.parse fw base { stream, pts := program.pts, event } continuityCounter payloadUnitStart br).map
      fun r => (some (r.1, r.2.event), before ++ program.put pid r.2 :: after) :=
    parsePID_found br continuityCounter payloadUnitStart hbefore hstream
  refine ⟨?_, ?_⟩
  · have hmap : result.map (fun r => (r.2.map Program.outlets, r.1.elim event (·.2))) =
        ((Stream.parse fw base { stream, pts := program.pts, event } continuityCounter payloadUnitStart br).map
          fun r => Stream.toOutlet r.2).map fun c =>
            (before.map Program.outlets ++ program.outlets.put pid c :: after.map Program.outlets, c.event) := by
      rw [hresult, Option.map_map, Option.map_map]
      refine congrArg (Option.map · _) (funext fun r => ?_)
      simp only [Function.comp_apply, List.map_append, List.map_cons, Program.outlets_put]
      rfl
    have hget : program.outlets.mStreams.get? pid = some stream.outlet := by
      rw [Program.outlets, KeyedVector.get?_map, hstream]
      rfl
    have hbefore' : ∀ p ∈ before.map Program.outlets, p.mStreams.get? pid = none := by
      intro p hp
      obtain ⟨q, hq, rfl⟩ := List.mem_map.mp hp
      rw [Program.outlets, KeyedVector.get?_map, hbefore q hq]
      rfl
    rw [hmap, hassembles.delivered, hstep, List.map_append, List.map_cons]
    dsimp only
    cases (stream.assembler.step 16 (Stream.fragment continuityCounter payloadUnitStart data event)).2 with
    | none =>
      have hput : program.outlets.put pid (Stream.toOutlet { stream, pts := program.pts, event }) = program.outlets :=
        congrArg (fun mStreams => ({ program.outlets with mStreams } : Program φ)) (KeyedVector.add_of_get? _ hget)
      exact congrArg (fun p => some (before.map Program.outlets ++ p :: after.map Program.outlets, event)) hput
    | some unit =>
      rw [Option.map_some, Option.elim_some, Option.elim_some, deliver_found hbefore' hget]
      rfl
  · intro r hr
    rw [hresult] at hr
    obtain ⟨r', hr', rfl⟩ := Option.map_eq_some_iff.mp hr
    have hnext := hassembles.assembler r' hr'
    rw [hstep]
    dsimp only
    rw [← hnext]
    refine hrun.put hbefore ((hassembles.queue r' hr').trans hlive.symm) ?_
    rw [hnext]
    exact hsettled.step 16 _

theorem Running.feed_dead (hrun : Running programs live s) (hdead : live pid = false) :
    firstProgram (fun program => program.parsePID fw base pid continuityCounter payloadUnitStart br event) programs =
        some (none, programs) ∨
      ∃ status, firstProgram (fun program => program.parsePID fw base pid continuityCounter payloadUnitStart br event) programs =
        some (some (status, event), programs) := by
  have hcarries := hrun.live pid
  rw [carries, hdead] at hcarries
  cases hof : streamOf programs pid with
  | none =>
    left
    have hnone : ∀ p ∈ programs, p.mStreams.get? pid = none := List.findSome?_eq_none_iff.mp hof
    have happend := @firstProgram_append _ [] programs _
      (fun program => program.parsePID fw base pid continuityCounter payloadUnitStart br event)
      (fun p hp => by rw [Program.parsePID, hnone p hp])
    rw [List.append_nil] at happend
    rw [happend, firstProgram, Option.map_some, List.append_nil]
  | some stream =>
    right
    obtain ⟨before, program, after, rfl, hstream, hbefore⟩ := List.findSome?_eq_some_iff.mp hof
    have hqueue : stream.mQueue.isNone = true := by
      rw [hof] at hcarries
      rw [Option.isNone_iff_eq_none, ← Option.not_isSome_iff_eq_none]
      exact Bool.eq_false_iff.mp hcarries
    refine ⟨.ok, ?_⟩
    rw [firstProgram_found (x := some ((.ok, event), program))]
    · rfl
    · intro p hp
      rw [Program.parsePID, hbefore p hp]
    · rw [Program.parsePID, hstream]
      dsimp only
      rw [Stream.parse, if_pos hqueue, Option.map_some, KeyedVector.add_of_get? _ hstream]
      rfl

theorem Running.feed (h : fw.reader.Laws rest) (hbr : Left fw.reader rest br data) (hrun : Running programs live s) :
    let step := sideBySide (streamStep live) s (pid, Stream.fragment continuityCounter payloadUnitStart data event)
    let result := firstProgram (fun program => program.parsePID fw base pid continuityCounter payloadUnitStart br event) programs
    result.map (fun r => (r.2.map Program.outlets, r.1.elim event (·.2))) =
        step.2.elim (some (programs.map Program.outlets, event)) (deliver fw base (programs.map Program.outlets) event) ∧
      ∀ r ∈ result, Running r.2 live step.1 := by
  intro step result
  cases hlive : live pid with
  | false =>
    have hstep : step = (s, none) := by
      unfold step sideBySide streamStep
      rw [if_neg (by rw [hlive]; exact Bool.false_ne_true)]
      exact congrArg (·, none) (Function.update_eq_self pid s)
    rw [hstep]
    obtain hresult | ⟨status, hresult⟩ := @Running.feed_dead _ _ fw base _ _ event _ _ br continuityCounter payloadUnitStart hrun hlive
    all_goals
      unfold result
      rw [hresult]
      refine ⟨rfl, ?_⟩
      rintro r ⟨⟩
      exact hrun
  | true =>
    obtain ⟨stream, hof, -⟩ := (Option.any_eq_true _ _).mp ((hrun.live pid).trans hlive)
    obtain ⟨before, program, after, rfl, hstream, hbefore⟩ := List.findSome?_eq_some_iff.mp hof
    exact hrun.feed_stream h hbr hbefore hstream hlive

end Feed

end Programs

/-! ### Runs -/

/-- Packets are fed one after the other, each with an event. -/
def feedAll (fw : TsFramework σ φ) :
    ATSParser φ → List (List UInt8 × Option SyncEvent) → Option (ATSParser φ × List (Option SyncEvent))
  | parser, [] => some (parser, [])
  | parser, packet :: packets => do
    let result ← parser.feedTSPacket fw packet.1 packet.2
    let rest ← feedAll fw result.2.1 packets
    return (rest.1, result.2.2 :: rest.2)

/-- PES packets are delivered one after the other, some with each packet that is fed. -/
def deliverAll (fw : TsFramework σ φ) (base : TimeBase) :
    List (Program φ) → List (Option (Nat × List UInt8 × Int) × Option SyncEvent) →
      Option (List (Program φ) × List (Option SyncEvent))
  | programs, [] => some (programs, [])
  | programs, unit :: units => do
    let result ← unit.1.elim (some (programs, unit.2)) (deliver fw base programs unit.2)
    let rest ← deliverAll fw base result.1 units
    return (rest.1, result.2 :: rest.2)

/-- A packet that is sent, the event that it is fed with, and whether it arrives. -/
structure SentPacket where
  packet : TsPacket
  event : Option SyncEvent
  arrives : Bool
  deriving DecidableEq, Repr

/-- A packet without an error and with a payload. -/
def SentPacket.hasPayload (p : SentPacket) : Bool := !p.packet.transportError ∧ p.packet.payload ≠ []

/-- A packet as a fragment of a PES packet; one with an error does not arrive. -/
def SentPacket.fragment (p : SentPacket) : SentFragment UInt8 Int where
  toFragment := Stream.fragment p.packet.tsHeader.continuityCounter p.packet.tsHeader.payloadUnitStart p.packet.payload p.event
  arrives := p.arrives ∧ !p.packet.transportError

/-- What arrives, as it is fed. -/
def arrivals (sent : List SentPacket) : List (List UInt8 × Option SyncEvent) :=
  (sent.filter (·.arrives)).map fun p => (p.packet.bytes, p.event)

/-- The fragments that are sent for a PID. -/
def fragments (pid : Nat) (sent : List SentPacket) : List (SentFragment UInt8 Int) :=
  (sent.filter fun p => p.packet.tsHeader.pid = pid ∧ p.packet.payload ≠ []).map SentPacket.fragment

/-- What comes out of the assemblers of all PIDs at each of some packets. -/
def unitsOf (live : Nat → Bool) : (Nat → Assembler UInt8 Int) → List SentPacket → List (Option (Nat × List UInt8 × Int))
  | _, [] => []
  | s, p :: packets =>
    if p.hasPayload then
      let step := sideBySide (streamStep live) s (p.packet.tsHeader.pid, p.fragment.toFragment)
      step.2 :: unitsOf live step.1 packets
    else none :: unitsOf live s packets

theorem length_unitsOf (live : Nat → Bool) (s : Nat → Assembler UInt8 Int) (packets : List SentPacket) :
    (unitsOf live s packets).length = packets.length := by
  induction packets generalizing s with
  | nil => rfl
  | cons p packets ih =>
    rw [unitsOf]
    split <;> exact congrArg (· + 1) (ih _)

theorem reduceOption_unitsOf (live : Nat → Bool) (s : Nat → Assembler UInt8 Int) (packets : List SentPacket) :
    (unitsOf live s packets).reduceOption =
      (outputs (sideBySide (streamStep live)) s
        ((packets.filter (·.hasPayload)).map fun p => (p.packet.tsHeader.pid, p.fragment.toFragment))).2.reduceOption := by
  induction packets generalizing s with
  | nil => rfl
  | cons p packets ih =>
    rw [unitsOf]
    split
    · next hpayload =>
      rw [List.filter_cons_of_pos hpayload, List.map_cons, outputs]
      dsimp only
      cases (sideBySide (streamStep live) s (p.packet.tsHeader.pid, p.fragment.toFragment)).2 with
      | none => exact ih _
      | some unit => exact congrArg (unit :: ·) (ih _)
    · next hpayload =>
      rw [List.filter_cons_of_neg hpayload]
      exact ih s

theorem ofKey_payloads (pid : Nat) (sent : List SentPacket) :
    ofKey pid (((sent.filter (·.arrives)).filter (·.hasPayload)).map fun p => (p.packet.tsHeader.pid, p.fragment.toFragment)) =
      received (fragments pid sent) := by
  simp only [ofKey, received, fragments, List.filter_map, List.filter_filter, List.map_map]
  have hfilter : sent.filter (fun p => (((·.1 = pid) : Nat × Fragment UInt8 Int → Bool) ∘
        fun p : SentPacket => (p.packet.tsHeader.pid, p.fragment.toFragment)) p && (p.hasPayload && p.arrives)) =
      sent.filter fun p => ((·.arrives) ∘ SentPacket.fragment) p &&
        decide (p.packet.tsHeader.pid = pid ∧ p.packet.payload ≠ []) := by
    refine List.filter_congr fun p _ => ?_
    rw [Bool.eq_iff_iff]
    simp [SentPacket.hasPayload, SentPacket.fragment]
    tauto
  exact congrArg (List.map _) hfilter

section Runs
variable {fw : TsFramework σ φ} {rest : σ → List Bool} {live : Nat → Bool}

theorem feedAll_outlets (h : fw.reader.Laws rest) {packets : List SentPacket} :
    ∀ {parser : ATSParser φ} {s : Nat → Assembler UInt8 Int}, Running parser.mPrograms live s →
      (∀ p ∈ packets, p.packet.Sound) → (∀ p ∈ packets, parser.mPSISections.get? p.packet.tsHeader.pid = none) →
      (feedAll fw parser (packets.map fun p => (p.packet.bytes, p.event))).map (fun r => (r.1.mPrograms.map Program.outlets, r.2)) =
        deliverAll fw parser.base (parser.mPrograms.map Program.outlets)
          ((unitsOf live s packets).zip (packets.map (·.event))) := by
  induction packets with
  | nil => exact fun _ _ _ => rfl
  | cons p packets ih =>
    intro parser s hrun hsound hpsi
    have hsound' := fun q hq => hsound q (List.mem_cons_of_mem _ hq)
    have hpsi' := fun q hq => hpsi q (List.mem_cons_of_mem _ hq)
    obtain ⟨br, k, n, hbr, hfeed⟩ := @feedTSPacket_sound _ _ fw rest parser p.packet p.event h (hsound p List.mem_cons_self)
      (hpsi p List.mem_cons_self)
    rw [List.map_cons, feedAll, hfeed, unitsOf]
    by_cases hskip : p.packet.transportError ∨ p.packet.payload = []
    · have hnot : ¬ p.hasPayload = true := by simpa [SentPacket.hasPayload, or_iff_not_imp_left] using hskip
      have ih' := @ih { parser with kTSPacketSize := k, mNumTSPacketsParsed := n } s hrun hsound' hpsi'
      rw [if_pos hskip, if_neg hnot, List.map_cons, List.zip_cons_cons, deliverAll, Option.elim_none]
      simp only [Option.map_some, Option.bind_eq_bind, Option.bind_some, ← ih']
      generalize feedAll fw _ _ = result
      cases result <;> rfl
    · have hpayload : p.hasPayload = true := by simpa [SentPacket.hasPayload] using hskip
      obtain ⟨hmap, hnext⟩ := @Running.feed _ _ fw parser.base parser.mPrograms p.packet.tsHeader.pid p.event live s rest br
        p.packet.payload p.packet.tsHeader.continuityCounter p.packet.tsHeader.payloadUnitStart h hbr hrun
      have hfragment : Stream.fragment p.packet.tsHeader.continuityCounter p.packet.tsHeader.payloadUnitStart p.packet.payload
        p.event = p.fragment.toFragment := rfl
      rw [hfragment] at hmap hnext
      rw [if_neg hskip, if_pos hpayload, List.map_cons]
      dsimp only
      rw [List.zip_cons_cons, deliverAll, ← hmap]
      cases hresult : firstProgram (fun program => program.parsePID fw parser.base p.packet.tsHeader.pid
        p.packet.tsHeader.continuityCounter p.packet.tsHeader.payloadUnitStart br p.event) parser.mPrograms with
      | none => rfl
      | some r =>
        have ih' := @ih { parser with kTSPacketSize := k, mNumTSPacketsParsed := n, mPrograms := r.2 } _ (hnext r hresult)
          hsound' hpsi'
        simp only [Option.map_some, Option.bind_eq_bind, Option.bind_some, ← ih']
        generalize feedAll fw _ _ = result
        cases result <;> rfl

/-- A framework that makes a format of everything. -/
def plainTsFramework : TsFramework (List Bool) Unit where
  toFramework := plainFramework
  mimeType _ := none
  isIdr _ := true
  before _ _ := true

def aacStream (pid : Nat) : Stream Unit := .new 0 pid streamtypeMpeg2AudioAdts 256 none

/-- A parser with one program and its two streams. -/
def twoStreams : ATSParser Unit :=
  { (ATSParser.new 0 : ATSParser Unit) with
    mPrograms := [{ (Program.new 1 32 (-1#64) : Program Unit) with
      mStreams := (KeyedVector.empty.add 256 (aacStream 256)).add 257 (aacStream 257) }] }

theorem streamOf_twoStreams (pid : Nat) : streamOf twoStreams.mPrograms pid =
    if pid = 257 then some (aacStream 257) else if pid = 256 then some (aacStream 256) else none := by
  simp only [streamOf, twoStreams, List.findSome?_cons, KeyedVector.get?_add, KeyedVector.get?_empty]
  split <;> simp_all

/-- A packet that is nothing but a header and a payload. -/
def plainPacket (start pid continuityCounter : Nat) (b : UInt8) (arrives : Bool) : SentPacket where
  packet :=
    { front := []
      header := start * 2 ^ 22 + pid * 2 ^ 8 + 2 ^ 4 + continuityCounter
      adaptation := none
      payload := List.replicate 184 b }
  event := none
  arrives := arrives

theorem plainPacket_sound {start pid continuityCounter : Nat} {b : UInt8} {arrives : Bool} (h : continuityCounter < 16) :
    (plainPacket start pid continuityCounter b arrives).packet.Sound where
  front := .inl rfl
  size := by rw [plainPacket, List.length_replicate]; rfl
  control := by
    have hheader : bitField 5 4 (start * 2 ^ 22 + pid * 2 ^ 8 + 2 ^ 4 + continuityCounter) = 1 := by
      unfold bitField
      omega
    exact hheader
  clock := by
    rintro field ⟨⟩

/-- The second packet of the first PES packet of one of two streams is lost. -/
def lossyPackets : List SentPacket :=
  [plainPacket 1 256 0 1 true, plainPacket 1 257 5 2 true, plainPacket 0 256 1 3 false, plainPacket 1 256 2 4 true,
    plainPacket 1 257 6 5 true, plainPacket 1 256 3 6 true]

end Runs

end BcmPlatform.Ts
