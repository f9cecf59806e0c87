import BcmPlatform.Theorems.Reassembly
import BcmPlatform.Theorems.Timestamps

/-! PES packets: what is written into their headers is what is read, and the time stamps of 33 bits are recovered when they wrap
    around. -/

namespace BcmPlatform.Ts
open Lib

variable {σ φ : Type}

/-! ### Time stamps that wrap around -/

theorem and_mask (v : BitVec 64) : v &&& 0xfffffffe00000000#64 = (v >>> 33) <<< 33 := by
  rw [show 0xfffffffe00000000#64 = BitVec.allOnes 64 <<< 33 by decide]
  ext i hi
  simp only [BitVec.getElem_and, BitVec.getElem_shiftLeft, BitVec.getElem_allOnes]
  by_cases h : i < 33
  · simp [h]
  · simp only [h, decide_false, Bool.not_false, Bool.true_and, Bool.and_true, BitVec.getElem_ushiftRight]
    rw [BitVec.getLsbD_eq_getElem (by omega)]
    congr 1
    omega

theorem toNat_extend (v : BitVec 64) {m : Nat} (hm : m < 2 ^ 33) :
    ((v &&& 0xfffffffe00000000#64) ||| BitVec.ofNat 64 m).toNat = v.toNat / 2 ^ 33 * 2 ^ 33 + m := by
  have hv := v.isLt
  have hshift : (v.toNat >>> 33) <<< 33 % 2 ^ 64 = (v.toNat >>> 33) <<< 33 := by
    refine Nat.mod_eq_of_lt ?_
    rw [Nat.shiftRight_eq_div_pow, Nat.shiftLeft_eq]
    omega
  rw [and_mask, BitVec.toNat_or, BitVec.toNat_shiftLeft, BitVec.toNat_ushiftRight, hshift, BitVec.toNat_ofNat,
    Nat.mod_eq_of_lt (by omega), shiftLeft_or_eq_add hm, Nat.shiftRight_eq_div_pow]

/-- The low 33 bits of a time. -/
def pts33bit (x : Int) : BitVec 64 := BitVec.ofNat 64 (x % 2 ^ 33).toNat

theorem recoverPTS_near {p : PtsState} {last : Nat} {x : Int} (hp : p.mLastRecoveredPTS = BitVec.ofNat 64 last)
    (hlast : last < 2 ^ 62) (hlow : last - 2 ^ 32 < x) (hhigh : x ≤ last + 2 ^ 32) :
    p.recoverPTS (pts33bit x) = { p with mLastRecoveredPTS := BitVec.ofNat 64 x.toNat } := by
  have hlength : p.mLastRecoveredPTS.toNat = last := by rw [hp, BitVec.toNat_ofNat, Nat.mod_eq_of_lt (by omega)]
  have hslt : p.mLastRecoveredPTS.slt 0#64 = false := by
    rw [BitVec.slt_eq_decide, BitVec.toInt_eq_toNat_of_lt (by omega), decide_eq_false_iff_not]
    exact Int.not_lt.mpr (Int.natCast_nonneg _)
  have hm : (x % 2 ^ 33).toNat < 2 ^ 33 := by omega
  have hvalue : ((p.mLastRecoveredPTS - pts33bit x + 0x100000000#64) &&& 0xfffffffe00000000#64) ||| pts33bit x =
      BitVec.ofInt 64 x := by
    refine BitVec.eq_of_toNat_eq ?_
    rw [pts33bit, toNat_extend _ hm, BitVec.toNat_add, BitVec.toNat_sub, hlength, BitVec.toNat_ofInt, BitVec.toNat_ofNat,
      BitVec.toNat_ofNat]
    omega
  have hx : (BitVec.ofInt 64 x).toInt = x := BitVec.toInt_ofInt_eq_self (by decide) (by omega) (by omega)
  unfold PtsState.recoverPTS
  rw [if_neg (by rw [hslt]; exact Bool.false_ne_true), hvalue]
  dsimp only
  congr 1
  rw [BitVec.slt_eq_decide, hx]
  by_cases hneg : x < 0
  · rw [if_pos (decide_eq_true (show x < (0#64).toInt from hneg)), Int.toNat_of_nonpos (Int.le_of_lt hneg)]
  · obtain ⟨n, rfl⟩ := Int.eq_ofNat_of_zero_le (Int.not_lt.mp hneg)
    rw [if_neg (by simp), Int.toNat_natCast, BitVec.ofInt_natCast]

/-- The time of a recovered time stamp, where the program began with another one. -/
def TimeBase.timeOf (base : TimeBase) (first : Nat) (x : Int) : Int :=
  (((if base.mFlags &&& tsTimestampsAreAbsolute ≠ 0 then x.toNat else (x - first).toNat) * 100 / 9 : Nat) : Int) +
    (if 0 ≤ base.mAbsoluteTimeAnchorUs then base.mAbsoluteTimeAnchorUs else 0) +
    if base.mTimeOffsetValid then base.mTimeOffsetUs else 0

/-- A program that began with a time stamp, and whose newest one is known. -/
structure Recovered (base : TimeBase) (p : PtsState) (first last : Nat) : Prop where
  last : p.mLastRecoveredPTS = BitVec.ofNat 64 last
  first : base.mFlags &&& tsTimestampsAreAbsolute ≠ 0 ∨ p.mFirstPTSValid = true ∧ p.mFirstPTS = BitVec.ofNat 64 first

theorem toInt_micros {n : Nat} (h : n < 2 ^ 57) : (BitVec.ofNat 64 n * 100#64 / 9#64).toInt = (n * 100 / 9 : Nat) := by
  have htoNat : (BitVec.ofNat 64 n * 100#64 / 9#64).toNat = n * 100 / 9 := by
    rw [BitVec.toNat_udiv, BitVec.toNat_mul, BitVec.toNat_ofNat, Nat.mod_eq_of_lt (by omega : n < 2 ^ 64)]
    change n * 100 % 2 ^ 64 / 9 = _
    rw [Nat.mod_eq_of_lt (by omega)]
  rw [BitVec.toInt_eq_toNat_of_lt (by rw [htoNat]; omega), htoNat]

theorem Recovered.convert {base : TimeBase} {p : PtsState} {first last : Nat} (h : Recovered base p first last) {x : Int}
    (hfirst : first < 2 ^ 57) (hlast : last < 2 ^ 62) (hx : x < 2 ^ 57) (hlow : last - 2 ^ 32 < x)
    (hhigh : x ≤ last + 2 ^ 32) :
    (p.convertPTSToTimestamp base (pts33bit x)).1 = base.timeOf first x ∧
      Recovered base (p.convertPTSToTimestamp base (pts33bit x)).2 first x.toNat := by
  unfold PtsState.convertPTSToTimestamp TimeBase.timeOf
  rw [recoverPTS_near h.last hlast hlow hhigh]
  by_cases habsolute : base.mFlags &&& tsTimestampsAreAbsolute ≠ 0
  · simp only [if_pos habsolute]
    refine ⟨?_, rfl, .inl habsolute⟩
    rw [toInt_micros (by omega)]
    split <;> split <;> simp
  · obtain ⟨hvalid, hfirst'⟩ := h.first.resolve_left habsolute
    have hnot : ¬ (!p.mFirstPTSValid) = true := by rw [hvalid]; exact Bool.false_ne_true
    have hult : (BitVec.ofNat 64 x.toNat).ult p.mFirstPTS = decide (x.toNat < first) := by
      rw [BitVec.ult, hfirst', BitVec.toNat_ofNat, BitVec.toNat_ofNat, Nat.mod_eq_of_lt (by omega),
        Nat.mod_eq_of_lt (by omega)]
    simp only [if_neg habsolute, if_neg hnot, hult]
    by_cases hlt : x.toNat < first
    · simp only [if_pos (decide_eq_true hlt)]
      refine ⟨?_, rfl, .inr ⟨hvalid, hfirst'⟩⟩
      rw [show (x - first).toNat = 0 by omega]
      split <;> split <;> simp
    · have hsub : BitVec.ofNat 64 x.toNat - p.mFirstPTS = BitVec.ofNat 64 (x - first).toNat := by
        rw [hfirst']
        refine BitVec.eq_of_toNat_eq ?_
        rw [BitVec.toNat_sub, BitVec.toNat_ofNat, BitVec.toNat_ofNat, BitVec.toNat_ofNat]
        omega
      simp only [decide_eq_false hlt, Bool.false_eq_true, if_false, hsub]
      refine ⟨?_, rfl, .inr ⟨hvalid, hfirst'⟩⟩
      rw [toInt_micros (by omega)]
      split <;> split <;> simp

theorem convert_first (base : TimeBase) {p : PtsState} {first : Nat} (hfirst : first < 2 ^ 33)
    (hlast : p.mLastRecoveredPTS.slt 0#64 = true) (hvalid : p.mFirstPTSValid = false) :
    (p.convertPTSToTimestamp base (pts33bit first)).1 = base.timeOf first first ∧
      Recovered base (p.convertPTSToTimestamp base (pts33bit first)).2 first first := by
  have hpts : pts33bit first = BitVec.ofNat 64 first := by
    have hmod : ((first : Int) % 2 ^ 33).toNat = first := by omega
    rw [pts33bit, hmod]
  unfold PtsState.convertPTSToTimestamp PtsState.recoverPTS TimeBase.timeOf
  rw [if_pos hlast, hpts]
  by_cases habsolute : base.mFlags &&& tsTimestampsAreAbsolute ≠ 0
  · simp only [if_pos habsolute]
    refine ⟨?_, rfl, .inl habsolute⟩
    rw [Int.toNat_natCast, toInt_micros (show first < 2 ^ 57 by omega)]
    split <;> split <;> simp
  · simp only [if_neg habsolute, hvalid]
    refine ⟨?_, rfl, .inr ⟨rfl, rfl⟩⟩
    rw [Int.sub_self]
    split <;> split <;> simp

/-- The times of time stamps that come one after the other, of any streams of a program. -/
def PtsState.times (base : TimeBase) : PtsState → List (BitVec 64) → List Int
  | _, [] => []
  | p, pts :: rest => (p.convertPTSToTimestamp base pts).1 :: times base (p.convertPTSToTimestamp base pts).2 rest

theorem Recovered.times {base : TimeBase} {first : Nat} (hfirst : first < 2 ^ 57) {xs : List Int}
    (hlow : ∀ x ∈ xs, -2 ^ 32 < x) (hhigh : ∀ x ∈ xs, x < 2 ^ 57) {p : PtsState} {x₀ : Int} (h : Recovered base p first x₀.toNat)
    (hx₀ : x₀ < 2 ^ 57) (hnear : (x₀ :: xs).IsChain fun x y => x - 2 ^ 32 < y ∧ y ≤ x + 2 ^ 32) :
    p.times base (xs.map pts33bit) = xs.map (base.timeOf first) := by
  induction xs generalizing p x₀ with
  | nil => rfl
  | cons x xs ih =>
    obtain ⟨⟨hbelow, habove⟩, hchain⟩ := List.isChain_cons_cons.mp hnear
    have hx := hlow x List.mem_cons_self
    have hx' := hhigh x List.mem_cons_self
    obtain ⟨htime, hnext⟩ := h.convert hfirst (by omega) hx' (by omega) (by omega)
    rw [List.map_cons, PtsState.times, htime, List.map_cons,
      ih (fun y hy => hlow y (List.mem_cons_of_mem _ hy)) (fun y hy => hhigh y (List.mem_cons_of_mem _ hy)) hnext hx' hchain]

/-- A time stamp in three parts, with a marker bit behind each. -/
def timeStampNumber (v : Nat) : Nat :=
  v / 2 ^ 30 * 2 ^ 33 + 2 ^ 32 + v / 2 ^ 15 % 2 ^ 15 * 2 ^ 17 + 2 ^ 16 + v % 2 ^ 15 * 2 + 1

/-- A header as it is written. The six bits of `control` are behind the first two, `flags` are those of the fields that are not
    read, and `more` are these fields and stuffing. -/
structure PesHeader where
  streamId : UInt8
  control : Nat
  flags : Nat
  pts : Option Nat
  dts : Option Nat
  escr : Option (Nat × Nat × Nat)
  esRate : Option Nat
  more : List UInt8
  deriving DecidableEq, Repr

namespace PesHeader
variable (w : PesHeader)

def ptsDtsFlags : Nat := if w.pts.isSome then if w.dts.isSome then 3 else 2 else 0

def escrFlag : Nat := if w.escr.isSome then 1 else 0

def esRateFlag : Nat := if w.esRate.isSome then 1 else 0

/-- The time stamps. -/
def timeStamps : List UInt8 :=
  w.pts.elim [] fun pts =>
    beBytes 5 (w.ptsDtsFlags * 2 ^ 36 + timeStampNumber pts) ++
      w.dts.elim [] fun dts => beBytes 5 (2 ^ 36 + timeStampNumber dts)

def escrBytes : List UInt8 :=
  w.escr.elim [] fun escr => beBytes 6 (escr.1 * 2 ^ 46 + timeStampNumber escr.2.1 * 2 ^ 10 + escr.2.2 * 2 + 1)

def esRateBytes : List UInt8 := w.esRate.elim [] fun esRate => beBytes 3 (2 ^ 23 + esRate * 2 + 1)

/-- The optional fields. -/
def data : List UInt8 := w.timeStamps ++ (w.escrBytes ++ (w.esRateBytes ++ w.more))

/-- The bits between the packet length and the optional fields. -/
def fields : Nat :=
  2 ^ 23 + w.control * 2 ^ 16 + w.ptsDtsFlags * 2 ^ 14 + w.escrFlag * 2 ^ 13 + w.esRateFlag * 2 ^ 12 + w.flags * 2 ^ 8 +
    w.data.length

/-- The packet with a body; its length may be left out. -/
def bytes (bounded : Bool) (body : List UInt8) : List UInt8 :=
  [0, 0, 1, w.streamId] ++ (beBytes 2 (if bounded then 3 + w.data.length + body.length else 0) ++
    (beBytes 3 w.fields ++ (w.data ++ body)))

/-- The header is as it has to be. -/
structure Sound (w : PesHeader) : Prop where
  streamId : w.streamId.toNat ∉ plainStreamIds
  control : w.control < 2 ^ 6
  flags : w.flags < 2 ^ 4
  dts : w.dts.isSome = true → w.pts.isSome = true
  timeStamps : ∀ v ∈ w.pts, v < 2 ^ 33
  decodingTime : ∀ v ∈ w.dts, v < 2 ^ 33
  escr : ∀ v ∈ w.escr, v.1 < 4 ∧ v.2.1 < 2 ^ 33 ∧ v.2.2 < 2 ^ 9
  esRate : ∀ v ∈ w.esRate, v < 2 ^ 22
  size : w.data.length < 256

/-- What the parser is to make of the header. -/
def payload (bounded : Bool) (body : List UInt8) : PesPayload where
  ptsDtsFlags := w.ptsDtsFlags
  pts := w.pts.getD 0
  dts := w.dts.getD 0
  size := body.length
  bounded := bounded

end PesHeader

section Reading
open HeaderReader
variable {r : BitReader σ} {rest : σ → List Bool} {s : σ} {tail : List Bool}

theorem timeStampNumber_lt {v : Nat} (h : v < 2 ^ 33) : timeStampNumber v < 2 ^ 36 := by
  unfold timeStampNumber
  omega

theorem timeStampBits_gives (h : r.Laws rest) {v : Nat} (hv : v < 2 ^ 33) (hs : rest s = toBits 36 (timeStampNumber v) ++ tail) :
    ∃ s', Gives (timeStampBits r) s v s' ∧ rest s' = tail := by
  obtain ⟨s₁, h₁, hs₁⟩ := gives_getBits (k := 3) (m := 33) h (by decide) hs
  obtain ⟨s₂, h₂, hs₂⟩ := gives_getBits (k := 1) (m := 32) h (by decide) hs₁
  obtain ⟨s₃, h₃, hs₃⟩ := gives_getBits (k := 15) (m := 17) h (by decide) hs₂
  obtain ⟨s₄, h₄, hs₄⟩ := gives_getBits (k := 1) (m := 16) h (by decide) hs₃
  obtain ⟨s₅, h₅, hs₅⟩ := gives_getBits (k := 15) (m := 1) h (by decide) hs₄
  obtain ⟨s₆, h₆, hs₆⟩ := gives_getBits (k := 1) (m := 0) h (by decide) hs₅
  have hmarkers : timeStampNumber v / 2 ^ 32 % 2 ^ 1 = 1 ∧ timeStampNumber v / 2 ^ 16 % 2 ^ 1 = 1 ∧
      timeStampNumber v / 2 ^ 0 % 2 ^ 1 = 1 := by
    unfold timeStampNumber
    omega
  have hparts : timeStampNumber v / 2 ^ 33 % 2 ^ 3 = v / 2 ^ 30 ∧ timeStampNumber v / 2 ^ 17 % 2 ^ 15 = v / 2 ^ 15 % 2 ^ 15 ∧
      timeStampNumber v / 2 ^ 1 % 2 ^ 15 = v % 2 ^ 15 := by
    unfold timeStampNumber
    omega
  have hvalue : (v / 2 ^ 30) <<< 30 ||| (v / 2 ^ 15 % 2 ^ 15) <<< 15 ||| v % 2 ^ 15 = v := by
    have hhigh : (v / 2 ^ 30) <<< 30 ||| (v / 2 ^ 15 % 2 ^ 15) <<< 15 = (v / 2 ^ 15) <<< 15 := by
      rw [Nat.shiftLeft_eq _ 15, shiftLeft_or_eq_add (by omega), Nat.shiftLeft_eq]
      omega
    rw [hhigh, shiftLeft_or_eq_add (Nat.mod_lt _ (Nat.two_pow_pos 15))]
    omega
  rw [hmarkers.1] at h₂
  rw [hmarkers.2.1] at h₄
  rw [hmarkers.2.2] at h₆
  rw [hparts.1] at h₁
  rw [hparts.2.1] at h₃
  rw [hparts.2.2] at h₅
  refine ⟨s₆, ?_, hs₆⟩
  have hmarker : ∀ {s s'}, Gives (getBits r 1) s 1 s' → Gives (markerBit r) s () s' := fun hbit => hbit.bind (gives_require rfl)
  have hpure : Gives (pure ((v / 2 ^ 30) <<< 30 ||| (v / 2 ^ 15 % 2 ^ 15) <<< 15 ||| v % 2 ^ 15)) s₆ v s₆ := by
    rw [hvalue]
    exact gives_pure v
  exact h₁.bind ((hmarker h₂).bind (h₃.bind ((hmarker h₄).bind (h₅.bind ((hmarker h₆).bind hpure)))))

theorem toBits_mul_add (n k m : Nat) : toBits n (k * 2 ^ n + m) = toBits n m := by
  rw [← toBits_mod, Nat.mul_add_mod_self_right, toBits_mod]

theorem startedTimeStamp_gives (h : r.Laws rest) {start v : Nat} (hstart : start < 16) (hv : v < 2 ^ 33)
    (hs : rest s = toBits 40 (start * 2 ^ 36 + timeStampNumber v) ++ tail) :
    ∃ s₁ s', Gives (getBits r 4) s start s₁ ∧ Gives (timeStampBits r) s₁ v s' ∧ rest s' = tail := by
  have hlt := timeStampNumber_lt hv
  obtain ⟨s₁, h₁, hs₁⟩ := gives_getBits (k := 4) (m := 36) h (by decide) hs
  rw [toBits_mul_add] at hs₁
  obtain ⟨s', h', hs'⟩ := timeStampBits_gives h hv hs₁
  have hvalue : (start * 2 ^ 36 + timeStampNumber v) / 2 ^ 36 % 2 ^ 4 = start := by omega
  rw [hvalue] at h₁
  exact ⟨s₁, s', h₁, h', hs'⟩

variable {w : PesHeader}

theorem pesTimeStamps_gives (h : r.Laws rest) (hw : w.Sound) (hs : rest s = bitsOf w.timeStamps ++ tail) :
    ∃ s', Gives (pesTimeStamps r w.ptsDtsFlags w.data.length) s
        (w.pts.getD 0, w.dts.getD 0, (w.escrBytes ++ (w.esRateBytes ++ w.more)).length) s' ∧ rest s' = tail := by
  have hdata : w.data.length = w.timeStamps.length + (w.escrBytes ++ (w.esRateBytes ++ w.more)).length := by
    rw [PesHeader.data, List.length_append]
  unfold pesTimeStamps
  cases hpts : w.pts with
  | none =>
    have hdts : w.dts = none := by
      rw [← Option.not_isSome_iff_eq_none]
      intro hsome
      have := hw.dts hsome
      rw [hpts] at this
      cases this
    have hflags : w.ptsDtsFlags = 0 := by rw [PesHeader.ptsDtsFlags, hpts]; rfl
    have hempty : w.timeStamps = [] := by rw [PesHeader.timeStamps, hpts]; rfl
    rw [hflags, if_neg (by decide), hdts, hdata, hempty, List.length_nil, Nat.zero_add]
    rw [hempty] at hs
    exact ⟨s, gives_pure _, hs⟩
  | some pts =>
    have hlt := hw.timeStamps pts hpts
    cases hdts : w.dts with
    | none =>
      have hflags : w.ptsDtsFlags = 2 := by rw [PesHeader.ptsDtsFlags, hpts, hdts]; rfl
      have hfield : w.timeStamps = beBytes 5 (2 * 2 ^ 36 + timeStampNumber pts) := by
        rw [PesHeader.timeStamps, hpts, hdts, hflags]
        exact List.append_nil _
      rw [hfield, length_beBytes] at hdata
      rw [hfield, bitsOf_beBytes] at hs
      obtain ⟨s₁, s', h₁, h', hs'⟩ := startedTimeStamp_gives h (by decide) hlt hs
      have hroom : decide (5 ≤ w.data.length) = true := decide_eq_true (by omega)
      have hleft : w.data.length - 5 = (w.escrBytes ++ (w.esRateBytes ++ w.more)).length := by omega
      rw [hflags, if_pos (by decide), ← hleft]
      exact ⟨s', (gives_require hroom).bind (h₁.bind ((gives_require rfl).bind (h'.bind (gives_pure _)))), hs'⟩
    | some dts =>
      have hlt' := hw.decodingTime dts hdts
      have hflags : w.ptsDtsFlags = 3 := by rw [PesHeader.ptsDtsFlags, hpts, hdts]; rfl
      have hfield : w.timeStamps = beBytes 5 (3 * 2 ^ 36 + timeStampNumber pts) ++ beBytes 5 (1 * 2 ^ 36 + timeStampNumber dts) := by
        rw [PesHeader.timeStamps, hpts, hdts, hflags, Nat.one_mul]
        rfl
      rw [hfield, List.length_append, length_beBytes, length_beBytes] at hdata
      rw [hfield, bitsOf_append, bitsOf_beBytes, bitsOf_beBytes, List.append_assoc] at hs
      obtain ⟨s₁, s₂, h₁, h₂, hs₂⟩ := startedTimeStamp_gives h (by decide) hlt hs
      obtain ⟨s₃, s', h₃, h', hs'⟩ := startedTimeStamp_gives h (by decide) hlt' hs₂
      have hroom : decide (5 ≤ w.data.length) = true := decide_eq_true (by omega)
      have hroom' : decide (5 ≤ w.data.length - 5) = true := decide_eq_true (by omega)
      have hleft : w.data.length - 10 = (w.escrBytes ++ (w.esRateBytes ++ w.more)).length := by omega
      rw [hflags, if_pos (by decide), ← hleft]
      exact ⟨s', (gives_require hroom).bind (h₁.bind ((gives_require rfl).bind (h₂.bind ((gives_require hroom').bind
        (h₃.bind ((gives_require rfl).bind (h'.bind (gives_pure _)))))))), hs'⟩

theorem pesEscr_gives (h : r.Laws rest) (hw : w.Sound) {l : List UInt8} (hs : rest s = bitsOf w.escrBytes ++ tail) :
    ∃ s', Gives (pesEscr r w.escrFlag (w.escrBytes ++ l).length) s l.length s' ∧ rest s' = tail := by
  unfold pesEscr
  cases hescr : w.escr with
  | none =>
    have hflag : w.escrFlag = 0 := by rw [PesHeader.escrFlag, hescr]; rfl
    have hempty : w.escrBytes = [] := by rw [PesHeader.escrBytes, hescr]; rfl
    rw [hempty] at hs ⊢
    rw [hflag]
    exact ⟨s, gives_pure _, hs⟩
  | some escr =>
    obtain ⟨hreserved, hbase, hextension⟩ := hw.escr escr hescr
    have hflag : w.escrFlag = 1 := by rw [PesHeader.escrFlag, hescr]; rfl
    have hfield : w.escrBytes = beBytes 6 (escr.1 * 2 ^ 46 + timeStampNumber escr.2.1 * 2 ^ 10 + escr.2.2 * 2 + 1) := by
      rw [PesHeader.escrBytes, hescr]
      rfl
    rw [hfield, bitsOf_beBytes] at hs
    obtain ⟨s₁, h₁, hs₁⟩ := gives_getBits (k := 2) (m := 46) h (by decide) hs
    rw [toBits_add 36 10, List.append_assoc,
      show (escr.1 * 2 ^ 46 + timeStampNumber escr.2.1 * 2 ^ 10 + escr.2.2 * 2 + 1) / 2 ^ 10 =
        escr.1 * 2 ^ 36 + timeStampNumber escr.2.1 by omega, toBits_mul_add] at hs₁
    obtain ⟨s₂, h₂, hs₂⟩ := timeStampBits_gives h hbase hs₁
    obtain ⟨s₃, h₃, hs₃⟩ := gives_getBits (k := 9) (m := 1) h (by decide) hs₂
    obtain ⟨s₄, h₄, hs₄⟩ := gives_getBits (k := 1) (m := 0) h (by decide) hs₃
    have hmarker : ((escr.1 * 2 ^ 46 + timeStampNumber escr.2.1 * 2 ^ 10 + escr.2.2 * 2 + 1) / 2 ^ 0 % 2 ^ 1 == 1) = true :=
      beq_iff_eq.mpr (by omega)
    have hlength : (w.escrBytes ++ l).length = 6 + l.length := by rw [hfield, List.length_append, length_beBytes]
    have hroom : decide (6 ≤ 6 + l.length) = true := decide_eq_true (Nat.le_add_right _ _)
    have hleft : 6 + l.length - 6 = l.length := Nat.add_sub_cancel_left 6 _
    rw [hflag, hlength, if_pos Nat.one_ne_zero, hleft]
    exact ⟨s₄, (gives_require hroom).bind (h₁.bind (h₂.bind (h₃.bind ((h₄.bind (gives_require hmarker)).bind (gives_pure _))))), hs₄⟩

theorem pesEsRate_gives (h : r.Laws rest) (hw : w.Sound) {l : List UInt8} (hs : rest s = bitsOf w.esRateBytes ++ tail) :
    ∃ s', Gives (pesEsRate r w.esRateFlag (w.esRateBytes ++ l).length) s l.length s' ∧
      rest s' = tail := by
  unfold pesEsRate
  cases hesRate : w.esRate with
  | none =>
    have hflag : w.esRateFlag = 0 := by rw [PesHeader.esRateFlag, hesRate]; rfl
    have hempty : w.esRateBytes = [] := by rw [PesHeader.esRateBytes, hesRate]; rfl
    rw [hempty] at hs ⊢
    rw [hflag]
    exact ⟨s, gives_pure _, hs⟩
  | some esRate =>
    have hlt := hw.esRate esRate hesRate
    have hflag : w.esRateFlag = 1 := by rw [PesHeader.esRateFlag, hesRate]; rfl
    have hfield : w.esRateBytes = beBytes 3 (2 ^ 23 + esRate * 2 + 1) := by rw [PesHeader.esRateBytes, hesRate]; rfl
    rw [hfield, bitsOf_beBytes] at hs
    obtain ⟨s₁, h₁, hs₁⟩ := gives_getBits (k := 1) (m := 23) h (by decide) hs
    obtain ⟨s₂, h₂, hs₂⟩ := gives_getBits (k := 22) (m := 1) h (by decide) hs₁
    obtain ⟨s₃, h₃, hs₃⟩ := gives_getBits (k := 1) (m := 0) h (by decide) hs₂
    have hmarker : ((2 ^ 23 + esRate * 2 + 1) / 2 ^ 23 % 2 ^ 1 == 1) = true := beq_iff_eq.mpr (by omega)
    have hmarker' : ((2 ^ 23 + esRate * 2 + 1) / 2 ^ 0 % 2 ^ 1 == 1) = true := beq_iff_eq.mpr (by omega)
    have hlength : (w.esRateBytes ++ l).length = 3 + l.length := by rw [hfield, List.length_append, length_beBytes]
    have hroom : decide (3 ≤ 3 + l.length) = true := decide_eq_true (Nat.le_add_right _ _)
    have hleft : 3 + l.length - 3 = l.length := Nat.add_sub_cancel_left 3 _
    rw [hflag, hlength, if_pos Nat.one_ne_zero, hleft]
    exact ⟨s₃, (gives_require hroom).bind ((h₁.bind (gives_require hmarker)).bind (h₂.bind ((h₃.bind
      (gives_require hmarker')).bind (gives_pure _)))), hs₃⟩

theorem PesHeader.ptsDtsFlags_lt (w : PesHeader) : w.ptsDtsFlags < 4 := by
  unfold ptsDtsFlags
  split
  · split <;> decide
  · decide

theorem PesHeader.escrFlag_lt (w : PesHeader) : w.escrFlag < 2 := by
  unfold escrFlag
  split <;> decide

theorem PesHeader.esRateFlag_lt (w : PesHeader) : w.esRateFlag < 2 := by
  unfold esRateFlag
  split <;> decide

theorem pesHeader_gives (h : r.Laws rest) (hw : w.Sound) {bounded : Bool} {body behind : List UInt8}
    (hsize : bounded = true → 3 + w.data.length + body.length < 2 ^ 16) (hbehind : bounded = false → behind = [])
    (hs : rest s = bitsOf (w.bytes bounded body ++ behind)) :
    ∃ s', Gives (pesHeader r) s (some (w.payload bounded body)) s' ∧ rest s' = bitsOf (body ++ behind) := by
  obtain ⟨length, hlength⟩ : ∃ length, length = if bounded then 3 + w.data.length + body.length else 0 := ⟨_, rfl⟩
  have hlengthLt : length < 2 ^ 16 := by
    rw [hlength]
    split
    · next hbounded => exact hsize hbounded
    · decide
  have hcontrol := hw.control
  have hflags := hw.flags
  have hdata := hw.size
  have hptsDts := w.ptsDtsFlags_lt
  have hescr := w.escrFlag_lt
  have hesRate := w.esRateFlag_lt
  have hfields : w.fields = 2 ^ 23 + w.control * 2 ^ 16 + w.ptsDtsFlags * 2 ^ 14 + w.escrFlag * 2 ^ 13 + w.esRateFlag * 2 ^ 12 +
    w.flags * 2 ^ 8 + w.data.length := rfl
  have hbytes : w.bytes bounded body ++ behind = beBytes 3 1 ++ (beBytes 1 w.streamId.toNat ++ (beBytes 2 length ++
      (beBytes 3 w.fields ++ (w.data ++ (body ++ behind))))) := by
    have hstreamId : beBytes 1 w.streamId.toNat = [w.streamId] := by
      rw [beBytes, beBytes, List.nil_append, UInt8.ofNat_toNat]
    have hcode : beBytes 3 1 = [0, 0, 1] := rfl
    rw [hlength, hstreamId, hcode, PesHeader.bytes]
    simp only [List.append_assoc, List.cons_append, List.nil_append]
  rw [hbytes, bitsOf_append, bitsOf_append, bitsOf_append, bitsOf_append, bitsOf_append, bitsOf_beBytes, bitsOf_beBytes,
    bitsOf_beBytes, bitsOf_beBytes] at hs
  obtain ⟨s₁, h₁, hs₁⟩ := gives_field (k := 24) (n := 1) h (by decide) (by decide) hs
  obtain ⟨s₂, h₂, hs₂⟩ := gives_field (k := 8) h (by decide) w.streamId.toNat_lt hs₁
  obtain ⟨s₃, h₃, hs₃⟩ := gives_field (k := 16) h (by decide) hlengthLt hs₂
  obtain ⟨s₄, h₄, hs₄⟩ := gives_getBits (k := 2) (m := 22) h (by decide) hs₃
  obtain ⟨s₅, h₅, hs₅⟩ := gives_getBits (k := 2) (m := 20) h (by decide) hs₄
  obtain ⟨s₆, h₆, hs₆⟩ := gives_getBits (k := 1) (m := 19) h (by decide) hs₅
  obtain ⟨s₇, h₇, hs₇⟩ := gives_getBits (k := 1) (m := 18) h (by decide) hs₆
  obtain ⟨s₈, h₈, hs₈⟩ := gives_getBits (k := 1) (m := 17) h (by decide) hs₇
  obtain ⟨s₉, h₉, hs₉⟩ := gives_getBits (k := 1) (m := 16) h (by decide) hs₈
  obtain ⟨s₁₀, h₁₀, hs₁₀⟩ := gives_getBits (k := 2) (m := 14) h (by decide) hs₉
  obtain ⟨s₁₁, h₁₁, hs₁₁⟩ := gives_getBits (k := 1) (m := 13) h (by decide) hs₁₀
  obtain ⟨s₁₂, h₁₂, hs₁₂⟩ := gives_getBits (k := 1) (m := 12) h (by decide) hs₁₁
  obtain ⟨s₁₃, h₁₃, hs₁₃⟩ := gives_getBits (k := 1) (m := 11) h (by decide) hs₁₂
  obtain ⟨s₁₄, h₁₄, hs₁₄⟩ := gives_getBits (k := 1) (m := 10) h (by decide) hs₁₃
  obtain ⟨s₁₅, h₁₅, hs₁₅⟩ := gives_getBits (k := 1) (m := 9) h (by decide) hs₁₄
  obtain ⟨s₁₆, h₁₆, hs₁₆⟩ := gives_getBits (k := 1) (m := 8) h (by decide) hs₁₅
  obtain ⟨s₁₇, h₁₇, hs₁₇⟩ := gives_getBits (k := 8) (m := 0) h (by decide) hs₁₆
  rw [toBits, List.nil_append, PesHeader.data, bitsOf_append, List.append_assoc] at hs₁₇
  obtain ⟨s₁₈, h₁₈, hs₁₈⟩ := pesTimeStamps_gives h hw hs₁₇
  rw [bitsOf_append, List.append_assoc] at hs₁₈
  obtain ⟨s₁₉, h₁₉, hs₁₉⟩ := pesEscr_gives h hw (l := w.esRateBytes ++ w.more) hs₁₈
  rw [bitsOf_append, List.append_assoc] at hs₁₉
  obtain ⟨s₂₀, h₂₀, hs₂₀⟩ := pesEsRate_gives h hw (l := w.more) hs₁₉
  have hmore : (bitsOf w.more).length = w.more.length * 8 := by rw [length_bitsOf, Nat.mul_comm]
  obtain ⟨s₂₁, h₂₁, hs₂₁⟩ := gives_skip (k := w.more.length * 8) h
    (show _ ≤ (rest s₂₀).length by rw [hs₂₀, List.length_append, hmore]; exact Nat.le_add_right _ _)
  rw [hs₂₀, List.drop_left' hmore] at hs₂₁
  have hbits : (rest s₂₁).length = 8 * (body.length + behind.length) := by rw [hs₂₁, length_bitsOf, List.length_append]
  have hcode : ((1 : Nat) == 1) = true := rfl
  have hstart : (w.fields / 2 ^ 22 % 2 ^ 2 == 2) = true := beq_iff_eq.mpr (by omega)
  have hptsDtsValue : w.fields / 2 ^ 14 % 2 ^ 2 = w.ptsDtsFlags := by omega
  have hescrValue : w.fields / 2 ^ 13 % 2 ^ 1 = w.escrFlag := by omega
  have hesRateValue : w.fields / 2 ^ 12 % 2 ^ 1 = w.esRateFlag := by omega
  have hdataValue : w.fields / 2 ^ 0 % 2 ^ 8 = w.data.length := by omega
  rw [hptsDtsValue] at h₁₀
  rw [hescrValue] at h₁₁
  rw [hesRateValue] at h₁₂
  rw [hdataValue] at h₁₇
  refine ⟨s₂₁, h₁.bind ((gives_require hcode).bind (h₂.bind (h₃.bind ?_))), hs₂₁⟩
  rw [if_neg hw.streamId]
  refine h₄.bind ((gives_require hstart).bind (h₅.bind (h₆.bind (h₇.bind (h₈.bind (h₉.bind (h₁₀.bind (h₁₁.bind (h₁₂.bind
    (h₁₃.bind (h₁₄.bind (h₁₅.bind (h₁₆.bind (h₁₇.bind (h₁₈.bind (h₁₉.bind (h₂₀.bind (h₂₁.bind ?_))))))))))))))))))
  cases bounded with
  | true =>
    rw [if_pos rfl] at hlength
    have hroom : decide (w.data.length + 3 ≤ length) = true := decide_eq_true (by omega)
    have hsize' : length - 3 - w.data.length = body.length := by omega
    have hbody : decide ((length - 3 - w.data.length) * 8 ≤ (rest s₂₁).length) = true := decide_eq_true (by rw [hbits]; omega)
    rw [if_pos (show length ≠ 0 by omega)]
    refine (gives_require hroom).bind ((gives_numBitsLeft h).bind ((gives_require hbody).bind ?_))
    rw [hsize']
    exact gives_pure _
  | false =>
    rw [if_neg Bool.false_ne_true] at hlength
    have hleft : (rest s₂₁).length / 8 = body.length := by
      rw [hbits, hbehind rfl, List.length_nil, Nat.add_zero]
      exact Nat.mul_div_cancel_left _ (by decide)
    rw [if_neg (not_not_intro hlength)]
    refine (gives_numBitsLeft h).bind ?_
    rw [hleft]
    exact gives_pure _

end Reading

/-! ### Packets -/

/-- A packet hands over a payload to whatever stream it is for, and is in order. -/
def ReadsAs (fw : TsFramework σ φ) (base : TimeBase) (packet : List UInt8) (payload : PesPayload) (body : List UInt8) : Prop :=
  ∀ c : StreamCall φ, Stream.parsePES fw base c packet = (Stream.onPayloadData fw base c payload body).map (.ok, ·)

/-- What is written into a header is what is read, with the body, and without what is behind a packet that has a length. -/
theorem pesPacket_readsAs (fw : TsFramework σ φ) (rest : σ → List Bool) (h : fw.reader.Laws rest) (base : TimeBase) (w : PesHeader)
    (bounded : Bool) (body behind : List UInt8) (hw : w.Sound)
    (hsize : bounded = true → 3 + w.data.length + body.length < 2 ^ 16) (hbehind : bounded = false → behind = []) :
    ReadsAs fw base (w.bytes bounded body ++ behind) (w.payload bounded body) body := by
  intro c
  have hnew : rest (ABitReader.new fw.reader (w.bytes bounded body ++ behind)).state = bitsOf (w.bytes bounded body ++ behind) :=
    h.ofBytes _
  obtain ⟨s', hheader, hs'⟩ := pesHeader_gives h hw hsize hbehind hnew
  have hleft : Left fw.reader rest { ABitReader.new fw.reader (w.bytes bounded body ++ behind) with state := s' } (body ++ behind) :=
    ⟨hs', by
      unfold PesHeader.bytes
      simp only [List.append_assoc]
      exact (List.suffix_append _ _).trans ((List.suffix_append _ _).trans ((List.suffix_append _ _).trans
        (List.suffix_append _ _)))⟩
  have hend : ∃ s'', HeaderReader.Gives (pesEnd fw.reader (w.payload bounded body)) s' () s'' := by
    unfold pesEnd
    cases bounded with
    | true =>
      have hbits : body.length * 8 ≤ (rest s').length := by
        rw [hs', length_bitsOf, List.length_append]
        omega
      obtain ⟨s'', hskip, -⟩ := HeaderReader.gives_skip h hbits
      exact ⟨s'', hskip⟩
    | false =>
      have haligned : ((rest s').length % 8 == 0) = true := by
        rw [hs', length_bitsOf, Nat.mul_mod_right]
        rfl
      exact ⟨s', (HeaderReader.gives_numBitsLeft h).bind (HeaderReader.gives_require haligned)⟩
  obtain ⟨s'', hend⟩ := hend
  have hbody : (ABitReader.data fw.reader { ABitReader.new fw.reader (w.bytes bounded body ++ behind) with state := s' }).take
      (w.payload bounded body).size = body := by
    rw [hleft.data h]
    exact List.take_left
  unfold Stream.parsePES
  rw [ABitReader.read_gives hheader]
  dsimp only
  have hread : { ABitReader.new fw.reader (w.bytes bounded body ++ behind) with state := s' }.read
      (pesEnd fw.reader (w.payload bounded body)) = some (.ok (), _) := ABitReader.read_gives hend
  rw [hbody, hread]
  cases Stream.onPayloadData fw base c (w.payload bounded body) body <;> rfl

/-- A header with all the fields that are read, and two more bytes. -/
def fullHeader : PesHeader where
  streamId := 0xe0
  control := 4
  flags := 0
  pts := some 8589934591
  dts := some 90000
  escr := some (3, 4294967296, 299)
  esRate := some 50000
  more := [0xff, 0xff]

theorem fullHeader_sound : fullHeader.Sound where
  streamId := by decide
  control := by decide
  flags := by decide
  dts := fun _ => rfl
  timeStamps := by rintro v ⟨⟩; decide
  decodingTime := by rintro v ⟨⟩; decide
  escr := by rintro v ⟨⟩; decide
  esRate := by rintro v ⟨⟩; decide
  size := by decide

theorem pesPacket_readsAs_full : ReadsAs plainTsFramework {} (fullHeader.bytes true [1, 2, 3] ++ [0xff])
    { ptsDtsFlags := 3, pts := 8589934591, dts := 90000, size := 3, bounded := true } [1, 2, 3] :=
  pesPacket_readsAs plainTsFramework id listReader_laws {} fullHeader true [1, 2, 3] [0xff] fullHeader_sound (fun _ => by decide)
    (fun hbounded => by cases hbounded)

/-! ### The packets of the decoders -/

section Frames
open Bomx

/-- The header that a decoder writes. The clock of its time stamps is half as fast. -/
def builtHeader (streamId : UInt8) (pts : Option Nat) : PesHeader where
  streamId := streamId
  control := 1
  flags := 0
  pts := pts.map (2 * ·)
  dts := none
  escr := none
  esRate := none
  more := []

theorem ptsParts_number {a b c d e pts : Nat} (hb : b < 256) (hc : c < 128) (hd : d < 256) (he : e < 64)
    (hpts : a * 2 ^ 29 + b * 2 ^ 21 + c * 2 ^ 14 + d * 2 ^ 6 + e = pts) :
    ((((32 + a * 2 + 1) * 256 + b) * 256 + (c * 2 + 1)) * 256 + d) * 256 + (e * 4 + 1) =
      2 * 2 ^ 36 + timeStampNumber (2 * pts) := by
  have hhigh : 2 * pts / 2 ^ 30 = a := by omega
  have hmiddle : 2 * pts / 2 ^ 15 % 2 ^ 15 = b * 2 ^ 7 + c := by omega
  have hlow : 2 * pts % 2 ^ 15 = d * 2 ^ 7 + 2 * e := by omega
  have hnumber : timeStampNumber (2 * pts) =
      a * 2 ^ 33 + 2 ^ 32 + (b * 2 ^ 7 + c) * 2 ^ 17 + 2 ^ 16 + (d * 2 ^ 7 + 2 * e) * 2 + 1 := by
    rw [← hhigh, ← hmiddle, ← hlow]
    exact Eq.refl _
  rw [hnumber]
  clear hpts hhigh hmiddle hlow hnumber
  omega

theorem ptsField_eq {pts : Nat} (h : pts < 2 ^ 32) : ptsField pts = beBytes 5 (2 * 2 ^ 36 + timeStampNumber (2 * pts)) := by
  have hvalue : beValue (ptsField pts) = ((ptsField pts).map UInt8.toNat).foldl (fun v b => v * 256 + b) 0 := by
    rw [List.foldl_map]
    rfl
  rw [ptsField_toNat] at hvalue
  simp only [List.foldl_cons, List.foldl_nil, Nat.zero_mul, Nat.zero_add] at hvalue
  rw [← ptsParts_number (getBits_lt pts 28 21) (getBits_lt pts 20 14) (getBits_lt pts 13 6)
    (getBits_lt pts 5 0) (getBits_parts h), ← hvalue, ← length_ptsField pts, beBytes_beValue]

theorem builtHeader_data {streamId : UInt8} {pts : Option Nat} (hpts : ∀ t ∈ pts, t < 2 ^ 32) :
    (builtHeader streamId pts).data = pts.elim [] ptsField := by
  cases pts with
  | none => rfl
  | some pts =>
    rw [Option.elim_some, ptsField_eq (hpts pts rfl)]
    exact List.append_nil _ |>.trans (List.append_nil _)

theorem builtHeader_sound {streamId : UInt8} {pts : Option Nat} (hid : streamId.toNat ∉ plainStreamIds)
    (hpts : ∀ t ∈ pts, t < 2 ^ 32) : (builtHeader streamId pts).Sound where
  streamId := hid
  control := Nat.one_lt_two_pow (by decide)
  flags := Nat.two_pow_pos 4
  dts hdts := by cases hdts
  timeStamps v hv := by
    obtain ⟨t, ht, rfl⟩ := Option.map_eq_some_iff.mp hv
    have := hpts t ht
    omega
  decodingTime v hv := by cases hv
  escr v hv := by cases hv
  esRate v hv := by cases hv
  size := by
    rw [builtHeader_data hpts]
    cases pts
    · exact Nat.two_pow_pos 8
    · rw [Option.elim_some, length_ptsField]
      decide

theorem pesBytes_eq {streamId : UInt8} {pts : Option Nat} (hpts : ∀ t ∈ pts, t < 2 ^ 32) (body : List UInt8) :
    pesBytes streamId pts body = (builtHeader streamId pts).bytes true body := by
  have hdata : (builtHeader streamId pts).data = _ := builtHeader_data hpts
  have hlength : ∀ n, beBytes 2 n = [UInt8.ofNat (n / 256), UInt8.ofNat (n % 256)] := by
    intro n
    rw [UInt8.ofNat_mod_size]
    rfl
  unfold pesBytes PesHeader.bytes
  rw [hdata, pesHeader_eq, hlength]
  have hfields : beBytes 3 (builtHeader streamId pts).fields ++ pts.elim [] ptsField = pesHeaderTail pts := by
    unfold PesHeader.fields
    rw [hdata]
    cases pts with
    | none => simp [builtHeader, PesHeader.ptsDtsFlags, PesHeader.escrFlag, PesHeader.esRateFlag, beBytes, pesHeaderTail]
    | some pts =>
      simp [builtHeader, PesHeader.ptsDtsFlags, PesHeader.escrFlag, PesHeader.esRateFlag, beBytes, pesHeaderTail]
  rw [← List.append_assoc (beBytes 3 _), hfields]
  have htail : pesHeaderLength pts - pesHeaderStartBytes = 3 + (pts.elim [] ptsField).length := by cases pts <;> rfl
  rw [htail]
  simp [builtHeader]

/-- The payload of a packet with or without a time stamp. -/
def builtPayload (pts : Option Nat) (body : List UInt8) : PesPayload where
  ptsDtsFlags := if pts.isSome then 2 else 0
  pts := (pts.map (2 * ·)).getD 0
  dts := 0
  size := body.length
  bounded := true

theorem pesBytes_readsAs {fw : TsFramework σ φ} {rest : σ → List Bool} (h : fw.reader.Laws rest) (base : TimeBase)
    {streamId : UInt8} {pts : Option Nat} {body : List UInt8} (hid : streamId.toNat ∉ plainStreamIds)
    (hpts : ∀ t ∈ pts, t < 2 ^ 32) (hsize : pesHeaderLength pts - pesHeaderStartBytes + body.length ≤ maxPesPacketLength) :
    ReadsAs fw base (pesBytes streamId pts body) (builtPayload pts body) body := by
  have htail : pesHeaderLength pts - pesHeaderStartBytes = 3 + (pts.elim [] ptsField).length := by cases pts <;> rfl
  have hlength : 3 + (builtHeader streamId pts).data.length + body.length < 2 ^ 16 := by
    rw [builtHeader_data hpts, ← htail]
    exact Nat.lt_succ_of_le hsize
  have hpayload : (builtHeader streamId pts).payload true body = builtPayload pts body := by cases pts <;> rfl
  have hreads := pesPacket_readsAs fw rest h base (builtHeader streamId pts) true body [] (builtHeader_sound hid hpts)
    (fun _ => hlength) (fun _ => rfl)
  rw [List.append_nil, ← pesBytes_eq hpts, hpayload] at hreads
  exact hreads

theorem buildInputFrame_packets {streamId : UInt8} {first : Bool} {pts : Option Nat} {codecHeader payload : List UInt8}
    {maxDescriptors : Nat} {s s' : FrameBuilder} {ds : List Bomx.Descriptor} (hfit : HeadersFit pts s.pendingConfig codecHeader)
    (hbuilt : buildInputFrame streamId first pts codecHeader payload maxDescriptors s = (s', .ok ds)) :
    ∃ (body : List UInt8) (bodies : List (List UInt8)), body ++ bodies.flatten = s.pendingConfig ++ codecHeader ++ payload ∧
      descriptorBytes s'.header s'.configBuffer payload ds =
        pesBytes streamId pts body ++ bodies.flatMap (pesBytes streamId none) ∧
      pesHeaderLength pts - pesHeaderStartBytes + body.length ≤ maxPesPacketLength ∧
      ∀ b ∈ bodies, b.length ≤ residualRoom := by
  rw [buildInputFrame_eq] at hbuilt
  split at hbuilt
  · cases hbuilt
  split at hbuilt
  · cases hbuilt
  obtain ⟨c, err, hpackets⟩ : ∃ c err, s.packets streamId first pts codecHeader payload.length maxDescriptors = (c, err) :=
    ⟨_, _, rfl⟩
  rw [hpackets] at hbuilt
  by_cases herr : err = .none
  · subst herr
    simp only [if_true, Prod.mk.injEq, Except.ok.injEq] at hbuilt
    obtain ⟨rfl, rfl⟩ := hbuilt
    refine ⟨_, _, flatten_residualBodies pts s.pendingConfig codecHeader payload, ?_, ?_, ?_⟩
    · rw [packets_bytes hfit hpackets]
    · simpa [firstLength, Nat.min_eq_left (firstPiece_le s.pendingConfig payload.length), Nat.add_assoc] using
        firstLength_le hfit payload.length
    · intro b hb
      exact (length_of_mem_chunks (by decide) _ _ b hb).2
  · simp [herr] at hbuilt

/-- The packets that a decoder builds of a frame are packets to the parser: they hand over the frame, and the first of them its time
    stamp, in ticks of 90 kHz. -/
theorem builtFrame_readsAs (fw : TsFramework σ φ) (rest : σ → List Bool) (h : fw.reader.Laws rest) (base : TimeBase)
    (streamId : UInt8) (first : Bool) (pts : Option Nat) (codecHeader payload : List UInt8) (maxDescriptors : Nat)
    (s s' : FrameBuilder) (ds : List Bomx.Descriptor) (hid : streamId = 0xe0 ∨ streamId = 0xc0) (hpts : ∀ t ∈ pts, t < 2 ^ 32)
    (hfit : HeadersFit pts s.pendingConfig codecHeader)
    (hbuilt : buildInputFrame streamId first pts codecHeader payload maxDescriptors s = (s', .ok ds)) :
    ∃ (packet body : List UInt8) (packets bodies : List (List UInt8)), descriptorBytes s'.header s'.configBuffer payload ds = packet ++ packets.flatten ∧
      body ++ bodies.flatten = s.pendingConfig ++ codecHeader ++ payload ∧
      ReadsAs fw base packet (builtPayload pts body) body ∧
      List.Forall₂ (fun packet body => ReadsAs fw base packet (builtPayload none body) body) packets bodies := by
  obtain ⟨body, bodies, hcontent, hbytes, hbody, hbodies⟩ := buildInputFrame_packets hfit hbuilt
  have hid' : streamId.toNat ∉ plainStreamIds := by obtain rfl | rfl := hid <;> decide
  refine ⟨pesBytes streamId pts body, body, bodies.map (pesBytes streamId none), bodies, ?_, hcontent,
    pesBytes_readsAs h base hid' hpts hbody, ?_⟩
  · rw [hbytes, List.flatMap_def]
  · rw [List.forall₂_map_left_iff, List.forall₂_same]
    intro b hb
    refine pesBytes_readsAs h base hid' (fun t ht => by cases ht) ?_
    have hroom := hbodies b hb
    simp [pesHeaderLength] at hroom ⊢
    omega

theorem builtFrame_readsAs_small : ∃ (s' : FrameBuilder) (ds : List Bomx.Descriptor),
    buildInputFrame 0xe0 true (some 90) [] [1, 2, 3] 6 smallFrame = (s', .ok ds) ∧
      ∃ (packet body : List UInt8) (packets bodies : List (List UInt8)),
        descriptorBytes s'.header s'.configBuffer [1, 2, 3] ds = packet ++ packets.flatten ∧
        body ++ bodies.flatten = [7, 8, 1, 2, 3] ∧
        ReadsAs plainTsFramework {} packet (builtPayload (some 90) body) body ∧
        List.Forall₂ (fun packet body => ReadsAs plainTsFramework {} packet (builtPayload none body) body) packets bodies := by
  have hok : (buildInputFrame 0xe0 true (some 90) [] [1, 2, 3] 6 smallFrame).2.toBool = true := by decide
  cases hbuilt : buildInputFrame 0xe0 true (some 90) [] [1, 2, 3] 6 smallFrame with
  | mk s' result =>
    cases result with
    | error err => rw [hbuilt] at hok; cases hok
    | ok ds =>
      exact ⟨s', ds, rfl, builtFrame_readsAs plainTsFramework id listReader_laws {} 0xe0 true (some 90) [] [1, 2, 3] 6 smallFrame s'
        ds (.inl rfl) (by rintro t ⟨⟩; decide) (by unfold HeadersFit; decide) hbuilt⟩

end Frames

end BcmPlatform.Ts
