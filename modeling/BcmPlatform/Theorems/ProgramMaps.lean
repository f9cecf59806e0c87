import BcmPlatform.Theorems.Sections

/-! Program maps. What is written into one is what is read; the streams that it lists are known from then on, with the streams that
    are there already, and where the PIDs of all streams changed, each stream goes on under a PID that is new for its type. -/

namespace BcmPlatform.Ts
open Lib

variable {σ φ : Type}

/-! ### Reading a map -/

structure StreamDescriptor where
  tag : UInt8
  body : List UInt8
  deriving DecidableEq, Repr

def StreamDescriptor.bytes (d : StreamDescriptor) : List UInt8 := d.tag :: UInt8.ofNat d.body.length :: d.body

/-- A stream as a map lists it: the 40 bits of its fields, and its descriptors. -/
structure StreamEntry where
  fields : Nat
  descriptors : List StreamDescriptor
  deriving DecidableEq, Repr

namespace StreamEntry
variable (e : StreamEntry)

def descriptorBytes : List UInt8 := e.descriptors.flatMap StreamDescriptor.bytes

def bytes : List UInt8 := beBytes 5 e.fields ++ e.descriptorBytes

def streamType : Nat := bitField 39 32 e.fields

/-- The format is the one of the last registration descriptor, where the type does not say it. -/
def formatId (streamType : Nat) (descriptors : List StreamDescriptor) (formatId : Option Nat) : Option Nat :=
  descriptors.foldl (fun formatId d => if d.tag = 0x05 ∧ streamType = streamtypePrivate then some (beValue d.body) else formatId) formatId

def info : StreamInfo where
  mType := e.streamType
  mPID := bitField 28 16 e.fields
  mFormatId := formatId e.streamType e.descriptors none

/-- The descriptors have the size that the fields say, and registration descriptors that are read have nothing but a format. -/
structure Sound (e : StreamEntry) : Prop where
  length : bitField 11 0 e.fields = e.descriptorBytes.length
  bodies : ∀ d ∈ e.descriptors, d.body.length < 256
  registration : e.streamType = streamtypePrivate → ∀ d ∈ e.descriptors, d.tag = 0x05 → d.body.length = 4

end StreamEntry

/-- A program map: the 64 bits of its header, the 32 bits of what follows, the descriptors of the program, and the streams. -/
structure MapTable where
  header : Nat
  clock : Nat
  programInfo : List UInt8
  streams : List StreamEntry
  deriving DecidableEq, Repr

namespace MapTable
variable (m : MapTable)

def streamBytes : List UInt8 := m.streams.flatMap StreamEntry.bytes

def table : TableSection where
  header := m.header
  content := beBytes 4 m.clock ++ (m.programInfo ++ m.streamBytes)

def pcrPID : Nat := bitField 28 16 m.clock

def infos : List StreamInfo := m.streams.map StreamEntry.info

structure Sound (m : MapTable) : Prop where
  table : m.table.Sound
  id : bitField 63 56 m.header = 0x02
  programInfo : bitField 11 0 m.clock = m.programInfo.length
  streams : ∀ e ∈ m.streams, e.Sound

end MapTable

section Reading
open HeaderReader
variable {r : BitReader σ} {rest : σ → List Bool} {s : σ} {tail : List Bool}

theorem bitsOf_eq (l : List UInt8) : bitsOf l = toBits (8 * l.length) (beValue l) := by rw [← bitsOf_beBytes, beBytes_beValue]

theorem gives_skipBytes (h : r.Laws rest) {l : List UInt8} (hs : rest s = bitsOf l ++ tail) :
    ∃ s', Gives (skipBits r (l.length * 8)) s () s' ∧ rest s' = tail := by
  have hlength : (bitsOf l).length = l.length * 8 := by rw [length_bitsOf, Nat.mul_comm]
  obtain ⟨s', hs', hrest⟩ := gives_skip (k := l.length * 8) h
    (show _ ≤ (rest s).length by rw [hs, List.length_append, hlength]; exact Nat.le_add_right _ _)
  rw [hs, List.drop_left' hlength] at hrest
  exact ⟨s', hs', hrest⟩

theorem descriptors_gives (h : r.Laws rest) {streamType : Nat} {ds : List StreamDescriptor} (hbodies : ∀ d ∈ ds, d.body.length < 256)
    (hregistration : streamType = streamtypePrivate → ∀ d ∈ ds, d.tag = 0x05 → d.body.length = 4) {fuel : Nat}
    (hfuel : (ds.flatMap StreamDescriptor.bytes).length < fuel) (hlt : (ds.flatMap StreamDescriptor.bytes).length < 2 ^ 32)
    (formatId : Option Nat) (hs : rest s = bitsOf (ds.flatMap StreamDescriptor.bytes) ++ tail) :
    ∃ s', Gives (Program.descriptors r streamType fuel (ds.flatMap StreamDescriptor.bytes).length formatId) s
      (StreamEntry.formatId streamType ds formatId) s' ∧ rest s' = tail := by
  induction ds generalizing fuel formatId s with
  | nil =>
    obtain ⟨fuel, rfl⟩ := Nat.exists_eq_succ_of_ne_zero (Nat.ne_of_gt hfuel)
    exact ⟨s, gives_pure _, hs⟩
  | cons d ds ih =>
    have hbody := hbodies d List.mem_cons_self
    have hlength : ((d :: ds).flatMap StreamDescriptor.bytes).length =
        d.body.length + 2 + (ds.flatMap StreamDescriptor.bytes).length := by
      rw [List.flatMap_cons, List.length_append]
      rfl
    rw [hlength] at hfuel hlt ⊢
    have hbits : rest s = toBits 8 d.tag.toNat ++ (toBits 8 d.body.length ++ (bitsOf d.body ++
        (bitsOf (ds.flatMap StreamDescriptor.bytes) ++ tail))) := by
      rw [hs, List.flatMap_cons, bitsOf_append, StreamDescriptor.bytes, bitsOf_cons, bitsOf_cons, UInt8.toNat_ofNat',
        Nat.mod_eq_of_lt hbody]
      simp only [List.append_assoc]
    obtain ⟨s₁, h₁, hs₁⟩ := gives_field (k := 8) h (by decide) d.tag.toNat_lt hbits
    obtain ⟨s₂, h₂, hs₂⟩ := gives_field (k := 8) h (by decide) hbody hs₁
    obtain ⟨fuel, rfl⟩ := Nat.exists_eq_succ_of_ne_zero (Nat.ne_of_gt (Nat.lt_of_le_of_lt (Nat.zero_le _) hfuel))
    have htemp : Program.subWrap 32 (d.body.length + 2 + (ds.flatMap StreamDescriptor.bytes).length) (d.body.length + 2) =
        (ds.flatMap StreamDescriptor.bytes).length := by
      rw [Program.subWrap]
      omega
    have hroom : decide (d.body.length ≤ d.body.length + 2 + (ds.flatMap StreamDescriptor.bytes).length) = true :=
      decide_eq_true (by omega)
    have hbodies' : ∀ d ∈ ds, d.body.length < 256 := fun d hd => hbodies d (List.mem_cons_of_mem _ hd)
    have hregistration' : streamType = streamtypePrivate → ∀ d ∈ ds, d.tag = 0x05 → d.body.length = 4 :=
      fun htype d hd => hregistration htype d (List.mem_cons_of_mem _ hd)
    have hfuel' : (ds.flatMap StreamDescriptor.bytes).length < fuel := by omega
    have hlt' : (ds.flatMap StreamDescriptor.bytes).length < 2 ^ 32 := by omega
    have hregistered : (d.tag.toNat = 0x05 ∧ streamType = streamtypePrivate) ↔ (d.tag = 0x05 ∧ streamType = streamtypePrivate) :=
      and_congr_left fun _ => UInt8.toNat_inj (b := 0x05)
    unfold Program.descriptors
    rw [if_neg (by omega)]
    by_cases hd : d.tag = 0x05 ∧ streamType = streamtypePrivate
    · have hfour := hregistration hd.2 d List.mem_cons_self hd.1
      have hbodyBits : bitsOf d.body = toBits 32 (beValue d.body) := by rw [bitsOf_eq, hfour]
      rw [hbodyBits] at hs₂
      have hbound := beValue_lt d.body
      rw [hfour] at hbound
      obtain ⟨s₃, h₃, hs₃⟩ := gives_field (k := 32) h (by decide) hbound hs₂
      obtain ⟨s₄, h₄, hs₄⟩ := ih hbodies' hregistration' hfuel' hlt' (some (beValue d.body)) hs₃
      refine ⟨s₄, h₁.bind (h₂.bind ((gives_require hroom).bind ?_)), hs₄⟩
      rw [if_pos (hregistered.mpr hd), htemp]
      refine h₃.bind ?_
      rw [if_neg (by omega), StreamEntry.formatId, List.foldl_cons, if_pos hd]
      exact h₄
    · obtain ⟨s₃, h₃, hs₃⟩ := gives_skipBytes h hs₂
      obtain ⟨s₄, h₄, hs₄⟩ := ih hbodies' hregistration' hfuel' hlt' formatId hs₃
      refine ⟨s₄, h₁.bind (h₂.bind ((gives_require hroom).bind ?_)), hs₄⟩
      rw [if_neg fun heq => hd (hregistered.mp heq), htemp]
      refine h₃.bind ?_
      rw [StreamEntry.formatId, List.foldl_cons, if_neg hd]
      exact h₄

theorem streamInfos_gives (h : r.Laws rest) {entries : List StreamEntry} (hentries : ∀ e ∈ entries, e.Sound) {fuel : Nat}
    (hfuel : (entries.flatMap StreamEntry.bytes).length < fuel) (hlt : (entries.flatMap StreamEntry.bytes).length < 2 ^ 32)
    (hs : rest s = bitsOf (entries.flatMap StreamEntry.bytes) ++ tail) :
    ∃ s', Gives (Program.streamInfos r fuel (entries.flatMap StreamEntry.bytes).length) s (entries.map StreamEntry.info) s' ∧
      rest s' = tail := by
  induction entries generalizing fuel s with
  | nil =>
    obtain ⟨fuel, rfl⟩ := Nat.exists_eq_succ_of_ne_zero (Nat.ne_of_gt hfuel)
    exact ⟨s, gives_pure _, hs⟩
  | cons e entries ih =>
    have he := hentries e List.mem_cons_self
    have hlength : ((e :: entries).flatMap StreamEntry.bytes).length =
        5 + e.descriptorBytes.length + (entries.flatMap StreamEntry.bytes).length := by
      rw [List.flatMap_cons, List.length_append, StreamEntry.bytes, List.length_append, length_beBytes]
    rw [hlength] at hfuel hlt ⊢
    rw [List.flatMap_cons, bitsOf_append, StreamEntry.bytes, bitsOf_append, List.append_assoc, List.append_assoc,
      bitsOf_beBytes] at hs
    obtain ⟨s₁, h₁, hs₁⟩ := gives_getBits (k := 8) (m := 32) h (by decide) hs
    obtain ⟨s₂, h₂, hs₂⟩ := gives_getBits (k := 3) (m := 29) h (by decide) hs₁
    obtain ⟨s₃, h₃, hs₃⟩ := gives_getBits (k := 13) (m := 16) h (by decide) hs₂
    obtain ⟨s₄, h₄, hs₄⟩ := gives_getBits (k := 4) (m := 12) h (by decide) hs₃
    obtain ⟨s₅, h₅, hs₅⟩ := gives_getBits (k := 12) (m := 0) h (by decide) hs₄
    rw [toBits, List.nil_append] at hs₅
    have hinfo : e.fields / 2 ^ 0 % 2 ^ 12 = e.descriptorBytes.length := he.length
    have hinfoLt : e.fields / 2 ^ 0 % 2 ^ 12 < 2 ^ 12 := Nat.mod_lt _ (by decide)
    rw [hinfo] at h₅ hinfoLt
    obtain ⟨s₆, h₆, hs₆⟩ := descriptors_gives h he.bodies he.registration (Nat.lt_succ_self _)
      (Nat.lt_trans hinfoLt (by decide)) none hs₅
    obtain ⟨fuel, rfl⟩ := Nat.exists_eq_succ_of_ne_zero (Nat.ne_of_gt (Nat.lt_of_le_of_lt (Nat.zero_le _) hfuel))
    have hfuel' : (entries.flatMap StreamEntry.bytes).length < fuel := by omega
    obtain ⟨s₇, h₇, hs₇⟩ := ih (fun e he => hentries e (List.mem_cons_of_mem _ he)) hfuel' (by omega) hs₆
    have hremaining : Program.subWrap 64 (5 + e.descriptorBytes.length + (entries.flatMap StreamEntry.bytes).length)
        (5 + e.descriptorBytes.length) = (entries.flatMap StreamEntry.bytes).length := by
      rw [Program.subWrap]
      omega
    unfold Program.streamInfos
    rw [if_neg (by omega)]
    refine ⟨s₇, h₁.bind (h₂.bind (h₃.bind (h₄.bind (h₅.bind (h₆.bind ?_))))), hs₇⟩
    rw [hremaining]
    exact h₇.bind (gives_pure _)

theorem programMap_gives (h : r.Laws rest) {m : MapTable} (hm : m.Sound) {stuffing : List UInt8} {fuel : Nat}
    (hfuel : m.streamBytes.length < fuel) (hs : rest s = bitsOf (m.table.bytes ++ stuffing)) :
    ∃ s', Gives (Program.programMap r fuel) s (m.pcrPID, m.infos) s' := by
  have hbytes : m.table.bytes ++ stuffing = beBytes 8 m.header ++ (beBytes 4 m.clock ++ (m.programInfo ++
      (m.streamBytes ++ (beBytes 4 m.table.crc ++ stuffing)))) := by
    change beBytes 8 m.header ++ (beBytes 4 m.clock ++ (m.programInfo ++ m.streamBytes)) ++ beBytes 4 m.table.crc ++ stuffing = _
    simp only [List.append_assoc]
  rw [hbytes, bitsOf_append, bitsOf_append, bitsOf_append, bitsOf_append, bitsOf_append, bitsOf_beBytes, bitsOf_beBytes,
    bitsOf_beBytes] at hs
  obtain ⟨s₁, h₁, hs₁⟩ := gives_getBits (k := 8) (m := 56) h (by decide) hs
  obtain ⟨s₂, h₂, hs₂⟩ := gives_getBits (k := 1) (m := 55) h (by decide) hs₁
  obtain ⟨s₃, h₃, hs₃⟩ := gives_skipBits (k := 1) (m := 54) h hs₂
  obtain ⟨s₄, h₄, hs₄⟩ := gives_getBits (k := 2) (m := 52) h (by decide) hs₃
  obtain ⟨s₅, h₅, hs₅⟩ := gives_getBits (k := 12) (m := 40) h (by decide) hs₄
  obtain ⟨s₆, h₆, hs₆⟩ := gives_getBits (k := 16) (m := 24) h (by decide) hs₅
  obtain ⟨s₇, h₇, hs₇⟩ := gives_getBits (k := 2) (m := 22) h (by decide) hs₆
  obtain ⟨s₈, h₈, hs₈⟩ := gives_getBits (k := 5) (m := 17) h (by decide) hs₇
  obtain ⟨s₉, h₉, hs₉⟩ := gives_getBits (k := 1) (m := 16) h (by decide) hs₈
  obtain ⟨s₁₀, h₁₀, hs₁₀⟩ := gives_getBits (k := 8) (m := 8) h (by decide) hs₉
  obtain ⟨s₁₁, h₁₁, hs₁₁⟩ := gives_getBits (k := 8) (m := 0) h (by decide) hs₁₀
  rw [toBits, List.nil_append] at hs₁₁
  obtain ⟨s₁₂, h₁₂, hs₁₂⟩ := gives_getBits (k := 3) (m := 29) h (by decide) hs₁₁
  obtain ⟨s₁₃, h₁₃, hs₁₃⟩ := gives_getBits (k := 13) (m := 16) h (by decide) hs₁₂
  obtain ⟨s₁₄, h₁₄, hs₁₄⟩ := gives_getBits (k := 4) (m := 12) h (by decide) hs₁₃
  obtain ⟨s₁₅, h₁₅, hs₁₅⟩ := gives_getBits (k := 12) (m := 0) h (by decide) hs₁₄
  rw [toBits, List.nil_append] at hs₁₅
  have hinfo : m.clock / 2 ^ 0 % 2 ^ 12 = m.programInfo.length := hm.programInfo
  rw [hinfo] at h₁₅
  obtain ⟨s₁₆, h₁₆, hs₁₆⟩ := gives_skipBytes h hs₁₅
  have hcontent : m.table.content.length = 4 + (m.programInfo.length + m.streamBytes.length) := by
    change (beBytes 4 m.clock ++ (m.programInfo ++ m.streamBytes)).length = _
    rw [List.length_append, List.length_append, length_beBytes]
  have hlength : m.header / 2 ^ 40 % 2 ^ 12 = 9 + (4 + (m.programInfo.length + m.streamBytes.length)) := by
    rw [← hcontent]
    exact hm.table.length
  have hlt : m.header / 2 ^ 40 % 2 ^ 12 < 2 ^ 12 := Nat.mod_lt _ (by decide)
  have hstreams : m.streamBytes.length < 2 ^ 32 := by omega
  obtain ⟨s₁₇, h₁₇, hs₁₇⟩ := streamInfos_gives h hm.streams hfuel hstreams hs₁₆
  obtain ⟨s₁₈, h₁₈, -⟩ := gives_getBits (k := 32) (m := 0) h (by decide) hs₁₇
  have hremaining : Program.subWrap 32 (Program.subWrap 32 (m.header / 2 ^ 40 % 2 ^ 12) 9) (m.programInfo.length + 4) =
      m.streamBytes.length := by
    rw [Program.subWrap, Program.subWrap]
    omega
  have hid : (m.header / 2 ^ 56 % 2 ^ 8 == 0x02) = true := beq_iff_eq.mpr hm.id
  have hform : (m.header / 2 ^ 55 % 2 ^ 1 == 1) = true := beq_iff_eq.mpr hm.table.form
  refine ⟨s₁₈, h₁.bind ((gives_require hid).bind (h₂.bind ((gives_require hform).bind (h₃.bind (h₄.bind (h₅.bind (h₆.bind (h₇.bind
    (h₈.bind (h₉.bind (h₁₀.bind (h₁₁.bind (h₁₂.bind (h₁₃.bind (h₁₄.bind (h₁₅.bind (h₁₆.bind ?_)))))))))))))))))⟩
  rw [hremaining]
  exact h₁₇.bind (h₁₈.bind (gives_pure _))

end Reading

/-! ### Streams under other PIDs -/

/-- The PIDs that a map lists for a type. -/
def pidsOf (infos : List StreamInfo) (streamType : Nat) : List Nat :=
  (infos.filter fun info => info.mType = streamType).map (·.mPID)

def streamsOf (streams : List (Stream φ)) (streamType : Nat) : List (Stream φ) :=
  streams.filter fun stream => stream.mStreamType = streamType

/-- The map lists as many streams of each type as there are. -/
def SameTypes (streams : KeyedVector Nat (Stream φ)) (infos : List StreamInfo) : Prop :=
  ∀ streamType, (streamsOf streams.values streamType).length = (pidsOf infos streamType).length

namespace Program
variable {streams : KeyedVector Nat (Stream φ)} {infos : List StreamInfo}

theorem get?_type2PIDs (l : List (Nat × Nat)) (streamType : Nat) : (type2PIDs l).get? streamType =
    if (l.filter fun p => p.1 = streamType) = [] then none else some ((l.filter fun p => p.1 = streamType).map (·.2)) := by
  induction l using List.reverseRecOn with
  | nil => rfl
  | append_singleton l p ih =>
    have hstep : type2PIDs (l ++ [p]) = (type2PIDs l).add p.1 (((type2PIDs l).get? p.1).getD [] ++ [p.2]) := by
      unfold type2PIDs
      rw [List.foldl_append]
      rfl
    rw [hstep, KeyedVector.get?_add, List.filter_append]
    by_cases hp : streamType = p.1
    · have hlast : ([p].filter fun q => q.1 = streamType) = [p] := by simp [hp]
      rw [if_pos hp, hlast, if_neg (by simp), ← hp, ih, List.map_append]
      split
      · next hnil => rw [hnil]; rfl
      · rfl
    · have hlast : ([p].filter fun q => q.1 = streamType) = [] := by simp [Ne.symm hp]
      rw [if_neg hp, hlast, List.append_nil, ih]

theorem getD_type2PIDs (l : List (Nat × Nat)) (streamType : Nat) :
    ((type2PIDs l).get? streamType).getD [] = (l.filter fun p => p.1 = streamType).map (·.2) := by
  rw [get?_type2PIDs]
  split
  · next hnil => rw [hnil]; rfl
  · rfl

theorem types_same_iff (l l' : List (Nat × Nat)) :
    ((type2PIDs l).size = (type2PIDs l').size ∧
        ∀ p ∈ (type2PIDs l).items.zip (type2PIDs l').items, p.1.1 = p.2.1 ∧ p.1.2.length = p.2.2.length) ↔
      ∀ t, (l.filter fun p => p.1 = t).length = (l'.filter fun p => p.1 = t).length := by
  have hlength : ∀ (l : List (Nat × Nat)) (t : Nat), ((type2PIDs l).get? t).map List.length =
      if (l.filter fun p => p.1 = t).length = 0 then none else some (l.filter fun p => p.1 = t).length := by
    intro l t
    rw [get?_type2PIDs]
    by_cases hnil : (l.filter fun p => p.1 = t) = []
    · rw [if_pos hnil, if_pos (List.length_eq_zero_iff.mpr hnil)]
      rfl
    · rw [if_neg hnil, if_neg fun hzero => hnil (List.length_eq_zero_iff.mp hzero), Option.map_some, List.length_map]
  rw [KeyedVector.zip_iff]
  refine forall_congr' fun t => ?_
  rw [hlength, hlength]
  constructor
  · intro heq
    split at heq <;> split at heq
    · next hzero hzero' => rw [hzero, hzero']
    · cases heq
    · cases heq
    · exact Option.some.inj heq
  · intro heq
    rw [heq]

theorem length_eq_of_sameTypes (h : SameTypes streams infos) : streams.size = infos.length := by
  have hcount : ∀ {α : Type} (f : α → Nat) (l : List α) (t : Nat), (l.map f).count t = (l.filter fun a => f a = t).length := by
    intro α f l t
    rw [List.count, List.countP_map, List.countP_eq_length_filter]
    exact congrArg (fun test => (l.filter test).length) (funext fun a => Bool.beq_eq_decide_eq _ _)
  have hperm : (streams.values.map (·.mStreamType)).Perm (infos.map (·.mType)) := by
    refine List.perm_iff_count.mpr fun t => ?_
    rw [hcount, hcount]
    have ht := h t
    rwa [pidsOf, List.length_map] at ht
  have hlength := hperm.length_eq
  rw [List.length_map, List.length_map] at hlength
  rw [← hlength, KeyedVector.values, List.length_map]
  rfl

theorem switchPIDs_eq (streams : KeyedVector Nat (Stream φ)) (infos : List StreamInfo) [Decidable (SameTypes streams infos)] :
    switchPIDs streams infos =
      if SameTypes streams infos then
        reassign streams.values (type2PIDs (infos.map fun info => (info.mType, info.mPID))) .empty
      else (false, streams) := by
  have hsame : (∀ t, ((streams.values.map fun s => (s.mStreamType, s.mElementaryPID)).filter fun p => p.1 = t).length =
      ((infos.map fun info => (info.mType, info.mPID)).filter fun p => p.1 = t).length) ↔ SameTypes streams infos := by
    refine forall_congr' fun t => ?_
    rw [List.filter_map, List.filter_map, List.length_map, List.length_map, pidsOf, List.length_map]
    rfl
  rw [← types_same_iff] at hsame
  unfold switchPIDs
  dsimp only
  split
  · split
    · next hcheck =>
      rw [List.all_eq_true] at hcheck
      simp only [decide_eq_true_eq] at hcheck
      rw [if_pos (hsame.mp hcheck)]
    · next hcheck =>
      rw [List.all_eq_true] at hcheck
      simp only [decide_eq_true_eq] at hcheck
      rw [if_neg fun h => hcheck (hsame.mpr h)]
  · next hsize => rw [if_neg fun h => hsize (length_eq_of_sameTypes h)]

/-- The new PIDs of a type that are left. -/
def pidsLeft (newPIDs : KeyedVector Nat (List Nat)) (streamType : Nat) : List Nat := (newPIDs.get? streamType).getD []

/-- No PID is there twice. -/
structure Distinct (newPIDs : KeyedVector Nat (List Nat)) : Prop where
  nodup : ∀ t, (pidsLeft newPIDs t).Nodup
  disjoint : ∀ t t', t ≠ t' → ∀ pid ∈ pidsLeft newPIDs t, pid ∉ pidsLeft newPIDs t'

section Taking
variable {newPIDs : KeyedVector Nat (List Nat)} {streamType pid : Nat} {pids : List Nat}

theorem pidsLeft_add (t : Nat) : pidsLeft (newPIDs.add streamType pids) t = if t = streamType then pids else pidsLeft newPIDs t := by
  unfold pidsLeft
  rw [KeyedVector.get?_add]
  split <;> rfl

theorem mem_pidsLeft_add (hpids : pidsLeft newPIDs streamType = pid :: pids) {t pid' : Nat}
    (hmem : pid' ∈ pidsLeft (newPIDs.add streamType pids) t) : pid' ∈ pidsLeft newPIDs t := by
  rw [pidsLeft_add] at hmem
  split at hmem
  · next ht =>
    rw [ht, hpids]
    exact List.mem_cons_of_mem _ hmem
  · exact hmem

theorem Distinct.take (h : Distinct newPIDs) (hpids : pidsLeft newPIDs streamType = pid :: pids) :
    Distinct (newPIDs.add streamType pids) ∧ ∀ t, pid ∉ pidsLeft (newPIDs.add streamType pids) t := by
  have hnodup := h.nodup streamType
  rw [hpids] at hnodup
  obtain ⟨hnew, hpidsNodup⟩ := List.nodup_cons.mp hnodup
  refine ⟨⟨fun t => ?_, fun t t' hne pid' hpid hpid' =>
    h.disjoint t t' hne pid' (mem_pidsLeft_add hpids hpid) (mem_pidsLeft_add hpids hpid')⟩, fun t => ?_⟩
  · rw [pidsLeft_add]
    split
    · exact hpidsNodup
    · exact h.nodup t
  · rw [pidsLeft_add]
    split
    · exact hnew
    · next ht => exact h.disjoint _ t (Ne.symm ht) pid (by rw [hpids]; exact List.mem_cons_self)

end Taking

theorem streamsOf_cons_self (stream : Stream φ) (streams : List (Stream φ)) :
    streamsOf (stream :: streams) stream.mStreamType = stream :: streamsOf streams stream.mStreamType :=
  List.filter_cons_of_pos (decide_eq_true rfl)

theorem streamsOf_cons_of_ne (streams : List (Stream φ)) {stream : Stream φ} {t : Nat} (ht : t ≠ stream.mStreamType) :
    streamsOf (stream :: streams) t = streamsOf streams t :=
  List.filter_cons_of_neg (by rw [decide_eq_true_iff]; exact ht.symm)

/-- The pairs of a PID and the stream that it goes to: that of the first stream, and those of the others. -/
theorem mem_zip_streamsOf {newPIDs : KeyedVector Nat (List Nat)} {first old : Stream φ} {rest : List (Stream φ)} {pid pid₀ : Nat}
    {pids : List Nat} (hpids : pidsLeft newPIDs first.mStreamType = pid₀ :: pids) :
    (pid, old) ∈ (pidsLeft newPIDs old.mStreamType).zip (streamsOf (first :: rest) old.mStreamType) ↔
      (pid, old) = (pid₀, first) ∨
        (pid, old) ∈ (pidsLeft (newPIDs.add first.mStreamType pids) old.mStreamType).zip (streamsOf rest old.mStreamType) := by
  rw [pidsLeft_add]
  by_cases ht : old.mStreamType = first.mStreamType
  · rw [if_pos ht, ht, hpids, streamsOf_cons_self, List.zip_cons_cons, List.mem_cons]
  · rw [if_neg ht, streamsOf_cons_of_ne _ ht, or_iff_right]
    exact fun heq => ht (congrArg (fun p => p.2.mStreamType) heq)

theorem reassign_spec (rest : List (Stream φ)) {newPIDs : KeyedVector Nat (List Nat)} (done : KeyedVector Nat (Stream φ))
    (hlength : ∀ t, (streamsOf rest t).length = (pidsLeft newPIDs t).length) (hdistinct : Distinct newPIDs) :
    (reassign rest newPIDs done).1 = true ∧ ∀ pid stream, (reassign rest newPIDs done).2.get? pid = some stream ↔
      (∃ old, (pid, old) ∈ (pidsLeft newPIDs old.mStreamType).zip (streamsOf rest old.mStreamType) ∧
        stream = { old with mElementaryPID := pid }) ∨
      (∀ t, pid ∉ pidsLeft newPIDs t) ∧ done.get? pid = some stream := by
  induction rest generalizing newPIDs done with
  | nil =>
    have hnil : ∀ t, pidsLeft newPIDs t = [] := fun t => List.length_eq_zero_iff.mp (hlength t).symm
    refine ⟨rfl, fun pid stream => ⟨fun hdone => .inr ⟨fun t => ?_, hdone⟩, ?_⟩⟩
    · rw [hnil]
      exact List.not_mem_nil
    · rintro (⟨old, hold, -⟩ | ⟨-, hdone⟩)
      · rw [hnil] at hold
        cases hold
      · exact hdone
  | cons first rest ih =>
    have hlengthFirst := hlength first.mStreamType
    rw [streamsOf_cons_self, List.length_cons] at hlengthFirst
    obtain ⟨pid₀, pids, hpids⟩ := List.exists_cons_of_length_eq_add_one hlengthFirst.symm
    have hget : newPIDs.get? first.mStreamType = some (pid₀ :: pids) := by
      unfold pidsLeft at hpids
      cases hnew : newPIDs.get? first.mStreamType with
      | none => rw [hnew] at hpids; cases hpids
      | some l => rw [hnew, Option.getD_some] at hpids; rw [hpids]
    obtain ⟨hdistinct', hfresh⟩ := hdistinct.take hpids
    have hlength' : ∀ t, (streamsOf rest t).length = (pidsLeft (newPIDs.add first.mStreamType pids) t).length := by
      intro t
      rw [pidsLeft_add]
      split
      · next ht =>
        rw [hpids, List.length_cons] at hlengthFirst
        rw [ht]
        exact Nat.succ.inj hlengthFirst
      · next ht =>
        rw [← streamsOf_cons_of_ne rest ht]
        exact hlength t
    have hstep : reassign (first :: rest) newPIDs done =
        reassign rest (newPIDs.add first.mStreamType pids) (done.add pid₀ { first with mElementaryPID := pid₀ }) := by
      rw [reassign, hget]
    obtain ⟨hsuccess, hspec⟩ := ih (done.add pid₀ { first with mElementaryPID := pid₀ }) hlength' hdistinct'
    rw [hstep]
    refine ⟨hsuccess, fun pid stream => (hspec pid stream).trans ?_⟩
    rw [KeyedVector.get?_add]
    constructor
    · rintro (⟨old, hold, rfl⟩ | ⟨hfree, hdone⟩)
      · exact .inl ⟨old, (mem_zip_streamsOf hpids).mpr (.inr hold), rfl⟩
      · split at hdone
        · next hpid =>
          obtain rfl := Option.some.inj hdone
          rw [hpid]
          exact .inl ⟨first, (mem_zip_streamsOf hpids).mpr (.inl rfl), rfl⟩
        · next hpid =>
          refine .inr ⟨fun t ht => ?_, hdone⟩
          have hfree' := hfree t
          rw [pidsLeft_add] at hfree'
          split at hfree'
          · next htype =>
            rw [htype, hpids] at ht
            exact hfree' ((List.mem_cons.mp ht).resolve_left hpid)
          · exact hfree' ht
    · rintro (⟨old, hold, rfl⟩ | ⟨hfree, hdone⟩)
      · obtain heq | hold := (mem_zip_streamsOf hpids).mp hold
        · obtain ⟨rfl, rfl⟩ := Prod.mk.inj heq
          exact .inr ⟨hfresh, if_pos rfl⟩
        · exact .inl ⟨old, hold, rfl⟩
      · have hne : pid ≠ pid₀ := by
          rintro rfl
          exact hfree first.mStreamType (by rw [hpids]; exact List.mem_cons_self)
        exact .inr ⟨fun t ht => hfree t (mem_pidsLeft_add hpids ht), by rw [if_neg hne, hdone]⟩

theorem pidsLeft_type2PIDs (infos : List StreamInfo) (t : Nat) :
    pidsLeft (type2PIDs (infos.map fun info => (info.mType, info.mPID))) t = pidsOf infos t := by
  rw [pidsLeft, getD_type2PIDs, List.filter_map, List.map_map]
  rfl

theorem distinct_type2PIDs (hnodup : (infos.map (·.mPID)).Nodup) :
    Distinct (type2PIDs (infos.map fun info => (info.mType, info.mPID))) where
  nodup t := by
    rw [pidsLeft_type2PIDs]
    exact hnodup.sublist (List.filter_sublist.map _)
  disjoint t t' hne pid hpid hpid' := by
    rw [pidsLeft_type2PIDs] at hpid hpid'
    obtain ⟨info, hinfo, rfl⟩ := List.mem_map.mp hpid
    obtain ⟨info', hinfo', hsame⟩ := List.mem_map.mp hpid'
    obtain ⟨hmem, ht⟩ := List.mem_filter.mp hinfo
    obtain ⟨hmem', ht'⟩ := List.mem_filter.mp hinfo'
    obtain rfl := List.inj_on_of_nodup_map hnodup hmem' hmem hsame
    exact hne ((of_decide_eq_true ht).symm.trans (of_decide_eq_true ht'))

/-- A stream goes on under a new PID: the one that has its place among those of its type. -/
def Switched (infos : List StreamInfo) (before after : KeyedVector Nat (Stream φ)) : Prop :=
  ∀ pid stream, after.get? pid = some stream ↔
    ∃ old, (pid, old) ∈ (pidsOf infos old.mStreamType).zip (streamsOf before.values old.mStreamType) ∧
      stream = { old with mElementaryPID := pid }

theorem switchPIDs_switched (hsame : SameTypes streams infos) (hnodup : (infos.map (·.mPID)).Nodup) :
    ∃ streams', switchPIDs streams infos = (true, streams') ∧ Switched infos streams streams' := by
  obtain ⟨hsuccess, hspec⟩ := reassign_spec streams.values .empty
    (fun t => by rw [pidsLeft_type2PIDs]; exact hsame t) (distinct_type2PIDs hnodup)
  classical
  rw [switchPIDs_eq, if_pos hsame]
  refine ⟨_, Prod.ext hsuccess rfl, fun pid stream => (hspec pid stream).trans ?_⟩
  simp only [pidsLeft_type2PIDs]
  refine or_iff_left ?_
  rintro ⟨-, hempty⟩
  cases hempty

theorem Switched.known {after : KeyedVector Nat (Stream φ)} (h : Switched infos streams after) (hsame : SameTypes streams infos)
    {info : StreamInfo} (hinfo : info ∈ infos) : ∃ stream, after.get? info.mPID = some stream ∧ stream.mStreamType = info.mType := by
  have hpid : info.mPID ∈ pidsOf infos info.mType :=
    List.mem_map.mpr ⟨info, List.mem_filter.mpr ⟨hinfo, decide_eq_true rfl⟩, rfl⟩
  have hzip : info.mPID ∈ ((pidsOf infos info.mType).zip (streamsOf streams.values info.mType)).map (·.1) := by
    rw [List.map_fst_zip (Nat.le_of_eq (hsame info.mType).symm)]
    exact hpid
  obtain ⟨⟨pid, old⟩, hold, rfl⟩ := List.mem_map.mp hzip
  have htype : old.mStreamType = info.mType :=
    of_decide_eq_true (List.mem_filter.mp (List.of_mem_zip hold).2).2
  exact ⟨_, (h info.mPID _).mpr ⟨old, by rw [htype]; exact hold, rfl⟩, htype⟩

theorem get?_addStreams (parserFlags pcrPID : Nat) (streams : KeyedVector Nat (Stream φ)) (infos : List StreamInfo) (pid : Nat) :
    (addStreams parserFlags pcrPID streams infos).get? pid =
      (streams.get? pid).or ((infos.find? fun info => info.mPID = pid).map fun info =>
        .new parserFlags info.mPID info.mType pcrPID info.mFormatId) := by
  induction infos generalizing streams with
  | nil => exact Option.or_none.symm
  | cons info infos ih =>
    rw [addStreams, List.foldl_cons]
    change (addStreams parserFlags pcrPID _ infos).get? pid = _
    rw [ih, List.find?_cons]
    by_cases hpid : info.mPID = pid
    · subst hpid
      rw [decide_eq_true rfl]
      split
      · next hsome =>
        obtain ⟨stream, hstream⟩ := Option.isSome_iff_exists.mp hsome
        rw [hstream]
        rfl
      · next hnone =>
        rw [Option.not_isSome_iff_eq_none] at hnone
        rw [hnone, KeyedVector.get?_add_self]
        rfl
    · rw [decide_eq_false hpid]
      split
      · rfl
      · rw [KeyedVector.get?_add_of_ne _ (Ne.symm hpid)]

/-- Some PID is the one of a stream with another type. -/
def Changes (streams : KeyedVector Nat (Stream φ)) (infos : List StreamInfo) : Prop :=
  ∃ info ∈ infos, ∃ stream, streams.get? info.mPID = some stream ∧ stream.mStreamType ≠ info.mType

/-- What a program map changes. The streams that it lists are known, with their types; where no PID changed, the streams that are
    there stay, and others are new; where one did, all streams go on under new PIDs. A map that says what is known changes nothing. -/
structure Learned (parserFlags pcrPID : Nat) (infos : List StreamInfo) (before after : KeyedVector Nat (Stream φ)) : Prop where
  known : ∀ info ∈ infos, ∃ stream, after.get? info.mPID = some stream ∧ stream.mStreamType = info.mType
  added : ¬ Changes before infos → ∀ pid, after.get? pid =
    (before.get? pid).or ((infos.find? fun info => info.mPID = pid).map fun info =>
      .new parserFlags info.mPID info.mType pcrPID info.mFormatId)
  switched : Changes before infos → Switched infos before after
  again : (∀ info ∈ infos, ∃ stream, before.get? info.mPID = some stream ∧ stream.mStreamType = info.mType) → after = before

theorem learned_addStreams (parserFlags pcrPID : Nat) (hnodup : (infos.map (·.mPID)).Nodup) (hchanges : ¬ Changes streams infos) :
    Learned parserFlags pcrPID infos streams (addStreams parserFlags pcrPID streams infos) where
  known info hinfo := by
    rw [get?_addStreams]
    cases hstream : streams.get? info.mPID with
    | some stream =>
      refine ⟨stream, rfl, ?_⟩
      by_contra hne
      exact hchanges ⟨info, hinfo, stream, hstream, hne⟩
    | none =>
      cases hfind : infos.find? fun info' => info'.mPID = info.mPID with
      | none => exact absurd (decide_eq_true rfl) (List.find?_eq_none.mp hfind info hinfo)
      | some info' =>
        obtain rfl := List.inj_on_of_nodup_map hnodup (List.mem_of_find?_eq_some hfind) hinfo
          (of_decide_eq_true (List.find?_some hfind :))
        exact ⟨_, rfl, rfl⟩
  added _ := get?_addStreams parserFlags pcrPID streams infos
  switched hchanges' := absurd hchanges' hchanges
  again hknown := by
    refine KeyedVector.ext_get? fun pid => ?_
    rw [get?_addStreams]
    cases hfind : infos.find? fun info => info.mPID = pid with
    | none => exact Option.or_none
    | some info =>
      have hpid : info.mPID = pid := of_decide_eq_true (List.find?_some hfind :)
      obtain ⟨stream, hstream, -⟩ := hknown info (List.mem_of_find?_eq_some hfind)
      rw [← hpid, hstream]
      rfl

theorem learned_switched (parserFlags pcrPID : Nat) {streams' : KeyedVector Nat (Stream φ)} (hchanges : Changes streams infos)
    (hsame : SameTypes streams infos) (hswitched : Switched infos streams streams') :
    Learned parserFlags pcrPID infos streams (addStreams parserFlags pcrPID streams' infos) := by
  have hkeep : addStreams parserFlags pcrPID streams' infos = streams' := by
    refine KeyedVector.ext_get? fun pid => ?_
    rw [get?_addStreams]
    cases hfind : infos.find? fun info => info.mPID = pid with
    | none => exact Option.or_none
    | some info =>
      have hpid : info.mPID = pid := of_decide_eq_true (List.find?_some hfind :)
      obtain ⟨stream, hstream, -⟩ := hswitched.known hsame (List.mem_of_find?_eq_some hfind)
      rw [← hpid, hstream]
      rfl
  rw [hkeep]
  refine ⟨fun info hinfo => hswitched.known hsame hinfo, fun hno => absurd hchanges hno, fun _ => hswitched, fun hknown => ?_⟩
  obtain ⟨info, hinfo, stream, hstream, hne⟩ := hchanges
  obtain ⟨stream', hstream', htype⟩ := hknown info hinfo
  rw [hstream] at hstream'
  obtain rfl := Option.some.inj hstream'
  exact absurd htype hne

section Parsing
variable {fw : TsFramework σ φ} {base : TimeBase} {p : Program φ} {br br' : ABitReader σ} {pcrPID : Nat}

theorem parseProgramMap_eq (base : TimeBase) (p : Program φ)
    (hread : br.read (programMap fw.reader (br.bytes.length + 1)) = some (.ok (pcrPID, infos), br'))
    (hnodup : (infos.map (·.mPID)).Nodup) :
    (Changes p.mStreams infos → SameTypes p.mStreams infos →
      ∃ streams', parseProgramMap fw base p br = some (.ok, { p with mStreams := streams' }) ∧
        Learned base.mFlags pcrPID infos p.mStreams streams') ∧
    (Changes p.mStreams infos → ¬ SameTypes p.mStreams infos → parseProgramMap fw base p br = some (.malformed, p)) ∧
    (¬ Changes p.mStreams infos → ∃ streams', parseProgramMap fw base p br = some (.ok, { p with mStreams := streams' }) ∧
        Learned base.mFlags pcrPID infos p.mStreams streams') := by
  have hchanges : (infos.any fun info => (p.mStreams.get? info.mPID).any fun stream => stream.mStreamType ≠ info.mType) = true ↔
      Changes p.mStreams infos := by
    simp only [List.any_eq_true, Option.any_eq_true, Changes, decide_eq_true_eq]
  unfold parseProgramMap
  rw [hread]
  dsimp only
  refine ⟨fun hc hsame => ?_, fun hc hsame => ?_, fun hc => ?_⟩
  · obtain ⟨streams', hswitch, hswitched⟩ := switchPIDs_switched hsame hnodup
    rw [if_pos (hchanges.mpr hc), hswitch]
    exact ⟨_, rfl, learned_switched _ _ hc hsame hswitched⟩
  · classical
    rw [if_pos (hchanges.mpr hc), switchPIDs_eq, if_neg hsame]
    rfl
  · rw [if_neg fun heq => hc (hchanges.mp heq)]
    exact ⟨_, rfl, learned_addStreams _ _ hnodup hc⟩

end Parsing

end Program

/-! ### Maps in packets -/

theorem parseSection_map {fw : TsFramework σ φ} {parser : ATSParser φ} {pid : Nat} {psi : PSISection}
    {before after : List (Program φ)} {program program' : Program φ} {status : Status} (hpid : pid ≠ 0)
    (hprograms : parser.mPrograms = before ++ program :: after) (hbefore : ∀ p ∈ before, p.mProgramMapPID ≠ pid)
    (hmap : program.mProgramMapPID = pid)
    (hparse : program.parseProgramMap fw parser.base (.new fw.reader psi.data) = some (status, program')) :
    ATSParser.parseSection fw parser pid psi = some (status,
      if status = .ok then { parser with mPrograms := before ++ program' :: after }.setSection pid psi.clear
      else { parser with mPrograms := before ++ program' :: after }) := by
  have htake : ∀ p ∈ before, p.parsePSISection fw parser.base pid (.new fw.reader psi.data) = some (none, p) := fun p hp =>
    if_pos (Ne.symm (hbefore p hp))
  have hprogram : program.parsePSISection fw parser.base pid (.new fw.reader psi.data) = some (some status, program') := by
    rw [Program.parsePSISection, if_neg (not_not_intro hmap.symm), hparse]
    rfl
  have hfirst : firstProgram (fun program => program.parsePSISection fw parser.base pid (.new fw.reader psi.data)) parser.mPrograms =
      some (some status, before ++ program' :: after) := by
    rw [hprograms, firstProgram_append htake, firstProgram, hprogram]
    rfl
  unfold ATSParser.parseSection
  dsimp only
  rw [if_neg hpid, hfirst]
  cases status <;> rfl

/-- A program with a sound stream and a video stream. -/
def avProgram : Program Unit where
  mProgramNumber := 1
  mProgramMapPID := 256
  mStreams := (KeyedVector.empty.add 257 (.new 0 257 streamtypeMpeg2AudioAdts 257 none)).add 258 (.new 0 258 streamtypeH264 257 none)
  pts := { mFirstPTSValid := false, mFirstPTS := 0#64, mLastRecoveredPTS := -1#64 }

def avParser : ATSParser Unit where
  kTSPacketSize := 188
  base := {}
  mPrograms := [avProgram]
  mPSISections := (KeyedVector.empty.add 0 .new).add 256 .new
  mLastRecoveredPTS := -1#64
  mNumTSPacketsParsed := 0

/-- The streams have each other's PIDs. -/
def avMap : MapTable where
  header := 0x02b0170001c10000
  clock := 0xe101f000
  programInfo := []
  streams := [{ fields := 0x1be101f000, descriptors := [] }, { fields := 0x0fe102f000, descriptors := [] }]

theorem avMap_sound : avMap.Sound where
  table := ⟨by decide, by decide⟩
  id := by decide
  programInfo := by decide
  streams := by
    intro e he
    obtain rfl | rfl := by simpa [avMap] using he
    all_goals exact ⟨by decide, by simp, by simp⟩

end BcmPlatform.Ts
