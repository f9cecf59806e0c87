import BcmPlatform.Piff.MovieTree

/-! What is documented of the MP4 utilities, and how the loops over boxes go over the boxes of a tree. -/

namespace BcmPlatform.Piff
open Bomx Lib Walk

/-- The header of a box as it is parsed. -/
def parsed (b : RawBox) : Mp4Box := ⟨b.headerLength, b.size, b.type⟩

theorem parsed_length (b : RawBox) : ((parsed b).size : Int) - (parsed b).headerSize = b.payload.length := by
  change ((b.headerLength + b.payload.length : Nat) : Int) - b.headerLength = b.payload.length
  omega

theorem sizeT_natCast (n : Nat) : sizeT n = n := if_pos (Int.natCast_nonneg n)

/-- The functions of the MP4 utilities read the fields of headers and track headers, numbers are read with their bytes, memory
    is there, and the probe for AAC looks at the two bytes of an AudioSpecificConfig. -/
structure Mp4Util.Laws (m : Mp4Util) : Prop where
  parseBox : ∀ b : RawBox, b.Coded → ∀ tail, m.parseBox.read (b.header ++ tail) = (some (parsed b), tail)
  parseFullbox : ∀ l, 4 ≤ l.length →
    m.parseFullbox.read l = (some ⟨beValue (l.take 1), beValue ((l.drop 1).take 3)⟩, l.drop 4)
  parseBoxExtended : ∀ l, 16 ≤ l.length → m.parseBoxExtended.read l = (some (l.take 16), l.drop 16)
  parseTrackheader : ∀ t : Tkhd, t.Sized → m.parseTrackheader t.raw.payload = some t.id.toNat
  uint : ∀ n l, n ≤ l.length → (m.uint n).read l = (beValue (l.take n), l.drop n)
  probeAacInfo : ∀ l tail, 2 ≤ l.length → m.probeAacInfo (l ++ tail) = m.probeAacInfo l
  aacInfo : ∀ l, (m.probeAacInfo l).length ≤ bpiffMaxPpsSps
  allocate : ∀ n, m.allocate n = true
  stackSystemId : m.stackSystemId.length = 16

theorem plainBox_header {b : RawBox} (hb : b.Coded) (tail : List UInt8) : plainBox (b.header ++ tail) = (some (parsed b), tail) := by
  obtain ⟨htype, hsize⟩ := hb
  have htypeValue : beValue (beBytes 4 b.type) = b.type := beValue_beBytes htype
  have hlength : (b.header ++ tail).length = b.headerLength + tail.length := by rw [List.length_append, b.length_header]
  have height : ¬ (b.header ++ tail).length < 8 := by
    have := b.eight_le_headerLength
    omega
  have hdrop : (b.header ++ tail).drop b.headerLength = tail := List.drop_left' b.length_header
  have hle := b.headerLength_le
  rw [plainBox, if_neg height, parsed]
  rw [RawBox.headerLength] at hlength hdrop hle ⊢
  cases hwide : b.wide with
  | false =>
    rw [hwide] at hsize hdrop hle
    simp only [Bool.false_eq_true, if_false] at hsize hdrop hle ⊢
    have hheader : b.header = beBytes 4 b.size ++ beBytes 4 b.type := by rw [RawBox.header, hwide]; rfl
    have hsizeValue : beValue (beBytes 4 b.size) = b.size := beValue_beBytes hsize
    rw [hdrop, hheader, List.append_assoc, List.take_left' (length_beBytes 4 _), hsizeValue, if_pos (by omega),
      List.drop_left' (length_beBytes 4 _), List.take_left' (length_beBytes 4 _), htypeValue]
  | true =>
    rw [hwide] at hsize hdrop hlength
    simp only [if_true] at hsize hdrop hlength ⊢
    have hheader : b.header = beBytes 4 1 ++ (beBytes 4 b.type ++ beBytes 8 b.size) := by rw [RawBox.header, hwide]; rfl
    have hsizeValue : beValue (beBytes 8 b.size) = b.size := beValue_beBytes hsize
    have hone : beValue (beBytes 4 1) = 1 := by decide
    have hsixteen : ¬ (b.header ++ tail).length < 16 := by omega
    rw [hdrop, if_neg hsixteen, hheader, List.append_assoc, List.append_assoc, List.take_left' (length_beBytes 4 _), hone,
      if_neg (not_not.mpr rfl), List.drop_left' (length_beBytes 4 _), List.take_left' (length_beBytes 4 _), htypeValue,
      ← List.append_assoc, List.drop_left' (by simp), List.take_left' (length_beBytes 8 _), hsizeValue]

theorem laws_plain : plainUtil.Laws where
  parseBox b hb tail := plainBox_header hb tail
  parseFullbox l hl := by
    have hread : plainUtil.parseFullbox.read l =
        (some ⟨beValue ((l.take 4).take 1), beValue ((l.take 4).drop 1)⟩, l.drop 4) := if_neg (Nat.not_lt.mpr hl)
    rw [hread, List.take_take, List.drop_take]
    rfl
  parseBoxExtended l hl := if_neg (Nat.not_lt.mpr hl)
  parseTrackheader t ht := by
    obtain ⟨htimes, -⟩ := ht
    have hid : beValue (beBytes 4 t.id.toNat) = t.id.toNat := beValue_beBytes t.id.isLt
    have hlong : beValue (beBytes 1 t.long.toNat) = t.long.toNat := by cases t.long <;> decide
    change some (beValue ((t.raw.payload.drop (if beValue (t.raw.payload.take 1) = 1 then 20 else 12)).take 4)) = _
    have hdrop : (if t.long.toNat = 1 then 20 else 12) = 1 + (3 + t.times.length) := by
      rw [htimes]
      cases t.long <;> rfl
    rw [Tkhd.raw, List.take_left' (length_beBytes 1 _), hlong, hdrop, ← List.drop_drop, List.drop_left' (length_beBytes 1 _),
      ← List.drop_drop, List.drop_left' (length_beBytes 3 _), List.drop_left, List.take_left' (length_beBytes 4 _), hid]
  uint _ _ _ := rfl
  probeAacInfo l tail hl := List.take_append_of_le_length hl
  aacInfo l := Nat.le_trans (List.length_take_le 2 l) (by decide)
  allocate _ := rfl
  stackSystemId := rfl

/-- A parser that ends is at the end of its box. -/
def Exact (log : List BoxEvent) : Prop :=
  ∀ box start rest, .left box start rest ∈ log → rest = start.drop (box.size - box.headerSize)

theorem exact_composes : Composes Exact where
  nil _ _ _ h := absurd h List.not_mem_nil
  append h h' box start rest hmem := by
    rcases List.mem_append.mp hmem with hmem | hmem
    · exact h box start rest hmem
    · exact h' box start rest hmem

theorem exact_singleton {e : BoxEvent} (h : ∀ box start rest, e ≠ .left box start rest) : Exact [e] := by
  intro box start rest hmem
  exact absurd (List.mem_singleton.mp hmem).symm (h box start rest)

/-! ### Fields -/

section Fields
variable {m : Mp4Util} (hm : m.Laws) {l tail : List UInt8} {n v : Nat}

theorem covers_takeBytes (hlength : l.length = n) : Covers Exact (takeBytes n) l l tail := by
  refine covers_bind_stays exact_composes (covers_peek exact_composes _) ?_
  refine covers_bind_then exact_composes (covers_skip exact_composes hlength _) ?_
  rw [List.take_left' hlength]
  exact covers_pure exact_composes _ _

theorem covers_access (a : Access) : Covers Exact (access a) [] () tail :=
  covers_event (exact_singleton fun _ _ _ h => by cases h) tail

theorem covers_skipLength {n : Int} (hlength : (l.length : Int) = n) : Covers Exact (skipLength n) l () tail := by
  subst hlength
  refine covers_bind_stays exact_composes (covers_access _) (covers_skip exact_composes ?_ _)
  rw [sizeT_natCast]

theorem covers_skipBox (b : RawBox) : Covers Exact (skipBox (parsed b)) b.payload () tail :=
  covers_skipLength (parsed_length b).symm

theorem covers_visit (place : Place) (box : Mp4Box) : Covers Exact (visit place box) [] () tail :=
  covers_bind_stays exact_composes (covers_peek exact_composes _)
    (covers_event (exact_singleton fun _ _ _ h => by cases h) _)

theorem covers_parsing {α : Type} {b : RawBox} {p : BoxWalk α} {a : α} (hp : Covers Exact p b.payload a tail) :
    Covers Exact (parsing (parsed b) p) b.payload a tail := by
  refine covers_bind_stays exact_composes (covers_peek exact_composes _) ?_
  refine covers_bind_then exact_composes hp ?_
  refine covers_bind_stays exact_composes (covers_peek exact_composes _) ?_
  refine covers_bind_stays exact_composes (covers_event ?_ _) (covers_pure exact_composes a _)
  intro box start rest hmem
  obtain ⟨rfl, rfl, rfl⟩ := BoxEvent.left.inj (List.mem_singleton.mp hmem)
  refine (List.drop_left' ?_).symm
  change _ = b.size - b.headerLength
  rw [RawBox.size, Nat.add_sub_cancel_left]

include hm

theorem covers_uint (hl : l.length = n) : Covers Exact (get (m.uint n)) l (beValue l) tail := by
  refine covers_get exact_composes ?_
  rw [hm.uint n _ (by rw [List.length_append]; omega), List.take_left' hl, List.drop_left' hl]

theorem covers_number (hv : v < 256 ^ n) : Covers Exact (get (m.uint n)) (beBytes n v) v tail := by
  have h : Covers Exact (get (m.uint n)) (beBytes n v) (beValue (beBytes n v)) tail := covers_uint hm (length_beBytes n v)
  rwa [beValue_beBytes hv] at h

theorem covers_parseFullbox {l' : List UInt8} (hl : l.length = 1) (hl' : l'.length = 3) :
    Covers Exact (get m.parseFullbox) (l ++ l') (some ⟨beValue l, beValue l'⟩) tail := by
  refine covers_get exact_composes ?_
  have hlength : (l ++ l').length = 4 := by rw [List.length_append, hl, hl']
  rw [hm.parseFullbox _ (by rw [List.length_append]; omega), List.drop_left' hlength, List.append_assoc, List.take_left' hl,
    List.drop_left' hl, List.take_left' hl']

theorem covers_fullbox (version : BitVec 8) (flags : BitVec 24) :
    Covers Exact (get m.parseFullbox) (beBytes 1 version.toNat ++ beBytes 3 flags.toNat)
      (some ⟨version.toNat, flags.toNat⟩) tail := by
  have hversion : beValue (beBytes 1 version.toNat) = version.toNat := beValue_beBytes version.isLt
  have hflags : beValue (beBytes 3 flags.toNat) = flags.toNat := beValue_beBytes flags.isLt
  nth_rewrite 2 [← hversion, ← hflags]
  exact covers_parseFullbox hm (length_beBytes 1 _) (length_beBytes 3 _)

theorem covers_parseBoxExtended (hl : l.length = 16) : Covers Exact (get m.parseBoxExtended) l (some l) tail := by
  refine covers_get exact_composes ?_
  rw [hm.parseBoxExtended _ (by rw [List.length_append]; omega), List.take_left' hl, List.drop_left' hl]

theorem covers_header {b : RawBox} (hb : b.Coded) : Covers Exact (get m.parseBox.toReader) b.header (some (parsed b)) tail :=
  covers_get exact_composes (hm.parseBox b hb tail)

end Fields

/-! ### Counters -/

/-- A counter of 32 bits is below a limit in front of every increment. -/
def StaysBelow (limit : Nat) : Nat → List Nat → Prop
  | _, [] => True
  | i, increment :: increments => i % u32 < limit ∧ StaysBelow limit (i + increment) increments

/-- From 0 on, a counter of 32 bits is below a limit in front of every increment, and not behind the last one. -/
def CountsTo (limit : Nat) (increments : List Nat) : Prop := StaysBelow limit 0 increments ∧ limit ≤ increments.sum % u32

instance StaysBelow.decide (limit : Nat) : ∀ (i : Nat) (increments : List Nat), Decidable (StaysBelow limit i increments)
  | _, [] => .isTrue trivial
  | i, increment :: increments =>
    have := StaysBelow.decide limit (i + increment) increments
    inferInstanceAs (Decidable (_ ∧ _))

instance (limit : Nat) (increments : List Nat) : Decidable (CountsTo limit increments) := inferInstanceAs (Decidable (_ ∧ _))

theorem staysBelow_append {limit i : Nat} {increments increments' : List Nat} :
    StaysBelow limit i (increments ++ increments') ↔
      StaysBelow limit i increments ∧ StaysBelow limit (i + increments.sum) increments' := by
  induction increments generalizing i with
  | nil => simp [StaysBelow]
  | cons increment increments ih =>
    rw [List.cons_append, StaysBelow, StaysBelow, ih, List.sum_cons, Nat.add_assoc, and_assoc]

theorem staysBelow_of_sum_le {limit i : Nat} {increments : List Nat} (hpos : ∀ increment ∈ increments, 0 < increment)
    (hsum : i + increments.sum ≤ limit) : StaysBelow limit i increments := by
  induction increments generalizing i with
  | nil => trivial
  | cons increment increments ih =>
    rw [List.sum_cons, ← Nat.add_assoc] at hsum
    have hfirst : 0 < increment := hpos increment List.mem_cons_self
    refine ⟨Nat.lt_of_le_of_lt (Nat.mod_le _ _) (by omega), ih (fun n hn => hpos n (List.mem_cons_of_mem _ hn)) hsum⟩

theorem size_pos {γ : Type} (raw : γ → RawBox) {cs : List γ} : ∀ n ∈ cs.map fun c => (raw c).size, 0 < n := by
  intro n hn
  obtain ⟨c, -, rfl⟩ := List.mem_map.mp hn
  have hheader := (raw c).eight_le_headerLength
  exact Nat.lt_of_lt_of_le (by omega) (raw c).headerLength_le

/-! ### Loops over boxes -/

section Loop
variable {m : Mp4Util} {σ ρ γ : Type} {place : Place} {limit : Nat} {body : σ → Mp4Box → BoxWalk ((σ × Nat) ⊕ ρ)}

/-- How a loop goes on behind the body. -/
def boxNext (m : Mp4Util) (place : Place) (limit : Nat) (body : σ → Mp4Box → BoxWalk ((σ × Nat) ⊕ ρ)) (i : Nat) :
    (σ × Nat) ⊕ ρ → BoxWalk (σ ⊕ ρ)
  | .inl (s, increment) => boxLoop m place limit body ((i + increment) % u32) s
  | .inr r => pure (.inr r)

theorem boxLoop_eq (i : Nat) (s : σ) : boxLoop m place limit body i s =
    if i < limit then do
      match ← get m.parseBox.toReader with
      | none => return .inl s
      | some box => do
        visit place box
        body s box >>= boxNext m place limit body i
    else return .inl s := by
  rw [boxLoop, scan_eq]
  by_cases hi : i < limit
  · rw [if_pos (decide_eq_true hi), if_pos hi, bind_assoc]
    congr 1
    funext head
    cases head with
    | none => rfl
    | some box =>
      simp only [bind_assoc, pure_bind_eq]
      congr 1
      funext _
      congr 1
      funext next
      rcases next with ⟨s', increment⟩ | r <;> rfl
  · rw [if_neg (by simpa using hi), if_neg hi]
    rfl

theorem covers_boxLoop_done {i : Nat} (hi : limit ≤ i) (s : σ) (tail : List UInt8) :
    Covers Exact (boxLoop m place limit body i s) [] (.inl s) tail := by
  rw [boxLoop_eq, if_neg (Nat.not_lt.mpr hi)]
  exact covers_pure exact_composes _ _

theorem covers_boxLoop_end (i : Nat) (s : σ) : Covers Exact (boxLoop m place limit body i s) [] (.inl s) [] := by
  rw [boxLoop_eq]
  split_ifs
  · have hlength := m.parseBox.length_le []
    have hread : m.parseBox.read ([] ++ []) = (none, []) := by
      rw [List.append_nil]
      cases hread : m.parseBox.read [] with
      | mk head l =>
        rw [hread] at hlength
        obtain rfl : l = [] := List.length_eq_zero_iff.mp (Nat.le_zero.mp hlength)
        cases head with
        | none => rfl
        | some box => exact absurd (m.parseBox.length_lt (by rw [hread])) (Nat.not_lt_zero _)
    exact covers_bind_then exact_composes (covers_get exact_composes hread) (covers_pure exact_composes _ _)
  · exact covers_pure exact_composes _ _

variable (hm : m.Laws) {l tail : List UInt8}
include hm

theorem covers_boxLoop_next {i : Nat} {s : σ} {b : RawBox} {y : (σ × Nat) ⊕ ρ} {r : σ ⊕ ρ} (hi : i < limit) (hb : b.Coded)
    (hbody : Covers Exact (body s (parsed b)) b.payload y (l ++ tail))
    (hnext : Covers Exact (boxNext m place limit body i y) l r tail) :
    Covers Exact (boxLoop m place limit body i s) (b.bytes ++ l) r tail := by
  rw [boxLoop_eq, if_pos hi, RawBox.bytes, List.append_assoc]
  refine covers_bind exact_composes (covers_header hm hb) ?_
  refine covers_bind_stays exact_composes (covers_visit place _) ?_
  exact covers_bind exact_composes hbody hnext

omit hm in
/-- Iterations over boxes, with what each adds to the counter, from one state to another one. -/
inductive Goes (body : σ → Mp4Box → BoxWalk ((σ × Nat) ⊕ ρ)) : σ → List RawBox → List Nat → σ → Prop where
  | nil (s : σ) : Goes body s [] [] s
  | cons {s s' s'' : σ} {b : RawBox} {bs : List RawBox} {increment : Nat} {increments : List Nat} (hcoded : b.Coded)
      (hbody : ∀ tail, Covers Exact (body s (parsed b)) b.payload (.inl (s', increment)) tail)
      (hrest : Goes body s' bs increments s'') : Goes body s (b :: bs) (increment :: increments) s''

omit hm in
theorem Goes.append {s s' s'' : σ} {bs bs' : List RawBox} {increments increments' : List Nat}
    (h : Goes body s bs increments s') (h' : Goes body s' bs' increments' s'') :
    Goes body s (bs ++ bs') (increments ++ increments') s'' := by
  induction h with
  | nil s => exact h'
  | cons hcoded hbody _ ih => exact .cons hcoded hbody (ih h')

omit hm in
theorem goes_skipped {increment : RawBox → Nat} {s : σ} {bs : List RawBox} (hcoded : ∀ b ∈ bs, b.Coded)
    (hbody : ∀ b ∈ bs, body s (parsed b) = skipBox (parsed b) >>= fun _ => pure (.inl (s, increment b))) :
    Goes body s bs (bs.map increment) s := by
  induction bs with
  | nil => exact .nil s
  | cons b bs ih =>
    refine .cons (hcoded b List.mem_cons_self) (fun tail => ?_)
      (ih (fun b hb => hcoded b (List.mem_cons_of_mem _ hb)) fun b hb => hbody b (List.mem_cons_of_mem _ hb))
    rw [hbody b List.mem_cons_self]
    exact covers_bind_then exact_composes (covers_skipBox b) (covers_pure exact_composes _ _)

omit hm in
theorem goes_foldl {raw : γ → RawBox} {step : σ → γ → σ} {increment : γ → Nat} {I : σ → Prop} {cs : List γ}
    (hbody : ∀ s, I s → ∀ c ∈ cs, I (step s c) ∧ (raw c).Coded ∧
      ∀ tail, Covers Exact (body s (parsed (raw c))) (raw c).payload (.inl (step s c, increment c)) tail) :
    ∀ {s}, I s → Goes body s (cs.map raw) (cs.map increment) (cs.foldl step s) := by
  induction cs with
  | nil => exact fun _ => .nil _
  | cons c cs ih =>
    intro s hs
    obtain ⟨hstep, hcoded, hcovers⟩ := hbody s hs c List.mem_cons_self
    exact .cons hcoded hcovers (ih (fun s hs c hc => hbody s hs c (List.mem_cons_of_mem _ hc)) hstep)

theorem Goes.covers {s s' : σ} {bs : List RawBox} {increments : List Nat} (h : Goes body s bs increments s') :
    ∀ {i : Nat} {r : σ ⊕ ρ}, StaysBelow limit i increments →
      Covers Exact (boxLoop m place limit body ((i + increments.sum) % u32) s') l r tail →
      Covers Exact (boxLoop m place limit body (i % u32) s) (boxesBytes bs ++ l) r tail := by
  induction h with
  | nil s => exact fun _ hrest => hrest
  | cons hcoded hbody _ ih =>
    intro i r hbelow hrest
    rw [List.sum_cons, ← Nat.add_assoc] at hrest
    rw [boxesBytes_cons, List.append_assoc]
    refine covers_boxLoop_next hm hbelow.1 hcoded (hbody _) ?_
    rw [boxNext, Nat.mod_add_mod]
    exact ih hbelow.2 hrest

theorem Goes.covers_all {s s' : σ} {bs : List RawBox} {increments : List Nat} (h : Goes body s bs increments s')
    (hcounts : CountsTo limit increments) :
    Covers Exact (boxLoop m place limit body 0 s) (boxesBytes bs) (.inl s') tail := by
  obtain ⟨hbelow, hend⟩ := hcounts
  rw [← List.append_nil (boxesBytes bs)]
  refine h.covers hm hbelow (covers_boxLoop_done ?_ _ _)
  rwa [Nat.zero_add]

end Loop

end BcmPlatform.Piff
