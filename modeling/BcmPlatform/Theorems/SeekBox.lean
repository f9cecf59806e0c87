import BcmPlatform.Piff.SeekBox

/-! When the search for a box ends, stays in the caller's buffer and finds what the walk over the boxes reaches. -/

namespace BcmPlatform.Piff
open Bomx Lib
variable {f : BoxFile} {req : BoxRequest} {boxType pos size : Nat} {s s' : SeekState}

namespace BoxFile

/-- The walk over boxes by their coded sizes. A size below that of the header ends it. -/
def Walk (f : BoxFile) : Nat → Nat → Prop :=
  Relation.ReflTransGen fun p q => ∃ t size, f.header p = some (t, size) ∧ piffBoxHeaderSize ≤ size ∧ q = p + size

/-- The box at a position has the requested type, and fits in the file and in the buffer. -/
structure Fits (f : BoxFile) (req : BoxRequest) (pos size : Nat) : Prop where
  header : f.header pos = some (req.boxType, size)
  size_ge : piffBoxHeaderSize ≤ size
  inFile : pos + size ≤ f.bytes.length
  inBuffer : size ≤ req.capacity

/-- The position and `last` after the seek over a box of another type; `none` where the search stops. -/
def seekOver (f : BoxFile) (boxType : Nat) (place : Nat × Int) : Option (Nat × Int) :=
  (f.header place.1).bind fun (currBoxType, currBoxSize) =>
    if currBoxType = boxType ∨ f.toOff (place.2 - currBoxSize) = 0 then none
    else some (f.seekCur (place.1 + piffBoxHeaderSize) (f.toOff (sub32 currBoxSize piffBoxHeaderSize)),
      f.toOff (place.2 - currBoxSize))

/-- The seeks from a place to another one. -/
def Seeks (f : BoxFile) (boxType : Nat) : Nat × Int → Nat × Int → Prop :=
  Relation.ReflTransGen fun p q => f.seekOver boxType p = some q

/-- The bytes that the file has of a box with a coded size, which wraps below the size of the header. -/
def available (f : BoxFile) (pos size : Nat) : Nat :=
  min (piffBoxHeaderSize + sub32 size piffBoxHeaderSize) (f.bytes.length - pos)

/-- The seeks come to an end. Where they end at the requested type, the buffer takes what the file has of the box, and if
    the file has all of it, then the walk over the boxes leads there too. -/
def EndsWell (f : BoxFile) (req : BoxRequest) (pos : Nat) : Prop :=
  ∃ place, f.Seeks req.boxType (pos, f.bytes.length) place ∧ f.seekOver req.boxType place = none ∧
    ∀ size, f.header place.1 = some (req.boxType, size) → f.available place.1 size ≤ req.capacity ∧
      (piffBoxHeaderSize ≤ size → place.1 + size ≤ f.bytes.length → f.Walk pos place.1)

/-! ### Reads -/

theorem length_readAt (f : BoxFile) (pos size : Nat) : (f.readAt pos size).length = min size (f.bytes.length - pos) := by
  rw [readAt, List.length_take, List.length_drop]

theorem readAt_append (f : BoxFile) (pos m n : Nat) : f.readAt pos m ++ f.readAt (pos + m) n = f.readAt pos (m + n) := by
  rw [readAt, readAt, readAt, List.take_add, List.drop_drop]

theorem header_eq_some {p : Nat × Nat} (h : f.header pos = some p) :
    pos + piffBoxHeaderSize ≤ f.bytes.length ∧ p.2 < u32 := by
  unfold header at h
  split_ifs at h with hlen
  rw [not_not, length_readAt, piffBoxHeaderSize] at hlen
  obtain rfl := Option.some.inj h
  refine ⟨by rw [piffBoxHeaderSize]; omega, ?_⟩
  refine Nat.lt_of_lt_of_le (beValue_lt _) ?_
  rw [List.length_take, u32]
  exact Nat.le_trans (Nat.pow_le_pow_right (by decide) (Nat.min_le_left 4 _)) (by decide)

theorem seekOver_of_header {place : Nat × Int} {t : Nat} (h : f.header place.1 = some (t, size)) :
    f.seekOver boxType place = if t = boxType ∨ f.toOff (place.2 - size) = 0 then none
      else some (f.seekCur (place.1 + piffBoxHeaderSize) (f.toOff (sub32 size piffBoxHeaderSize)),
        f.toOff (place.2 - size)) := by
  rw [seekOver, h]
  rfl

end BoxFile

/-! ### Steps -/

/-- The place of a state. -/
def SeekState.place (s : SeekState) : Nat × Int := (s.pos, s.last)

theorem length_overwrite_header (h : s.pBuf.length ≤ piffBoxHeaderSize) :
    (overwrite s.pBuf 0 (f.readAt s.pos piffBoxHeaderSize)).length ≤ piffBoxHeaderSize := by
  rw [overwrite_nil_place, List.length_append, List.length_drop, BoxFile.length_readAt]
  omega

theorem seekStep_inl (h : f.seekOver boxType s.place = some s'.place)
    (hbuf : s'.pBuf = overwrite s.pBuf 0 (f.readAt s.pos piffBoxHeaderSize)) : seekStep f boxType s = .inl s' := by
  obtain ⟨⟨t, size⟩, hheader, -⟩ := Option.bind_eq_some_iff.mp h
  rw [BoxFile.seekOver_of_header hheader] at h
  split_ifs at h with hstop
  obtain ⟨htype, hlast⟩ := not_or.mp hstop
  obtain ⟨hpos, hlast'⟩ := Prod.mk.inj (Option.some.inj h)
  simp only [SeekState.place] at hheader hpos hlast hlast'
  rw [hlast'] at hlast
  unfold seekStep
  simp only [hheader, if_pos htype, if_neg hlast, hpos, hlast', ← hbuf]

theorem seekStep_inl_inv (h : seekStep f boxType s = .inl s') : f.seekOver boxType s.place = some s'.place ∧
    s'.pBuf = overwrite s.pBuf 0 (f.readAt s.pos piffBoxHeaderSize) := by
  unfold seekStep at h
  cases hheader : f.header s.pos with
  | none =>
    rw [hheader] at h
    cases h
  | some p =>
    obtain ⟨t, size⟩ := p
    simp only [hheader] at h
    split_ifs at h with htype hlast
    cases h
    refine ⟨?_, rfl⟩
    rw [BoxFile.seekOver_of_header hheader]
    exact if_neg (not_or.mpr ⟨htype, hlast⟩)

theorem passes_of_seeks {place : Nat × Int} (h : f.Seeks boxType s.place place) (hbuf : s.pBuf.length ≤ piffBoxHeaderSize) :
    ∃ s', Passes (seekStep f boxType) s s' ∧ s'.place = place ∧ s'.pBuf.length ≤ piffBoxHeaderSize := by
  induction h with
  | refl => exact ⟨s, .refl, rfl, hbuf⟩
  | @tail p q _ hnext ih =>
    obtain ⟨t, hpasses, rfl, hlen⟩ := ih
    refine ⟨{ pos := q.1, last := q.2, pBuf := overwrite t.pBuf 0 (f.readAt t.pos piffBoxHeaderSize) },
      hpasses.tail (seekStep_inl hnext rfl), rfl, length_overwrite_header hlen⟩

theorem seeks_of_passes (h : Passes (seekStep f boxType) s s') (hbuf : s.pBuf.length ≤ piffBoxHeaderSize) :
    f.Seeks boxType s.place s'.place ∧ s'.pBuf.length ≤ piffBoxHeaderSize := by
  induction h with
  | refl => exact ⟨.refl, hbuf⟩
  | tail _ hnext ih =>
    obtain ⟨hseeks, hlen⟩ := ih
    obtain ⟨hover, hbuf'⟩ := seekStep_inl_inv hnext
    exact ⟨hseeks.tail hover, by rw [hbuf']; exact length_overwrite_header hlen⟩

theorem seekStep_last (h : f.seekOver boxType s.place = none) (hbuf : s.pBuf.length ≤ piffBoxHeaderSize) :
    ∃ r, seekStep f boxType s = .inr r ∧
      ((∀ size, f.header s.pos ≠ some (boxType, size)) ∧ r.found = false ∧ r.pBuf.length ≤ piffBoxHeaderSize ∨
      ∃ size, f.header s.pos = some (boxType, size) ∧
        r.pBuf = f.readAt s.pos (piffBoxHeaderSize + sub32 size piffBoxHeaderSize) ∧
        r.pBuf.length = f.available s.pos size ∧ r.boxSize = r.pBuf.length % u32 ∧
        (r.found = true ↔ r.pBuf.length = piffBoxHeaderSize + sub32 size piffBoxHeaderSize)) := by
  unfold seekStep
  cases hheader : f.header s.pos with
  | none =>
    refine ⟨_, rfl, .inl ⟨fun _ heq => ?_, rfl, length_overwrite_header hbuf⟩⟩
    cases heq
  | some p =>
    obtain ⟨t, size⟩ := p
    simp only []
    split_ifs with htype hlast
    · exact ⟨_, rfl, .inl ⟨fun _ heq => htype (Prod.mk.inj (Option.some.inj heq)).1, rfl, length_overwrite_header hbuf⟩⟩
    · rw [BoxFile.seekOver_of_header hheader] at h
      cases (if_neg (not_or.mpr ⟨htype, hlast⟩)).symm.trans h
    · exact absurd ‹size < size› (Nat.lt_irrefl _)
    · obtain rfl := not_not.mp htype
      obtain ⟨hin, -⟩ := BoxFile.header_eq_some hheader
      have hhead : (f.readAt s.pos piffBoxHeaderSize).length = piffBoxHeaderSize := by
        rw [BoxFile.length_readAt]
        omega
      have hwritten : overwrite (overwrite s.pBuf 0 (f.readAt s.pos piffBoxHeaderSize)) piffBoxHeaderSize
          (f.readAt (s.pos + piffBoxHeaderSize) (sub32 size piffBoxHeaderSize)) =
          f.readAt s.pos (piffBoxHeaderSize + sub32 size piffBoxHeaderSize) := by
        rw [overwrite_nil_place, hhead, List.drop_eq_nil_of_le hbuf, List.append_nil, overwrite,
          List.take_of_length_le (Nat.le_of_eq hhead), List.drop_eq_nil_of_le (by omega), List.append_nil,
          BoxFile.readAt_append]
      have hlen : (f.readAt s.pos (piffBoxHeaderSize + sub32 size piffBoxHeaderSize)).length =
          piffBoxHeaderSize + (f.readAt (s.pos + piffBoxHeaderSize) (sub32 size piffBoxHeaderSize)).length := by
        rw [← BoxFile.readAt_append, List.length_append, hhead]
      refine ⟨_, rfl, .inr ⟨size, rfl, hwritten, ?_, ?_, ?_⟩⟩
      · rw [hwritten, BoxFile.length_readAt]
        rfl
      · rw [hwritten, hlen]
      · rw [hwritten, hlen, decide_eq_true_iff, Nat.add_left_cancel_iff]

/-! ### The walk -/

/-- The seeks follow the walk over the boxes up to the first box of the requested type, if the walk leads to one that the
    file has all of. -/
theorem seeks_of_walk {p q : Nat} {last : Int} (hwalk : f.Walk p q) (hq : f.header q = some (boxType, size))
    (hin : piffBoxHeaderSize ≤ size ∧ q + size ≤ f.bytes.length) (hlow : (f.bytes.length : Int) - p ≤ last)
    (hhigh : last ≤ f.bytes.length) :
    ∃ r last' size', f.Seeks boxType (p, last) (r, last') ∧ f.Walk p r ∧ f.header r = some (boxType, size') ∧
      piffBoxHeaderSize ≤ size' ∧ r + size' ≤ f.bytes.length := by
  induction hwalk using Relation.ReflTransGen.head_induction_on generalizing last with
  | refl => exact ⟨q, last, size, .refl, .refl, hq, hin⟩
  | @head p p' hstep hrest ih =>
    obtain ⟨t, n, hheader, hge, rfl⟩ := hstep
    -- the walk goes on in the file
    have hnext : p + n + piffBoxHeaderSize ≤ f.bytes.length := by
      cases hrest.cases_head with
      | inl heq =>
        rw [heq]
        exact (BoxFile.header_eq_some hq).1
      | inr h =>
        obtain ⟨u, ⟨t', n', hheader', -⟩, -⟩ := h
        exact (BoxFile.header_eq_some hheader').1
    have hoff' := sub32_of_le hge
    rw [piffBoxHeaderSize] at hnext hge hoff'
    by_cases htype : t = boxType
    · subst htype
      exact ⟨p, last, n, .refl, .refl, hheader, hge, by omega⟩
    · have hoff : f.toOff (sub32 n piffBoxHeaderSize) = (n : Int) - 8 := by
        rw [piffBoxHeaderSize, hoff', Int.ofNat_sub hge]
        exact f.toOff_eq _ (by omega) (by omega)
      have hpos : f.seekCur (p + piffBoxHeaderSize) ((n : Int) - 8) = p + n := by
        have h := f.seekCur_eq (p + piffBoxHeaderSize) ((n : Int) - 8) (by rw [piffBoxHeaderSize]; omega)
          (by rw [piffBoxHeaderSize]; omega)
        rw [piffBoxHeaderSize] at h ⊢
        omega
      have hlast : f.toOff (last - n) = last - n := f.toOff_eq _ (by omega) (by omega)
      have hlow' : (f.bytes.length : Int) - (p + n : Nat) ≤ last - n := by omega
      obtain ⟨r, last', size', hseeks, hwalk, hr, hsize⟩ := ih hlow' (by omega)
      refine ⟨r, last', size', .head ?_ hseeks, .head ⟨t, n, hheader, hge, rfl⟩ hwalk, hr, hsize⟩
      rw [BoxFile.seekOver_of_header hheader, if_neg, hoff, hpos, hlast]
      rintro (h | h)
      · exact htype h
      · rw [hlast] at h
        omega

theorem BoxFile.available_of_le (hge : piffBoxHeaderSize ≤ size) (hin : pos + size ≤ f.bytes.length) :
    f.available pos size = size := by
  rw [available, sub32_of_le hge]
  omega

/-! ### The search -/

/-- The search ends, stays in the buffer, and finds a box exactly where the walk over the boxes reaches one that fits; the
    buffer then has that box. -/
def SeekCorrect (f : BoxFile) (req : BoxRequest) (pos : Nat) : Prop :=
  ∃ fuel r, piffParserSeekBox f req.boxType pos fuel = some r ∧ r.pBuf.length ≤ req.capacity ∧
    (r.found = true ↔ ∃ q size, f.Walk pos q ∧ f.Fits req q size) ∧
    (r.found = true → ∃ q size, f.Walk pos q ∧ f.Fits req q size ∧ r.pBuf = f.readAt q size ∧ r.boxSize = size)

/-- The state in which the search starts. -/
def seekStart (f : BoxFile) (pos : Nat) : SeekState := { pos, last := f.bytes.length }

theorem pos_of_seeks {r : SeekResult} {u : Nat} {last : Int} (hpasses : Passes (seekStep f boxType) (seekStart f pos) s)
    (hend : seekStep f boxType s = .inr r) (hseeks : f.Seeks boxType (pos, f.bytes.length) (u, last))
    (hu : f.header u = some (boxType, size)) : s.pos = u := by
  obtain ⟨t, hpasses', hplace, hlen⟩ := passes_of_seeks (s := seekStart f pos) hseeks (Nat.zero_le _)
  have hlast : f.seekOver boxType t.place = none := by
    rw [hplace, BoxFile.seekOver_of_header hu]
    exact if_pos (.inl rfl)
  obtain ⟨r', hr', -⟩ := seekStep_last hlast hlen
  rw [hpasses.last_unique hend hpasses' hr']
  exact (Prod.mk.inj hplace).1

theorem SeekCorrect.endsWell (h : SeekCorrect f req pos) (hlen : piffBoxHeaderSize ≤ f.bytes.length) :
    f.EndsWell req pos := by
  obtain ⟨fuel, r, hrun, hbuf, hfound, -⟩ := h
  rw [piffParserSeekBox, if_neg (Nat.not_lt.mpr hlen)] at hrun
  obtain ⟨s, hpasses, hend⟩ := exists_runLoop_iff.mp ⟨fuel, hrun⟩
  obtain ⟨hseeks, hslen⟩ := seeks_of_passes hpasses (Nat.zero_le _)
  have hlast : f.seekOver req.boxType s.place = none := by
    cases hover : f.seekOver req.boxType s.place with
    | none => rfl
    | some p =>
      have hgo : seekStep f req.boxType s = .inl { pos := p.1, last := p.2, pBuf := _ } := seekStep_inl hover rfl
      rw [hgo] at hend
      cases hend
  refine ⟨s.place, hseeks, hlast, fun size hheader => ?_⟩
  obtain ⟨r', hr', hcases⟩ := seekStep_last hlast hslen
  rw [hend] at hr'
  obtain rfl := Sum.inr.inj hr'
  rcases hcases with ⟨hother, -⟩ | ⟨size', hheader', -, hwritten, -, hwhole⟩
  · exact absurd hheader (hother size)
  · obtain rfl : size' = size := by
      have := hheader'.symm.trans hheader
      exact (Prod.mk.inj (Option.some.inj this)).2
    rw [hwritten] at hbuf hwhole
    refine ⟨hbuf, fun hge hin => ?_⟩
    have havail : f.available s.pos size' = size' := BoxFile.available_of_le hge hin
    rw [havail, sub32_of_le hge] at hwhole
    obtain ⟨q, n, hwalk, hfits⟩ := hfound.mp (hwhole.mpr (by omega))
    obtain ⟨u, last', n', hseeks', hwalk', hu, -⟩ :=
      seeks_of_walk hwalk hfits.header ⟨hfits.size_ge, hfits.inFile⟩ (Int.sub_le_self _ (Int.natCast_nonneg pos)) (Int.le_refl _)
    rw [show s.place.1 = u from pos_of_seeks hpasses hend hseeks' hu]
    exact hwalk'

theorem seekCorrect_of_endsWell (h : f.EndsWell req pos) (hlen : piffBoxHeaderSize ≤ f.bytes.length) :
    SeekCorrect f req pos := by
  obtain ⟨place, hseeks, hlast, hgood⟩ := h
  obtain ⟨s, hpasses, rfl, hslen⟩ := passes_of_seeks (s := seekStart f pos) hseeks (Nat.zero_le _)
  obtain ⟨r, hend, hcases⟩ := seekStep_last hlast hslen
  obtain ⟨fuel, hrun⟩ := exists_runLoop_iff.mpr ⟨s, hpasses, hend⟩
  -- what the walk reaches is where the search stops
  have hreach : ∀ q n, f.Walk pos q → f.Fits req q n →
      f.Walk pos s.pos ∧ ∃ n', f.header s.pos = some (req.boxType, n') ∧ piffBoxHeaderSize ≤ n' ∧
        s.pos + n' ≤ f.bytes.length := by
    intro q n hwalk hfits
    obtain ⟨u, last', n', hseeks', hwalk', hu, hsize⟩ :=
      seeks_of_walk hwalk hfits.header ⟨hfits.size_ge, hfits.inFile⟩ (Int.sub_le_self _ (Int.natCast_nonneg pos)) (Int.le_refl _)
    have hpos := pos_of_seeks hpasses hend hseeks' hu
    rw [hpos]
    exact ⟨hwalk', n', hu, hsize⟩
  refine ⟨fuel, r, by rw [piffParserSeekBox, if_neg (Nat.not_lt.mpr hlen)]; exact hrun, ?_⟩
  rcases hcases with ⟨hother, hfound, hbuf⟩ | ⟨size, hheader, hread, hwritten, hboxSize, hwhole⟩
  · refine ⟨Nat.le_trans hbuf req.header_le_capacity, ⟨fun h => ?_, fun ⟨q, n, hwalk, hfits⟩ => ?_⟩, fun h => ?_⟩
    · rw [hfound] at h
      cases h
    · obtain ⟨-, n', hn', -⟩ := hreach q n hwalk hfits
      exact absurd hn' (hother n')
    · rw [hfound] at h
      cases h
  · obtain ⟨hbuf, hwalk⟩ := hgood size hheader
    rw [hwritten] at hwhole
    have hcap := req.capacity_lt
    -- the whole box is in the buffer exactly if it is in the file
    have hall : r.found = true → f.Walk pos s.pos ∧ f.Fits req s.pos size := by
      intro h
      have heq := hwhole.mp h
      have hge : piffBoxHeaderSize ≤ size := by
        by_contra hlt
        have hwrap : sub32 size piffBoxHeaderSize = size + u32 - piffBoxHeaderSize := if_neg hlt
        have hbuf' : f.available s.pos size ≤ req.capacity := hbuf
        rw [piffBoxHeaderSize] at *
        omega
      rw [sub32_of_le hge, Nat.add_sub_cancel' hge] at heq
      have hin : s.pos + size ≤ f.bytes.length := by
        have hhead := (BoxFile.header_eq_some hheader).1
        rw [BoxFile.available] at heq
        omega
      exact ⟨hwalk hge hin, hheader, hge, hin, by rw [← heq]; exact hbuf⟩
    refine ⟨by rw [hwritten]; exact hbuf, ⟨fun h => ⟨s.pos, size, hall h⟩, fun ⟨q, n, hwalk, hfits⟩ => ?_⟩, fun h => ?_⟩
    · obtain ⟨-, n', hn', hge, hin⟩ := hreach q n hwalk hfits
      obtain rfl : size = n' := by
        have := hheader.symm.trans hn'
        exact (Prod.mk.inj (Option.some.inj this)).2
      rw [hwhole, BoxFile.available_of_le hge hin, sub32_of_le hge]
      omega
    · obtain ⟨hwalk, hfits⟩ := hall h
      have hsize := hfits.size_ge
      have hbytes : piffBoxHeaderSize + sub32 size piffBoxHeaderSize = size := by
        rw [sub32_of_le hsize]
        omega
      rw [hbytes] at hread
      refine ⟨s.pos, size, hwalk, hfits, hread, ?_⟩
      rw [hboxSize, hwritten, BoxFile.available_of_le hsize hfits.inFile, Nat.mod_eq_of_lt]
      exact Nat.lt_of_le_of_lt hfits.inBuffer hcap

theorem header_of_short (hlen : f.bytes.length < piffBoxHeaderSize) (pos : Nat) : f.header pos = none := by
  cases hheader : f.header pos with
  | none => rfl
  | some p =>
    have := (BoxFile.header_eq_some hheader).1
    omega

/-- A file where an `off_t` has 64 bits: no conversion changes a value, and no offset is negative. -/
def BoxFile.off64 (bytes : List UInt8) : BoxFile where
  bytes
  toOff := id
  seekCur pos offset := (pos + offset).toNat
  toOff_eq _ _ _ := rfl
  seekCur_eq _ _ h _ := Int.toNat_of_nonneg h

/-- A file where an `off_t` has 32 bits: a large offset is negative, and no seek goes before the file. -/
def BoxFile.off32 (bytes : List UInt8) (h : bytes.length < u32 / 2) : BoxFile where
  bytes
  toOff x := if x % (u32 : Nat) < (u32 / 2 : Nat) then x % (u32 : Nat) else x % (u32 : Nat) - (u32 : Nat)
  seekCur pos offset := if 0 ≤ pos + offset then (pos + offset).toNat else pos
  toOff_eq x hx hlen := by
    simp only [u32] at *
    omega
  seekCur_eq _ _ hpos _ := by
    rw [if_pos hpos]
    exact Int.toNat_of_nonneg hpos

end BcmPlatform.Piff
