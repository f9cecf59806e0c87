import BcmPlatform.Gpt.MakeGpt
import BcmPlatform.Theorems.GptLayout

/-! The layout that makegpt finds for partitions with starts and sizes that are to be guessed. -/

namespace BcmPlatform.Gpt
open Lib

/-! ### Arguments -/

section Arguments
variable {arg : List Char} {a : PartArg}

theorem splitComma_of_parsePart (h : parsePart arg = some a) : (splitComma arg).isNone = false := by
  unfold parsePart at h
  split at h
  · cases h
  · rename_i hsplit
    rw [hsplit]
    rfl

theorem parseParts_eq : ∀ {argv : List (List Char)} {args done : List PartArg} {imgcount : Nat},
    argv.mapM parsePart = some args → imgcount ≤ maxParts →
    parseParts imgcount argv done =
      if imgcount + argv.length ≤ maxParts then .ok (done ++ args) else .error .undefined
  | [], args, done, imgcount, h, hroom => by
    obtain rfl : args = [] := (Option.some.inj h).symm
    rw [parseParts, List.length_nil, Nat.add_zero, if_pos hroom, List.append_nil]
  | arg :: argv, args, done, imgcount, h, hroom => by
    rw [List.mapM_cons] at h
    cases harg : parsePart arg with
    | none => simp [harg] at h
    | some a =>
      cases hargv : argv.mapM parsePart with
      | none => simp [harg, hargv] at h
      | some rest =>
        obtain rfl : args = a :: rest := by simpa [harg, hargv] using h.symm
        rw [parseParts, splitComma_of_parsePart harg, if_neg Bool.false_ne_true, harg, List.length_cons]
        by_cases hfull : maxParts ≤ imgcount
        · rw [if_pos hfull, if_neg (by omega)]
        · rw [if_neg hfull]
          simp only
          rw [parseParts_eq hargv (by omega), List.append_assoc, List.singleton_append]
          congr 1
          rw [eq_iff_iff]
          omega

end Arguments

/-! ### The loop over the starts -/

section FillSize
variable (start : Nat)

theorem fillSize_cons (q : Part) (parts : List Part) (size : Nat) :
    fillSize (q :: parts) start size =
      fillSize parts start (if q.start > start ∧ q.start - start < size then q.start - start else size) := rfl

theorem fillSize_le : ∀ (parts : List Part) (size : Nat), fillSize parts start size ≤ size ∧
    ∀ q ∈ parts, start < q.start → fillSize parts start size ≤ q.start - start
  | [], size => ⟨Nat.le_refl _, fun q hq => absurd hq List.not_mem_nil⟩
  | p :: parts, size => by
    obtain ⟨size', hsize', hle', hp⟩ : ∃ size',
        (if p.start > start ∧ p.start - start < size then p.start - start else size) = size' ∧ size' ≤ size ∧
        (start < p.start → size' ≤ p.start - start) := by
      refine ⟨_, rfl, ?_, fun hlt => ?_⟩ <;> split <;> omega
    obtain ⟨hle, hall⟩ := fillSize_le parts size'
    rw [fillSize_cons, hsize']
    refine ⟨hle.trans hle', fun q hq hlt => ?_⟩
    rcases List.mem_cons.mp hq with rfl | hq
    · exact hle.trans (hp hlt)
    · exact hall q hq hlt

theorem fillSize_eq : ∀ (parts : List Part) (size : Nat),
    fillSize parts start size = size ∨ ∃ q ∈ parts, start < q.start ∧ fillSize parts start size = q.start - start
  | [], _ => Or.inl rfl
  | p :: parts, size => by
    rw [fillSize_cons]
    rcases fillSize_eq parts (if p.start > start ∧ p.start - start < size then p.start - start else size) with
      h | ⟨q, hq, h⟩
    · by_cases hcloser : p.start > start ∧ p.start - start < size
      · rw [if_pos hcloser] at h ⊢
        exact Or.inr ⟨p, List.mem_cons_self, hcloser.1, h⟩
      · rw [if_neg hcloser] at h ⊢
        exact Or.inl h
    · exact Or.inr ⟨q, List.mem_cons_of_mem _ hq, h⟩

end FillSize

/-! ### One element -/

/-- The variable `size` is the size of the last element, if that one's size was given. -/
def SizeOfLast (done : List Part) (size : Nat) : Prop :=
  ∀ prev, done.getLast? = some prev → prev.guessSize = false → size = (sub64 prev.stop prev.start + sectorSize) % 2 ^ 64

/-- An element that the pass made of an argument, behind the elements `done` and in front of what `rest` is parsed to. -/
structure Resolved (limit : Nat) (done : List Part) (a : PartArg) (rest : List PartArg) (f : Part) : Prop where
  guessStart : f.guessStart = a.guessStart
  guessSize : f.guessSize = a.guessSize
  start_given : a.guessStart = false → f.start = a.part.start
  start_first : a.guessStart = true → done = [] → f.start = 0
  start_chained : a.guessStart = true → ∀ prev, done.getLast? = some prev → prev.guessSize = false ∧
    f.start = (prev.start + (sub64 prev.stop prev.start + sectorSize) % 2 ^ 64) % 2 ^ 64
  stop_given : a.guessSize = false →
    f.stop = if a.guessStart ∧ done ≠ [] then (a.part.stop + f.start) % 2 ^ 64 else a.part.stop
  stop_guessed : a.guessSize = true → (f.start + sectorSize) % 2 ^ 64 < limit ∧
    ∃ p : Part, p.start = f.start ∧
      f.stop = sub64 ((f.start + fillSize (done ++ p :: rest.map PartArg.part) f.start (sub64 limit f.start)) % 2 ^ 64) sectorSize

theorem finalizeStart_cases {done : List Part} {size : Nat} {p q : Part} (h : finalizeStart done size p = some q) :
    (p.guessStart = false ∧ q = p) ∨ (p.guessStart = true ∧ done = [] ∧ q = { p with start := 0 }) ∨
    (p.guessStart = true ∧ ∃ prev, done.getLast? = some prev ∧ prev.guessSize = false ∧
      q = { p with start := (prev.start + size) % 2 ^ 64, stop := (p.stop + (prev.start + size) % 2 ^ 64) % 2 ^ 64 }) := by
  unfold finalizeStart at h
  split at h
  · rename_i hguess
    split at h
    · rename_i hlast
      exact Or.inr (Or.inl ⟨hguess, List.getLast?_eq_none_iff.mp hlast, (Option.some.inj h).symm⟩)
    · rename_i prev hlast
      split at h
      · cases h
      · rename_i hsize
        exact Or.inr (Or.inr ⟨hguess, prev, hlast, by simpa using hsize, (Option.some.inj h).symm⟩)
  · rename_i hguess
    exact Or.inl ⟨by simpa using hguess, (Option.some.inj h).symm⟩

theorem finalizeSize_cases {limit size : Nat} {parts : List Part} {p q : Part} (h : finalizeSize limit parts p = some (q, size)) :
    (p.guessSize = false ∧ q = p ∧ size = (sub64 p.stop p.start + sectorSize) % 2 ^ 64) ∨
    (p.guessSize = true ∧ (p.start + sectorSize) % 2 ^ 64 < limit ∧
      q = { p with stop := sub64 ((p.start + fillSize parts p.start (sub64 limit p.start)) % 2 ^ 64) sectorSize }) := by
  unfold finalizeSize at h
  split at h
  · rename_i hguess
    split at h
    · cases h
    · rename_i hroom
      cases h
      exact Or.inr ⟨hguess, Nat.lt_of_not_le hroom, rfl⟩
  · rename_i hguess
    cases h
    exact Or.inl ⟨by simpa using hguess, rfl, rfl⟩

theorem resolved_step {limit size size' : Nat} {done : List Part} {a : PartArg} {rest : List PartArg} {p f : Part}
    (hlast : SizeOfLast done size) (hstart : finalizeStart done size a.part = some p)
    (hsize : finalizeSize limit (done ++ p :: rest.map PartArg.part) p = some (f, size')) :
    Resolved limit done a rest f ∧ SizeOfLast (done ++ [f]) size' := by
  -- the size leaves the start as it was found
  have hkeep : f.start = p.start ∧ f.guessStart = p.guessStart ∧ f.guessSize = p.guessSize ∧
      (p.guessSize = false → f.stop = p.stop) := by
    rcases finalizeSize_cases hsize with ⟨hgiven, rfl, -⟩ | ⟨hguess, -, rfl⟩
    · exact ⟨rfl, rfl, rfl, fun _ => rfl⟩
    · exact ⟨rfl, rfl, rfl, fun hgiven => absurd hgiven (by simp [hguess])⟩
  obtain ⟨hfstart, hfguessStart, hfguessSize, hfstop⟩ := hkeep
  have hflags : p.guessStart = a.guessStart ∧ p.guessSize = a.guessSize := by
    rcases finalizeStart_cases hstart with ⟨-, rfl⟩ | ⟨-, -, rfl⟩ | ⟨-, prev, -, -, rfl⟩ <;> exact ⟨rfl, rfl⟩
  constructor
  · refine ⟨hfguessStart.trans hflags.1, hfguessSize.trans hflags.2, ?_, ?_, ?_, ?_, ?_⟩
    · intro hgiven
      rw [hfstart]
      rcases finalizeStart_cases hstart with ⟨-, rfl⟩ | ⟨hguess, -⟩ | ⟨hguess, -⟩
      · rfl
      · exact absurd (hgiven.symm.trans hguess) Bool.false_ne_true
      · exact absurd (hgiven.symm.trans hguess) Bool.false_ne_true
    · intro hguess hnil
      rw [hfstart]
      rcases finalizeStart_cases hstart with ⟨hgiven, -⟩ | ⟨-, -, rfl⟩ | ⟨-, prev, hprev, -⟩
      · exact absurd (hgiven.symm.trans hguess) Bool.false_ne_true
      · rfl
      · simp [hnil] at hprev
    · intro hguess prev hprev
      rw [hfstart]
      rcases finalizeStart_cases hstart with ⟨hgiven, -⟩ | ⟨-, hnil, -⟩ | ⟨-, prev', hprev', hsizeGiven, rfl⟩
      · exact absurd (hgiven.symm.trans hguess) Bool.false_ne_true
      · simp [hnil] at hprev
      · obtain rfl : prev' = prev := Option.some.inj (hprev'.symm.trans hprev)
        rw [← hlast prev' hprev hsizeGiven]
        exact ⟨hsizeGiven, rfl⟩
    · intro hgiven
      rw [hfstop (hflags.2.trans hgiven), hfstart]
      rcases finalizeStart_cases hstart with ⟨hstartGiven, rfl⟩ | ⟨-, hnil, rfl⟩ | ⟨hguess, prev, hprev, -, rfl⟩
      · rw [if_neg fun h => absurd (hstartGiven.symm.trans h.1) Bool.false_ne_true]
      · rw [if_neg fun h => h.2 hnil]
      · have hne : done ≠ [] := by
          rintro rfl
          cases hprev
        rw [if_pos ⟨hguess, hne⟩]
    · intro hguess
      rcases finalizeSize_cases hsize with ⟨hgiven, -⟩ | ⟨-, hroom, rfl⟩
      · exact absurd (hgiven.symm.trans (hflags.2.trans hguess)) Bool.false_ne_true
      · exact ⟨hroom, p, rfl, rfl⟩
  · intro prev hprev hgiven
    obtain rfl : f = prev := by simpa using hprev
    rcases finalizeSize_cases hsize with ⟨-, rfl, hsize'⟩ | ⟨hguess, -, -⟩
    · exact hsize'
    · rw [hfguessSize, hguess] at hgiven
      cases hgiven

/-! ### The pass -/

/-- The elements that the pass makes of `args`, behind the elements `done`. -/
inductive Resolves (limit : Nat) : List Part → List PartArg → List Part → Prop
  | nil (done : List Part) : Resolves limit done [] []
  | cons {done : List Part} {a : PartArg} {rest : List PartArg} {f : Part} {finals : List Part} :
    Resolved limit done a rest f → Resolves limit (done ++ [f]) rest finals → Resolves limit done (a :: rest) (f :: finals)

theorem finalize_resolves {limit : Nat} : ∀ {args : List PartArg} {done parts : List Part} {size : Nat},
    SizeOfLast done size → finalize limit done size (args.map PartArg.part) = some parts →
      ∃ finals, parts = done ++ finals ∧ Resolves limit done args finals
  | [], done, parts, size, _, h => by
    obtain rfl : done = parts := by simpa [finalize] using h
    exact ⟨[], by rw [List.append_nil], .nil done⟩
  | a :: args, done, parts, size, hlast, h => by
    rw [List.map_cons, finalize] at h
    cases hstart : finalizeStart done size a.part with
    | none => simp [hstart] at h
    | some p =>
      cases hsize : finalizeSize limit (done ++ p :: args.map PartArg.part) p with
      | none => simp [hstart, hsize] at h
      | some r =>
        obtain ⟨f, size'⟩ := r
        simp only [hstart, hsize] at h
        obtain ⟨hresolved, hlast'⟩ := resolved_step hlast hstart hsize
        obtain ⟨finals, hparts, hresolves⟩ := finalize_resolves hlast' h
        exact ⟨f :: finals, by rw [hparts, List.append_assoc, List.singleton_append], .cons hresolved hresolves⟩

theorem Resolves.length {limit : Nat} {done finals : List Part} {args : List PartArg} (h : Resolves limit done args finals) :
    finals.length = args.length := by
  induction h with
  | nil => rfl
  | cons _ _ ih => rw [List.length_cons, List.length_cons, ih]

theorem Resolves.map_guessSize {limit : Nat} {done finals : List Part} {args : List PartArg}
    (h : Resolves limit done args finals) : finals.map (·.guessSize) = args.map (·.guessSize) := by
  induction h with
  | nil => rfl
  | cons hresolved _ ih => rw [List.map_cons, List.map_cons, ih, hresolved.guessSize]

theorem Resolves.at {limit : Nat} {done finals : List Part} {args : List PartArg} (h : Resolves limit done args finals) :
    ∀ {i : Nat} {a : PartArg} {f : Part}, args[i]? = some a → finals[i]? = some f →
      Resolved limit (done ++ finals.take i) a (args.drop (i + 1)) f := by
  induction h with
  | nil => intro i a f ha; simp at ha
  | cons hresolved _ ih =>
    intro i a f ha hf
    cases i with
    | zero =>
      obtain rfl := Option.some.inj ha
      obtain rfl := Option.some.inj hf
      simpa using hresolved
    | succ i => simpa using ih ha hf

/-! ### What is asked of the arguments -/

/-- The sectors of a partition. -/
def Part.range (p : Part) : Set Nat := Set.Icc (sectorAddr p.start) (sectorAddr p.stop)

/-- The bytes that an argument asks for; no partition is smaller than a sector. -/
def PartArg.bytes (a : PartArg) : Nat := max a.size sectorSize

/-- The starts and sizes are whole sectors without an overflow, the partitions with a given size are apart, and those with a
    guessed one have starts of their own, outside of the others. -/
structure Requested (args : List PartArg) (parts : List Part) : Prop where
  aligned : ∀ a ∈ args, sectorSize ∣ a.start ∧ sectorSize ∣ a.size
  fits : ∀ p ∈ args.zip parts, p.2.start + p.1.bytes < 2 ^ 64
  givenApart : parts.Pairwise fun p q => p.guessSize = false → q.guessSize = false → Disjoint p.range q.range
  guessedOutside : ∀ p ∈ parts, ∀ q ∈ parts, p.guessSize = false → q.guessSize = true → sectorAddr q.start ∉ p.range
  guessedApart : parts.Pairwise fun p q => p.guessSize = true → q.guessSize = true → p.start ≠ q.start

section Pass
variable {limit i : Nat} {args : List PartArg} {parts : List Part} {a : PartArg} {f p : Part}

theorem PartArg.part_stop (hsize : sectorSize ∣ a.size) (hfits : a.start + a.bytes < 2 ^ 64) :
    a.part.stop = a.start + a.bytes - sectorSize := by
  obtain ⟨k, hk⟩ := hsize
  unfold PartArg.bytes at hfits ⊢
  unfold sectorSize at *
  by_cases hzero : a.size = 0
  · simp only [PartArg.part, hzero, ne_eq, not_true_eq_false, if_false]
    omega
  · have hstop : a.part.stop = sub64 ((a.start + a.size) % 2 ^ 64) 512 := by simp [PartArg.part, hzero, sectorSize]
    rw [hstop, Nat.mod_eq_of_lt (by omega), sub64_eq (by omega) (by omega)]
    omega

theorem Requested.fits_at (hreq : Requested args parts) (ha : args[i]? = some a) (hf : parts[i]? = some f) :
    f.start + a.bytes < 2 ^ 64 :=
  hreq.fits (a, f) (List.mem_iff_getElem?.mpr ⟨i, List.getElem?_zip_eq_some.mpr ⟨ha, hf⟩⟩)

theorem Resolves.stop_given (h : Resolves limit [] args parts) (hreq : Requested args parts) (ha : args[i]? = some a)
    (hf : parts[i]? = some f) (hgiven : a.guessSize = false) : f.stop + sectorSize = f.start + a.bytes := by
  have hresolved := h.at ha hf
  rw [List.nil_append] at hresolved
  have hfits := hreq.fits_at ha hf
  obtain ⟨-, hsize⟩ := hreq.aligned a (List.mem_of_getElem? ha)
  have hbytes : sectorSize ≤ a.bytes := Nat.le_max_right _ _
  have hstop := hresolved.stop_given hgiven
  split at hstop
  · -- the size was added to a start of 0
    rename_i hbehind
    have hzero := a.start_guess hbehind.1
    have hpart := PartArg.part_stop hsize (by omega : a.start + a.bytes < 2 ^ 64)
    rw [hstop, hpart, hzero, Nat.mod_eq_of_lt (by omega)]
    omega
  · rename_i hbehind
    have hstart : f.start = a.start := by
      cases hguess : a.guessStart with
      | false => exact hresolved.start_given hguess
      | true =>
        rw [hresolved.start_first hguess (by_contra fun hne => hbehind ⟨hguess, hne⟩),
          a.start_guess hguess]
    rw [hstart] at hfits ⊢
    rw [hstop, PartArg.part_stop hsize hfits]
    omega

theorem Resolves.exists_arg (h : Resolves limit [] args parts) (hf : parts[i]? = some f) : ∃ a, args[i]? = some a := by
  have hi : i < parts.length := (List.getElem?_eq_some_iff.mp hf).1
  rw [h.length] at hi
  exact ⟨_, List.getElem?_eq_getElem hi⟩

theorem Resolves.start_chained (h : Resolves limit [] args parts) (hreq : Requested args parts) (ha : args[i + 1]? = some a)
    (hf : parts[i + 1]? = some f) (hp : parts[i]? = some p) (hguess : a.guessStart = true) :
    p.guessSize = false ∧ f.start = p.stop + sectorSize := by
  have hresolved := h.at ha hf
  rw [List.nil_append] at hresolved
  have hlast : (parts.take (i + 1)).getLast? = some p := by
    rw [List.getLast?_take, if_neg (Nat.succ_ne_zero i), Nat.add_sub_cancel, hp]
    rfl
  obtain ⟨hgiven, hstart⟩ := hresolved.start_chained hguess p hlast
  obtain ⟨a', ha'⟩ := h.exists_arg hp
  have hgiven' : a'.guessSize = false := (h.at ha' hp).guessSize.symm.trans hgiven
  have hstop := h.stop_given hreq ha' hp hgiven'
  have hfits := hreq.fits_at ha' hp
  have hbytes : sectorSize ≤ a'.bytes := Nat.le_max_right _ _
  refine ⟨hgiven, ?_⟩
  rw [hstart, sub64_eq (by omega) (by omega), Nat.mod_eq_of_lt (by omega : p.stop - p.start + sectorSize < 2 ^ 64),
    Nat.mod_eq_of_lt (by omega)]
  omega

theorem Resolves.start_aligned (h : Resolves limit [] args parts) (hreq : Requested args parts) :
    ∀ {i : Nat} {f : Part}, parts[i]? = some f → sectorSize ∣ f.start := by
  intro i
  induction i with
  | zero =>
    intro f hf
    obtain ⟨a, ha⟩ := h.exists_arg hf
    have hresolved := h.at ha hf
    cases hguess : a.guessStart with
    | false =>
      rw [hresolved.start_given hguess]
      exact (hreq.aligned a (List.mem_of_getElem? ha)).1
    | true =>
      rw [hresolved.start_first hguess rfl]
      exact Nat.dvd_zero _
  | succ i ih =>
    intro f hf
    obtain ⟨a, ha⟩ := h.exists_arg hf
    cases hguess : a.guessStart with
    | false =>
      rw [(h.at ha hf).start_given hguess]
      exact (hreq.aligned a (List.mem_of_getElem? ha)).1
    | true =>
      have hi : i < parts.length := Nat.lt_of_succ_lt (List.getElem?_eq_some_iff.mp hf).1
      have hp : parts[i]? = some parts[i] := List.getElem?_eq_getElem hi
      obtain ⟨hgiven, hstart⟩ := h.start_chained hreq ha hf hp hguess
      obtain ⟨a', ha'⟩ := h.exists_arg hp
      rw [hstart, h.stop_given hreq ha' hp ((h.at ha' hp).guessSize.symm.trans hgiven)]
      have hsize := (hreq.aligned a' (List.mem_of_getElem? ha')).2
      refine Nat.dvd_add (ih hp) ?_
      rcases max_choice a'.size sectorSize with hmax | hmax
      · rw [PartArg.bytes, hmax]
        exact hsize
      · have hbytes : a'.bytes = sectorSize := hmax
        exact ⟨1, hbytes.trans (Nat.mul_one _).symm⟩

/-- An element of the array at the time when the size of the one at `i` is found, with a start behind that one: it is final. -/
theorem Resolves.final_of_behind (h : Resolves limit [] args parts) {q : Part} (hp : p.start = f.start)
    (hq : q ∈ parts.take i ++ p :: (args.drop (i + 1)).map PartArg.part) (hlt : f.start < q.start) :
    ∃ g ∈ parts, g.start = q.start := by
  rcases List.mem_append.mp hq with hq | hq
  · exact ⟨q, List.mem_of_mem_take hq, rfl⟩
  · rcases List.mem_cons.mp hq with rfl | hq
    · omega
    · obtain ⟨a', ha', rfl⟩ := List.mem_map.mp hq
      obtain ⟨j, hj⟩ := List.mem_iff_getElem?.mp (List.mem_of_mem_drop ha')
      have hlen : j < parts.length := by
        rw [h.length]
        exact (List.getElem?_eq_some_iff.mp hj).1
      refine ⟨_, List.getElem_mem hlen, ?_⟩
      -- a start that is still to be guessed is 0
      have hgiven : a'.guessStart = false := by
        by_contra hguess
        have hzero := a'.start_guess (by simpa using hguess)
        have hstart : a'.part.start = a'.start := rfl
        omega
      exact (h.at hj (List.getElem?_eq_getElem hlen)).start_given hgiven

theorem Resolves.guessed_le (h : Resolves limit [] args parts) (hreq : Requested args parts) (hf : parts[i]? = some f)
    (hguess : f.guessSize = true) {m : Nat}
    (hm : ∀ q ∈ parts.take i ++ p :: (args.drop (i + 1)).map PartArg.part, f.start < q.start → m ≤ q.start - f.start) :
    ∀ {j : Nat} {g : Part}, parts[j]? = some g → f.start < g.start → m ≤ g.start - f.start := by
  intro j
  induction j with
  | zero =>
    intro g hg hlt
    by_cases hi : i = 0
    · obtain rfl : f = g := Option.some.inj (hf.symm.trans (hi ▸ hg))
      exact absurd hlt (Nat.lt_irrefl _)
    · refine hm g (List.mem_append_left _ (List.mem_iff_getElem?.mpr ⟨0, ?_⟩)) hlt
      rw [List.getElem?_take_of_lt (Nat.pos_of_ne_zero hi), hg]
  | succ j ih =>
    intro g hg hlt
    obtain ⟨a, ha⟩ := h.exists_arg hg
    have hj : j < parts.length := Nat.lt_of_succ_lt (List.getElem?_eq_some_iff.mp hg).1
    have hp : parts[j]? = some parts[j] := List.getElem?_eq_getElem hj
    rcases Nat.lt_trichotomy (j + 1) i with hlow | rfl | hhigh
    · refine hm g (List.mem_append_left _ (List.mem_iff_getElem?.mpr ⟨j + 1, ?_⟩)) hlt
      rw [List.getElem?_take_of_lt hlow, hg]
    · obtain rfl : f = g := Option.some.inj (hf.symm.trans hg)
      exact absurd hlt (Nat.lt_irrefl _)
    · cases hstart : a.guessStart with
      | false =>
        -- its start was in the array from the beginning
        have hgstart : g.start = a.part.start := (h.at ha hg).start_given hstart
        rw [hgstart] at hlt ⊢
        refine hm a.part (List.mem_append_right _ (List.mem_cons_of_mem _ (List.mem_map_of_mem ?_))) hlt
        refine List.mem_iff_getElem?.mpr ⟨j - i, ?_⟩
        rw [List.getElem?_drop, show i + 1 + (j - i) = j + 1 by omega, ha]
      | true =>
        -- the element in front of it is not this one, and does not contain its start
        obtain ⟨hgiven, hgstart⟩ := h.start_chained hreq ha hg hp hstart
        by_cases hbehind : f.start < parts[j].start
        · have hle := ih hp hbehind
          obtain ⟨a', ha'⟩ := h.exists_arg hp
          have hstop := h.stop_given hreq ha' hp ((h.at ha' hp).guessSize.symm.trans hgiven)
          omega
        · refine absurd ?_ (hreq.guessedOutside _ (List.getElem_mem hj) f (List.mem_of_getElem? hf) hgiven hguess)
          obtain ⟨k, hk⟩ := h.start_aligned hreq hf
          obtain ⟨k', hk'⟩ := h.start_aligned hreq hg
          unfold Part.range sectorAddr
          unfold sectorSize at *
          rw [Set.mem_Icc]
          omega

theorem Resolves.guessed (h : Resolves limit [] args parts) (hreq : Requested args parts) (hlimit : limit < 2 ^ 64)
    (hf : parts[i]? = some f) (hguess : f.guessSize = true) :
    ∃ m, sectorSize ≤ m ∧ f.start + m ≤ limit ∧ f.stop + sectorSize = f.start + m ∧
      (∀ g ∈ parts, f.start < g.start → f.start + m ≤ g.start) ∧
      (f.start + m = limit ∨ ∃ g ∈ parts, g.start = f.start + m) := by
  obtain ⟨a, ha⟩ := h.exists_arg hf
  have hresolved := h.at ha hf
  rw [List.nil_append] at hresolved
  have hguess' : a.guessSize = true := hresolved.guessSize.symm.trans hguess
  have hfits := hreq.fits_at ha hf
  have hbytes : a.bytes = sectorSize := by
    rw [PartArg.bytes, a.size_guess hguess']
    exact Nat.zero_max _
  obtain ⟨hroom, p, hp, hstop⟩ := hresolved.stop_guessed hguess'
  rw [hbytes] at hfits
  rw [Nat.mod_eq_of_lt hfits] at hroom
  rw [sub64_eq (by omega) hlimit] at hstop
  obtain ⟨hle, hall⟩ := fillSize_le f.start (parts.take i ++ p :: (args.drop (i + 1)).map PartArg.part) (limit - f.start)
  have hend := fillSize_eq f.start (parts.take i ++ p :: (args.drop (i + 1)).map PartArg.part) (limit - f.start)
  generalize fillSize _ f.start (limit - f.start) = m at *
  have hreach : ∀ g ∈ parts, f.start < g.start → m ≤ g.start - f.start := by
    intro g hg hlt
    obtain ⟨j, hj⟩ := List.mem_iff_getElem?.mp hg
    exact h.guessed_le hreq hf hguess hall hj hlt
  have hend' : f.start + m ≤ limit := by
    clear hend
    omega
  have hfinal : m = limit - f.start ∨ ∃ g ∈ parts, f.start < g.start ∧ m = g.start - f.start := by
    rcases hend with hend | ⟨q, hq, hlt, hend⟩
    · exact Or.inl hend
    · obtain ⟨g, hg, hgstart⟩ := h.final_of_behind hp hq hlt
      exact Or.inr ⟨g, hg, by omega, by omega⟩
  -- a size that ends at a start is a whole number of sectors
  have hsector : sectorSize ≤ m := by
    rcases hfinal with hm | ⟨g, hg, hlt, hm⟩
    · omega
    · obtain ⟨j, hj⟩ := List.mem_iff_getElem?.mp hg
      obtain ⟨k, hk⟩ := h.start_aligned hreq hf
      obtain ⟨k', hk'⟩ := h.start_aligned hreq hj
      unfold sectorSize at *
      omega
  refine ⟨m, hsector, hend', ?_, ?_, ?_⟩
  · clear hend hfinal
    rw [hstop, Nat.mod_eq_of_lt (by omega), sub64_eq (by omega) (by omega)]
    omega
  · intro g hg hlt
    have hle := hreach g hg hlt
    clear hend hfinal
    omega
  · rcases hfinal with hm | ⟨g, hg, hlt, hm⟩
    · exact Or.inl (by omega)
    · exact Or.inr ⟨g, hg, by omega⟩

/-! ### The layout -/

theorem range_disjoint {p q : Part} (h : sectorAddr p.stop < sectorAddr q.start) : Disjoint p.range q.range := by
  rw [Set.disjoint_left]
  intro lba hp hq
  rw [Part.range, Set.mem_Icc] at hp hq
  omega

theorem sectorAddr_lt {x y : Nat} (h : x + sectorSize ≤ y) : sectorAddr x < sectorAddr y := by
  unfold sectorAddr
  unfold sectorSize at *
  omega

theorem Resolves.ordered (h : Resolves limit [] args parts) (hreq : Requested args parts) (hlimit : limit < 2 ^ 64)
    (hf : f ∈ parts) : f.start ≤ f.stop := by
  obtain ⟨i, hi⟩ := List.mem_iff_getElem?.mp hf
  cases hguess : f.guessSize with
  | false =>
    obtain ⟨a, ha⟩ := h.exists_arg hi
    have hstop := h.stop_given hreq ha hi ((h.at ha hi).guessSize.symm.trans hguess)
    have hbytes : sectorSize ≤ a.bytes := Nat.le_max_right _ _
    omega
  | true =>
    obtain ⟨m, hm, -, hstop, -⟩ := h.guessed hreq hlimit hi hguess
    omega

theorem Resolves.guessed_disjoint (h : Resolves limit [] args parts) (hreq : Requested args parts) (hlimit : limit < 2 ^ 64)
    (hf : f ∈ parts) (hp : p ∈ parts) (hguess : f.guessSize = true)
    (hfront : ¬ f.start < p.start → sectorAddr p.stop < sectorAddr f.start) : Disjoint f.range p.range := by
  obtain ⟨i, hi⟩ := List.mem_iff_getElem?.mp hf
  obtain ⟨m, -, -, hstop, hreach, -⟩ := h.guessed hreq hlimit hi hguess
  by_cases hlt : f.start < p.start
  · have hend := hreach p hp hlt
    exact range_disjoint (sectorAddr_lt (by omega))
  · exact (range_disjoint (hfront hlt)).symm

theorem Resolves.guessed_disjoint_given (h : Resolves limit [] args parts) (hreq : Requested args parts)
    (hlimit : limit < 2 ^ 64) (hf : f ∈ parts) (hp : p ∈ parts) (hguess : f.guessSize = true) (hgiven : p.guessSize = false) :
    Disjoint f.range p.range := by
  refine h.guessed_disjoint hreq hlimit hf hp hguess fun hnot => ?_
  have hout := hreq.guessedOutside p hp f hf hgiven hguess
  have hle : sectorAddr p.start ≤ sectorAddr f.start := Nat.div_le_div_right (Nat.le_of_not_lt hnot)
  rw [Part.range, Set.mem_Icc, not_and, not_le] at hout
  exact hout hle

theorem Resolves.disjoint (h : Resolves limit [] args parts) (hreq : Requested args parts) (hlimit : limit < 2 ^ 64) :
    parts.Pairwise fun p q => Disjoint p.range q.range := by
  refine (hreq.givenApart.and hreq.guessedApart).imp_of_mem fun {p q} hp hq hpq => ?_
  cases hpguess : p.guessSize with
  | false =>
    cases hqguess : q.guessSize with
    | false => exact hpq.1 hpguess hqguess
    | true => exact (h.guessed_disjoint_given hreq hlimit hq hp hqguess hpguess).symm
  | true =>
    cases hqguess : q.guessSize with
    | false => exact h.guessed_disjoint_given hreq hlimit hp hq hpguess hqguess
    | true =>
      -- the one that starts first ends in front of the other one
      refine h.guessed_disjoint hreq hlimit hp hq hpguess fun hnot => ?_
      have hne := hpq.2 hpguess hqguess
      obtain ⟨i, hi⟩ := List.mem_iff_getElem?.mp hq
      obtain ⟨m, -, -, hstop, hreach, -⟩ := h.guessed hreq hlimit hi hqguess
      have hend := hreach p hp (by omega)
      exact sectorAddr_lt (by omega)

end Pass

/-- A partition of an entry. -/
def Entry.range (e : Entry) : Set Nat := Set.Icc e.startingLba e.endingLba

theorem populateEntries_range (parts : List Part) (r : RandState) :
    (populateEntries (parts.map Part.info) r).1.map (fun e => (e.startingLba, e.endingLba)) =
      parts.map fun p => (sectorAddr p.start, sectorAddr p.stop) := by
  induction parts generalizing r with
  | nil => rfl
  | cons p parts ih =>
    rw [List.map_cons, populateEntries, List.map_cons, ih]
    rfl

/-- The layout that is promised: the entries are those of the partitions, they are apart and not empty, a guessed start is
    where the partition in front of it ends, and a guessed size is all there is up to the next partition or the space that is
    reserved at the end of the disk. -/
structure LayoutValid (totalDiskSize reserved : Nat) (parts : List Part) (tables : Tables) : Prop where
  entries : tables.entries.map (fun e => (e.startingLba, e.endingLba)) =
    parts.map fun p => (sectorAddr p.start, sectorAddr p.stop)
  disjoint : tables.entries.Pairwise fun e e' => Disjoint e.range e'.range
  ordered : ∀ e ∈ tables.entries, e.startingLba ≤ e.endingLba
  chained : ∀ i p q, parts[i]? = some p → parts[i + 1]? = some q → q.guessStart = true →
    sectorAddr q.start = sectorAddr p.stop + 1
  below : ∀ p ∈ parts, p.guessSize = true → (sectorAddr p.stop + 1) * sectorSize + reserved ≤ totalDiskSize
  maximal : ∀ p ∈ parts, p.guessSize = true → (∃ q ∈ parts, sectorAddr q.start = sectorAddr p.stop + 1) ∨
    totalDiskSize < (sectorAddr p.stop + 2) * sectorSize + reserved

section Main
variable {args : List PartArg} {parts : List Part} {totalDiskSize reserved gptLba : Nat}

theorem layoutValid (htotal : totalDiskSize < 2 ^ 64) (h : Resolves (sub64 totalDiskSize reserved) [] args parts)
    (hreq : Requested args parts) (hroom : reserved ≤ totalDiskSize ∨ ∀ p ∈ parts, p.guessSize = false) (r : RandState) :
    LayoutValid totalDiskSize reserved parts (populateTables (parts.map Part.info) totalDiskSize gptLba r) := by
  have hlimit : sub64 totalDiskSize reserved < 2 ^ 64 := Nat.mod_lt _ (by decide)
  have hentries : (populateTables (parts.map Part.info) totalDiskSize gptLba r).entries.map
      (fun e => (e.startingLba, e.endingLba)) = parts.map fun p => (sectorAddr p.start, sectorAddr p.stop) := by
    simp only [populateTables, populateEntries_range]
  refine ⟨hentries, ?_, ?_, ?_, ?_, ?_⟩
  · have hdisjoint : (parts.map fun p => (sectorAddr p.start, sectorAddr p.stop)).Pairwise
        fun x y => Disjoint (Set.Icc x.1 x.2) (Set.Icc y.1 y.2) := List.pairwise_map.mpr (h.disjoint hreq hlimit)
    rw [← hentries, List.pairwise_map] at hdisjoint
    exact hdisjoint
  · intro e he
    have hmem := List.mem_map_of_mem (f := fun e : Entry => (e.startingLba, e.endingLba)) he
    rw [hentries] at hmem
    obtain ⟨p, hp, heq⟩ := List.mem_map.mp hmem
    obtain ⟨hstart, hstop⟩ := Prod.mk.inj heq
    rw [← hstart, ← hstop]
    exact Nat.div_le_div_right (h.ordered hreq hlimit hp)
  · intro i p q hp hq hguess
    obtain ⟨a, ha⟩ := h.exists_arg hq
    obtain ⟨-, hstart⟩ := h.start_chained hreq ha hq hp ((h.at ha hq).guessStart.symm.trans hguess)
    rw [hstart]
    exact Nat.add_div_right _ (by decide)
  · intro p hp hguess
    have hle := hroom.resolve_right fun hnone => absurd ((hnone p hp).symm.trans hguess) Bool.false_ne_true
    obtain ⟨i, hi⟩ := List.mem_iff_getElem?.mp hp
    obtain ⟨m, -, hend, hstop, -⟩ := h.guessed hreq hlimit hi hguess
    rw [sub64_eq hle htotal] at hend
    unfold sectorAddr
    unfold sectorSize at *
    omega
  · intro p hp hguess
    have hle := hroom.resolve_right fun hnone => absurd ((hnone p hp).symm.trans hguess) Bool.false_ne_true
    obtain ⟨i, hi⟩ := List.mem_iff_getElem?.mp hp
    obtain ⟨m, -, -, hstop, -, hend⟩ := h.guessed hreq hlimit hi hguess
    rw [sub64_eq hle htotal] at hend
    rcases hend with hend | ⟨q, hq, hend⟩
    · refine Or.inr ?_
      unfold sectorAddr
      unfold sectorSize at *
      omega
    · refine Or.inl ⟨q, hq, ?_⟩
      rw [hend, ← hstop]
      exact Nat.add_div_right _ (by decide)

theorem LayoutValid.room {tables : Tables} (h : LayoutValid totalDiskSize reserved parts tables) :
    reserved ≤ totalDiskSize ∨ ∀ p ∈ parts, p.guessSize = false := by
  by_cases hroom : reserved ≤ totalDiskSize
  · exact Or.inl hroom
  · refine Or.inr fun p hp => Bool.eq_false_iff.mpr fun hguess => ?_
    have hbelow := h.below p hp hguess
    omega

theorem makegpt_eq {options : Options} {argv : List (List Char)} {r : RandState} (hfile : options.outputFile ≠ [])
    (hsize : options.totalDiskSize ≠ 0) (hbase : options.baseAddress ≠ 2 ^ 64 - 1) (hargs : argv.mapM parsePart = some args)
    (hparts : finalize (sub64 options.totalDiskSize (agptReservedSize args.length)) [] 0 (args.map PartArg.part) = some parts) :
    makegpt options argv r =
      if argv.length ≤ maxParts then
        .written parts (populateTables (parts.map Part.info) options.totalDiskSize (sectorAddr options.baseAddress + 1) r)
      else .undefined := by
  rw [makegpt, if_neg hfile, if_neg hsize, if_neg hbase, parseParts_eq hargs (Nat.zero_le _), Nat.zero_add]
  by_cases hroom : argv.length ≤ maxParts
  · rw [if_pos hroom, if_pos hroom, List.nil_append]
    simp only [hparts]
  · rw [if_neg hroom, if_neg hroom]

/-- The layout is as promised exactly if the arrays have room for the partitions, and the disk for the space that is reserved
    if a size is guessed. -/
theorem makegpt_layout_iff {options : Options} {argv : List (List Char)} {r : RandState} (hfile : options.outputFile ≠ [])
    (hsize : options.totalDiskSize ≠ 0) (htotal : options.totalDiskSize < 2 ^ 64)
    (hbase : options.baseAddress ≠ 2 ^ 64 - 1) (hargs : argv.mapM parsePart = some args)
    (hparts : finalize (sub64 options.totalDiskSize (agptReservedSize args.length)) [] 0 (args.map PartArg.part) = some parts)
    (hreq : Requested args parts) :
    (∃ parts tables, makegpt options argv r = .written parts tables ∧
        LayoutValid options.totalDiskSize (agptReservedSize args.length) parts tables) ↔
      argv.length ≤ maxParts ∧
        (agptReservedSize args.length ≤ options.totalDiskSize ∨ ∀ a ∈ args, a.guessSize = false) := by
  obtain ⟨finals, hfinals, hres⟩ := finalize_resolves (fun prev hprev => by cases hprev) hparts
  rw [List.nil_append] at hfinals
  subst hfinals
  rw [makegpt_eq hfile hsize hbase hargs hparts]
  have hguess : (∀ p ∈ parts, p.guessSize = false) ↔ ∀ a ∈ args, a.guessSize = false := by
    have hflags : (∀ g ∈ parts.map (·.guessSize), g = false) ↔ ∀ g ∈ args.map (·.guessSize), g = false := by
      rw [hres.map_guessSize]
    rwa [List.forall_mem_map, List.forall_mem_map] at hflags
  constructor
  · rintro ⟨parts', tables, hwritten, hvalid⟩
    split at hwritten
    · rename_i hroom
      obtain ⟨rfl, rfl⟩ := Outcome.written.inj hwritten
      exact ⟨hroom, hvalid.room.imp_right hguess.mp⟩
    · cases hwritten
  · rintro ⟨hroom, hreserved⟩
    rw [if_pos hroom]
    exact ⟨parts, _, rfl, layoutValid htotal hres hreq (hreserved.imp_right hguess.mpr) r⟩

end Main

/-! ### Two command lines -/

/-- The example of the tool's usage. -/
def usageArgv : List (List Char) :=
  ["image1,0x10000,0x10000,0".toList, "image2,-,64k,0".toList, "image3,0x30000,0x30000,0".toList,
    "image4,0x90000,-,0".toList]

def usageArgs : List PartArg :=
  [{ name := "image1".toList, start := 0x10000, size := 0x10000, attr := 0, guessStart := false, guessSize := false
     start_guess := nofun, size_guess := nofun },
   { name := "image2".toList, start := 0, size := 0x10000, attr := 0, guessStart := true, guessSize := false
     start_guess := fun _ => rfl, size_guess := nofun },
   { name := "image3".toList, start := 0x30000, size := 0x30000, attr := 0, guessStart := false, guessSize := false
     start_guess := nofun, size_guess := nofun },
   { name := "image4".toList, start := 0x90000, size := 0, attr := 0, guessStart := false, guessSize := true
     start_guess := nofun, size_guess := fun _ => rfl }]

def usageParts : List Part :=
  [{ name := "image1".toList, start := 0x10000, stop := 0x1fe00, attr := 0, guessStart := false, guessSize := false },
   { name := "image2".toList, start := 0x20000, stop := 0x2fe00, attr := 0, guessStart := true, guessSize := false },
   { name := "image3".toList, start := 0x30000, stop := 0x5fe00, attr := 0, guessStart := false, guessSize := false },
   { name := "image4".toList, start := 0x90000, stop := 0x1dfffbc00, attr := 0, guessStart := false, guessSize := true }]

theorem usage_requested : Requested usageArgs usageParts where
  aligned := by decide
  fits := by decide
  givenApart := by
    have hsorted : usageParts.Pairwise fun p q => sectorAddr p.stop < sectorAddr q.start := by decide
    exact hsorted.imp fun h _ _ => range_disjoint h
  guessedOutside := by
    simp only [Part.range, Set.mem_Icc]
    decide
  guessedApart := by decide

theorem makegpt_layout_iff_usage :
    (∃ parts tables, makegpt ⟨"gpt.bin".toList, 0x1e0000000, 0⟩ usageArgv {} = .written parts tables ∧
        LayoutValid 0x1e0000000 (agptReservedSize usageArgs.length) parts tables) ↔
      usageArgv.length ≤ maxParts ∧
        (agptReservedSize usageArgs.length ≤ 0x1e0000000 ∨ ∀ a ∈ usageArgs, a.guessSize = false) :=
  @makegpt_layout_iff usageArgs usageParts ⟨"gpt.bin".toList, 0x1e0000000, 0⟩ usageArgv {} (by decide) (by decide) (by decide)
    (by decide) (by decide +kernel) (by decide +kernel) usage_requested

def fillArgs : List PartArg :=
  [{ name := "image".toList, start := 0x10000, size := 0, attr := 0, guessStart := false, guessSize := true
     start_guess := nofun, size_guess := fun _ => rfl }]

def fillParts : List Part :=
  [{ name := "image".toList, start := 0x10000, stop := 0xffffffffffffcc00, attr := 0, guessStart := false, guessSize := true }]

/-- On a disk that is smaller than the space that is reserved at its end, a guessed size goes far behind the disk. -/
theorem makegpt_wraps :
    (∃ tables, makegpt ⟨"gpt.bin".toList, 0x1000, 0⟩ ["image,0x10000,-,0".toList] {} = .written fillParts tables) ∧
      Requested fillArgs fillParts ∧ ∀ tables, ¬ LayoutValid 0x1000 (agptReservedSize fillArgs.length) fillParts tables := by
  refine ⟨?_, ?_, fun tables hvalid => ?_⟩
  · have hargs : ["image,0x10000,-,0".toList].mapM parsePart = some fillArgs := by decide +kernel
    have hwritten := @makegpt_eq fillArgs fillParts ⟨"gpt.bin".toList, 0x1000, 0⟩ ["image,0x10000,-,0".toList] {} (by decide)
      (by decide) (by decide) hargs (by decide +kernel)
    exact ⟨_, hwritten.trans (if_pos (by decide))⟩
  · refine ⟨by decide, by decide, List.pairwise_singleton _ _, ?_, List.pairwise_singleton _ _⟩
    simp [fillParts]
  · have hroom := hvalid.room
    revert hroom
    decide

end BcmPlatform.Gpt
