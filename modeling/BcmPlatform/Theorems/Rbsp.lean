import BcmPlatform.Hevc.Rbsp
import BcmPlatform.Lib.StartCodes

/-! What `ExtractHEVCRbsp` writes is its input without the emulation prevention bytes, so it undoes their insertion; and
    what it accesses. -/

namespace BcmPlatform.Hevc
open Lib
namespace RbspCopy
variable {src : List UInt8} {c : RbspCopy}

/-! ### Accesses -/

/-- The accesses so far are in range, and nothing is written beyond what was read. -/
structure InRange (src : List UInt8) (c : RbspCopy) : Prop where
  reads : ∀ index ∈ c.reads, index < src.length
  written : c.j ≤ c.i
  bound : c.i ≤ src.length

theorem InRange.read (h : c.InRange src) {index : Nat} (hindex : index < src.length) : (c.read index).InRange src := by
  refine ⟨fun k hk => ?_, h.written, h.bound⟩
  rcases List.mem_append.mp hk with hk | hk
  · exact h.reads k hk
  · rwa [List.mem_singleton.mp hk]

theorem InRange.copyByte (h : c.InRange src) (hi : c.i < src.length) : (c.copyByte src).InRange src := by
  obtain ⟨hreads, hwritten, -⟩ := h.read hi
  exact ⟨hreads, Nat.succ_le_succ hwritten, hi⟩

theorem InRange.scan (h : c.InRange src) (hi : c.i + 2 < src.length) : (c.scan src).InRange src := by
  have hread : (c.read c.i).InRange src := h.read (by omega)
  have hnext : ((c.read c.i).read (c.i + 1)).InRange src := hread.read (by omega)
  have hlast : (((c.read c.i).read (c.i + 1)).read (c.i + 2)).InRange src := hnext.read hi
  unfold RbspCopy.scan
  simp only []
  split_ifs
  · exact hread.copyByte (by simp only [RbspCopy.read]; omega)
  · exact hnext.copyByte (by simp only [RbspCopy.read]; omega)
  · obtain ⟨hreads, hwritten, -⟩ := hlast
    simp only [RbspCopy.read] at hwritten
    exact ⟨hreads, by simp only [RbspCopy.write, skip, RbspCopy.read]; omega, hi⟩
  · exact hlast.copyByte (by simp only [RbspCopy.read]; omega)

theorem InRange.scanLoop (h : c.InRange src) : (c.scanLoop src).InRange src := by
  fun_induction RbspCopy.scanLoop src c with
  | case1 c hi ih => exact ih (h.scan hi)
  | case2 c hi => exact h

theorem InRange.copyLoop (h : c.InRange src) : (c.copyLoop src).InRange src := by
  fun_induction RbspCopy.copyLoop src c with
  | case1 c hi ih => exact ih (h.copyByte hi)
  | case2 c hi => exact h

theorem inRange_extract (src : List UInt8) : (extractHevcRbsp src).InRange src :=
  InRange.copyLoop (InRange.scanLoop ⟨fun _ hindex => absurd hindex List.not_mem_nil, Nat.le_refl 0, Nat.zero_le _⟩)

/-! ### What is written -/

/-- From a state on, `out` is written, in order. -/
def Writes (c c' : RbspCopy) (out : List UInt8) : Prop :=
  c'.writes = c.writes ++ out.zipIdx c.j ∧ c'.j = c.j + out.length

theorem Writes.trans {c c' c'' : RbspCopy} {out out' : List UInt8} (h : c.Writes c' out) (h' : c'.Writes c'' out') :
    c.Writes c'' (out ++ out') := by
  obtain ⟨hwrites, hj⟩ := h
  obtain ⟨hwrites', hj'⟩ := h'
  refine ⟨?_, by rw [hj', hj, List.length_append, Nat.add_assoc]⟩
  rw [hwrites', hwrites, hj, List.zipIdx_append, List.append_assoc]

theorem drop_eq_cons {i : Nat} (h : i < src.length) : src.drop i = src.getD i 0 :: src.drop (i + 1) := by
  rw [List.drop_eq_getElem_cons h, List.getD_eq_getElem?_getD, List.getElem?_eq_getElem h, Option.getD_some]

theorem writes_copyByte (c : RbspCopy) (src : List UInt8) : c.Writes (c.copyByte src) [src.getD c.i 0] := ⟨rfl, rfl⟩

theorem scan_spec (hi : c.i + 2 < src.length) : ∃ out, c.Writes (c.scan src) out ∧
    removeEmulation (src.drop c.i) = out ++ removeEmulation (src.drop (c.scan src).i) := by
  have h₀ : src.drop c.i = _ := drop_eq_cons (by omega)
  have h₁ : src.drop (c.i + 1) = _ := drop_eq_cons (by omega)
  have h₂ := drop_eq_cons hi
  have hcopy : ¬ (src.getD c.i 0 = 0 ∧ src.getD (c.i + 1) 0 = 0 ∧ src.getD (c.i + 2) 0 = 3) →
      removeEmulation (src.drop c.i) = [src.getD c.i 0] ++ removeEmulation (src.drop (c.i + 1)) := by
    intro hnot
    rw [h₀, removeEmulation_cons]
    · rfl
    · rintro hzero ⟨t, ht⟩
      rw [h₁, h₂] at ht
      obtain ⟨hone, htail⟩ := List.cons.inj ht
      exact hnot ⟨hzero, hone.symm, (List.cons.inj htail).1.symm⟩
  unfold scan
  simp only []
  split_ifs with hzero hone hthree
  · exact ⟨_, writes_copyByte (c.read c.i) src, hcopy fun h => hzero h.1⟩
  · exact ⟨_, writes_copyByte ((c.read c.i).read (c.i + 1)) src, hcopy fun h => hone h.2.1⟩
  · refine ⟨[0, 0], ⟨by simp [write, skip, read], rfl⟩, ?_⟩
    rw [h₀, h₁, h₂, not_not.mp hzero, not_not.mp hone, hthree, removeEmulation]
    rfl
  · exact ⟨_, writes_copyByte _ src, hcopy fun h => hthree h.2.2⟩

theorem scanLoop_spec (src : List UInt8) (c : RbspCopy) : ∃ out, c.Writes (c.scanLoop src) out ∧
    removeEmulation (src.drop c.i) = out ++ removeEmulation (src.drop (c.scanLoop src).i) ∧
    src.length ≤ (c.scanLoop src).i + 2 := by
  fun_induction scanLoop src c with
  | case1 c hi ih =>
    obtain ⟨out, hwrites, hout⟩ := scan_spec hi
    obtain ⟨out', hwrites', hout', hend⟩ := ih
    exact ⟨out ++ out', hwrites.trans hwrites', by rw [hout, hout', List.append_assoc], hend⟩
  | case2 c hi => exact ⟨[], ⟨by simp, rfl⟩, rfl, Nat.le_of_not_lt hi⟩

theorem copyLoop_writes (src : List UInt8) (c : RbspCopy) : c.Writes (c.copyLoop src) (src.drop c.i) := by
  fun_induction copyLoop src c with
  | case1 c hi ih =>
    rw [drop_eq_cons hi]
    exact (writes_copyByte c src).trans ih
  | case2 c hi =>
    rw [List.drop_eq_nil_of_le (Nat.le_of_not_lt hi)]
    exact ⟨by simp, rfl⟩

theorem removeEmulation_of_length_le {l : List UInt8} (h : l.length ≤ 2) : removeEmulation l = l := by
  match l, h with
  | [], _ => rfl
  | [a], _ =>
    rw [removeEmulation_cons]
    · rfl
    · intro _ hprefix
      exact absurd hprefix.length_le (by decide)
  | [a, b], _ =>
    rw [removeEmulation_cons, removeEmulation_of_length_le (l := [b]) (Nat.le_succ 1)]
    intro _ hprefix
    exact absurd hprefix.length_le (Nat.not_succ_le_self 1)

theorem extract_spec (src : List UInt8) :
    (extractHevcRbsp src).writes = (removeEmulation src).zipIdx ∧ (extractHevcRbsp src).j = (removeEmulation src).length := by
  obtain ⟨out, hwrites, hout, hend⟩ := scanLoop_spec src {}
  have htail := copyLoop_writes src (scanLoop src {})
  have hlen : (src.drop (scanLoop src {}).i).length ≤ 2 := by
    rw [List.length_drop]
    omega
  rw [removeEmulation_of_length_le hlen, List.drop_zero] at hout
  obtain ⟨hall, hj⟩ := hwrites.trans htail
  rw [← hout] at hall hj
  exact ⟨by rwa [List.nil_append] at hall, by rwa [Nat.zero_add] at hj⟩

end RbspCopy

/-- The extraction writes the string that the emulation prevention bytes were inserted into, within the length of its
    input; and it reads every input within its length. -/
theorem extractHevcRbsp_insertEmulation :
    (∀ r : List UInt8, (extractHevcRbsp (insertEmulation r)).writes = r.zipIdx ∧
      ∀ w ∈ (extractHevcRbsp (insertEmulation r)).writes, w.2 < (insertEmulation r).length) ∧
    ∀ src : List UInt8, ∀ index ∈ (extractHevcRbsp src).reads, index < src.length := by
  refine ⟨fun r => ?_, fun src => (RbspCopy.inRange_extract src).reads⟩
  obtain ⟨hwrites, -⟩ := RbspCopy.extract_spec (insertEmulation r)
  rw [removeEmulation_insertEmulation] at hwrites
  refine ⟨hwrites, fun w hw => ?_⟩
  rw [hwrites] at hw
  have hindex := List.snd_lt_of_mem_zipIdx hw
  exact Nat.lt_of_lt_of_le hindex (length_le_length_insertEmulation r)

end BcmPlatform.Hevc
