import BcmPlatform.Lib.Bytes
import Mathlib.Algebra.Ring.Int.Defs

/-! Bit streams that are written by a syntax table: elements with a descriptor and a value. A program reads them from a bit
    reader, which is a parameter; it is right when it reads each element where the table has it. -/

namespace BcmPlatform.Lib

/-! ### Syntax elements -/

/-- The values of an unsigned Exp-Golomb code. -/
def Ue : Type := { v : Nat // v + 1 < 2 ^ 32 }

/-- The values of a signed Exp-Golomb code. -/
def Se : Type := { v : Int // -2 ^ 31 < v ∧ v < 2 ^ 31 }

/-- The number of the code of a signed value. -/
def Se.codeNum (v : Se) : Nat := if 0 < v.val then (2 * v.val - 1).toNat else (-2 * v.val).toNat

theorem Se.codeNum_lt (v : Se) : v.codeNum + 1 < 2 ^ 32 := by
  obtain ⟨v, hlow, hhigh⟩ := v
  unfold Se.codeNum
  dsimp only
  split <;> omega

/-- An Exp-Golomb code: as many zeros as bits follow the first one. -/
def ueBits (v : Nat) : List Bool := List.replicate (v + 1).log2 false ++ toBits ((v + 1).log2 + 1) (v + 1)

inductive Descriptor where
  | u (n : Nat)
  | ue
  | se
  deriving DecidableEq, Repr

variable {ε σ α β : Type}

/-- A syntax element as it is written; a signed value by the number of its code. -/
structure Coded (ε : Type) where
  element : ε
  descriptor : Descriptor
  value : Nat

namespace Coded

def u {n : Nat} (element : ε) (v : BitVec n) : Coded ε := ⟨element, .u n, v.toNat⟩
def flag (element : ε) (b : Bool) : Coded ε := ⟨element, .u 1, b.toNat⟩
def ue (element : ε) (v : Ue) : Coded ε := ⟨element, .ue, v.val⟩
def se (element : ε) (v : Se) : Coded ε := ⟨element, .se, v.codeNum⟩

def bits (c : Coded ε) : List Bool :=
  match c.descriptor with
  | .u n => toBits n c.value
  | .ue | .se => ueBits c.value

end Coded

/-- What is there when a flag is set. -/
def optional (flag : ε) (o : Option α) (elements : α → List (Coded ε)) : List (Coded ε) :=
  .flag flag o.isSome :: o.elim [] elements

def codedBits (cs : List (Coded ε)) : List Bool := cs.flatMap Coded.bits

/-- What is read: an element with its descriptor, and how many bits are left there. -/
structure Read (ε : Type) where
  element : ε
  descriptor : Descriptor
  left : Nat
  deriving DecidableEq, Repr

/-- The reads of elements with `after` bits behind them. -/
def readsOf (after : Nat) : List (Coded ε) → List (Read ε)
  | [] => []
  | c :: cs => ⟨c.element, c.descriptor, (codedBits (c :: cs)).length + after⟩ :: readsOf after cs

@[simp] theorem codedBits_nil : codedBits ([] : List (Coded ε)) = [] := rfl

@[simp] theorem codedBits_cons (c : Coded ε) (cs : List (Coded ε)) : codedBits (c :: cs) = c.bits ++ codedBits cs := rfl

@[simp] theorem codedBits_append (cs cs' : List (Coded ε)) : codedBits (cs ++ cs') = codedBits cs ++ codedBits cs' :=
  List.flatMap_append

theorem readsOf_append (after : Nat) (cs cs' : List (Coded ε)) :
    readsOf after (cs ++ cs') = readsOf ((codedBits cs').length + after) cs ++ readsOf after cs' := by
  induction cs with
  | nil => rfl
  | cons c cs ih =>
    have hlength : (codedBits (c :: (cs ++ cs'))).length + after =
        (codedBits (c :: cs)).length + ((codedBits cs').length + after) := by
      rw [← List.cons_append, codedBits_append, List.length_append, Nat.add_assoc]
    rw [List.cons_append, readsOf, ih, hlength]
    rfl

/-! ### Readers -/

/-- The operations of a bit reader; `none` where it gives up. -/
structure BitReader (σ : Type) where
  ofBytes : List UInt8 → σ
  numBitsLeft : σ → Nat
  getBits : Nat → σ → Option (Nat × σ)
  skipBits : Nat → σ → Option σ
  parseUE : σ → Option (Nat × σ)

/-- What a program relies on: fixed lengths, the most significant bit first, and Exp-Golomb codes are read as they are
    written, where the bits are there. `rest` are the bits that were not read yet. -/
structure BitReader.Laws (r : BitReader σ) (rest : σ → List Bool) : Prop where
  ofBytes : ∀ bytes, rest (r.ofBytes bytes) = bitsOf bytes
  numBitsLeft : ∀ s, r.numBitsLeft s = (rest s).length
  getBits : ∀ s n, n ≤ 32 → n ≤ (rest s).length →
    ∃ s', r.getBits n s = some (bitsValue ((rest s).take n), s') ∧ rest s' = (rest s).drop n
  skipBits : ∀ s n, n ≤ (rest s).length → ∃ s', r.skipBits n s = some s' ∧ rest s' = (rest s).drop n
  parseUE : ∀ s v tail, v + 1 < 2 ^ 32 → rest s = ueBits v ++ tail → ∃ s', r.parseUE s = some (v, s') ∧ rest s' = tail

/-- A reader whose state are the bits that are left. -/
def listReader : BitReader (List Bool) where
  ofBytes := bitsOf
  numBitsLeft := List.length
  getBits n l := if n ≤ l.length then some (bitsValue (l.take n), l.drop n) else none
  skipBits n l := if n ≤ l.length then some (l.drop n) else none
  parseUE l :=
    let zeros := (l.takeWhile (!·)).length
    if 2 * zeros + 1 ≤ l.length then some (bitsValue ((l.drop zeros).take (zeros + 1)) - 1, l.drop (2 * zeros + 1)) else none

theorem listReader_laws : listReader.Laws id where
  ofBytes _ := rfl
  numBitsLeft _ := rfl
  getBits _ _ _ h := ⟨_, if_pos h, rfl⟩
  skipBits _ _ h := ⟨_, if_pos h, rfl⟩
  parseUE l v tail hv hl := by
    have hl : l = List.replicate (v + 1).log2 false ++ (toBits ((v + 1).log2 + 1) (v + 1) ++ tail) := by
      rw [← List.append_assoc]
      exact hl
    have hne : v + 1 ≠ 0 := Nat.succ_ne_zero v
    have hfirst : (v + 1).testBit (v + 1).log2 = true := Nat.testBit_log2 hne
    have hzeros : (l.takeWhile (!·)).length = (v + 1).log2 := by
      rw [hl, List.takeWhile_append_of_pos (by simp), toBits, hfirst]
      simp
    have hdrop : l.drop (v + 1).log2 = toBits ((v + 1).log2 + 1) (v + 1) ++ tail := by
      rw [hl, List.drop_left' List.length_replicate]
    have hvalue : bitsValue ((l.drop (v + 1).log2).take ((v + 1).log2 + 1)) = v + 1 := by
      rw [hdrop, List.take_left' (length_toBits _ _), bitsValue_toBits Nat.lt_log2_self]
    have hrest : l.drop (2 * (v + 1).log2 + 1) = tail := by
      rw [show 2 * (v + 1).log2 + 1 = (v + 1).log2 + ((v + 1).log2 + 1) by omega, ← List.drop_drop, hdrop,
        List.drop_left' (length_toBits _ _)]
    have hlength : 2 * (v + 1).log2 + 1 ≤ l.length := by
      rw [hl, List.length_append, List.length_append, List.length_replicate, length_toBits]
      omega
    refine ⟨tail, ?_, rfl⟩
    simp only [listReader, hzeros, if_pos hlength, hvalue, hrest, Nat.add_sub_cancel]

/-- A program: what it reads, and how it goes on, unless the reader gave up. -/
def Parse (ε σ α : Type) : Type := σ → List (Read ε) × Option (α × σ)

namespace Parse

instance : Monad (Parse ε σ) where
  pure a s := ([], some (a, s))
  bind p f s :=
    match p s with
    | (log, none) => (log, none)
    | (log, some (a, s)) => (log ++ (f a s).1, (f a s).2)

/-- The program gives up. -/
def fail : Parse ε σ α := fun _ => ([], none)

def getBits (r : BitReader σ) (element : ε) (n : Nat) : Parse ε σ Nat := fun s =>
  ([⟨element, .u n, r.numBitsLeft s⟩], r.getBits n s)

/-- An Exp-Golomb code. -/
def expGolomb (r : BitReader σ) (descriptor : Descriptor) (element : ε) : Parse ε σ Nat := fun s =>
  ([⟨element, descriptor, r.numBitsLeft s⟩], r.parseUE s)

def parseUE (r : BitReader σ) (element : ε) : Parse ε σ Nat := expGolomb r .ue element

/-- The reads of neighbouring elements that are skipped. -/
def skipped (left : Nat) : List (ε × Nat) → List (Read ε)
  | [] => []
  | (element, n) :: elements => ⟨element, .u n, left⟩ :: skipped (left - n) elements

/-- Neighbouring elements are skipped by one call. -/
def skipBits (r : BitReader σ) (elements : List (ε × Nat)) : Parse ε σ Unit := fun s =>
  (skipped (r.numBitsLeft s) elements, (r.skipBits (elements.map (·.2)).sum s).map ((), ·))

/-- Neighbouring codes are read, and their values are not used. -/
def skipUEs (r : BitReader σ) : List ε → Parse ε σ Unit
  | [] => pure ()
  | element :: elements => do
    let _ ← parseUE r element
    skipUEs r elements

def ifSet (flag : Bool) (p : Parse ε σ Unit) : Parse ε σ Unit := if flag then p else pure ()

/-- A flag is read, and what is there when it is set. -/
def ifFlag (r : BitReader σ) (element : ε) (p : Parse ε σ Unit) : Parse ε σ Unit := do
  let flag ← getBits r element 1
  ifSet (flag ≠ 0) p

/-- A loop over `count` indices from `i` on. -/
def loop (f : Nat → Parse ε σ Unit) : Nat → Nat → Parse ε σ Unit
  | _, 0 => pure ()
  | i, count + 1 => do
    f i
    loop f (i + 1) count

/-- The same, with what each iteration returns. -/
def collect (f : Nat → Parse ε σ α) : Nat → Nat → Parse ε σ (List α)
  | _, 0 => pure []
  | i, count + 1 => do
    let a ← f i
    let as ← collect f (i + 1) count
    return a :: as

/-! ### Rules -/

/-- Where the elements come next, the program reads them, each where it is, and returns a value. -/
def Reads (rest : σ → List Bool) (p : Parse ε σ α) (cs : List (Coded ε)) (a : α) : Prop :=
  ∀ s tail, rest s = codedBits cs ++ tail → ∃ s', p s = (readsOf tail.length cs, some (a, s')) ∧ rest s' = tail

/-- Where the elements come next, the program reads something else before it comes to their end. -/
def Strays (rest : σ → List Bool) (p : Parse ε σ α) (cs : List (Coded ε)) : Prop :=
  ∀ s tail, rest s = codedBits cs ++ tail → ∀ more, ¬ (p s).1 <+: readsOf tail.length cs ++ more

variable {r : BitReader σ} {rest : σ → List Bool} {p : Parse ε σ α} {f : α → Parse ε σ β} {cs cs' : List (Coded ε)} {a : α} {b : β}

theorem bind_of_some {log : List (Read ε)} {s s' : σ} (h : p s = (log, some (a, s'))) :
    (p >>= f) s = (log ++ (f a s').1, (f a s').2) := by
  change (match p s with
    | (log, none) => (log, none)
    | (log, some (a, s)) => (log ++ (f a s).1, (f a s).2)) = _
  rw [h]

theorem bind_assoc {γ : Type} (g : β → Parse ε σ γ) : p >>= f >>= g = p >>= fun a => f a >>= g := by
  funext s
  cases hs : p s with
  | mk log result =>
    cases result with
    | none => simp only [bind, hs]
    | some q =>
      obtain ⟨a, s₁⟩ := q
      rw [bind_of_some hs]
      change (match (p >>= f) s with
        | (log, none) => (log, none)
        | (log, some (b, s)) => (log ++ (g b s).1, (g b s).2)) = _
      rw [bind_of_some hs]
      change _ = (log ++ (match f a s₁ with
        | (log, none) => (log, none)
        | (log, some (b, s)) => (log ++ (g b s).1, (g b s).2)).1, (match f a s₁ with
        | (log, none) => (log, none)
        | (log, some (b, s)) => (log ++ (g b s).1, (g b s).2)).2)
      cases hf : f a s₁ with
      | mk log' result' =>
        cases result' with
        | none => rfl
        | some q' => exact Prod.ext (List.append_assoc _ _ _) rfl

theorem Reads.pure (a : α) : Reads rest (Pure.pure a : Parse ε σ α) [] a := fun s _ h => ⟨s, rfl, h⟩

theorem Reads.bind (hp : Reads rest p cs a) (hf : Reads rest (f a) cs' b) : Reads rest (p >>= f) (cs ++ cs') b := by
  intro s tail h
  rw [codedBits_append, List.append_assoc] at h
  obtain ⟨s₁, hs₁, hrest₁⟩ := hp s _ h
  obtain ⟨s₂, hs₂, hrest₂⟩ := hf s₁ tail hrest₁
  refine ⟨s₂, ?_, hrest₂⟩
  rw [bind_of_some hs₁, hs₂, List.length_append, readsOf_append]

theorem Reads.congr (h : Reads rest p cs a) (hcs : cs = cs') {a' : α} (ha : a = a') : Reads rest p cs' a' := by
  subst hcs ha
  exact h

theorem Reads.map (hp : Reads rest p cs a) (g : α → β) : Reads rest (p >>= fun a => Pure.pure (g a)) cs (g a) :=
  (hp.bind (Reads.pure (g a))).congr (List.append_nil cs) rfl

theorem Strays.bind (hp : Strays rest p cs) : Strays rest (p >>= f) cs := by
  intro s tail h more hprefix
  refine hp s tail h more (List.IsPrefix.trans ?_ hprefix)
  change (p s).1 <+: (match p s with
    | (log, none) => (log, none)
    | (log, some (a, s)) => (log ++ (f a s).1, (f a s).2)).1
  cases hs : p s with
  | mk log result =>
    cases result with
    | none => exact List.prefix_refl log
    | some q => exact List.prefix_append _ _

theorem Strays.append (hp : Strays rest p cs) : Strays rest p (cs ++ cs') := by
  intro s tail h more
  rw [codedBits_append, List.append_assoc] at h
  have hcs := hp s _ h (readsOf tail.length cs' ++ more)
  rwa [List.length_append, ← List.append_assoc, ← readsOf_append] at hcs

theorem Reads.strays_bind (hp : Reads rest p cs a) (hf : Strays rest (f a) cs') : Strays rest (p >>= f) (cs ++ cs') := by
  intro s tail h more hprefix
  rw [codedBits_append, List.append_assoc] at h
  obtain ⟨s₁, hs₁, hrest₁⟩ := hp s _ h
  have hlog : ((p >>= f) s).1 = readsOf ((codedBits cs').length + tail.length) cs ++ (f a s₁).1 := by
    rw [bind_of_some hs₁, List.length_append]
  rw [hlog, readsOf_append, List.append_assoc, List.prefix_append_right_inj] at hprefix
  exact hf s₁ tail hrest₁ more hprefix

/-- Where the elements come next, what the program returns is as stated, unless it gives up. -/
def Yields (rest : σ → List Bool) (p : Parse ε σ α) (cs : List (Coded ε)) (post : α → Prop) : Prop :=
  ∀ s tail, rest s = codedBits cs ++ tail → ∀ log a s', p s = (log, some (a, s')) → post a

theorem Yields.anywhere {post : α → Prop} (hp : Yields rest p [] post) : Yields rest p cs post :=
  fun s _ _ => hp s (rest s) rfl

theorem yields_pure {post : α → Prop} (h : post a) : Yields rest (Pure.pure a : Parse ε σ α) [] post := by
  rintro s tail - log a' s' ⟨⟩
  exact h

theorem exists_of_bind_some {s s₂ : σ} {log : List (Read ε)} (h : (p >>= f) s = (log, some (b, s₂))) :
    ∃ log₁ a s₁ log₂, p s = (log₁, some (a, s₁)) ∧ f a s₁ = (log₂, some (b, s₂)) := by
  cases hs : p s with
  | mk log₁ result =>
    cases result with
    | none =>
      change (match p s with
        | (log, none) => (log, none)
        | (log, some (a, s)) => (log ++ (f a s).1, (f a s).2)) = _ at h
      rw [hs] at h
      cases h
    | some q =>
      obtain ⟨a, s₁⟩ := q
      rw [bind_of_some hs] at h
      obtain ⟨-, hresult⟩ := Prod.mk.inj h
      exact ⟨log₁, a, s₁, (f a s₁).1, rfl, Prod.ext rfl hresult⟩

theorem Reads.yields_bind {post : β → Prop} (hp : Reads rest p cs a) (hf : Yields rest (f a) cs' post) :
    Yields rest (p >>= f) (cs ++ cs') post := by
  intro s tail h log b s₂ hresult
  rw [codedBits_append, List.append_assoc] at h
  obtain ⟨s₁, hs₁, hrest₁⟩ := hp s _ h
  obtain ⟨log₁, a', s₁', log₂, hs₁', hs₂⟩ := exists_of_bind_some hresult
  obtain ⟨rfl, rfl⟩ : a = a' ∧ s₁ = s₁' := by
    rw [hs₁] at hs₁'
    cases hs₁'
    exact ⟨rfl, rfl⟩
  exact hf s₁ tail hrest₁ log₂ b s₂ hs₂

theorem yields_bind {post : β → Prop} (hf : ∀ a, Yields rest (f a) [] post) : Yields rest (p >>= f) [] post := by
  intro s tail _ log b s₂ hresult
  obtain ⟨log₁, a, s₁, log₂, -, hs₂⟩ := exists_of_bind_some hresult
  exact hf a s₁ (rest s₁) rfl log₂ b s₂ hs₂

/-- The first read of a program, wherever it begins. -/
def First (p : Parse ε σ α) (element : ε) (descriptor : Descriptor) : Prop :=
  ∀ s, ∃ left log, (p s).1 = ⟨element, descriptor, left⟩ :: log

theorem First.bind {element : ε} {descriptor : Descriptor} (hfirst : First p element descriptor) :
    First (p >>= f) element descriptor := by
  intro s
  obtain ⟨left, log, hlog⟩ := hfirst s
  change ∃ left log, (match p s with
    | (log, none) => (log, none)
    | (log, some (a, s)) => (log ++ (f a s).1, (f a s).2)).1 = _
  cases hs : p s with
  | mk log' result =>
    rw [hs] at hlog
    obtain rfl : log' = _ := hlog
    cases result with
    | none => exact ⟨left, log, rfl⟩
    | some q => exact ⟨left, _, rfl⟩

theorem first_getBits (r : BitReader σ) (element : ε) (n : Nat) : First (getBits r element n) element (.u n) :=
  fun _ => ⟨_, _, rfl⟩

theorem first_expGolomb (r : BitReader σ) (descriptor : Descriptor) (element : ε) :
    First (expGolomb r descriptor element) element descriptor := fun _ => ⟨_, _, rfl⟩

theorem First.strays {c : Coded ε} {element : ε} {descriptor : Descriptor} (hfirst : First p element descriptor)
    (hne : c.element ≠ element ∨ c.descriptor ≠ descriptor) : Strays rest p (c :: cs) := by
  intro s tail _ more hprefix
  obtain ⟨left, log, hlog⟩ := hfirst s
  rw [hlog, readsOf, List.cons_append, List.cons_prefix_cons, Read.mk.injEq] at hprefix
  obtain ⟨⟨helement, hdescriptor, -⟩, -⟩ := hprefix
  exact hne.elim (· helement.symm) (· hdescriptor.symm)

theorem reads_collect {f : Nat → Parse ε σ α} {cs : Nat → List (Coded ε)} {a : Nat → α} {count : Nat} :
    ∀ i, (∀ j, i ≤ j → j < i + count → Reads rest (f j) (cs j) (a j)) →
      Reads rest (collect f i count) ((List.range' i count).flatMap cs) ((List.range' i count).map a) := by
  induction count with
  | zero => exact fun i _ => Reads.pure []
  | succ count ih =>
    intro i hf
    have hfirst := hf i (Nat.le_refl i) (by omega)
    have hmore := ih (i + 1) fun j hj hlt => hf j (by omega) (by omega)
    have hpure : Reads rest (Pure.pure (a i :: (List.range' (i + 1) count).map a) : Parse ε σ (List α)) [] _ := Reads.pure _
    rw [List.range'_succ, List.flatMap_cons, List.map_cons, ← List.append_nil ((List.range' (i + 1) count).flatMap cs)]
    exact hfirst.bind (hmore.bind hpure)

theorem reads_loop {f : Nat → Parse ε σ Unit} {cs : Nat → List (Coded ε)} {count : Nat} :
    ∀ i, (∀ j, i ≤ j → j < i + count → Reads rest (f j) (cs j) ()) →
      Reads rest (loop f i count) ((List.range' i count).flatMap cs) () := by
  induction count with
  | zero => exact fun i _ => Reads.pure ()
  | succ count ih =>
    intro i hf
    rw [List.range'_succ, List.flatMap_cons]
    exact (hf i (Nat.le_refl i) (by omega)).bind (ih (i + 1) fun j hj hlt => hf j (by omega) (by omega))

theorem strays_loop {f : Nat → Parse ε σ Unit} {cs : Nat → List (Coded ε)} {count : Nat} (ok : Nat → Prop)
    (hreads : ∀ j, ok j → Reads rest (f j) (cs j) ()) (hstrays : ∀ j, ¬ ok j → Strays rest (f j) (cs j)) :
    ∀ i, (∃ j, i ≤ j ∧ j < i + count ∧ ¬ ok j) → Strays rest (loop f i count) ((List.range' i count).flatMap cs) := by
  induction count with
  | zero =>
    rintro i ⟨j, hj, hlt, -⟩
    omega
  | succ count ih =>
    rintro i ⟨j, hj, hlt, hnot⟩
    rw [List.range'_succ, List.flatMap_cons]
    by_cases hok : ok i
    · have hne : i ≠ j := by
        rintro rfl
        exact hnot hok
      exact (hreads i hok).strays_bind (ih (i + 1) ⟨j, by omega, by omega, hnot⟩)
    · exact (hstrays i hok).bind.append

theorem reads_ifSet (flag : Bool) {p : Parse ε σ Unit} (hp : flag = true → Reads rest p cs ()) :
    Reads rest (ifSet flag p) (if flag then cs else []) () := by
  cases flag with
  | false => exact Reads.pure ()
  | true => exact hp rfl

section Laws
variable (h : r.Laws rest)
include h

theorem reads_getBits {element : ε} {n v : Nat} (hn : n ≤ 32) (hv : v < 2 ^ n) :
    Reads rest (getBits r element n) [⟨element, .u n, v⟩] v := by
  intro s tail hs
  have hbits : rest s = toBits n v ++ tail := by rw [hs, codedBits_cons, codedBits_nil, List.append_nil]; rfl
  obtain ⟨s', hs', hrest'⟩ := h.getBits s n hn (by rw [hbits, List.length_append, length_toBits]; omega)
  rw [hbits, List.take_left' (length_toBits n v), bitsValue_toBits hv] at hs'
  rw [hbits, List.drop_left' (length_toBits n v)] at hrest'
  refine ⟨s', ?_, hrest'⟩
  rw [getBits, hs', h.numBitsLeft, hs, List.length_append]
  rfl

theorem reads_u {element : ε} {n : Nat} (v : BitVec n) (hn : n ≤ 32) :
    Reads rest (getBits r element n) [.u element v] v.toNat := reads_getBits h hn v.isLt

theorem reads_flag {element : ε} (v : Bool) : Reads rest (getBits r element 1) [.flag element v] v.toNat :=
  reads_getBits h (by decide) (by cases v <;> decide)

theorem reads_expGolomb {element : ε} {descriptor : Descriptor} {v : Nat} (hv : v + 1 < 2 ^ 32)
    (hbits : (Coded.mk element descriptor v).bits = ueBits v) :
    Reads rest (expGolomb r descriptor element) [⟨element, descriptor, v⟩] v := by
  intro s tail hs
  rw [codedBits_cons, codedBits_nil, List.append_nil, hbits] at hs
  obtain ⟨s', hs', hrest'⟩ := h.parseUE s v tail hv hs
  refine ⟨s', ?_, hrest'⟩
  rw [expGolomb, hs', h.numBitsLeft, hs, List.length_append, readsOf, codedBits_cons, codedBits_nil, List.append_nil, hbits]
  rfl

theorem reads_ue {element : ε} (v : Ue) : Reads rest (parseUE r element) [.ue element v] v.val :=
  reads_expGolomb h v.property rfl

theorem reads_se {element : ε} (v : Se) : Reads rest (expGolomb r .se element) [.se element v] v.codeNum :=
  reads_expGolomb h v.codeNum_lt rfl

theorem reads_skipUEs (cs : List (ε × Ue)) :
    Reads rest (skipUEs r (cs.map (·.1))) (cs.map fun c => .ue c.1 c.2) () := by
  induction cs with
  | nil => exact Reads.pure ()
  | cons c cs ih => exact (reads_ue h c.2).bind ih

theorem strays_ifFlag {element : ε} {p : Parse ε σ Unit} {a : α} {elements : α → List (Coded ε)}
    (hp : Strays rest p (elements a)) : Strays rest (ifFlag r element p) (optional element (some a) elements) :=
  (reads_flag h true).strays_bind hp

theorem reads_ifFlag {element : ε} {p : Parse ε σ Unit} {o : Option α} {elements : α → List (Coded ε)}
    (hp : ∀ a, o = some a → Reads rest p (elements a) ()) :
    Reads rest (ifFlag r element p) (optional element o elements) () := by
  refine (reads_flag h o.isSome).bind ?_
  cases o with
  | none => exact Reads.pure ()
  | some a => exact hp a rfl

theorem reads_skipBits (cs : List (ε × (n : Nat) × BitVec n)) :
    Reads rest (skipBits r (cs.map fun c => (c.1, c.2.1))) (cs.map fun c => .u c.1 c.2.2) () := by
  intro s tail hs
  have hlength : (codedBits (cs.map fun c => Coded.u c.1 c.2.2)).length = ((cs.map fun c => (c.1, c.2.1)).map (·.2)).sum := by
    clear hs
    induction cs with
    | nil => rfl
    | cons c cs ih =>
      rw [List.map_cons, codedBits_cons, List.length_append, ih]
      exact congrArg (· + _) (length_toBits _ _)
  have hle : ((cs.map fun c => (c.1, c.2.1)).map (·.2)).sum ≤ (rest s).length := by
    rw [hs, List.length_append, hlength]
    exact Nat.le_add_right _ _
  obtain ⟨s', hs', hrest'⟩ := h.skipBits s _ hle
  rw [hs, List.drop_left' hlength] at hrest'
  refine ⟨s', ?_, hrest'⟩
  have hlog : ∀ cs : List (ε × (n : Nat) × BitVec n),
      skipped ((codedBits (cs.map fun c => Coded.u c.1 c.2.2)).length + tail.length) (cs.map fun c => (c.1, c.2.1)) =
        readsOf tail.length (cs.map fun c => .u c.1 c.2.2) := by
    intro cs
    induction cs with
    | nil => rfl
    | cons c cs ih =>
      have hleft : (codedBits ((c :: cs).map fun c => Coded.u c.1 c.2.2)).length + tail.length - c.2.1 =
          (codedBits (cs.map fun c => Coded.u c.1 c.2.2)).length + tail.length := by
        rw [List.map_cons, codedBits_cons, List.length_append]
        have : (Coded.u c.1 c.2.2).bits.length = c.2.1 := length_toBits _ _
        omega
      rw [← hleft] at ih
      rw [List.map_cons, List.map_cons, skipped, readsOf]
      exact congrArg _ ih
  rw [skipBits, h.numBitsLeft, hs, List.length_append, hlog, hs']
  rfl

end Laws
end Parse
end BcmPlatform.Lib
