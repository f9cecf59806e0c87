import Mathlib.Data.List.Basic

/-! Programs that walk over bytes and never go back. They log what they do, and may stop before their end. -/

namespace BcmPlatform.Lib

/-- What a program logs from the bytes behind its cursor on, and what it returns with the bytes that are left, unless it
    stops. -/
structure Walk (ε α : Type) where
  run : List UInt8 → List ε × Option (α × List UInt8)
  length_le : ∀ {l log a l'}, run l = (log, some (a, l')) → l'.length ≤ l.length

namespace Walk
variable {ε α β σ ρ : Type}

theorem ext_run {p q : Walk ε α} (h : ∀ l, p.run l = q.run l) : p = q := by
  obtain ⟨p, hp⟩ := p
  obtain ⟨q, hq⟩ := q
  obtain rfl : p = q := funext h
  rfl

/-- The run of two programs one after the other. -/
def bindRun (p : Walk ε α) (f : α → Walk ε β) (l : List UInt8) : List ε × Option (β × List UInt8) :=
  match p.run l with
  | (log, none) => (log, none)
  | (log, some (a, l')) => (log ++ ((f a).run l').1, ((f a).run l').2)

theorem bindRun_of_some {p : Walk ε α} {f : α → Walk ε β} {l l' : List UInt8} {log : List ε} {a : α}
    (h : p.run l = (log, some (a, l'))) : bindRun p f l = (log ++ ((f a).run l').1, ((f a).run l').2) := by
  rw [bindRun, h]

theorem bindRun_of_none {p : Walk ε α} {f : α → Walk ε β} {l : List UInt8} {log : List ε} (h : p.run l = (log, none)) :
    bindRun p f l = (log, none) := by
  rw [bindRun, h]

instance : Monad (Walk ε) where
  pure a := ⟨fun l => ([], some (a, l)), fun h => by cases h; exact Nat.le_refl _⟩
  bind p f := ⟨bindRun p f, fun {l log b l''} h => by
    cases hp : p.run l with
    | mk log' result =>
      cases result with
      | none =>
        rw [bindRun_of_none hp] at h
        cases h
      | some q =>
        obtain ⟨a, l'⟩ := q
        rw [bindRun_of_some hp] at h
        exact Nat.le_trans ((f a).length_le (Prod.ext rfl (Prod.mk.inj h).2)) (p.length_le hp)⟩

@[simp] theorem run_pure (a : α) (l : List UInt8) : (Pure.pure a : Walk ε α).run l = ([], some (a, l)) := rfl

theorem run_bind (p : Walk ε α) (f : α → Walk ε β) (l : List UInt8) : (p >>= f).run l = bindRun p f l := rfl

/-- An entry of the log. -/
def event (e : ε) : Walk ε Unit := ⟨fun l => ([e], some ((), l)), fun h => by cases h; exact Nat.le_refl _⟩

/-- The program stops. -/
def stop : Walk ε α := ⟨fun _ => ([], none), fun h => by cases h⟩

/-- What is read at the cursor, which is moved behind it. -/
structure Reader (α : Type) where
  read : List UInt8 → α × List UInt8
  length_le : ∀ l, (read l).2.length ≤ l.length

def get (r : Reader α) : Walk ε α :=
  ⟨fun l => ([], some (r.read l)), fun {l log a l'} h => by
    obtain ⟨-, h⟩ := Prod.mk.inj h
    obtain rfl : (r.read l).2 = l' := congrArg Prod.snd (Option.some.inj h)
    exact r.length_le l⟩

/-- The bytes behind the cursor, which is not moved. -/
def peek : Walk ε (List UInt8) := ⟨fun l => ([], some (l, l)), fun h => by cases h; exact Nat.le_refl _⟩

/-- Bytes are skipped, or all that are left. -/
def skip (n : Nat) : Walk ε Unit :=
  ⟨fun l => ([], some ((), l.drop n)), fun h => by cases h; rw [List.length_drop]; exact Nat.sub_le _ _⟩

theorem run_get_bind (r : Reader α) (f : α → Walk ε β) (l : List UInt8) :
    (get r >>= f).run l = (f (r.read l).1).run (r.read l).2 := rfl

theorem run_peek_bind (f : List UInt8 → Walk ε β) (l : List UInt8) : (peek >>= f).run l = (f l).run l := rfl

theorem run_skip_bind (n : Nat) (f : Unit → Walk ε β) (l : List UInt8) : (skip n >>= f).run l = (f ()).run (l.drop n) := rfl

theorem run_event_bind (e : ε) (f : Unit → Walk ε β) (l : List UInt8) :
    (event e >>= f).run l = (e :: ((f ()).run l).1, ((f ()).run l).2) := rfl

theorem run_pure_bind (a : α) (f : α → Walk ε β) (l : List UInt8) : (Pure.pure a >>= f).run l = (f a).run l := rfl

theorem bind_assoc {γ : Type} (p : Walk ε α) (f : α → Walk ε β) (g : β → Walk ε γ) :
    p >>= f >>= g = p >>= fun a => f a >>= g := by
  refine ext_run fun l => ?_
  simp only [run_bind]
  cases hp : p.run l with
  | mk log result =>
    cases result with
    | none =>
      have hpf : (p >>= f).run l = (log, none) := bindRun_of_none hp
      rw [bindRun_of_none hpf, bindRun_of_none hp]
    | some q =>
      obtain ⟨a, l'⟩ := q
      rw [bindRun_of_some hp, run_bind]
      cases hf : (f a).run l' with
      | mk log' result' =>
        have hpf : (p >>= f).run l = (log ++ log', result') := by rw [run_bind, bindRun_of_some hp, hf]
        cases result' with
        | none => rw [bindRun_of_none hpf, bindRun_of_none hf]
        | some q' =>
          obtain ⟨b, l''⟩ := q'
          rw [bindRun_of_some hpf, bindRun_of_some hf, List.append_assoc]

theorem log_map (p : Walk ε α) (g : α → β) (l : List UInt8) : ((p >>= fun a => Pure.pure (g a)).run l).1 = (p.run l).1 := by
  rw [run_bind]
  cases hp : p.run l with
  | mk log result =>
    cases result with
    | none => rw [bindRun_of_none hp]
    | some q => rw [bindRun_of_some hp, run_pure, List.append_nil]

/-! ### Loops over headers -/

/-- A reader of headers: what there is a header has bytes. -/
structure HeaderReader (α : Type) extends Reader (Option α) where
  length_lt : ∀ {l a}, (read l).1 = some a → (read l).2.length < l.length

section Scan
variable (r : HeaderReader β) (cond : σ → Bool) (body : σ → β → Walk ε (σ ⊕ ρ))

/-- The run of a loop that reads a header in each iteration, with a bound on the iterations. -/
def scanRun : Nat → σ → List UInt8 → List ε × Option ((σ ⊕ ρ) × List UInt8)
  | 0, s, l => ([], some (.inl s, l))
  | fuel + 1, s, l =>
    if cond s then
      match r.read l with
      | (none, l') => ([], some (.inl s, l'))
      | (some b, l') =>
        match (body s b).run l' with
        | (log, none) => (log, none)
        | (log, some (.inr x, l'')) => (log, some (.inr x, l''))
        | (log, some (.inl s', l'')) => (log ++ (scanRun fuel s' l'').1, (scanRun fuel s' l'').2)
    else ([], some (.inl s, l))

theorem scanRun_length_le (fuel : Nat) : ∀ {s : σ} {l l' : List UInt8} {log : List ε} {x : σ ⊕ ρ},
    scanRun r cond body fuel s l = (log, some (x, l')) → l'.length ≤ l.length := by
  induction fuel with
  | zero =>
    intro s l l' log x h
    cases h
    exact Nat.le_refl _
  | succ fuel ih =>
    intro s l l' log x h
    rw [scanRun] at h
    split_ifs at h
    · have hread := r.length_le l
      cases hnext : r.read l with
      | mk head l₁ =>
        rw [hnext] at h hread
        cases head with
        | none =>
          cases h
          exact hread
        | some b =>
          simp only [] at h hread
          cases hbody : (body s b).run l₁ with
          | mk log₁ result =>
            rw [hbody] at h
            cases result with
            | none => cases h
            | some q =>
              obtain ⟨y, l₂⟩ := q
              have hle := (body s b).length_le hbody
              cases y with
              | inr z =>
                cases h
                exact Nat.le_trans hle hread
              | inl s' =>
                simp only [Prod.mk.injEq] at h
                have hrest := ih (Prod.ext rfl h.2)
                omega
    · cases h
      exact Nat.le_refl _

/-- A loop: while a condition holds and there is a header, its body goes on with a new state or ends the loop. As every header
    has bytes, there are no more iterations than bytes. -/
def scan (s : σ) : Walk ε (σ ⊕ ρ) := ⟨fun l => scanRun r cond body l.length s l, scanRun_length_le r cond body _⟩

theorem scanRun_eq (n : Nat) : ∀ (m : Nat) {s : σ} {l : List UInt8}, l.length ≤ n → l.length ≤ m →
    scanRun r cond body n s l = scanRun r cond body m s l := by
  have hzero (m : Nat) (s : σ) : scanRun r cond body m s [] = scanRun r cond body 0 s [] := by
    cases m with
    | zero => rfl
    | succ m =>
      rw [scanRun, scanRun]
      split_ifs
      · have hread := r.length_le []
        cases hnext : r.read [] with
        | mk head l' =>
          cases head with
          | none =>
            rw [hnext] at hread
            obtain rfl : l' = [] := List.length_eq_zero_iff.mp (Nat.le_zero.mp hread)
            rfl
          | some b => exact absurd (r.length_lt (by rw [hnext])) (Nat.not_lt_zero _)
      · rfl
  induction n with
  | zero =>
    intro m s l hn _
    rw [List.length_eq_zero_iff.mp (Nat.le_zero.mp hn), hzero m]
  | succ n ih =>
    intro m s l hn hm
    cases m with
    | zero => rw [List.length_eq_zero_iff.mp (Nat.le_zero.mp hm), hzero (n + 1)]
    | succ m =>
      rw [scanRun, scanRun]
      split_ifs
      · cases hnext : r.read l with
        | mk head l' =>
          cases head with
          | none => rfl
          | some b =>
            have hlt : l'.length < l.length := by
              have := r.length_lt (l := l) (a := b) (by rw [hnext])
              rwa [hnext] at this
            simp only []
            cases hbody : (body s b).run l' with
            | mk log result =>
              cases result with
              | none => rfl
              | some q =>
                obtain ⟨y, l''⟩ := q
                have hle := (body s b).length_le hbody
                cases y with
                | inr x => rfl
                | inl s' =>
                  simp only []
                  rw [ih m (by omega) (by omega)]
      · rfl

/-- How a loop goes on behind an iteration. -/
def scanNext : σ ⊕ ρ → Walk ε (σ ⊕ ρ)
  | .inl s => scan r cond body s
  | .inr x => Pure.pure (.inr x)

theorem scan_eq (s : σ) : scan r cond body s =
    if cond s then do
      match ← get r.toReader with
      | none => return .inl s
      | some b => body s b >>= scanNext r cond body
    else return .inl s := by
  refine ext_run fun l => ?_
  change scanRun r cond body l.length s l = _
  rw [scanRun_eq r cond body l.length (l.length + 1) (Nat.le_refl _) (Nat.le_succ _), scanRun]
  split_ifs
  · rw [run_bind]
    have hget : (get r.toReader : Walk ε (Option β)).run l = ([], some (r.read l)) := rfl
    cases hnext : r.read l with
    | mk head l' =>
      rw [hnext] at hget
      rw [bindRun_of_some hget]
      cases head with
      | none => rfl
      | some b =>
        have hlt : l'.length < l.length := by
          have := r.length_lt (l := l) (a := b) (by rw [hnext])
          rwa [hnext] at this
        simp only [List.nil_append, run_bind]
        cases hbody : (body s b).run l' with
        | mk log result =>
          cases result with
          | none =>
            rw [bindRun_of_none hbody]
          | some q =>
            obtain ⟨y, l''⟩ := q
            rw [bindRun_of_some hbody]
            have hle := (body s b).length_le hbody
            cases y with
            | inr x =>
              simp only [scanNext, run_pure, List.append_nil]
            | inl s' =>
              simp only [scanNext]
              rw [scanRun_eq r cond body l.length l''.length (by omega) (Nat.le_refl _)]
              rfl
  · rfl

end Scan

/-! ### What all logs of a program have in common -/

/-- A property of logs that holds of a log put together where it holds of the parts. -/
structure Composes (P : List ε → Prop) : Prop where
  nil : P []
  append : ∀ {log log'}, P log → P log' → P (log ++ log')

/-- Every log of a program has a property. -/
def Logs (P : List ε → Prop) (p : Walk ε α) : Prop := ∀ l, P (p.run l).1

section Logs
variable {P : List ε → Prop} (hP : Composes P)
include hP

theorem logs_pure (a : α) : Logs P (Pure.pure a : Walk ε α) := fun _ => hP.nil

theorem logs_get (r : Reader α) : Logs P (get r : Walk ε α) := fun _ => hP.nil

theorem logs_peek : Logs P (peek : Walk ε (List UInt8)) := fun _ => hP.nil

theorem logs_skip (n : Nat) : Logs P (skip n : Walk ε Unit) := fun _ => hP.nil

theorem logs_bind {p : Walk ε α} {f : α → Walk ε β} (hp : Logs P p) (hf : ∀ a, Logs P (f a)) : Logs P (p >>= f) := by
  intro l
  have hlog := hp l
  rw [run_bind]
  cases hrun : p.run l with
  | mk log result =>
    rw [hrun] at hlog
    cases result with
    | none =>
      rw [bindRun_of_none hrun]
      exact hlog
    | some q =>
      obtain ⟨a, l'⟩ := q
      rw [bindRun_of_some hrun]
      exact hP.append hlog (hf a l')

theorem logs_scan {r : HeaderReader β} {cond : σ → Bool} {body : σ → β → Walk ε (σ ⊕ ρ)} (hbody : ∀ s b, Logs P (body s b))
    (s : σ) : Logs P (scan r cond body s) := by
  have hfuel (fuel : Nat) : ∀ s l, P (scanRun r cond body fuel s l).1 := by
    induction fuel with
    | zero => exact fun _ _ => hP.nil
    | succ fuel ih =>
      intro s l
      rw [scanRun]
      split_ifs
      · cases r.read l with
        | mk head l' =>
          cases head with
          | none => exact hP.nil
          | some b =>
            have hlog := hbody s b l'
            simp only []
            cases hrun : (body s b).run l' with
            | mk log result =>
              rw [hrun] at hlog
              cases result with
              | none => exact hlog
              | some q =>
                obtain ⟨y, l''⟩ := q
                cases y with
                | inr x => exact hlog
                | inl s' => exact hP.append hlog (ih s' l'')
      · exact hP.nil
  exact fun l => hfuel l.length s l

end Logs

/-! ### Runs -/

/-- From some bytes on a program logs something, and returns a value with other bytes left. -/
def Runs (p : Walk ε α) (l : List UInt8) (log : List ε) (a : α) (l' : List UInt8) : Prop := p.run l = (log, some (a, l'))

theorem Runs.bind {p : Walk ε α} {f : α → Walk ε β} {l l' l'' : List UInt8} {log log' : List ε} {a : α} {b : β}
    (hp : Runs p l log a l') (hf : Runs (f a) l' log' b l'') : Runs (p >>= f) l (log ++ log') b l'' := by
  rw [Runs, run_bind, bindRun_of_some hp, hf]

theorem runs_pure (a : α) (l : List UInt8) : Runs (Pure.pure a : Walk ε α) l [] a l := rfl

theorem pure_bind_eq (a : α) (f : α → Walk ε β) : (Pure.pure a >>= f) = f a := ext_run fun _ => rfl

/-! ### Bytes that are covered -/

/-- In front of a tail a program goes over bytes, and returns a value, with a log that has a property. -/
def Covers (P : List ε → Prop) (p : Walk ε α) (l : List UInt8) (a : α) (tail : List UInt8) : Prop :=
  ∃ log, P log ∧ Runs p (l ++ tail) log a tail

section Covers
variable {P : List ε → Prop} (hP : Composes P) {p : Walk ε α} {f : α → Walk ε β} {l l' tail : List UInt8} {a : α} {b : β}
include hP

theorem covers_pure (a : α) (tail : List UInt8) : Covers P (Pure.pure a : Walk ε α) [] a tail := ⟨[], hP.nil, runs_pure a tail⟩

theorem covers_bind (hp : Covers P p l a (l' ++ tail)) (hf : Covers P (f a) l' b tail) :
    Covers P (p >>= f) (l ++ l') b tail := by
  obtain ⟨log, hlog, hp⟩ := hp
  obtain ⟨log', hlog', hf⟩ := hf
  refine ⟨log ++ log', hP.append hlog hlog', ?_⟩
  rw [List.append_assoc]
  exact hp.bind hf

theorem covers_bind_stays (hp : Covers P p [] a (l ++ tail)) (hf : Covers P (f a) l b tail) : Covers P (p >>= f) l b tail :=
  covers_bind hP hp hf

theorem covers_bind_then (hp : Covers P p l a tail) (hf : Covers P (f a) [] b tail) : Covers P (p >>= f) l b tail := by
  have h : Covers P (p >>= f) (l ++ []) b tail := covers_bind hP hp hf
  rwa [List.append_nil] at h

theorem covers_peek (tail : List UInt8) : Covers P (peek : Walk ε (List UInt8)) [] tail tail := ⟨[], hP.nil, rfl⟩

theorem covers_get {r : Reader α} (h : r.read (l ++ tail) = (a, tail)) : Covers P (get r : Walk ε α) l a tail := by
  refine ⟨[], hP.nil, ?_⟩
  change ([], some (r.read (l ++ tail))) = _
  rw [h]

theorem covers_skip {n : Nat} (h : l.length = n) (tail : List UInt8) : Covers P (skip n : Walk ε Unit) l () tail := by
  refine ⟨[], hP.nil, ?_⟩
  change ([], some ((), (l ++ tail).drop n)) = _
  rw [List.drop_left' h]

omit hP in
theorem covers_event {e : ε} (h : P [e]) (tail : List UInt8) : Covers P (event e) [] () tail := ⟨[e], h, rfl⟩

end Covers

end Walk
end BcmPlatform.Lib
