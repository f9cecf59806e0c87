import Mathlib.Data.List.SplitBy
import Mathlib.Data.List.TakeWhile

/-! A stream cut into units: each begins at a start, and the next start ends it. What a window on the front of the stream
    shows of its units, the whole stream has. -/

namespace BcmPlatform.Lib
variable {α : Type}

/-- The maximal runs: a new one begins at each start. -/
def runs (start : α → Bool) (l : List α) : List (List α) := l.splitBy fun _ x => !start x

/-- The runs that begin with a start and that another one follows, each with the first element of the next one. -/
def closedRuns (start : α → Bool) : List (List α) → List (List α × α)
  | u :: (x :: v) :: rest => if u.head?.any start then (u, x) :: closedRuns start ((x :: v) :: rest) else []
  | _ => []

/-- The complete units of a stream, each with the start that ends it. -/
def units (start : α → Bool) (l : List α) : List (List α × α) := closedRuns start (runs start l)

variable {start : α → Bool} {a x : α} {l body rest : List α}

theorem runs_cons (hbody : ∀ y ∈ body, start y = false) (hrest : ∀ y ∈ rest.head?, start y = true) :
    runs start (a :: body ++ rest) = (a :: body) :: runs start rest := by
  have hchain : (a :: body).IsChain fun _ y => (!start y) = true := by
    refine List.Pairwise.isChain (List.pairwise_cons.mpr ⟨fun y hy => by simp [hbody y hy], ?_⟩)
    exact List.pairwise_iff_forall_sublist.mpr fun {y z} h => by simp [hbody z (h.subset (by simp))]
  rw [runs, List.splitBy_append fun _ _ y hy => by simp [hrest y hy],
    List.splitBy_of_isChain (List.cons_ne_nil a body) hchain, List.singleton_append, runs]

theorem of_mem_takeWhile (y : α) (hy : y ∈ l.takeWhile fun y => !start y) : start y = false := by
  simpa using List.mem_takeWhile_imp hy

theorem head_dropWhile (y : α) (hy : y ∈ (l.dropWhile fun y => !start y).head?) : start y = true := by
  have hhead := List.head?_dropWhile_not (fun y => !start y) l
  rw [Option.mem_def.mp hy] at hhead
  simpa using hhead

theorem runs_span (a : α) (l : List α) :
    runs start (a :: l) = (a :: l.takeWhile fun y => !start y) :: runs start (l.dropWhile fun y => !start y) := by
  rw [← runs_cons of_mem_takeWhile head_dropWhile, List.cons_append, List.takeWhile_append_dropWhile]

@[elab_as_elim]
theorem unit_induction (start : α → Bool) {motive : List α → Prop} (nil : motive [])
    (unstarted : ∀ a l, start a = false → motive (a :: l))
    (incomplete : ∀ a body, start a = true → (∀ y ∈ body, start y = false) → motive (a :: body))
    (unit : ∀ a body x rest, start a = true → (∀ y ∈ body, start y = false) → start x = true → motive (x :: rest) →
      motive (a :: body ++ x :: rest)) : ∀ l, motive l
  | [] => nil
  | a :: l => by
    by_cases ha : start a = true
    · have hsplit := List.takeWhile_append_dropWhile (p := fun y => !start y) (l := l)
      cases hdrop : l.dropWhile fun y => !start y with
      | nil =>
        rw [hdrop, List.append_nil] at hsplit
        have hincomplete := incomplete a _ ha (of_mem_takeWhile (l := l))
        rwa [hsplit] at hincomplete
      | cons x rest =>
        have hx : start x = true := head_dropWhile (l := l) x (by rw [hdrop]; rfl)
        have hlt : rest.length < l.length := by
          have hsuffix : (l.dropWhile fun y => !start y).length ≤ l.length := (List.dropWhile_suffix _).length_le
          rwa [hdrop] at hsuffix
        have hunit := unit a _ x rest ha (of_mem_takeWhile (l := l)) hx
          (unit_induction start nil unstarted incomplete unit (x :: rest))
        rwa [List.cons_append, ← hdrop, hsplit] at hunit
    · exact unstarted a l (by simpa using ha)
termination_by l => l.length

theorem units_nil : units start ([] : List α) = [] := rfl

theorem units_unstarted (ha : start a = false) : units start (a :: l) = [] := by
  rw [units, runs_span]
  cases runs start (l.dropWhile fun y => !start y) with
  | nil => rfl
  | cons v more =>
    cases v with
    | nil => rfl
    | cons x v => simp [closedRuns, ha]

theorem units_incomplete (hbody : ∀ y ∈ body, start y = false) : units start (a :: body) = [] := by
  have hruns : runs start (a :: body ++ []) = _ := runs_cons hbody fun _ hy => absurd hy (Option.not_mem_none _)
  rw [List.append_nil] at hruns
  rw [units, hruns]
  rfl

theorem units_cons (rest : List α) (ha : start a = true) (hbody : ∀ y ∈ body, start y = false) (hx : start x = true) :
    units start (a :: body ++ x :: rest) = (a :: body, x) :: units start (x :: rest) := by
  have hnext : ∀ y ∈ (x :: rest).head?, start y = true := fun y hy => by
    cases hy
    exact hx
  rw [units, runs_cons hbody hnext, units, runs_span x rest, closedRuns, List.head?_cons, Option.any_some, if_pos ha]

/-! ### Windows -/

theorem units_prefix (start : α → Bool) (l m : List α) : units start l <+: units start (l ++ m) := by
  induction l using unit_induction start with
  | nil => exact List.nil_prefix
  | unstarted a l ha =>
    rw [units_unstarted ha]
    exact List.nil_prefix
  | incomplete a body ha hbody =>
    rw [units_incomplete hbody]
    exact List.nil_prefix
  | unit a body x rest ha hbody hx ih =>
    have hwhole := units_cons (rest ++ m) ha hbody hx
    rw [← List.cons_append, ← List.append_assoc] at hwhole
    rw [units_cons rest ha hbody hx, hwhole]
    exact (List.prefix_cons_inj _).mpr ih

/-- What is left of the stream behind the first units has the other ones, and begins with the start that ends the last
    of them. -/
theorem units_split : ∀ (taken : List (List α × α)) {l : List α} {left : List (List α × α)},
    units start l = taken ++ left → ∃ l', l = taken.flatMap Prod.fst ++ l' ∧ units start l' = left ∧
      ∀ p ∈ taken.getLast?, l'.head? = some p.2
  | [], l, left, h => ⟨l, rfl, h, fun _ hp => by cases hp⟩
  | p :: taken, l, left, h => by
    cases l using unit_induction start with
    | nil => cases h
    | unstarted a l ha =>
      rw [units_unstarted ha] at h
      cases h
    | incomplete a body ha hbody =>
      rw [units_incomplete hbody] at h
      cases h
    | unit a body x rest ha hbody hx =>
      rw [units_cons rest ha hbody hx, List.cons_append] at h
      obtain ⟨rfl, hrest⟩ := List.cons.inj h
      obtain ⟨l', hl', hleft, hlast⟩ := units_split taken hrest
      refine ⟨l', ?_, hleft, fun p hp => ?_⟩
      · rw [List.flatMap_cons, List.append_assoc, ← hl']
      · cases taken with
        | nil =>
          cases hp
          rw [List.flatMap_nil, List.nil_append] at hl'
          rw [← hl']
          rfl
        | cons q taken => exact hlast p hp

/-! ### What lies between the starts -/

theorem mem_of_mem_units {p : List α × α} (hp : p ∈ units start (a :: l)) : p.2 ∈ l := by
  suffices h : ∀ m : List α, ∀ p ∈ units start m, p.2 ∈ m.tail from h _ p hp
  intro m
  induction m using unit_induction start with
  | nil => exact fun p hp => by cases hp
  | unstarted a l ha =>
    rw [units_unstarted ha]
    exact fun p hp => by cases hp
  | incomplete a body ha hbody =>
    rw [units_incomplete hbody]
    exact fun p hp => by cases hp
  | unit a body x rest ha hbody hx ih =>
    rw [units_cons rest ha hbody hx]
    intro p hp
    rcases List.mem_cons.mp hp with rfl | hp
    · simp
    · have htail := ih p hp
      simp only [List.cons_append, List.tail_cons, List.mem_append, List.mem_cons] at htail ⊢
      exact .inr (.inr htail)

theorem units_starts (start : α → Bool) {R : α → α → Prop} (h : l.Pairwise R) : ∀ p ∈ units start l,
    ∃ a body, p.1 = a :: body ∧ start a = true ∧ start p.2 = true ∧ R a p.2 := by
  induction l using unit_induction start with
  | nil => exact fun p hp => by cases hp
  | unstarted a l ha =>
    rw [units_unstarted ha]
    exact fun p hp => by cases hp
  | incomplete a body ha hbody =>
    rw [units_incomplete hbody]
    exact fun p hp => by cases hp
  | unit a body x rest ha hbody hx ih =>
    rw [units_cons rest ha hbody hx]
    intro p hp
    rcases List.mem_cons.mp hp with rfl | hp
    · exact ⟨a, body, rfl, ha, hx, (List.pairwise_append.mp h).2.2 a List.mem_cons_self x List.mem_cons_self⟩
    · exact ih (List.pairwise_append.mp h).2.1 p hp

theorem units_pairwise (start : α → Bool) {R : α → α → Prop} (h : l.Pairwise R) : (units start l).Pairwise fun p q => R p.2 q.2 := by
  induction l using unit_induction start with
  | nil => exact .nil
  | unstarted a l ha =>
    rw [units_unstarted ha]
    exact .nil
  | incomplete a body ha hbody =>
    rw [units_incomplete hbody]
    exact .nil
  | unit a body x rest ha hbody hx ih =>
    have hrest := (List.pairwise_append.mp h).2.1
    rw [units_cons rest ha hbody hx]
    refine List.pairwise_cons.mpr ⟨fun q hq => ?_, ih hrest⟩
    exact (List.pairwise_cons.mp hrest).1 q.2 (mem_of_mem_units hq)

end BcmPlatform.Lib
