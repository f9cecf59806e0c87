import Mathlib

/-! Vectors of values that are sorted by their keys, without a key that is there twice. -/

namespace BcmPlatform.Lib

structure KeyedVector (κ α : Type) [LT κ] where
  items : List (κ × α)
  sorted : items.Pairwise fun p q => p.1 < q.1

/-- An item in its place among others, instead of the one that has its key. -/
def addItem {κ α : Type} [LinearOrder κ] (k : κ) (a : α) : List (κ × α) → List (κ × α)
  | [] => [(k, a)]
  | (k', a') :: items =>
    if k < k' then (k, a) :: (k', a') :: items
    else if k = k' then (k, a) :: items
    else (k', a') :: addItem k a items

/-- The values are changed in their order, with a state that goes from one to the next. -/
def mapAccumItems {κ α σ : Type} (f : σ → α → Option (α × σ)) : σ → List (κ × α) → Option (List (κ × α) × σ)
  | s, [] => some ([], s)
  | s, (k, a) :: items =>
    (f s a).bind fun r => (mapAccumItems f r.2 items).map fun rest => ((k, r.1) :: rest.1, rest.2)

theorem mapAccumItems_keys {κ α σ : Type} {items : List (κ × α)} {f : σ → α → Option (α × σ)} {s s' : σ} {items' : List (κ × α)}
    (h : mapAccumItems f s items = some (items', s')) : items'.map (·.1) = items.map (·.1) := by
  induction items generalizing s items' with
  | nil => cases h; rfl
  | cons p items ih =>
    obtain ⟨r, -, h⟩ := Option.bind_eq_some_iff.mp h
    obtain ⟨rest, hrest, heq⟩ := Option.map_eq_some_iff.mp h
    cases heq
    rw [List.map_cons, List.map_cons, ih hrest]

section Items
variable {κ α : Type} [LinearOrder κ] {k k' : κ} {a : α} {items : List (κ × α)}

theorem mem_addItem {p : κ × α} (h : p ∈ addItem k a items) : p = (k, a) ∨ p ∈ items := by
  fun_induction addItem k a items with
  | case1 => exact .inl (List.mem_singleton.mp h)
  | case2 => exact List.mem_cons.mp h
  | case3 => exact (List.mem_cons.mp h).imp id (List.mem_cons_of_mem _)
  | case4 k' a' items _ _ ih =>
    rcases List.mem_cons.mp h with rfl | h
    · exact .inr List.mem_cons_self
    · exact (ih h).imp id (List.mem_cons_of_mem _)

theorem addItem_sorted (h : items.Pairwise fun p q => p.1 < q.1) : (addItem k a items).Pairwise fun p q => p.1 < q.1 := by
  fun_induction addItem k a items with
  | case1 => exact List.pairwise_singleton _ _
  | case2 k' a' items hlt =>
    refine h.cons fun p hp => ?_
    rcases List.mem_cons.mp hp with rfl | hp
    · exact hlt
    · exact lt_trans hlt (List.rel_of_pairwise_cons h hp)
  | case3 a' items hlt => exact h.of_cons.cons fun p hp => List.rel_of_pairwise_cons h hp
  | case4 k' a' items hlt hne ih =>
    refine (ih h.of_cons).cons fun p hp => ?_
    rcases mem_addItem hp with rfl | hp
    · exact lt_of_le_of_ne (not_lt.mp hlt) (Ne.symm hne)
    · exact List.rel_of_pairwise_cons h hp

theorem addItem_of_find? (h : items.Pairwise fun p q => p.1 < q.1) (ha : (items.find? fun p => p.1 = k).map (·.2) = some a) :
    addItem k a items = items := by
  fun_induction addItem k a items with
  | case1 => cases ha
  | case2 k' a' items hlt =>
    obtain ⟨p, hp, -⟩ := Option.map_eq_some_iff.mp ha
    have hkey : p.1 = k := by simpa using List.find?_some hp
    rcases List.mem_cons.mp (List.mem_of_find?_eq_some hp) with rfl | hmem
    · exact absurd hkey (ne_of_gt hlt)
    · exact absurd hkey (ne_of_gt (lt_trans hlt (List.rel_of_pairwise_cons h hmem)))
  | case3 a' items =>
    rw [List.find?_cons_of_pos (by simp)] at ha
    cases ha
    rfl
  | case4 k' a' items _ hne ih =>
    rw [List.find?_cons_of_neg (by simpa using Ne.symm hne)] at ha
    rw [ih h.of_cons ha]

theorem map_addItem {β : Type} (f : α → β) :
    addItem k (f a) (items.map fun p => (p.1, f p.2)) = (addItem k a items).map fun p => (p.1, f p.2) := by
  induction items with
  | nil => rfl
  | cons p items ih =>
    rw [List.map_cons, addItem, addItem, ih]
    split
    · rfl
    · split <;> rfl

end Items

namespace KeyedVector
variable {κ α σ : Type} [LinearOrder κ] (m : KeyedVector κ α) {k k' : κ} {a : α}

def empty : KeyedVector κ α := ⟨[], .nil⟩

def size : Nat := m.items.length

def keys : List κ := m.items.map (·.1)

def values : List α := m.items.map (·.2)

/-- The value of a key. -/
def get? (k : κ) : Option α := (m.items.find? fun p => p.1 = k).map (·.2)

def add (k : κ) (a : α) : KeyedVector κ α := ⟨addItem k a m.items, addItem_sorted m.sorted⟩

def removeItem (k : κ) : KeyedVector κ α := ⟨m.items.filter fun p => p.1 ≠ k, m.sorted.filter _⟩

/-- `mapAccumItems`, for a vector. -/
def mapAccum (f : σ → α → Option (α × σ)) (s : σ) : Option (KeyedVector κ α × σ) :=
  match h : mapAccumItems f s m.items with
  | none => none
  | some (items, s) =>
    some (⟨items, List.pairwise_map.mp (mapAccumItems_keys h ▸ List.pairwise_map.mpr m.sorted)⟩, s)

/-- The values are changed. -/
def map {β : Type} (f : α → β) : KeyedVector κ β :=
  ⟨m.items.map fun p => (p.1, f p.2), List.pairwise_map.mpr m.sorted⟩

theorem ext_items {m m' : KeyedVector κ α} (h : m.items = m'.items) : m = m' := by
  cases m
  cases m'
  cases h
  rfl

@[simp] theorem get?_empty : (empty : KeyedVector κ α).get? k = none := rfl

theorem get?_add_self : (m.add k a).get? k = some a := by
  unfold get? add
  dsimp only
  generalize m.items = items
  fun_induction addItem k a items with
  | case1 => simp
  | case2 => simp
  | case3 => simp
  | case4 k' a' items _ hne ih => rwa [List.find?_cons_of_neg (by simpa using Ne.symm hne)]

theorem get?_add_of_ne (h : k' ≠ k) : (m.add k a).get? k' = m.get? k' := by
  unfold get? add
  dsimp only
  generalize m.items = items
  fun_induction addItem k a items with
  | case1 => simp [Ne.symm h]
  | case2 => rw [List.find?_cons_of_neg (by simpa using Ne.symm h)]
  | case3 => rw [List.find?_cons_of_neg (by simpa using Ne.symm h), List.find?_cons_of_neg (by simpa using Ne.symm h)]
  | case4 k'' a' items _ hne ih =>
    by_cases hkey : k'' = k'
    · rw [List.find?_cons_of_pos (by simpa using hkey), List.find?_cons_of_pos (by simpa using hkey)]
    · rw [List.find?_cons_of_neg (by simpa using hkey), List.find?_cons_of_neg (by simpa using hkey), ih]

theorem get?_add (k k' : κ) (a : α) : (m.add k a).get? k' = if k' = k then some a else m.get? k' := by
  split
  · next h => rw [h, get?_add_self]
  · next h => exact m.get?_add_of_ne h

theorem add_of_get? (h : m.get? k = some a) : m.add k a = m := ext_items (addItem_of_find? m.sorted h)

theorem get?_removeItem_of_ne (h : k' ≠ k) : (m.removeItem k).get? k' = m.get? k' := by
  unfold get? removeItem
  rw [List.find?_filter]
  refine congrArg (fun test => Option.map _ (List.find? test m.items)) (funext fun p => ?_)
  by_cases hkey : p.1 = k'
  · simp [hkey, h]
  · simp [hkey]

theorem get?_map {β : Type} (f : α → β) (k : κ) : (m.map f).get? k = (m.get? k).map f := by
  unfold get? map
  rw [List.find?_map, Option.map_map, Option.map_map]
  rfl

theorem map_add {β : Type} (f : α → β) (k : κ) (a : α) : (m.add k a).map f = (m.map f).add k (f a) :=
  ext_items (map_addItem f).symm

theorem keys_nodup : m.keys.Nodup := (List.pairwise_map.mpr m.sorted).imp ne_of_lt

theorem mem_items (p : κ × α) : p ∈ m.items ↔ m.get? p.1 = some p.2 := by
  unfold get?
  constructor
  · intro hp
    cases hfind : m.items.find? fun q => q.1 = p.1 with
    | none => exact absurd (decide_eq_true rfl) (List.find?_eq_none.mp hfind p hp)
    | some q =>
      have hkey : q.1 = p.1 := of_decide_eq_true (List.find?_some hfind :)
      obtain rfl := List.inj_on_of_nodup_map m.keys_nodup (List.mem_of_find?_eq_some hfind) hp hkey
      rfl
  · intro hp
    obtain ⟨q, hfind, hq⟩ := Option.map_eq_some_iff.mp hp
    have hkey : q.1 = p.1 := of_decide_eq_true (List.find?_some hfind :)
    obtain rfl : q = p := Prod.ext hkey hq
    exact List.mem_of_find?_eq_some hfind

theorem ext_get? {m m' : KeyedVector κ α} (h : ∀ k, m.get? k = m'.get? k) : m = m' := by
  have hperm : m.items.Perm m'.items :=
    (List.perm_ext_iff_of_nodup (.of_map _ m.keys_nodup) (.of_map _ m'.keys_nodup)).mpr fun p => by rw [mem_items, mem_items, h]
  exact ext_items (hperm.eq_of_pairwise (fun _ _ _ _ hlt hgt => absurd hgt (lt_asymm hlt)) m.sorted m'.sorted)

theorem zip_iff {β : Type} {m m' : KeyedVector κ α} (f : α → β) :
    (m.size = m'.size ∧ ∀ p ∈ m.items.zip m'.items, p.1.1 = p.2.1 ∧ f p.1.2 = f p.2.2) ↔
      ∀ k, (m.get? k).map f = (m'.get? k).map f := by
  have hlists : ∀ l l' : List (κ × α), (l.length = l'.length ∧ ∀ p ∈ l.zip l', p.1.1 = p.2.1 ∧ f p.1.2 = f p.2.2) ↔
      (l.map fun p => (p.1, f p.2)) = l'.map fun p => (p.1, f p.2) := by
    intro l
    induction l with
    | nil =>
      intro l'
      cases l' <;> simp
    | cons p l ih =>
      intro l'
      cases l' with
      | nil => simp
      | cons p' l' =>
        rw [List.map_cons, List.map_cons, List.cons.injEq, ← ih l', Prod.mk.injEq]
        simp only [List.length_cons, Nat.succ.injEq, List.zip_cons_cons, List.forall_mem_cons]
        exact and_left_comm
  rw [size, size, hlists]
  constructor
  · intro hmap k
    rw [← get?_map, ← get?_map]
    exact congrArg (·.get? k) (ext_items hmap : m.map f = m'.map f)
  · intro hget
    have hmap : m.map f = m'.map f := ext_get? fun k => by rw [get?_map, get?_map, hget]
    exact congrArg items hmap

end KeyedVector

end BcmPlatform.Lib
