import Mathlib.Data.List.Basic

/-! Fields with a separator between each two. Every text is made of exactly one list of fields without separators in them. -/

namespace BcmPlatform.Lib
variable {α : Type} {sep : α} {f g : List α} {fs gs : List (List α)} {text : List α}

def joinFields (sep : α) (fs : List (List α)) : List α := [sep].intercalate fs

@[simp] theorem joinFields_singleton (sep : α) (f : List α) : joinFields sep [f] = f := List.intercalate_singleton

@[simp] theorem joinFields_cons_cons (sep : α) (f g : List α) (fs : List (List α)) :
    joinFields sep (f :: g :: fs) = f ++ sep :: joinFields sep (g :: fs) := by
  simp [joinFields, List.intercalate_cons_cons]

/-- `fs` are the fields of `text`. -/
structure IsFields (sep : α) (text : List α) (fs : List (List α)) : Prop where
  ne_nil : fs ≠ []
  free : ∀ f ∈ fs, sep ∉ f
  join : joinFields sep fs = text

namespace IsFields

theorem mem_text (h : IsFields sep text fs) : ∀ f ∈ fs, ∀ c ∈ f, c ∈ text := by
  obtain ⟨-, -, rfl⟩ := h
  intro f hf c hc
  induction fs with
  | nil => exact absurd hf List.not_mem_nil
  | cons g fs ih =>
    cases fs with
    | nil =>
      obtain rfl := List.mem_singleton.mp hf
      simpa using hc
    | cons g' fs =>
      rw [joinFields_cons_cons, List.mem_append, List.mem_cons]
      rcases List.mem_cons.mp hf with rfl | hf
      · exact Or.inl hc
      · exact Or.inr (Or.inr (ih hf))

theorem mem_or_eq (h : IsFields sep text fs) : ∀ c ∈ text, c = sep ∨ ∃ f ∈ fs, c ∈ f := by
  obtain ⟨-, -, rfl⟩ := h
  intro c hc
  induction fs with
  | nil => exact absurd hc List.not_mem_nil
  | cons g fs ih =>
    cases fs with
    | nil => exact Or.inr ⟨g, List.mem_singleton_self g, by simpa using hc⟩
    | cons g' fs =>
      rw [joinFields_cons_cons, List.mem_append, List.mem_cons] at hc
      rcases hc with hc | rfl | hc
      · exact Or.inr ⟨g, List.mem_cons_self, hc⟩
      · exact Or.inl rfl
      · rcases ih hc with hsep | ⟨f, hf, hcf⟩
        · exact Or.inl hsep
        · exact Or.inr ⟨f, List.mem_cons_of_mem g hf, hcf⟩

theorem singleton (h : sep ∉ text) : IsFields sep text [text] where
  ne_nil := List.cons_ne_nil text []
  free f hf := by rwa [List.mem_singleton.mp hf]
  join := joinFields_singleton sep text

variable [DecidableEq α]

theorem splitOn (sep : α) (text : List α) : IsFields sep text (text.splitOn sep) where
  ne_nil := List.splitOn_ne_nil sep text
  free := by
    induction text with
    | nil => simp
    | cons c text ih =>
      obtain ⟨f, fs, hsplit⟩ := List.exists_cons_of_ne_nil (List.splitOn_ne_nil sep text)
      rw [List.splitOn_cons_eq_if_modifyHead]
      split
      · rintro g (_ | hg)
        · exact List.not_mem_nil
        · exact ih g ‹_›
      · next hne =>
        rw [hsplit] at ih ⊢
        rw [List.modifyHead_cons]
        intro g hg
        rcases List.mem_cons.mp hg with rfl | hg
        · rw [List.mem_cons, not_or]
          exact ⟨fun heq => hne (by simp [heq]), ih f List.mem_cons_self⟩
        · exact ih g (List.mem_cons_of_mem f hg)
  join := List.intercalate_splitOn sep

theorem unique (h : IsFields sep text fs) (h' : IsFields sep text gs) : fs = gs := by
  have hsplit : ∀ {ls}, IsFields sep text ls → text.splitOn sep = ls := by
    intro ls hls
    rw [← hls.join]
    exact List.splitOn_intercalate sep hls.free hls.ne_nil
  rw [← hsplit h, hsplit h']

end IsFields
end BcmPlatform.Lib
