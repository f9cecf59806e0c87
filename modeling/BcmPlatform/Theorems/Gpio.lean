import Mathlib.Data.List.Nodup
import BcmPlatform.Lib.Fields
import BcmPlatform.Power.Gpio

/-! A value of `aon_gpio.cfg` and the pin that it configures (`NexusGpio::initialise`). The values that are parsed as documented
    are found from what the splitting loop does with a list of fields. -/

namespace BcmPlatform.Power
open Lib

/-! ### Searching -/

section
variable {s : String8} {c : Char} {before : List Char}

theorem cString_eq_self (h : '\x00' ∉ s) : cString s = s := by
  rw [cString, List.takeWhile_eq_self_iff]
  intro c hc
  have hne : c ≠ '\x00' := fun heq => h (heq ▸ hc)
  simpa using hne

theorem find_append_cons (hnul : '\x00' ∉ before) (hbefore : c ∉ before) (hc : c ≠ '\x00') (after : List Char) :
    String8.find (before ++ c :: after) c = some before.length := by
  induction before with
  | nil => simp [String8.find, hc]
  | cons x before ih =>
    obtain ⟨hx, hnul⟩ := List.ne_and_not_mem_of_not_mem_cons hnul
    obtain ⟨hxc, hbefore⟩ := List.ne_and_not_mem_of_not_mem_cons hbefore
    rw [List.cons_append, String8.find, if_neg (Ne.symm hx), if_neg (Ne.symm hxc), ih hnul hbefore]
    rfl

theorem find_eq_none (h : c ∉ s) : String8.find s c = none := by
  induction s with
  | nil => rfl
  | cons x s ih =>
    obtain ⟨hxc, hs⟩ := List.ne_and_not_mem_of_not_mem_cons h
    rw [String8.find, if_neg (Ne.symm hxc), ih hs, Option.map_none, ite_self]

theorem find_eq_some {i : Nat} (h : String8.find s c = some i) :
    ∃ before after, s = before ++ c :: after ∧ before.length = i ∧ c ∉ before ∧ '\x00' ∉ before := by
  induction s generalizing i with
  | nil => cases h
  | cons x s ih =>
    rw [String8.find] at h
    split at h
    · cases h
    · next hx =>
      split at h
      · next hxc =>
        cases h
        exact ⟨[], s, by rw [hxc]; rfl, rfl, List.not_mem_nil, List.not_mem_nil⟩
      · next hxc =>
        obtain ⟨j, hj, rfl⟩ := Option.map_eq_some_iff.mp h
        obtain ⟨before, after, rfl, rfl, hc, hnul⟩ := ih hj
        exact ⟨x :: before, after, rfl, rfl, List.not_mem_cons_of_ne_of_not_mem (Ne.symm hxc) hc,
          List.not_mem_cons_of_ne_of_not_mem (Ne.symm hx) hnul⟩

end

/-! ### Fields -/

/-- Fields between a leading `[` and a single `]` at the end. -/
structure Bracketed (value : String8) (fields : List String8) : Prop where
  value : value = '[' :: (joinFields ',' fields ++ [']'])
  ne_nil : fields ≠ []
  comma : ∀ f ∈ fields, ',' ∉ f
  bracket : ∀ f ∈ fields, ']' ∉ f
  nul : ∀ f ∈ fields, '\x00' ∉ f

/-- What the loop stores of the fields. It ends where a last field without characters would begin. -/
def storedFields : List String8 → List String8
  | [] => []
  | [f] => if f = [] then [] else [f]
  | f :: g :: fs => f :: storedFields (g :: fs)

theorem storedFields_eq_self_iff : ∀ fields : List String8, storedFields fields = fields ↔ fields.getLast? ≠ some []
  | [] => by simp [storedFields]
  | [f] => by
    rw [storedFields]
    split
    · next hf => simp [hf]
    · next hf => simpa using hf
  | f :: g :: fs => by
    rw [storedFields, List.cons_inj_right, storedFields_eq_self_iff (g :: fs), List.getLast?_cons_cons]

theorem storedFields_length_le : ∀ fields : List String8, (storedFields fields).length ≤ fields.length
  | [] => Nat.le_refl 0
  | [f] => by
    rw [storedFields]
    split
    · exact Nat.zero_le 1
    · exact Nat.le_refl 1
  | _ :: g :: fs => Nat.succ_le_succ (storedFields_length_le (g :: fs))

namespace Bracketed
variable {value : String8} {fields fields' : List String8}

theorem isFields (h : Bracketed value fields) : IsFields ',' (joinFields ',' fields) fields :=
  ⟨h.ne_nil, h.comma, rfl⟩

theorem not_mem_join (h : Bracketed value fields) {c : Char} (hc : c ≠ ',') (hfields : ∀ f ∈ fields, c ∉ f) :
    c ∉ joinFields ',' fields := by
  intro hmem
  rcases h.isFields.mem_or_eq c hmem with rfl | ⟨f, hf, hcf⟩
  · exact hc rfl
  · exact hfields f hf hcf

theorem length_value (h : Bracketed value fields) : value.length = (joinFields ',' fields).length + 2 := by
  simp [h.value]

theorem unique (h : Bracketed value fields) (h' : Bracketed value fields') : fields = fields' := by
  have hjoin : joinFields ',' fields = joinFields ',' fields' := by
    simpa using h.value.symm.trans h'.value
  exact h.isFields.unique (hjoin ▸ h'.isFields)

end Bracketed

/-! ### The loop -/

theorem storeParameters_fields {fields : List String8} (hcomma : ∀ f ∈ fields, ',' ∉ f) (hnul : ∀ f ∈ fields, '\x00' ∉ f) :
    ∀ before : List Char, fields ≠ [] →
      storeParameters (before ++ (joinFields ',' fields ++ [']'])) (before.length + (joinFields ',' fields).length)
        before.length = storedFields fields := by
  induction fields with
  | nil => exact fun _ hne => absurd rfl hne
  | cons f fs ih =>
    intro before _
    have hf := hcomma f List.mem_cons_self
    have hfnul := hnul f List.mem_cons_self
    cases fs with
    | nil =>
      rw [joinFields_singleton, storeParameters, storedFields, List.drop_left]
      have hnone : String8.find (f ++ [']']) ',' = none := find_eq_none (by simpa using hf)
      rw [hnone]
      by_cases hnil : f = []
      · rw [if_pos hnil, hnil]
        exact if_neg (Nat.lt_irrefl _)
      · have hpos := List.length_pos_iff.mpr hnil
        rw [if_neg hnil, if_pos (Nat.lt_add_of_pos_right hpos), Nat.add_sub_cancel_left, String8.slice, List.drop_left,
          List.take_left]
    | cons g fs =>
      have hrest := ih (fun f hf => hcomma f (List.mem_cons_of_mem _ hf)) (fun f hf => hnul f (List.mem_cons_of_mem _ hf))
        (before ++ f ++ [',']) (List.cons_ne_nil _ _)
      have hfind : String8.find (f ++ ',' :: (joinFields ',' (g :: fs) ++ [']'])) ',' = some f.length :=
        find_append_cons hfnul hf (by decide) _
      have hlt : before.length < before.length + (joinFields ',' (f :: g :: fs)).length := by
        rw [joinFields_cons_cons, List.length_append, List.length_cons]
        omega
      rw [storeParameters, if_pos hlt, storedFields]
      rw [joinFields_cons_cons, List.append_assoc, List.cons_append, List.drop_left, hfind]
      show String8.slice _ _ _ :: _ = _
      rw [String8.slice, List.drop_left, List.take_left, ← hrest]
      congr 2
      · simp
      · simp only [List.length_append, List.length_cons, List.length_nil]
        omega
      · simp only [List.length_append, List.length_cons, List.length_nil]
        omega

/-! ### The parser -/

theorem parseGpioParameters_bracketed {value : String8} {fields : List String8} (h : Bracketed value fields) :
    parseGpioParameters value =
      if value.length < 5 then {}
      else
        { stored := storedFields fields
          numParameters := if (storedFields fields).length ≤ 1 then none else some (storedFields fields).length } := by
  have hstored : storeParameters value (value.length - 1) 1 = storedFields fields := by
    rw [h.length_value, Nat.add_sub_assoc (by decide), Nat.add_comm, h.value]
    exact storeParameters_fields h.comma h.nul ['['] h.ne_nil
  have hopen : String8.find value '[' = some 0 := by
    rw [h.value]
    exact find_append_cons List.not_mem_nil List.not_mem_nil (by decide) _
  have hclose : String8.find value ']' = some (value.length - 1) := by
    have hnul := h.not_mem_join (by decide) h.nul
    have hbracket := h.not_mem_join (by decide) h.bracket
    have hfind : String8.find ('[' :: joinFields ',' fields ++ [']']) ']' = some ('[' :: joinFields ',' fields).length :=
      find_append_cons (List.not_mem_cons_of_ne_of_not_mem (by decide) hnul)
        (List.not_mem_cons_of_ne_of_not_mem (by decide) hbracket) (by decide) []
    rw [List.cons_append, ← h.value] at hfind
    rw [hfind, h.length_value, List.length_cons]
    rfl
  rw [parseGpioParameters, hopen, hclose, hstored]
  simp

theorem exists_bracketed {value : String8} (hlength : 5 ≤ value.length) (hopen : String8.find value '[' = some 0)
    (hclose : String8.find value ']' = some (value.length - 1)) : ∃ fields, Bracketed value fields := by
  obtain ⟨before, after, hvalue, hbefore, hbracket, hnul⟩ := find_eq_some hclose
  obtain ⟨nothing, inner, hinner, hnothing, -, -⟩ := find_eq_some hopen
  obtain rfl := List.length_eq_zero_iff.mp hnothing
  obtain rfl : after = [] := by
    have hsum := congrArg List.length hvalue
    rw [List.length_append, List.length_cons] at hsum
    exact List.length_eq_zero_iff.mp (by omega)
  cases before with
  | nil => simp at hbefore; omega
  | cons c body =>
    have hc : c = '[' := List.head_eq_of_cons_eq (hvalue.symm.trans hinner)
    have hfields := IsFields.splitOn ',' body
    refine ⟨body.splitOn ',', ?_, hfields.ne_nil, hfields.free, ?_, ?_⟩
    · rw [hvalue, hc, hfields.join]
      rfl
    · exact fun f hf hmem => hbracket (List.mem_cons_of_mem c (hfields.mem_text f hf _ hmem))
    · exact fun f hf hmem => hnul (List.mem_cons_of_mem c (hfields.mem_text f hf _ hmem))

theorem parseGpioParameters_cases (value : String8) :
    parseGpioParameters value = {} ∨ 5 ≤ value.length ∧ ∃ fields, Bracketed value fields := by
  rw [parseGpioParameters]
  split
  · exact Or.inl rfl
  · next hlength =>
    split
    · exact Or.inl rfl
    · next hopen =>
      split
      · exact Or.inl rfl
      · next hclose =>
        have hlength := Nat.not_lt.mp hlength
        exact Or.inr ⟨hlength, exists_bracketed hlength (not_not.mp hopen) (not_not.mp hclose)⟩

theorem Bracketed.two_of_parsed {value : String8} {fields : List String8} (h : Bracketed value fields)
    (hparsed : (parseGpioParameters value).numParameters ≠ none) : 2 ≤ fields.length := by
  rw [parseGpioParameters_bracketed h] at hparsed
  split at hparsed
  · exact absurd rfl hparsed
  · have hle := storedFields_length_le fields
    split at hparsed
    · exact absurd rfl hparsed
    · omega

/-! ### Pins -/

/-- A word of the documentation; the case of its letters does not matter. -/
def SameWord (s : String8) (word : String) : Prop := s.toLower = word.toList.map Char.toLower

/-- What a word stands for. -/
def Denotes {α : Type} (words : List (String × α)) (s : String8) (a : α) : Prop := ∃ word, (word, a) ∈ words ∧ SameWord s word

def documentedInterruptModes : List (String × NexusGpioInterrupt) :=
  [("Disabled", .disabled), ("RisingEdge", .risingEdge), ("FallingEdge", .fallingEdge), ("Edge", .edge), ("High", .high),
   ("Low", .low)]

def documentedKeys : List (String × UInt32) := [("None", 0), ("Wakeup", keyWakeup)]

def documentedOutputs : List (String × NexusGpioMode) := [("PushPull", .outputPushPull), ("OpenDrain", .outputOpenDrain)]

def documentedValues : List (String × NexusGpioValue) := [("High", .high), ("Low", .low)]

/-- The pin that fields configure, as documented, where an input without a key has the key `absent`. -/
inductive Configures (name : PinName) (absent : UInt32) : List String8 → NexusGpio → Prop
  | input {mode word : String8} {interruptMode : NexusGpioInterrupt} (hmode : SameWord mode "Input")
      (hword : Denotes documentedInterruptModes word interruptMode) :
      Configures name absent [mode, word] (.input name .input interruptMode absent)
  | inputKey {mode word keyWord : String8} {interruptMode : NexusGpioInterrupt} {key : UInt32}
      (hmode : SameWord mode "Input") (hword : Denotes documentedInterruptModes word interruptMode)
      (hkey : Denotes documentedKeys keyWord key) :
      Configures name absent [mode, word, keyWord] (.input name .input interruptMode key)
  | output {mode : String8} {gpioMode : NexusGpioMode} {words : List String8} {values : List NexusGpioValue}
      (hmode : Denotes documentedOutputs mode gpioMode) (hwords : List.Forall₂ (Denotes documentedValues) words values)
      (hlength : words.length = maxPowerStates) :
      Configures name absent (mode :: words) (.output name gpioMode values)

theorem toLower_ne_nul {c : Char} (h : c ≠ '\x00') : c.toLower ≠ '\x00' := by
  change (if h : c.val ≥ 'A'.val ∧ c.val ≤ 'Z'.val then _ else c) ≠ '\x00'
  split
  · next hupper =>
    intro heq
    have hval := congrArg (fun x : Char => x.val.toNat) heq
    obtain ⟨hge, hle⟩ := hupper
    rw [ge_iff_le, UInt32.le_iff_toNat_le] at hge
    rw [UInt32.le_iff_toNat_le] at hle
    simp at hval hge hle
    omega
  · exact h

theorem not_mem_toLower {s : String8} (h : '\x00' ∉ s) : '\x00' ∉ s.toLower := by
  intro hmem
  obtain ⟨c, hc, hlower⟩ := List.mem_map.mp hmem
  exact toLower_ne_nul (fun heq => h (heq ▸ hc)) hlower

theorem mem_lowered_iff {α : Type} {words : List (String × α)} {s : String8} {a : α} :
    (s.toLower, a) ∈ words.map (fun p => (p.1.toList.map Char.toLower, p.2)) ↔ Denotes words s a := by
  rw [List.mem_map]
  constructor
  · rintro ⟨⟨word, b⟩, hmem, heq⟩
    obtain ⟨hword, rfl⟩ := Prod.mk.inj heq
    exact ⟨word, hmem, hword.symm⟩
  · rintro ⟨word, hmem, hword⟩
    exact ⟨(word, a), hmem, by rw [hword]⟩

theorem parseWord_eq_some_iff {α : Type} {words documented : List (String × α)} {s : String8} {a : α} (hnul : '\x00' ∉ s)
    (hdistinct : (words.map (·.1)).Nodup)
    (hwords : (words.map fun p => (p.1.toList, p.2)).Perm (documented.map fun p => (p.1.toList.map Char.toLower, p.2))) :
    parseWord words s = some a ↔ Denotes documented s a := by
  have hequals : ∀ word : String, s.toLower.equals word = true ↔ word.toList = s.toLower := fun word => by
    rw [String8.equals, cString_eq_self (not_mem_toLower hnul), decide_eq_true_iff, eq_comm]
  rw [← mem_lowered_iff, ← hwords.mem_iff, List.mem_map, parseWord, Option.map_eq_some_iff]
  constructor
  · rintro ⟨⟨word, b⟩, hfind, rfl⟩
    have hmatch := List.find?_some (p := fun q : String × α => s.toLower.equals q.1) hfind
    have hword := (hequals word).mp hmatch
    exact ⟨(word, b), List.mem_of_find?_eq_some hfind, by rw [hword]⟩
  · rintro ⟨⟨word, b⟩, hmem, heq⟩
    obtain ⟨hword, rfl⟩ := Prod.mk.inj heq
    have hsome : (words.find? fun p => s.toLower.equals p.1).isSome := by
      rw [List.find?_isSome]
      exact ⟨(word, b), hmem, (hequals word).mpr hword⟩
    obtain ⟨q, hq⟩ := Option.isSome_iff_exists.mp hsome
    have hmatch := List.find?_some (p := fun q : String × α => s.toLower.equals q.1) hq
    have hsame : q.1 = word := String.toList_inj.mp (((hequals q.1).mp hmatch).trans hword.symm)
    have heq : q = (word, b) := List.inj_on_of_nodup_map hdistinct (List.mem_of_find?_eq_some hq) hmem hsame
    exact ⟨q, hq, by rw [heq]⟩

section
variable {s : String8} (hnul : '\x00' ∉ s)
include hnul

theorem parseGpioKey_eq_some_iff {key : UInt32} : parseGpioKey s = some key ↔ Denotes documentedKeys s key :=
  parseWord_eq_some_iff hnul (by decide) (by decide)

theorem parseGpioInterruptMode_eq_some_iff {interruptMode : NexusGpioInterrupt} :
    parseGpioInterruptMode s = some interruptMode ↔ Denotes documentedInterruptModes s interruptMode :=
  parseWord_eq_some_iff hnul (by decide) (by decide)

theorem parseGpioOutputValue_eq_some_iff {value : NexusGpioValue} :
    parseGpioOutputValue s = some value ↔ Denotes documentedValues s value :=
  parseWord_eq_some_iff hnul (by decide) (by decide)

theorem parseGpioMode_eq_some_iff {gpioMode : NexusGpioMode} :
    parseGpioMode s = some gpioMode ↔ Denotes (("Input", .input) :: documentedOutputs) s gpioMode :=
  parseWord_eq_some_iff hnul (by decide) (by decide)

end

theorem mapM_eq_some_iff {α β : Type} {f : α → Option β} :
    ∀ {xs : List α} {ys : List β}, xs.mapM f = some ys ↔ List.Forall₂ (fun x y => f x = some y) xs ys
  | [], ys => by
    rw [List.mapM_nil, List.forall₂_nil_left_iff, eq_comm]
    exact Option.some_inj
  | x :: xs, ys => by
    rw [List.mapM_cons, List.forall₂_cons_left_iff]
    constructor
    · intro h
      obtain ⟨y, hy, h⟩ := Option.bind_eq_some_iff.mp h
      obtain ⟨zs, hzs, h⟩ := Option.bind_eq_some_iff.mp h
      exact ⟨y, zs, hy, mapM_eq_some_iff.mp hzs, (Option.some.inj h).symm⟩
    · rintro ⟨y, zs, hy, hzs, rfl⟩
      rw [hy, mapM_eq_some_iff.mpr hzs]
      rfl

section
variable {gpioOpen : PinName → NexusGpioSettings → Bool} {name : PinName} {stackKey : UInt32} {pin : NexusGpio}
variable (hopen : ∀ name settings, gpioOpen name settings = true)
include hopen

theorem instantiateInput_eq (pinMode : NexusGpioMode) (interruptMode : NexusGpioInterrupt) (key : UInt32) :
    instantiateInput gpioOpen name pinMode interruptMode key = some (.input name pinMode interruptMode key) :=
  if_pos (hopen name _)

theorem instantiateOutput_eq (pinMode : NexusGpioMode) (values : List NexusGpioValue) :
    instantiateOutput gpioOpen name pinMode values = some (.output name pinMode values) :=
  if_pos (hopen name _)

theorem initialiseInput_two {mode word : String8} (hmode : SameWord mode "Input") (hnul : '\x00' ∉ word) :
    initialiseInput gpioOpen name stackKey [mode, word] = some pin ↔ Configures name stackKey [mode, word] pin := by
  have hrun : initialiseInput gpioOpen name stackKey [mode, word] =
      (parseGpioInterruptMode word).bind fun m => instantiateInput gpioOpen name .input m stackKey := rfl
  rw [hrun, Option.bind_eq_some_iff]
  constructor
  · rintro ⟨m, hm, hpin⟩
    rw [instantiateInput_eq hopen] at hpin
    obtain rfl := Option.some.inj hpin
    exact .input hmode ((parseGpioInterruptMode_eq_some_iff hnul).mp hm)
  · intro h
    cases h with
    | @input _ _ m _ hword =>
      exact ⟨m, (parseGpioInterruptMode_eq_some_iff hnul).mpr hword, instantiateInput_eq hopen ..⟩
    | output _ _ hlength => cases hlength

theorem initialiseInput_three {mode word keyWord : String8} (hmode : SameWord mode "Input") (hnul : '\x00' ∉ word)
    (hnulKey : '\x00' ∉ keyWord) :
    initialiseInput gpioOpen name stackKey [mode, word, keyWord] = some pin ↔
      Configures name stackKey [mode, word, keyWord] pin := by
  have hrun : initialiseInput gpioOpen name stackKey [mode, word, keyWord] =
      (parseGpioInterruptMode word).bind fun m =>
        (parseGpioKey keyWord).bind fun key => instantiateInput gpioOpen name .input m key := rfl
  rw [hrun, Option.bind_eq_some_iff]
  constructor
  · rintro ⟨m, hm, hpin⟩
    obtain ⟨key, hkey, hpin⟩ := Option.bind_eq_some_iff.mp hpin
    rw [instantiateInput_eq hopen] at hpin
    obtain rfl := Option.some.inj hpin
    exact .inputKey hmode ((parseGpioInterruptMode_eq_some_iff hnul).mp hm) ((parseGpioKey_eq_some_iff hnulKey).mp hkey)
  · intro h
    cases h with
    | @inputKey _ _ _ m key _ hword hkey =>
      refine ⟨m, (parseGpioInterruptMode_eq_some_iff hnul).mpr hword, ?_⟩
      rw [(parseGpioKey_eq_some_iff hnulKey).mpr hkey]
      exact instantiateInput_eq hopen ..
    | output _ _ hlength => cases hlength

end

theorem Denotes.of_outputs {mode : String8} {gpioMode : NexusGpioMode} (h : Denotes documentedOutputs mode gpioMode) :
    Denotes (("Input", .input) :: documentedOutputs) mode gpioMode :=
  h.imp fun _ hword => ⟨List.mem_cons_of_mem _ hword.1, hword.2⟩

theorem denotes_input_iff {mode : String8} :
    Denotes (("Input", .input) :: documentedOutputs) mode .input ↔ SameWord mode "Input" := by
  constructor
  · rintro ⟨word, hmem, hword⟩
    simp only [documentedOutputs, List.mem_cons, List.not_mem_nil, or_false, Prod.mk.injEq, reduceCtorEq, and_false,
      and_true] at hmem
    rwa [hmem] at hword
  · exact fun h => ⟨"Input", List.mem_cons_self, h⟩

theorem denotes_output_iff {mode : String8} {gpioMode : NexusGpioMode} (hne : gpioMode ≠ .input) :
    Denotes (("Input", .input) :: documentedOutputs) mode gpioMode ↔ Denotes documentedOutputs mode gpioMode := by
  constructor
  · rintro ⟨word, hmem, hword⟩
    rcases List.mem_cons.mp hmem with heq | hmem
    · exact absurd (congrArg Prod.snd heq) hne
    · exact ⟨word, hmem, hword⟩
  · exact fun h => h.of_outputs

theorem not_output_of_input {mode : String8} {gpioMode : NexusGpioMode} (hinput : SameWord mode "Input")
    (houtput : Denotes documentedOutputs mode gpioMode) : False := by
  obtain ⟨word, hmem, hword⟩ := houtput
  have hsame : word.toList.map Char.toLower = "Input".toList.map Char.toLower := hword.symm.trans hinput
  simp only [documentedOutputs, List.mem_cons, List.not_mem_nil, or_false, Prod.mk.injEq] at hmem
  rcases hmem with ⟨rfl, -⟩ | ⟨rfl, -⟩
  · exact absurd hsame (by decide)
  · exact absurd hsame (by decide)

section
variable {gpioOpen : PinName → NexusGpioSettings → Bool} {name : PinName} {stackKey : UInt32} {pin : NexusGpio}
variable (hopen : ∀ name settings, gpioOpen name settings = true)
include hopen

theorem initialiseInput_eq_some_iff {mode : String8} {words : List String8} (hmode : SameWord mode "Input")
    (hnul : ∀ f ∈ words, '\x00' ∉ f) (hwords : words ≠ []) :
    initialiseInput gpioOpen name stackKey (mode :: words) = some pin ↔ Configures name stackKey (mode :: words) pin := by
  match words, hwords with
  | [word], _ => exact initialiseInput_two hopen hmode (hnul word (by simp))
  | [word, keyWord], _ => exact initialiseInput_three hopen hmode (hnul word (by simp)) (hnul keyWord (by simp))
  | word :: keyWord :: last :: words, _ =>
    have hnone : initialiseInput gpioOpen name stackKey (mode :: word :: keyWord :: last :: words) = none :=
      if_pos (Or.inr (by simp [maxInpParameters]))
    rw [hnone]
    constructor
    · intro h
      cases h
    · intro h
      cases h with
      | output houtput => exact absurd houtput (not_output_of_input hmode)

omit hopen in
theorem mapM_parameters (mode : String8) {words : List String8} (hlength : words.length = maxPowerStates) :
    ((List.range maxPowerStates).mapM fun cnt => parseGpioOutputValue ((mode :: words)[cnt + 1]?.getD [])) =
      words.mapM parseGpioOutputValue := by
  have hwords : (List.range maxPowerStates).map (fun cnt => words[cnt]?.getD []) = words := by
    apply List.ext_getElem
    · rw [List.length_map, List.length_range, hlength]
    · intro i _ hi
      simp [hi]
  calc ((List.range maxPowerStates).mapM fun cnt => parseGpioOutputValue ((mode :: words)[cnt + 1]?.getD []))
      = ((List.range maxPowerStates).map fun cnt => words[cnt]?.getD []).mapM parseGpioOutputValue := by
        rw [List.mapM_map]
        rfl
    _ = words.mapM parseGpioOutputValue := by rw [hwords]

theorem initialiseOutput_eq_some_iff {mode : String8} {words : List String8} {gpioMode : NexusGpioMode}
    (hnulMode : '\x00' ∉ mode) (hmode : Denotes documentedOutputs mode gpioMode) (hnul : ∀ f ∈ words, '\x00' ∉ f) :
    initialiseOutput gpioOpen name gpioMode (mode :: words) = some pin ↔ Configures name stackKey (mode :: words) pin := by
  have hvalues {values : List NexusGpioValue} :
      words.mapM parseGpioOutputValue = some values ↔ List.Forall₂ (Denotes documentedValues) words values := by
    rw [mapM_eq_some_iff]
    constructor
    · intro h
      exact ((List.forall₂_and_left _ _).mpr ⟨hnul, h⟩).imp fun _ _ h => (parseGpioOutputValue_eq_some_iff h.1).mp h.2
    · intro h
      exact ((List.forall₂_and_left _ _).mpr ⟨hnul, h⟩).imp fun _ _ h => (parseGpioOutputValue_eq_some_iff h.1).mpr h.2
  by_cases hlength : words.length = maxPowerStates
  · have hrun : initialiseOutput gpioOpen name gpioMode (mode :: words) =
        (words.mapM parseGpioOutputValue).bind fun values => instantiateOutput gpioOpen name gpioMode values := by
      rw [← mapM_parameters mode hlength]
      exact if_neg fun h => h (congrArg Nat.succ hlength)
    rw [hrun, Option.bind_eq_some_iff]
    constructor
    · rintro ⟨values, hparse, hpin⟩
      rw [instantiateOutput_eq hopen] at hpin
      obtain rfl := Option.some.inj hpin
      exact .output hmode (hvalues.mp hparse) hlength
    · intro h
      cases h with
      | input hinput => exact (not_output_of_input hinput hmode).elim
      | inputKey hinput => exact (not_output_of_input hinput hmode).elim
      | @output _ m _ values hm hwords _ =>
        have hsame : some m = some gpioMode :=
          ((parseGpioMode_eq_some_iff hnulMode).mpr hm.of_outputs).symm.trans
            ((parseGpioMode_eq_some_iff hnulMode).mpr hmode.of_outputs)
        obtain rfl := Option.some.inj hsame
        exact ⟨values, hvalues.mpr hwords, instantiateOutput_eq hopen ..⟩
  · have hnone : initialiseOutput gpioOpen name gpioMode (mode :: words) = none :=
      if_pos fun h => hlength (Nat.succ.inj h)
    rw [hnone]
    constructor
    · intro h
      cases h
    · intro h
      cases h with
      | input hinput => exact (not_output_of_input hinput hmode).elim
      | inputKey hinput => exact (not_output_of_input hinput hmode).elim
      | output _ _ h => exact absurd h hlength

/-- All fields of the value are stored. -/
def StoresAll (value : String8) (fields : List String8) : Prop :=
  5 ≤ value.length ∧ fields.getLast? ≠ some [] ∧ fields.length ≤ maxParameters

omit hopen in
theorem parsed_of_storesAll {value : String8} {fields : List String8} (h : Bracketed value fields)
    (htwo : 2 ≤ fields.length) (hall : StoresAll value fields) :
    parseGpioParameters value = { stored := fields, numParameters := some fields.length } := by
  rw [parseGpioParameters_bracketed h, if_neg (Nat.not_lt.mpr hall.1), (storedFields_eq_self_iff fields).mpr hall.2.1,
    if_neg (Nat.not_le.mpr htwo)]

theorem initialise_eq_some_iff {value : String8} {fields : List String8} (h : Bracketed value fields)
    (htwo : 2 ≤ fields.length) (hall : StoresAll value fields) :
    initialise gpioOpen name stackKey value = some pin ↔ Configures name stackKey fields pin := by
  cases fields with
  | nil => exact absurd htwo (by decide)
  | cons mode words =>
    have hmodeNul := h.nul mode List.mem_cons_self
    have hnul : ∀ f ∈ words, '\x00' ∉ f := fun f hf => h.nul f (List.mem_cons_of_mem mode hf)
    have hwords : words ≠ [] := by
      rintro rfl
      exact Nat.not_succ_le_self 1 htwo
    have hparse {gpioMode : NexusGpioMode} : parseGpioMode mode = some gpioMode ↔
        Denotes (("Input", .input) :: documentedOutputs) mode gpioMode := parseGpioMode_eq_some_iff hmodeNul
    rw [initialise, parsed_of_storesAll h htwo hall]
    change (if (mode :: words).length < minParameters ∨ maxParameters < (mode :: words).length then none
      else (parseGpioMode mode).bind _) = some pin ↔ _
    have hcount : ¬ ((mode :: words).length < minParameters ∨ maxParameters < (mode :: words).length) :=
      not_or.mpr ⟨Nat.not_lt.mpr htwo, Nat.not_lt.mpr hall.2.2⟩
    rw [if_neg hcount]
    cases hmode : parseGpioMode mode with
    | none =>
      rw [hmode] at hparse
      constructor
      · intro h
        cases h
      · intro h
        cases h with
        | input hinput => cases hparse.mpr (denotes_input_iff.mpr hinput)
        | inputKey hinput => cases hparse.mpr (denotes_input_iff.mpr hinput)
        | output houtput => cases hparse.mpr houtput.of_outputs
    | some gpioMode =>
      have hdenotes := hparse.mp hmode
      cases gpioMode with
      | input => exact initialiseInput_eq_some_iff hopen (denotes_input_iff.mp hdenotes) hnul hwords
      | outputPushPull =>
        exact initialiseOutput_eq_some_iff hopen hmodeNul ((denotes_output_iff (by decide)).mp hdenotes) hnul
      | outputOpenDrain =>
        exact initialiseOutput_eq_some_iff hopen hmodeNul ((denotes_output_iff (by decide)).mp hdenotes) hnul

end

/-! ### Values that are parsed as documented -/

namespace Configures
variable {name : PinName} {absent absent' : UInt32} {fields : List String8} {pin : NexusGpio}

theorem two_le (h : Configures name absent fields pin) : 2 ≤ fields.length := by
  cases h with
  | input => exact Nat.le_refl 2
  | inputKey => exact Nat.le_succ 2
  | output _ _ hlength =>
    rw [List.length_cons, hlength]
    decide

end Configures

/-- The fields are those of an input without a key. -/
def LacksKey (fields : List String8) : Prop :=
  ∃ mode word interruptMode, fields = [mode, word] ∧ SameWord mode "Input" ∧ Denotes documentedInterruptModes word interruptMode

theorem Configures.absent {name : PinName} {absent absent' : UInt32} {fields : List String8} {pin : NexusGpio}
    (h : Configures name absent fields pin) (hkey : absent = absent' ∨ ¬ LacksKey fields) :
    Configures name absent' fields pin := by
  rcases hkey with rfl | hkey
  · exact h
  · cases h with
    | input hmode hword => exact absurd ⟨_, _, _, rfl, hmode, hword⟩ hkey
    | inputKey hmode hword hk => exact .inputKey hmode hword hk
    | output hmode hwords hlength => exact .output hmode hwords hlength

/-- The parameters are those of the value, and the pin is the one that they configure. -/
structure ParsedAsDocumented (gpioOpen : PinName → NexusGpioSettings → Bool) (name : PinName) (stackKey : UInt32)
    (value : String8) : Prop where
  bounded : (parseGpioParameters value).stored.length ≤ maxParameters
  accepts : (parseGpioParameters value).numParameters ≠ none ↔ ∃ fields, Bracketed value fields ∧ 2 ≤ fields.length
  keeps : ∀ n, (parseGpioParameters value).numParameters = some n →
    n = (parseGpioParameters value).stored.length ∧ Bracketed value (parseGpioParameters value).stored
  pins : ∀ pin, initialise gpioOpen name stackKey value = some pin ↔
    ∃ fields, Bracketed value fields ∧ Configures name 0 fields pin

/-- The fields of the value have room and are not cut, and an input has a key, or the stack has one of 0. -/
def FieldsFit (stackKey : UInt32) (value : String8) : Prop :=
  ∀ fields, Bracketed value fields → 2 ≤ fields.length → StoresAll value fields ∧ (stackKey = 0 ∨ ¬ LacksKey fields)

section
variable {gpioOpen : PinName → NexusGpioSettings → Bool} {name : PinName} {stackKey : UInt32} {value : String8}
  {fields : List String8}

theorem ParsedAsDocumented.storesAll (h : ParsedAsDocumented gpioOpen name stackKey value) (hfields : Bracketed value fields)
    (htwo : 2 ≤ fields.length) : StoresAll value fields := by
  have hparsed := h.accepts.mpr ⟨fields, hfields, htwo⟩
  obtain ⟨n, hn⟩ := Option.ne_none_iff_exists'.mp hparsed
  have hkept := (h.keeps n hn).2
  have hbounded := h.bounded
  rw [parseGpioParameters_bracketed hfields] at hparsed hkept hbounded
  split at hparsed
  · exact absurd rfl hparsed
  · next hlength =>
    rw [if_neg hlength] at hkept hbounded
    have hsame := hfields.unique hkept
    exact ⟨Nat.not_lt.mp hlength, (storedFields_eq_self_iff fields).mp hsame.symm, hsame ▸ hbounded⟩

theorem parsedAsDocumented_of_fields (hopen : ∀ name settings, gpioOpen name settings = true)
    (hfields : Bracketed value fields) (htwo : 2 ≤ fields.length) (hall : StoresAll value fields)
    (hkey : stackKey = 0 ∨ ¬ LacksKey fields) : ParsedAsDocumented gpioOpen name stackKey value := by
  have hparsed := parsed_of_storesAll hfields htwo hall
  refine ⟨?_, ?_, ?_, fun pin => ?_⟩
  · rw [hparsed]
    exact hall.2.2
  · rw [hparsed]
    exact ⟨fun _ => ⟨fields, hfields, htwo⟩, fun _ => Option.some_ne_none _⟩
  · intro n hn
    rw [hparsed] at hn ⊢
    exact ⟨(Option.some.inj hn).symm, hfields⟩
  · rw [initialise_eq_some_iff hopen hfields htwo hall]
    constructor
    · exact fun h => ⟨fields, hfields, h.absent hkey⟩
    · rintro ⟨fields', hfields', h⟩
      rw [hfields'.unique hfields] at h
      exact h.absent (hkey.imp_left Eq.symm)

theorem parsedAsDocumented_of_none (hnone : ¬ ∃ fields, Bracketed value fields ∧ 2 ≤ fields.length) :
    ParsedAsDocumented gpioOpen name stackKey value := by
  have hrejected : (parseGpioParameters value).numParameters = none := by
    by_contra hparsed
    rcases parseGpioParameters_cases value with hempty | ⟨-, fields, hfields⟩
    · rw [hempty] at hparsed
      exact hparsed rfl
    · exact hnone ⟨fields, hfields, hfields.two_of_parsed hparsed⟩
  refine ⟨?_, ⟨fun h => absurd hrejected h, fun h => absurd h hnone⟩, fun n hn => ?_, fun pin => ?_⟩
  · rcases parseGpioParameters_cases value with hempty | ⟨hlength, fields, hfields⟩
    · rw [hempty]
      exact Nat.zero_le _
    · have hshort : fields.length < 2 := Nat.not_le.mp fun htwo => hnone ⟨fields, hfields, htwo⟩
      rw [parseGpioParameters_bracketed hfields, if_neg (Nat.not_lt.mpr hlength)]
      exact Nat.le_trans (storedFields_length_le fields) (Nat.le_trans (Nat.le_of_lt hshort) (by decide))
  · rw [hrejected] at hn
    cases hn
  · have hnull : initialise gpioOpen name stackKey value = none := by
      rw [initialise, hrejected]
      rfl
    rw [hnull]
    constructor
    · intro h
      cases h
    · rintro ⟨fields, hfields, h⟩
      exact absurd ⟨fields, hfields, h.two_le⟩ hnone

/-- A value is parsed as documented exactly if its fields fit. -/
theorem parsedAsDocumented_iff (hopen : ∀ name settings, gpioOpen name settings = true) :
    ParsedAsDocumented gpioOpen name stackKey value ↔ FieldsFit stackKey value := by
  constructor
  · intro h fields hfields htwo
    have hall := h.storesAll hfields htwo
    refine ⟨hall, ?_⟩
    by_contra hkey
    obtain ⟨hne, hlacks⟩ := not_or.mp hkey
    obtain ⟨mode, word, interruptMode, rfl, hmode, hword⟩ := not_not.mp hlacks
    have hpin := (h.pins _).mpr ⟨_, hfields, .input hmode hword⟩
    have hconfigures := (initialise_eq_some_iff hopen hfields htwo hall).mp hpin
    cases hconfigures with
    | input => exact hne rfl
  · intro h
    by_cases hfields : ∃ fields, Bracketed value fields ∧ 2 ≤ fields.length
    · obtain ⟨fields, hfields, htwo⟩ := hfields
      obtain ⟨hall, hkey⟩ := h fields hfields htwo
      exact parsedAsDocumented_of_fields hopen hfields htwo hall hkey
    · exact parsedAsDocumented_of_none hfields

end

/-- An input with an interrupt mode, while the stack holds 0. -/
def edgeInput : String8 := "[Input,Edge]".toList

theorem edgeInput_bracketed : Bracketed edgeInput ["Input".toList, "Edge".toList] :=
  ⟨by decide, by decide, by decide, by decide, by decide⟩

theorem edgeInput_parsed : ParsedAsDocumented (fun _ _ => true) {} 0 edgeInput := by
  refine (parsedAsDocumented_iff fun _ _ => rfl).mpr ?_
  intro fields hfields _
  rw [hfields.unique edgeInput_bracketed]
  exact ⟨⟨by decide, by decide, by decide⟩, Or.inl rfl⟩

/-- An output with a value too many. -/
def longOutput : String8 := "[PushPull,High,Low,Low,Low,Low,Low,High,Low]".toList

theorem longOutput_bracketed : Bracketed longOutput
    ["PushPull".toList, "High".toList, "Low".toList, "Low".toList, "Low".toList, "Low".toList, "Low".toList, "High".toList,
      "Low".toList] :=
  ⟨by decide, by decide, by decide, by decide, by decide⟩

/-- The ninth parameter is stored behind the array. -/
theorem longOutput_not_parsed : ¬ ParsedAsDocumented (fun _ _ => true) {} 0 longOutput := by
  intro h
  have hroom := (h.storesAll longOutput_bracketed (by decide)).2.2
  exact absurd hroom (by decide)

end BcmPlatform.Power
