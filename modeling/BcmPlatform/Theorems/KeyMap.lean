import BcmPlatform.Ir.KeyMap
import Mathlib.Data.List.Nodup

/-! Key maps of IR remotes: what `load` makes of a file, line by line, and exactly when it keeps to the format. -/

namespace BcmPlatform.Ir
open Lib

/-! ### Lines -/

section Lines
variable {p : Char → Bool} {l behind : List Char}

theorem scan_line (hl : '\n' ∉ l) (hbehind : behind.head?.getD '\n' = '\n') :
    (l ++ behind).takeWhile (fun c => c ≠ '\n' ∧ p c = true) = l.takeWhile p ∧
      (l ++ behind).dropWhile (fun c => c ≠ '\n' ∧ p c = true) = l.dropWhile p ++ behind := by
  induction l with
  | nil =>
    cases behind with
    | nil => exact ⟨rfl, rfl⟩
    | cons c rest =>
      obtain rfl : c = '\n' := hbehind
      exact ⟨rfl, rfl⟩
  | cons c l ih =>
    obtain ⟨hc, hl⟩ := not_or.mp (mt List.mem_cons.mpr hl)
    cases hp : p c with
    | true => simpa [hp, Ne.symm hc] using ih hl
    | false => simp [hp]

theorem exists_line (content : List Char) :
    ∃ l behind, content = l ++ behind ∧ '\n' ∉ l ∧ behind.head?.getD '\n' = '\n' := by
  refine ⟨content.takeWhile (· ≠ '\n'), content.dropWhile (· ≠ '\n'), List.takeWhile_append_dropWhile.symm,
    fun hmem => ?_, ?_⟩
  · simpa using List.mem_takeWhile_imp hmem
  · have hhead := List.head?_dropWhile_not (fun c : Char => decide (c ≠ '\n')) content
    cases hdrop : content.dropWhile (· ≠ '\n') with
    | nil => rfl
    | cons c rest =>
      rw [hdrop] at hhead
      simpa using hhead

end Lines

/-! ### The entries of a file -/

/-- The two tokens of a line, unless it is blank or a comment. -/
def lineEntry (nul : Bool) (line : List Char) : Option (List Char × List Char) :=
  let delimiter := isDelimiter nul whitespace
  let l := line.dropWhile delimiter
  match l with
  | [] => none
  | c :: _ =>
    if c = '#' then none
    else
      some (cString (l.takeWhile (!delimiter ·)),
        cString (((l.dropWhile (!delimiter ·)).dropWhile delimiter).takeWhile (!delimiter ·)))

def entries (nul : Bool) (content : List Char) : List (List Char × List Char) :=
  (content.splitOn '\n').filterMap (lineEntry nul)

theorem entries_line {nul : Bool} {l behind : List Char} (hl : '\n' ∉ l) (hbehind : behind.head?.getD '\n' = '\n') :
    entries nul (l ++ behind) = (lineEntry nul l).toList ++ entries nul behind.tail := by
  cases behind with
  | nil =>
    rw [List.append_nil, entries, List.splitOn_eq_singleton hl, List.tail_nil, entries, List.splitOn_nil]
    have hblank : lineEntry nul [] = none := rfl
    cases hentry : lineEntry nul l <;> simp only [List.filterMap_cons, List.filterMap_nil, hentry, hblank] <;> rfl
  | cons c rest =>
    obtain rfl : c = '\n' := hbehind
    rw [entries, List.splitOn_append_cons_self_of_not_mem hl, List.tail_cons, entries]
    cases hentry : lineEntry nul l <;> simp [hentry]

/-- What `parseKey` does with the tokens of a line. -/
def addEntry {σ : Type} (env : ParserEnv σ) (map : NexusIrMap) (e : List Char × List Char) : Except Status NexusIrMap :=
  let parsed := strtoul env.longBits e.1
  let irCode := parsed.1 % 2 ^ 32
  if parsed.2 ≠ [] then .error .badValue
  else if map.contains irCode then .error .badValue
  else if key env.keyId e.2 = 0 then .error .badValue
  else .ok (map.add irCode (key env.keyId e.2))

section Parse
variable {σ : Type} {env : ParserEnv σ} {nul : Bool} {rest : σ → List Char} {s : σ} {l behind : List Char}

theorem rest_skipDelimiters (h : env.tokenizer.Laws nul rest) (hs : rest s = l ++ behind) (hl : '\n' ∉ l)
    (hbehind : behind.head?.getD '\n' = '\n') :
    rest (env.tokenizer.skipDelimiters whitespace s) = l.dropWhile (isDelimiter nul whitespace) ++ behind := by
  rw [h.skipDelimiters, hs, ← (scan_line hl hbehind).2]

theorem nextToken_line (h : env.tokenizer.Laws nul rest) (hs : rest s = l ++ behind) (hl : '\n' ∉ l)
    (hbehind : behind.head?.getD '\n' = '\n') :
    (env.tokenizer.nextToken whitespace s).1 = l.takeWhile (!isDelimiter nul whitespace ·) ∧
      rest (env.tokenizer.nextToken whitespace s).2 = l.dropWhile (!isDelimiter nul whitespace ·) ++ behind := by
  rw [h.nextToken, h.nextToken_rest, hs, ← (scan_line hl hbehind).1, ← (scan_line hl hbehind).2]
  simp

theorem rest_nextLine (h : env.tokenizer.Laws nul rest) (hs : rest s = l ++ behind) (hl : '\n' ∉ l)
    (hbehind : behind.head?.getD '\n' = '\n') : rest (env.tokenizer.nextLine s) = behind.tail := by
  have hdrop := (scan_line (p := fun _ => true) hl hbehind).2
  simp only [and_true] at hdrop
  rw [h.nextLine, hs, hdrop, List.dropWhile_eq_nil_iff.mpr (fun _ _ => rfl), List.nil_append]

theorem parseKey_line (h : env.tokenizer.Laws nul rest) (hs : rest s = l ++ behind) (hl : '\n' ∉ l)
    (hbehind : behind.head?.getD '\n' = '\n') (map : NexusIrMap) :
    let delimiter := isDelimiter nul whitespace
    let e := (cString (l.takeWhile (!delimiter ·)),
      cString (((l.dropWhile (!delimiter ·)).dropWhile delimiter).takeWhile (!delimiter ·)))
    (∃ s' l', parseKey env s map = (addEntry env map e).map (s', ·) ∧ rest s' = l' ++ behind ∧ '\n' ∉ l') := by
  intro delimiter e
  obtain ⟨htoken₁, hrest₁⟩ := nextToken_line h hs hl hbehind
  have hl₁ : '\n' ∉ l.dropWhile (!delimiter ·) := fun hmem => hl ((List.dropWhile_sublist _).subset hmem)
  have hskip := rest_skipDelimiters h hrest₁ hl₁ hbehind
  have hl₂ : '\n' ∉ (l.dropWhile (!delimiter ·)).dropWhile delimiter :=
    fun hmem => hl₁ ((List.dropWhile_sublist _).subset hmem)
  obtain ⟨htoken₂, hrest₂⟩ := nextToken_line h hskip hl₂ hbehind
  refine ⟨_, _, ?_, hrest₂, fun hmem => hl₂ ((List.dropWhile_sublist _).subset hmem)⟩
  simp only [parseKey, addEntry, htoken₁, htoken₂]
  split
  · rfl
  · split
    · rfl
    · split <;> rfl

theorem parse_eq (h : env.tokenizer.Laws nul rest) : ∀ (fuel : Nat) (content : List Char) (s : σ) (map : NexusIrMap),
    rest s = content → content.length < fuel → parse env fuel s map = some ((entries nul content).foldlM (addEntry env) map)
  | 0, content, s, map, hs, hfuel => absurd hfuel (Nat.not_lt_zero _)
  | fuel + 1, content, s, map, hs, hfuel => by
    rw [parse]
    cases content with
    | nil =>
      rw [if_pos ((h.isEof s).mpr hs)]
      rfl
    | cons c₀ content₀ =>
      obtain ⟨l, behind, hcontent, hl, hbehind⟩ := exists_line (c₀ :: content₀)
      rw [if_neg (by rw [h.isEof, hs]; exact List.cons_ne_nil _ _)]
      rw [hcontent] at hs hfuel ⊢
      have hshort : behind.tail.length < fuel := by
        have hne : (l ++ behind).length ≠ 0 := by rw [← hcontent]; exact Nat.succ_ne_zero _
        rw [List.length_append] at hne hfuel
        rw [List.length_tail]
        omega
      have hskip := rest_skipDelimiters h hs hl hbehind
      have hl' : '\n' ∉ l.dropWhile (isDelimiter nul whitespace) :=
        fun hmem => hl ((List.dropWhile_sublist _).subset hmem)
      rw [entries_line hl hbehind, lineEntry]
      -- without an entry the next line is all that is left
      have hnext := parse_eq h fuel behind.tail _ map (rest_nextLine h hskip hl' hbehind) hshort
      simp only
      cases hline : l.dropWhile (isDelimiter nul whitespace) with
      | nil =>
        have heol : env.tokenizer.isEol (env.tokenizer.skipDelimiters whitespace s) = true := by
          rw [h.isEol, hskip, hline, List.nil_append]
          exact hbehind
        rw [if_neg (by simp [heol]), hnext]
        rfl
      | cons c l' =>
        have hc : c ≠ '\n' := by
          rintro rfl
          rw [hline] at hl'
          exact hl' List.mem_cons_self
        have heol : ¬ env.tokenizer.isEol (env.tokenizer.skipDelimiters whitespace s) = true := by
          rw [h.isEol, hskip, hline]
          exact hc
        have hpeek : env.tokenizer.peekChar (env.tokenizer.skipDelimiters whitespace s) = c :=
          h.peekChar _ _ (by rw [hskip, hline]; rfl)
        by_cases hcomment : c = '#'
        · rw [if_neg (by simp [hpeek, hcomment]), hnext]
          simp only [hcomment, if_true]
          rfl
        · rw [if_pos ⟨heol, by rw [hpeek]; exact hcomment⟩]
          simp only [hcomment, if_false, Option.toList_some, List.singleton_append, List.foldlM_cons]
          obtain ⟨s', l'', hparse, hs', hl''⟩ := parseKey_line h hskip hl' hbehind map
          rw [hline] at hparse
          rw [hparse]
          cases hadd : addEntry env map _ with
          | error status => rfl
          | ok map' => exact parse_eq h fuel behind.tail _ map' (rest_nextLine h hs' hl'' hbehind) hshort

end Parse

/-! ### Accepted entries -/

/-- `e` is the name of a key. -/
def IsKeyName (name : List Char) : Prop := ∃ k ∈ linuxKeys, k.toList = name

theorem key_eq {keyId : String → UInt16} {k : String} (hk : k ∈ linuxKeys) : key keyId k.toList = keyId k := by
  obtain ⟨k', hk'⟩ := Option.isSome_iff_exists.mp (List.find?_isSome.mpr ⟨k, hk, by simp⟩ :
    (linuxKeys.find? fun k' => k'.toList = k.toList).isSome)
  obtain rfl : k' = k := String.toList_injective (by simpa using List.find?_some hk')
  rw [key, hk']

theorem key_ne_zero_iff {keyId : String → UInt16} (hkeys : ∀ k ∈ linuxKeys, keyId k ≠ 0) {name : List Char} :
    key keyId name ≠ 0 ↔ IsKeyName name := by
  constructor
  · intro hkey
    unfold key at hkey
    split at hkey
    · rename_i k hfind
      exact ⟨k, List.mem_of_find?_eq_some hfind, by simpa using List.find?_some hfind⟩
    · exact absurd rfl hkey
  · rintro ⟨k, hk, rfl⟩
    rw [key_eq hk]
    exact hkeys k hk

/-- The code of an entry, as the parser computes it. -/
def entryCode (w : Nat) (e : List Char × List Char) : Nat := (strtoul w e.1).1 % 2 ^ 32

/-- Some entry cannot be read, or two have the same code. -/
def Refused (w : Nat) (es : List (List Char × List Char)) : Prop :=
  (∃ e ∈ es, (strtoul w e.1).2 ≠ [] ∨ ¬ IsKeyName e.2) ∨ ¬ (es.map (entryCode w)).Nodup

theorem not_refused_iff {w : Nat} {es : List (List Char × List Char)} :
    ¬ Refused w es ↔ (∀ e ∈ es, (strtoul w e.1).2 = [] ∧ IsKeyName e.2) ∧ (es.map (entryCode w)).Nodup := by
  rw [Refused, not_or, not_not]
  simp only [not_exists, not_and, not_or, not_not]

section Entries
variable {σ : Type} {env : ParserEnv σ} {map : NexusIrMap} {es : List (List Char × List Char)} {e : List Char × List Char}

theorem NexusIrMap.contains_add {code c : Nat} {keyCode : UInt16} :
    (map.add code keyCode).contains c = true ↔ map.contains c = true ∨ code = c := by
  simp [NexusIrMap.contains, NexusIrMap.add]

theorem addEntry_ok (hkeys : ∀ k ∈ linuxKeys, env.keyId k ≠ 0) (hread : (strtoul env.longBits e.1).2 = [])
    (hname : IsKeyName e.2) (hnew : map.contains (entryCode env.longBits e) = false) :
    addEntry env map e = .ok (map.add (entryCode env.longBits e) (key env.keyId e.2)) := by
  have hkey := (key_ne_zero_iff hkeys).mpr hname
  simp only [entryCode] at hnew ⊢
  simp only [addEntry, hread, hnew, hkey, ne_eq, not_true_eq_false, if_false, Bool.false_eq_true]

theorem addEntry_error (hkeys : ∀ k ∈ linuxKeys, env.keyId k ≠ 0)
    (hbad : ((strtoul env.longBits e.1).2 ≠ [] ∨ ¬ IsKeyName e.2) ∨ map.contains (entryCode env.longBits e) = true) :
    addEntry env map e = .error .badValue := by
  rw [← key_ne_zero_iff hkeys, not_not] at hbad
  simp only [entryCode] at hbad
  simp only [addEntry]
  rcases hbad with (hread | hname) | hcontains
  · rw [if_pos hread]
  · rw [if_pos hname, ite_self, ite_self]
  · rw [if_pos hcontains, ite_self]

theorem foldlM_addEntry_ok (hkeys : ∀ k ∈ linuxKeys, env.keyId k ≠ 0) :
    ∀ {es : List (List Char × List Char)} {map : NexusIrMap}, ¬ Refused env.longBits es →
      (∀ e ∈ es, map.contains (entryCode env.longBits e) = false) →
      es.foldlM (addEntry env) map =
        .ok ⟨map.keys ++ es.map fun e => (entryCode env.longBits e, key env.keyId e.2)⟩
  | [], map, _, _ => by
    rw [List.map_nil, List.append_nil]
    rfl
  | e :: es, map, haccepted, hnew => by
    obtain ⟨hall, hnodup⟩ := not_refused_iff.mp haccepted
    obtain ⟨⟨hread, hname⟩, hes⟩ := List.forall_mem_cons.mp hall
    obtain ⟨hfirst, hnodup⟩ := List.nodup_cons.mp hnodup
    have hrest : ¬ Refused env.longBits es := not_refused_iff.mpr ⟨hes, hnodup⟩
    have hnew' : ∀ e' ∈ es,
        (map.add (entryCode env.longBits e) (key env.keyId e.2)).contains (entryCode env.longBits e') = false := by
      intro e' he'
      rw [Bool.eq_false_iff, Ne, NexusIrMap.contains_add, not_or]
      refine ⟨by rw [hnew e' (List.mem_cons_of_mem _ he')]; exact Bool.false_ne_true, fun heq => hfirst ?_⟩
      exact List.mem_map.mpr ⟨e', he', heq.symm⟩
    rw [List.foldlM_cons, addEntry_ok hkeys hread hname (hnew e List.mem_cons_self)]
    change es.foldlM (addEntry env) _ = _
    rw [foldlM_addEntry_ok hkeys hrest hnew']
    simp [NexusIrMap.add]

theorem foldlM_addEntry_error (hkeys : ∀ k ∈ linuxKeys, env.keyId k ≠ 0) :
    ∀ {es : List (List Char × List Char)} {map : NexusIrMap},
      (Refused env.longBits es ∨ ∃ e ∈ es, map.contains (entryCode env.longBits e) = true) →
      es.foldlM (addEntry env) map = .error .badValue
  | [], map, hrefused => by
    simp [Refused] at hrefused
  | e :: es, map, hrefused => by
    by_cases hbad : ((strtoul env.longBits e.1).2 ≠ [] ∨ ¬ IsKeyName e.2) ∨ map.contains (entryCode env.longBits e) = true
    · rw [List.foldlM_cons, addEntry_error hkeys hbad]
      rfl
    · have hbad' := hbad
      simp only [not_or, not_not, Bool.not_eq_true] at hbad
      obtain ⟨⟨hread, hname⟩, hnew⟩ := hbad
      rw [List.foldlM_cons, addEntry_ok hkeys hread hname hnew]
      change es.foldlM (addEntry env) _ = _
      apply foldlM_addEntry_error hkeys
      -- the entry that is refused is behind the first one, on its own or for the code of the first one
      rcases hrefused with (⟨e', he', hbad''⟩ | hdup) | ⟨e', he', hcontains⟩
      · rcases List.mem_cons.mp he' with rfl | hmem
        · exact absurd (Or.inl hbad'') hbad'
        · exact Or.inl (Or.inl ⟨e', hmem, hbad''⟩)
      · rw [List.map_cons, List.nodup_cons, not_and_or, not_not] at hdup
        rcases hdup with hmem | hdup
        · obtain ⟨e', he', heq⟩ := List.mem_map.mp hmem
          exact Or.inr ⟨e', he', NexusIrMap.contains_add.mpr (Or.inr heq.symm)⟩
        · exact Or.inl (Or.inr hdup)
      · rcases List.mem_cons.mp he' with rfl | hmem
        · exact absurd (Or.inr hcontains) hbad'
        · exact Or.inr ⟨e', hmem, NexusIrMap.contains_add.mpr (Or.inl hcontains)⟩

theorem lookup_entry {w : Nat} {f : List Char × List Char → UInt16} : ∀ {es : List (List Char × List Char)},
    (es.map (entryCode w)).Nodup → e ∈ es → (es.map fun e => (entryCode w e, f e)).lookup (entryCode w e) = some (f e)
  | e' :: es, hnodup, he => by
    obtain ⟨hfirst, hnodup⟩ := List.nodup_cons.mp hnodup
    rcases List.mem_cons.mp he with rfl | hmem
    · simp
    · have hne : (entryCode w e == entryCode w e') = false := by
        rw [beq_eq_false_iff_ne]
        intro heq
        exact hfirst (List.mem_map.mpr ⟨e, hmem, heq⟩)
      rw [List.map_cons, List.lookup_cons, hne]
      exact lookup_entry hnodup hmem

theorem lookup_none {w c : Nat} {f : List Char × List Char → UInt16} (hc : ∀ e ∈ es, entryCode w e ≠ c) :
    (es.map fun e => (entryCode w e, f e)).lookup c = none := by
  rw [List.lookup_eq_none_iff]
  intro p hp
  obtain ⟨e, he, rfl⟩ := List.mem_map.mp hp
  simpa using (hc e he).symm

/-! ### Literals -/

/-- The code token is not empty, and a number that it is a literal of has room in 32 bits. -/
def InRange (e : List Char × List Char) : Prop := e.1 ≠ [] ∧ ∀ v, literalValue e.1 = some v → 0 ≤ v ∧ v < 2 ^ 32

/-- What a key map file is to look like. -/
structure WellFormed (es : List (List Char × List Char)) : Prop where
  literal : ∀ e ∈ es, ∃ v, literalValue e.1 = some v ∧ 0 ≤ v ∧ v < 2 ^ 32
  name : ∀ e ∈ es, IsKeyName e.2
  distinct : es.Pairwise fun e e' => literalValue e.1 ≠ literalValue e'.1

theorem entryCode_literal {w : Nat} (hw : 32 ≤ w) {v : Int} (hv : literalValue e.1 = some v) (h0 : 0 ≤ v) (hlt : v < 2 ^ 32) :
    (entryCode w e : Int) = v := by
  have hpow : (2 : Int) ^ 32 ≤ 2 ^ w := by exact_mod_cast Nat.pow_le_pow_right (by decide) hw
  have hvalue := strtoul_literal hv h0 (Int.lt_of_lt_of_le hlt hpow)
  unfold entryCode
  omega

theorem WellFormed.not_refused {w : Nat} (hw : 32 ≤ w) (h : WellFormed es) : ¬ Refused w es := by
  refine not_refused_iff.mpr ⟨fun e he => ⟨?_, h.name e he⟩, ?_⟩
  · obtain ⟨v, hv, -⟩ := h.literal e he
    exact strtoul_end_iff.mpr (Or.inr ⟨v, hv⟩)
  · rw [List.Nodup, List.pairwise_map]
    refine h.distinct.imp_of_mem fun {e e'} he he' hne heq => hne ?_
    obtain ⟨v, hv, h0, hlt⟩ := h.literal e he
    obtain ⟨v', hv', h0', hlt'⟩ := h.literal e' he'
    rw [hv, hv', ← entryCode_literal hw hv h0 hlt, ← entryCode_literal hw hv' h0' hlt', heq]

theorem WellFormed.of_not_refused {w : Nat} (hw : 32 ≤ w) (hrange : ∀ e ∈ es, InRange e) (h : ¬ Refused w es) :
    WellFormed es := by
  obtain ⟨hall, hnodup⟩ := not_refused_iff.mp h
  have hliteral : ∀ e ∈ es, ∃ v, literalValue e.1 = some v ∧ 0 ≤ v ∧ v < 2 ^ 32 := by
    intro e he
    obtain ⟨v, hv⟩ := (strtoul_end_iff.mp (hall e he).1).resolve_left (hrange e he).1
    exact ⟨v, hv, (hrange e he).2 v hv⟩
  refine ⟨hliteral, fun e he => (hall e he).2, ?_⟩
  rw [List.Nodup, List.pairwise_map] at hnodup
  refine hnodup.imp_of_mem fun {e e'} he he' hne heq => hne ?_
  obtain ⟨v, hv, h0, hlt⟩ := hliteral e he
  obtain ⟨v', hv', h0', hlt'⟩ := hliteral e' he'
  have hcode := entryCode_literal hw hv h0 hlt
  have hcode' := entryCode_literal hw hv' h0' hlt'
  have hvv : v = v' := Option.some.inj (hv.symm.trans (heq.trans hv'))
  omega

end Entries

/-! ### Loading -/

section Load
variable {σ : Type} {env : ParserEnv σ} {nul : Bool} {rest : σ → List Char} {s : σ} {content : List Char} {fuel : Nat}

/-- A load keeps to the format: it succeeds for the files that are as they are to be, each code then has the key of its line,
    and the map of the caller stays when it fails. -/
structure LoadsAsWritten (env : ParserEnv σ) (es : List (List Char × List Char)) (outMap : Option NexusIrMap)
    (result : Option Status × Option NexusIrMap) : Prop where
  accepts : result.1 = none ↔ WellFormed es
  get : result.1 = none → ∃ map, result.2 = some map ∧
    (∀ e ∈ es, ∀ k ∈ linuxKeys, k.toList = e.2 → ∀ c : Nat, literalValue e.1 = some (c : Int) →
      map.get c = env.keyId k) ∧
    ∀ c : Nat, (∀ e ∈ es, literalValue e.1 ≠ some (c : Int)) → map.get c = 0
  unchanged : result.1 ≠ none → result.2 = outMap

/-- A load of an opened file ends, and it keeps to the format exactly if each code is a literal that has room in 32 bits, or
    the file is refused anyway. -/
theorem load_iff (h : env.tokenizer.Laws nul rest) (hlong : 32 ≤ env.longBits) (hkeys : ∀ k ∈ linuxKeys, env.keyId k ≠ 0)
    (hs : rest s = content) (hfuel : content.length < fuel) (outMap : Option NexusIrMap) :
    ∃ result, load env fuel (.ok s) true outMap = some result ∧
      (LoadsAsWritten env (entries nul content) outMap result ↔
        (∀ e ∈ entries nul content, InRange e) ∨ Refused env.longBits (entries nul content)) := by
  have hparse := parse_eq h fuel content s {} hs hfuel
  by_cases hrefused : Refused env.longBits (entries nul content)
  · rw [foldlM_addEntry_error hkeys (Or.inl hrefused)] at hparse
    refine ⟨(some .badValue, outMap), by simp [load, hparse], iff_of_true ?_ (Or.inr hrefused)⟩
    refine ⟨?_, by simp, fun _ => rfl⟩
    simp only [reduceCtorEq, false_iff]
    exact fun hwf => hwf.not_refused hlong hrefused
  · rw [foldlM_addEntry_ok hkeys hrefused (fun _ _ => rfl)] at hparse
    refine ⟨_, by simp [load, hparse]; rfl, ?_⟩
    rw [or_iff_left hrefused]
    constructor
    · intro hloads e he
      obtain ⟨v, hv, h0, hlt⟩ := (hloads.accepts.mp rfl).literal e he
      refine ⟨?_, fun v' hv' => ?_⟩
      · intro hempty
        rw [hempty] at hv
        cases hv
      · obtain rfl : v = v' := Option.some.inj (hv.symm.trans hv')
        exact ⟨h0, hlt⟩
    · intro hrange
      have hwf := WellFormed.of_not_refused hlong hrange hrefused
      refine ⟨iff_of_true rfl hwf, fun _ => ⟨_, rfl, ?_, ?_⟩, fun hne => absurd rfl hne⟩
      · intro e he k hk hname c hc
        obtain ⟨h0, hlt⟩ := (hrange e he).2 c hc
        have hcode : entryCode env.longBits e = c := by exact_mod_cast entryCode_literal hlong hc h0 hlt
        rw [← hcode, NexusIrMap.get]
        simp only
        rw [lookup_entry (not_refused_iff.mp hrefused).2 he, ← hname, key_eq hk]
        rfl
      · intro c hc
        rw [NexusIrMap.get]
        simp only
        rw [lookup_none]
        · rfl
        · intro e he heq
          obtain ⟨v, hv, h0, hlt⟩ := hwf.literal e he
          refine hc e he ?_
          rw [hv, ← entryCode_literal hlong hv h0 hlt, heq]

end Load

/-! ### A tokenizer -/

/-- A tokenizer whose position is the part of the file that was not read yet. -/
def charListTokenizer : Tokenizer (List Char) where
  isEof s := s.isEmpty
  isEol s := s.head?.getD '\n' = '\n'
  peekChar s := s.head?.getD '\x00'
  skipDelimiters d s := s.dropWhile fun c => c ≠ '\n' ∧ isDelimiter true d c
  nextToken d s :=
    (s.takeWhile fun c => c ≠ '\n' ∧ ¬ isDelimiter true d c, s.dropWhile fun c => c ≠ '\n' ∧ ¬ isDelimiter true d c)
  nextLine s := (s.dropWhile (· ≠ '\n')).tail

theorem charListTokenizer_laws : charListTokenizer.Laws true id where
  isEof s := by simp [charListTokenizer]
  isEol s := by simp [charListTokenizer]
  peekChar s c hc := by
    change s.head? = some c at hc
    simp [charListTokenizer, hc]
  skipDelimiters _ _ := rfl
  nextToken _ _ := rfl
  nextToken_rest _ _ := rfl
  nextLine _ := rfl

/-- 64 bits, with `KEY_MENU` and `KEY_POWER`. -/
def plainEnv : ParserEnv (List Char) where
  tokenizer := charListTokenizer
  keyId k := if k = "MENU" then 139 else 116
  longBits := 64

/-- A file with a comment, a hexadecimal and an octal code. -/
def remoteFile : List Char := "# remote\n0xff POWER\n\t010 MENU # eight\n".toList

theorem load_iff_remoteFile :
    ∃ result, load plainEnv 60 (.ok remoteFile) true none = some result ∧
      (LoadsAsWritten plainEnv (entries true remoteFile) none result ↔
        (∀ e ∈ entries true remoteFile, InRange e) ∨ Refused 64 (entries true remoteFile)) := by
  have hlaws : plainEnv.tokenizer.Laws true id := charListTokenizer_laws
  have hkeys : ∀ k ∈ linuxKeys, plainEnv.keyId k ≠ 0 := by
    intro k _
    simp only [plainEnv]
    split <;> decide
  exact load_iff hlaws (by decide) hkeys rfl (by decide) none

/-- 33 bits are accepted, as the code that is left of them. -/
theorem load_truncates :
    load plainEnv 60 (.ok "0x100000010 POWER\n".toList) true none = some (none, some ⟨[(16, 116)]⟩) ∧
      ¬ LoadsAsWritten plainEnv (entries true "0x100000010 POWER\n".toList) none (none, some ⟨[(16, 116)]⟩) := by
  refine ⟨by decide +kernel, fun hloads => ?_⟩
  have hentries : entries true "0x100000010 POWER\n".toList = [("0x100000010".toList, "POWER".toList)] := by decide +kernel
  obtain ⟨v, hv, -, hlt⟩ := (hloads.accepts.mp rfl).literal ("0x100000010".toList, "POWER".toList) (by rw [hentries]; simp)
  have hvalue : literalValue "0x100000010".toList = some 0x100000010 := by decide +kernel
  obtain rfl : (0x100000010 : Int) = v := Option.some.inj (hvalue.symm.trans hv)
  exact absurd hlt (by decide)

end BcmPlatform.Ir
