import BcmPlatform.Bomx.EncoderOutput
import BcmPlatform.Lib.Framing
import BcmPlatform.Lib.Runs

/-! The frames of the encoder are the units of its output, wherever the window and its two segments fall on it, and the end
    of the stream is flagged on the frame before it, as long as each frame fits in the buffer of the client and nothing
    starts behind the end of the stream: a frame that does not fit is acknowledged but not returned, and the frames that are
    read again behind it have the flag of a later one. -/

namespace BcmPlatform.Bomx
open Lib

namespace Segments
variable {w : Segments} {d : EncoderDescriptor} {seg0 seg1 : List EncoderDescriptor} {eosReceived : Bool}

/-! ### `HaveCompleteFrame` -/

theorem scan_body {body : List EncoderDescriptor} (hbody : ∀ y ∈ body, y.isStartOfUnit = false)
    (rest : List EncoderDescriptor) (numDesc : Nat) : scan (body ++ rest) numDesc = scan rest (numDesc + body.length) := by
  induction body generalizing numDesc with
  | nil => rfl
  | cons d body ih =>
    obtain ⟨hd, hbody⟩ := List.forall_mem_cons.mp hbody
    rw [List.cons_append, scan, hd, if_neg Bool.false_ne_true, ih hbody, List.length_cons, Nat.add_right_comm,
      Nat.add_assoc]

theorem scan_append (seg0 seg1 : List EncoderDescriptor) (numDesc : Nat) :
    scan (seg0 ++ seg1) numDesc = match scan seg0 numDesc with
      | (numDesc, some eos) => (numDesc, some eos)
      | (numDesc, none) => scan seg1 numDesc := by
  induction seg0 generalizing numDesc with
  | nil => rfl
  | cons d seg0 ih =>
    by_cases hd : d.isStartOfUnit = true
    · simp only [List.cons_append, scan, hd, if_true]
    · simp only [List.cons_append, scan, hd, if_false, Bool.false_eq_true]
      exact ih _

theorem haveCompleteFrame_cons : haveCompleteFrame (d :: seg0, seg1) eosReceived =
    if d.isStartOfUnit then
      match scan (seg0 ++ seg1) 1 with
      | (numDesc, some eos) => (eosReceived || eos, some numDesc)
      | (_, none) => (eosReceived, none)
    else (eosReceived, none) := by
  simp only [haveCompleteFrame, scan_append]
  split
  · rcases scan seg0 1 with ⟨numDesc, _ | eos⟩
    · rcases scan seg1 numDesc with ⟨numDesc', _ | eos⟩ <;> rfl
    · rfl
  · rfl

theorem haveCompleteFrame_eq (hw : w.1 ≠ []) : w.haveCompleteFrame eosReceived =
    match units EncoderDescriptor.isStartOfUnit w.all with
    | [] => (eosReceived, none)
    | p :: _ => (eosReceived || p.2.eos, some p.1.length) := by
  obtain ⟨_ | ⟨d, seg0⟩, seg1⟩ := w
  · exact absurd rfl hw
  rw [haveCompleteFrame_cons]
  generalize hall : all (d :: seg0, seg1) = l
  have hall : d :: (seg0 ++ seg1) = l := hall
  cases l using unit_induction EncoderDescriptor.isStartOfUnit with
  | nil => cases hall
  | unstarted a l ha =>
    cases hall
    rw [units_unstarted ha, ha, if_neg Bool.false_ne_true]
  | incomplete a body ha hbody =>
    obtain ⟨rfl, hrest⟩ := List.cons.inj hall
    have hscan := scan_body hbody [] 1
    rw [List.append_nil] at hscan
    rw [units_incomplete hbody, ha, if_pos rfl, hrest, hscan, scan]
  | unit a body x rest ha hbody hx =>
    obtain ⟨rfl, hrest⟩ := List.cons.inj hall
    have hrest : seg0 ++ seg1 = body ++ x :: rest := hrest
    rw [units_cons rest ha hbody hx, ha, if_pos rfl, hrest, scan_body hbody, scan, hx, if_pos rfl, Nat.add_comm]
    rfl

/-! ### `ADVANCE_DESC` -/

/-- The second segment is only used up to the end of the first one. -/
def Aligned (w : Segments) : Prop := w.1 = [] → w.2 = []

theorem advanceDesc_all (d : EncoderDescriptor) (seg0 seg1 : List EncoderDescriptor) :
    (advanceDesc (d :: seg0, seg1)).all = seg0 ++ seg1 ∧ (advanceDesc (d :: seg0, seg1)).Aligned := by
  cases seg0 with
  | nil => exact ⟨List.append_nil _, fun _ => rfl⟩
  | cons d' seg0 => exact ⟨rfl, fun h => absurd h (List.cons_ne_nil _ _)⟩

theorem takeDescs_eq (n : Nat) (hw : w.Aligned) : ∃ w' : Segments, w.takeDescs n = (w.all.take n, w') ∧
    w'.all = w.all.drop n ∧ w'.Aligned := by
  induction n generalizing w with
  | zero => exact ⟨w, rfl, rfl, hw⟩
  | succ n ih =>
    obtain ⟨_ | ⟨d, seg0⟩, seg1⟩ := w
    · cases hw rfl
      exact ⟨([], []), rfl, rfl, hw⟩
    · obtain ⟨hall, haligned⟩ := advanceDesc_all d seg0 seg1
      obtain ⟨w', htake, hdrop, hw'⟩ := ih haligned
      refine ⟨w', ?_, ?_, hw'⟩
      · simp only [takeDescs, htake, hall]
        rfl
      · rw [hdrop, hall]
        rfl

end Segments

/-! ### One frame -/

/-- The descriptors of a frame and its flag for the end of the stream. -/
def EncodedFrame.unit (f : EncodedFrame) : List EncoderDescriptor × Bool := (f.frameData, f.clientFlags.eos)

/-- The lengths agree, and the frame is not the codec configuration. -/
structure EncodedFrame.Whole (f : EncodedFrame) : Prop where
  combinedSz : f.combinedSz = f.totalLen
  nonempty : f.frameData ≠ []
  codecConfig : f.clientFlags.codecConfig = false

theorem EncodedFrame.foldl_addDescriptor (ds : List EncoderDescriptor) (f : EncodedFrame) :
    (ds.foldl addDescriptor f).frameData = f.frameData ++ ds ∧
      (ds.foldl addDescriptor f).combinedSz = f.combinedSz + (ds.map (·.length)).sum ∧
      (ds.foldl addDescriptor f).clientFlags.eos = f.clientFlags.eos ∧
      (ds.foldl addDescriptor f).clientFlags.codecConfig = f.clientFlags.codecConfig := by
  induction ds generalizing f with
  | nil => exact ⟨(List.append_nil _).symm, rfl, rfl, rfl⟩
  | cons d ds ih =>
    obtain ⟨hdata, hsize, heos, hconfig⟩ := ih (f.addDescriptor d)
    rw [List.foldl_cons, hdata, hsize, heos, hconfig]
    refine ⟨by simp [addDescriptor], by simp [addDescriptor, Nat.add_assoc], ?_, ?_⟩
    all_goals
      simp only [addDescriptor]
      split <;> rfl

theorem EncodedFrame.ofDescs_unit (ds : List EncoderDescriptor) (eosReceived : Bool) :
    (ofDescs ds eosReceived).unit = (ds, eosReceived) := by
  obtain ⟨hdata, -, heos, -⟩ := foldl_addDescriptor ds {}
  cases eosReceived with
  | false => exact Prod.ext hdata heos
  | true => exact Prod.ext hdata rfl

theorem EncodedFrame.ofDescs_whole {ds : List EncoderDescriptor} (hds : ds ≠ []) (eosReceived : Bool) :
    (ofDescs ds eosReceived).Whole := by
  obtain ⟨hdata, hsize, -, hconfig⟩ := foldl_addDescriptor ds {}
  have hunit := congrArg Prod.fst (ofDescs_unit ds eosReceived)
  have hframe : (ofDescs ds eosReceived).frameData = ds := hunit
  refine ⟨?_, by rwa [hframe], ?_⟩
  · rw [totalLen, hframe]
    cases eosReceived <;> exact hsize.trans (Nat.zero_add _)
  · cases eosReceived <;> exact hconfig

/-! ### `RetrieveFrameFromHardware` -/

/-- Nothing starts behind the end of the stream. -/
def EndsStream (x y : EncoderDescriptor) : Prop := x.eos = true → y.isStartOfUnit = false

instance (x y : EncoderDescriptor) : Decidable (EndsStream x y) := inferInstanceAs (Decidable (_ → _))

/-- A unit, with the flag for the end of the stream behind it. -/
def flagged (p : List EncoderDescriptor × EncoderDescriptor) : List EncoderDescriptor × Bool := (p.1, p.2.eos)

abbrev descUnits (l : List EncoderDescriptor) : List (List EncoderDescriptor × EncoderDescriptor) :=
  units EncoderDescriptor.isStartOfUnit l

theorem units_behind_eos {l : List EncoderDescriptor} {pre post : List (List EncoderDescriptor × EncoderDescriptor)}
    {p : List EncoderDescriptor × EncoderDescriptor} (hends : l.Pairwise EndsStream)
    (hunits : descUnits l = pre ++ p :: post) (heos : p.2.eos = true) : post = [] := by
  cases post with
  | nil => rfl
  | cons q post =>
    have hpairwise := units_pairwise EncoderDescriptor.isStartOfUnit hends
    rw [← descUnits, hunits] at hpairwise
    have hbehind := (List.pairwise_append.mp hpairwise).2.1
    have hq := (List.pairwise_cons.mp hbehind).1 q List.mem_cons_self heos
    obtain ⟨-, -, -, -, hstart, -⟩ := units_starts EncoderDescriptor.isStartOfUnit hends q
      (by rw [← descUnits, hunits]; simp)
    rw [hq] at hstart
    cases hstart

theorem units_of_eos {l : List EncoderDescriptor} (hends : l.Pairwise EndsStream)
    (heos : l.head?.any (·.eos) = true) : descUnits l = [] := by
  cases hunits : descUnits l with
  | nil => rfl
  | cons p ps =>
    obtain ⟨l', hl, -, -⟩ := units_split [p] (hunits : _ = [p] ++ ps)
    obtain ⟨a, body, hp, -, hx, hend⟩ := units_starts EncoderDescriptor.isStartOfUnit hends p
      (by rw [← descUnits, hunits]; exact List.mem_cons_self)
    rw [List.flatMap_singleton, hp] at hl
    rw [hl, List.cons_append, List.head?_cons, Option.any_some] at heos
    rw [hend heos] at hx
    cases hx

theorem Segments.retrieve_nil {w : Segments} {eosReceived : Bool} (headers : Nat) (hunits : descUnits w.all = []) :
    w.retrieve headers eosReceived = (eosReceived, []) := by
  obtain ⟨_ | ⟨d, seg0⟩, seg1⟩ := w
  · unfold retrieve
    rfl
  · have hne : Prod.fst (d :: seg0, seg1) ≠ [] := List.cons_ne_nil d seg0
    have hframe : haveCompleteFrame (d :: seg0, seg1) eosReceived = (eosReceived, none) := by
      rw [haveCompleteFrame_eq hne, ← descUnits, hunits]
    unfold retrieve
    simp only [hframe]

theorem Segments.retrieve_cons {w : Segments} (eosReceived : Bool) {p : List EncoderDescriptor × EncoderDescriptor}
    {ps : List (List EncoderDescriptor × EncoderDescriptor)} (hw : w.Aligned) (hends : w.all.Pairwise EndsStream)
    (hunits : descUnits w.all = p :: ps) :
    w.retrieve 0 eosReceived = (eosReceived || p.2.eos, []) ∧
      ∀ headers, ∃ (w' : Segments) (f : EncodedFrame), f.Whole ∧ f.unit = (p.1, eosReceived || p.2.eos) ∧ w'.Aligned ∧
        w.all = p.1 ++ w'.all ∧ descUnits w'.all = ps ∧
        w.retrieve (headers + 1) eosReceived =
          ((w'.retrieve headers (eosReceived || p.2.eos)).1, f :: (w'.retrieve headers (eosReceived || p.2.eos)).2) := by
  obtain ⟨l', hall, hrest, -⟩ := units_split [p] (hunits : _ = [p] ++ ps)
  rw [List.flatMap_singleton] at hall
  obtain ⟨a, body, hp, ha, hx, hend⟩ := units_starts _ hends p (by rw [← descUnits, hunits]; exact List.mem_cons_self)
  have hne : w.1 ≠ [] := by
    intro hnil
    rw [all, hnil, hw hnil, hp] at hall
    cases hall
  have hframe : w.haveCompleteFrame eosReceived = (eosReceived || p.2.eos, some p.1.length) := by
    rw [haveCompleteFrame_eq hne, ← descUnits, hunits]
  obtain ⟨_ | ⟨d, seg0⟩, seg1⟩ := w
  · exact absurd rfl hne
  have hd : d.frameStart = true := by
    rw [hp] at hall
    obtain ⟨rfl, -⟩ := List.cons.inj hall
    by_contra hframeStart
    have heos : d.eos = true := by
      rw [EncoderDescriptor.isStartOfUnit] at ha
      simpa [hframeStart] using ha
    rw [hend heos] at hx
    cases hx
  refine ⟨?_, fun headers => ?_⟩
  · unfold retrieve
    simp only [hframe, hd, if_true]
  · obtain ⟨w', htake, hdrop, hw'⟩ := takeDescs_eq p.1.length hw
    rw [hall, List.take_left] at htake
    rw [hall, List.drop_left] at hdrop
    refine ⟨w', EncodedFrame.ofDescs p.1 (eosReceived || p.2.eos), EncodedFrame.ofDescs_whole ?_ _,
      EncodedFrame.ofDescs_unit _ _, hw', by rw [hall, hdrop], by rw [hdrop]; exact hrest, ?_⟩
    · rw [hp]
      exact List.cons_ne_nil _ _
    · rw [retrieve]
      simp only [hframe, hd, if_true, htake]

/-- The loop queues the units that the segments show, as far as there are frame headers; the flag that looks ahead was set
    by the last one that it saw, or before. -/
theorem Segments.retrieve_eq (headers : Nat) {w : Segments} {eosReceived : Bool} (hw : w.Aligned)
    (hends : w.all.Pairwise EndsStream) (hsticky : eosReceived = true → ∀ p ∈ descUnits w.all, p.2.eos = true) :
    (w.retrieve headers eosReceived).2.map EncodedFrame.unit = ((descUnits w.all).take headers).map flagged ∧
      (∀ f ∈ (w.retrieve headers eosReceived).2, f.Whole) ∧
      ((w.retrieve headers eosReceived).1 = true →
        eosReceived = true ∨ ∃ p ∈ (descUnits w.all).take (headers + 1), p.2.eos = true) := by
  induction headers generalizing w eosReceived with
  | zero =>
    cases hunits : descUnits w.all with
    | nil =>
      rw [retrieve_nil 0 hunits]
      exact ⟨rfl, fun _ hf => absurd hf List.not_mem_nil, .inl⟩
    | cons p ps =>
      rw [(retrieve_cons _ hw hends hunits).1]
      refine ⟨rfl, fun _ hf => absurd hf List.not_mem_nil, fun hset => ?_⟩
      rcases Bool.or_eq_true_iff.mp hset with hset | hset
      · exact .inl hset
      · exact .inr ⟨p, List.mem_cons_self, hset⟩
  | succ headers ih =>
    cases hunits : descUnits w.all with
    | nil =>
      rw [retrieve_nil _ hunits]
      exact ⟨rfl, fun _ hf => absurd hf List.not_mem_nil, .inl⟩
    | cons p ps =>
      obtain ⟨w', f, hwhole, hunit, hw', hall, hrest, hretrieve⟩ :=
        (retrieve_cons eosReceived hw hends hunits).2 headers
      have hfirst : descUnits w.all = [] ++ p :: ps := hunits
      have hlast : p.2.eos = true → ps = [] := units_behind_eos hends hfirst
      rw [hunits] at hsticky
      have hflag : (eosReceived || p.2.eos) = p.2.eos := by
        cases heos : eosReceived with
        | false => rfl
        | true => rw [hsticky heos p List.mem_cons_self, Bool.or_true]
      rw [hflag] at hunit hretrieve
      have hends' : w'.all.Pairwise EndsStream := by
        rw [hall] at hends
        exact (List.pairwise_append.mp hends).2.1
      obtain ⟨hframes, hwholes, hset⟩ := ih hw' hends' fun heos q hq => by
        rw [hrest, hlast heos] at hq
        cases hq
      rw [hretrieve, hrest] at *
      refine ⟨?_, ?_, ?_⟩
      · rw [List.map_cons, hframes, hunit, List.take_succ_cons, List.map_cons]
        rfl
      · exact List.forall_mem_cons.mpr ⟨hwhole, hwholes⟩
      · intro hdone
        right
        rcases hset hdone with heos | ⟨q, hq, heos⟩
        · exact ⟨p, List.mem_cons_self, heos⟩
        · exact ⟨q, List.mem_cons_of_mem _ hq, heos⟩

/-! ### The frames of a run -/

def OutputFrame.unit (f : OutputFrame) : List EncoderDescriptor × Bool := (f.frameData, f.header.nFlags.eos)

namespace EncoderOutput
variable {s : EncoderOutput} {S left : List EncoderDescriptor} {window : Option (Nat × Nat)}

/-- The frames that were returned, the frames in the list and what is left make up the stream `S`; the flag that looks ahead
    is about the end of the stream, which comes next, or behind the next unit. -/
structure Framed (S : List EncoderDescriptor) (s : EncoderOutput) (left : List EncoderDescriptor) : Prop where
  started : s.simpleEncoderStarted = true
  configDone : s.codecConfigDone = true
  stream : S = s.delivered.flatMap (·.frameData) ++ s.descs
  descs : s.descs = s.encodedFrList.flatMap (·.frameData) ++ left
  units : (descUnits S).map flagged =
    s.delivered.map OutputFrame.unit ++ s.encodedFrList.map EncodedFrame.unit ++ (descUnits left).map flagged
  whole : ∀ f ∈ s.encodedFrList, f.Whole
  ahead : s.eosReceived = true →
    left.head?.any (·.eos) = true ∨ (descUnits left).head?.any (·.2.eos) = true
  bytes : ∀ f ∈ s.delivered, f.header.pBuffer.take f.header.nFilledLen = f.frameData.flatMap (·.data)

/-- What a call reads of the stream. -/
def exposed (window : Option (Nat × Nat)) (s : EncoderOutput) : List EncoderDescriptor :=
  match s.getVideoBuffer window with
  | some w => if w.1 = [] then [] else w.all
  | none => []

/-- The frames that wait for a buffer in a call. -/
def waiting (window : Option (Nat × Nat)) (s : EncoderOutput) : List (List EncoderDescriptor × Bool) :=
  if s.encodedFrList = [] then ((descUnits (s.exposed window)).take s.emptyFrListLen).map flagged
  else s.encodedFrList.map EncodedFrame.unit

theorem exposed_prefix (window : Option (Nat × Nat)) (s : EncoderOutput) : s.exposed window <+: s.descs := by
  unfold exposed
  cases window with
  | none => exact List.nil_prefix
  | some sizes =>
    simp only [getVideoBuffer, Option.map_some]
    split
    · exact List.nil_prefix
    · rw [Segments.all, ← List.take_add]
      exact List.take_prefix _ _

theorem flatMap_frameData {frames : List EncodedFrame} {us : List (List EncoderDescriptor × EncoderDescriptor)}
    (h : frames.map EncodedFrame.unit = us.map flagged) : frames.flatMap (·.frameData) = us.flatMap Prod.fst := by
  have hflat := congrArg (List.flatMap Prod.fst) h
  rwa [List.flatMap_map, List.flatMap_map] at hflat

/-- A flag that was set by the last unit that the loop saw is about the end of the stream: it comes behind the units that
    were taken, or behind the next one. -/
theorem ahead_of_taken {l left : List EncoderDescriptor} {headers : Nat} (hends : l.Pairwise EndsStream)
    (hleft : ∀ p ∈ ((descUnits l).take headers).getLast?, left.head? = some p.2)
    (hunits : (descUnits l).drop headers <+: descUnits left)
    (h : ∃ p ∈ (descUnits l).take (headers + 1), p.2.eos = true) :
    left.head?.any (·.eos) = true ∨ (descUnits left).head?.any (·.2.eos) = true := by
  obtain ⟨p, hp, heos⟩ := h
  rw [List.take_add_one, List.mem_append] at hp
  rcases hp with hp | hp
  · left
    obtain ⟨pre, post, htake⟩ := List.append_of_mem hp
    have hall : descUnits l = pre ++ p :: (post ++ (descUnits l).drop headers) := by
      rw [← List.cons_append, ← List.append_assoc, ← htake, List.take_append_drop]
    have hpost := (List.append_eq_nil_iff.mp (units_behind_eos hends hall heos)).1
    rw [hleft p (by rw [htake, hpost]; simp)]
    exact heos
  · right
    obtain ⟨rest, hrest⟩ := hunits
    have hnext : ((descUnits l).drop headers).head? = some p := by
      rw [List.head?_drop]
      exact Option.mem_toList.mp hp
    rw [← hrest, List.head?_append, hnext]
    exact heos

theorem Framed.sticky (h : Framed S s left) {l : List EncoderDescriptor} (hl : l <+: left) (hne : l ≠ [])
    (hends : l.Pairwise EndsStream) (heos : s.eosReceived = true) : ∀ p ∈ descUnits l, p.2.eos = true := by
  obtain ⟨m, rfl⟩ := hl
  rcases h.ahead heos with hhead | hnext
  · have hfirst : l.head?.any (·.eos) = true := by
      cases l with
      | nil => exact absurd rfl hne
      | cons d l => exact hhead
    rw [units_of_eos hends hfirst]
    exact fun p hp => absurd hp List.not_mem_nil
  · obtain ⟨t, ht⟩ := units_prefix EncoderDescriptor.isStartOfUnit l m
    cases hunits : descUnits l with
    | nil => exact fun p hp => absurd hp List.not_mem_nil
    | cons q qs =>
      rw [descUnits, ← ht, ← descUnits, hunits, List.cons_append, List.head?_cons, Option.any_some] at hnext
      have hfirst : descUnits l = [] ++ q :: qs := hunits
      rw [units_behind_eos hends hfirst hnext]
      intro p hp
      rw [List.mem_singleton.mp hp]
      exact hnext

theorem Framed.retrieve (h : Framed S s left) (hempty : s.encodedFrList = [])
    (hends : (s.exposed window).Pairwise EndsStream) : ∃ left',
      Framed S (s.retrieveFrameFromHardware window) left' ∧
      (s.retrieveFrameFromHardware window).encodedFrList.map EncodedFrame.unit = s.waiting window ∧
      (s.retrieveFrameFromHardware window).outPort = s.outPort ∧
      (s.retrieveFrameFromHardware window).header = s.header ∧
      (s.retrieveFrameFromHardware window).delivered = s.delivered := by
  have hleft : s.descs = left := by
    rw [h.descs, hempty]
    rfl
  unfold retrieveFrameFromHardware
  rw [h.started, Bool.not_true, if_neg Bool.false_ne_true, if_neg (not_not.mpr hempty)]
  cases hwindow : s.getVideoBuffer window with
  | none => exact ⟨left, h, by simp [hempty, waiting, exposed, hwindow, units_nil], rfl, rfl, rfl⟩
  | some w =>
    dsimp only
    by_cases hw : w.1 = []
    · rw [if_pos hw]
      exact ⟨left, h, by simp [hempty, waiting, exposed, hwindow, hw, units_nil], rfl, rfl, rfl⟩
    · have hexposed : s.exposed window = w.all := by simp only [exposed, hwindow, hw, if_false]
      have hshown := exposed_prefix window s
      rw [hexposed] at hends hshown
      rw [hleft] at hshown
      have hne : w.all ≠ [] := fun hnil => hw (List.append_eq_nil_iff.mp hnil).1
      have hsticky := h.sticky hshown hne hends
      obtain ⟨hframes, hwhole, hset⟩ :=
        Segments.retrieve_eq s.emptyFrListLen (fun hnil => absurd hnil hw : w.Aligned) hends hsticky
      obtain ⟨m, hm⟩ := hshown
      obtain ⟨t, ht⟩ := units_prefix EncoderDescriptor.isStartOfUnit w.all m
      have hunits : descUnits left =
          (descUnits w.all).take s.emptyFrListLen ++ ((descUnits w.all).drop s.emptyFrListLen ++ t) := by
        rw [← List.append_assoc, List.take_append_drop, ← hm]
        exact ht.symm
      obtain ⟨left', hsplit, hrest, hlast⟩ := units_split _ hunits
      have hrest : descUnits left' = (descUnits w.all).drop s.emptyFrListLen ++ t := hrest
      have hahead := ahead_of_taken hends hlast (by rw [hrest]; exact List.prefix_append _ _)
      rw [if_neg hw, h.configDone, Bool.not_true, if_neg Bool.false_ne_true]
      refine ⟨left', ⟨rfl, rfl, h.stream, ?_, ?_, ?_, ?_, h.bytes⟩, ?_, rfl, rfl, rfl⟩
      · simp only [hempty, List.nil_append]
        rw [flatMap_frameData hframes, hleft]
        exact hsplit
      · have hall := h.units
        rw [hempty, List.map_nil, List.append_nil, hunits, List.map_append, ← List.append_assoc, ← hframes] at hall
        simp only [hempty, List.nil_append]
        rw [hall, hrest]
      · simp only [hempty, List.nil_append]
        exact hwhole
      · intro hdone
        rcases hset hdone with heos | htaken
        · cases hfirst : descUnits w.all with
          | nil =>
            rw [hfirst, List.take_nil, List.flatMap_nil, List.nil_append] at hsplit
            rw [← hsplit]
            exact h.ahead heos
          | cons p ps =>
            refine hahead ⟨p, ?_, hsticky heos p (by rw [hfirst]; exact List.mem_cons_self)⟩
            rw [hfirst]
            exact List.mem_cons_self
        · exact hahead htaken
      · simp only [hempty, List.nil_append, waiting, if_true, hexposed]
        exact hframes

/-! ### The loop of `OutputBufferProcess` -/

/-- What a frame's time stamp and its copy leave alone. -/
structure HeaderOnly (s s' : EncoderOutput) : Prop where
  rest : s' = { s with
    header := s'.header
    bufferTracker := s'.bufferTracker
    duplicateFrameCount := s'.duplicateFrameCount
    zeroDivisions := s'.zeroDivisions }
  nAllocLen : ∀ c, (s'.header c).nAllocLen = (s.header c).nAllocLen

theorem nAllocLen_update (header : BufferId → BufferHeader) (b : BufferId) (h : BufferHeader)
    (hb : h.nAllocLen = (header b).nAllocLen) (c : BufferId) :
    (Function.update header b h c).nAllocLen = (header c).nAllocLen := by
  by_cases hc : c = b
  · subst hc
    rwa [Function.update_self]
  · rw [Function.update_of_ne hc]

theorem copyFrame_headerOnly (f : EncodedFrame) (b : BufferId) (s : EncoderOutput) : HeaderOnly s (s.copyFrame f b) :=
  ⟨rfl, nAllocLen_update _ _ _ rfl⟩

theorem stampFrame_headerOnly (f : EncodedFrame) (b : BufferId) (s : EncoderOutput) :
    HeaderOnly s (s.stampFrame f b) ∧ ((s.stampFrame f b).header b).pBuffer = (s.header b).pBuffer := by
  unfold stampFrame
  split
  · exact ⟨⟨rfl, fun _ => rfl⟩, rfl⟩
  · dsimp only
    split
    · exact ⟨⟨rfl, nAllocLen_update _ _ _ rfl⟩, by simp only [Function.update_self]⟩
    · split
      · exact ⟨⟨rfl, nAllocLen_update _ _ _ rfl⟩, by simp only [Function.update_self]⟩
      · exact ⟨⟨rfl, nAllocLen_update _ _ _ rfl⟩, by simp only [Function.update_self]⟩

theorem EncodedFrame.length_bytes (f : EncodedFrame) : f.bytes.length = f.totalLen := List.length_flatMap

/-- A frame is returned with its bytes and its flags, and its descriptors are acknowledged, except those of the codec
    configuration. -/
theorem returnFrame_eq (f : EncodedFrame) (b : BufferId) (hstarted : s.simpleEncoderStarted = true)
    (hsize : f.combinedSz = f.totalLen) (hdata : f.frameData ≠ []) :
    ∃ header : BufferHeader, header.nFlags = f.clientFlags ∧ header.pBuffer.take header.nFilledLen = f.bytes ∧
      (s.returnFrame f b).delivered = s.delivered ++ [{ buffer := b, header, frameData := f.frameData }] ∧
      (s.returnFrame f b).descs =
        (if f.clientFlags.codecConfig then s.descs else s.descs.drop f.frameData.length) ∧
      (s.returnFrame f b).outPort = s.outPort.bufferComplete b ∧
      (s.returnFrame f b).encodedFrList = s.encodedFrList ∧ (s.returnFrame f b).eosReceived = s.eosReceived ∧
      (s.returnFrame f b).codecConfigDone = s.codecConfigDone ∧ (s.returnFrame f b).simpleEncoderStarted = true ∧
      ∀ c, ((s.returnFrame f b).header c).nAllocLen = (s.header c).nAllocLen := by
  have hne : ¬ f.frameData.length = 0 := fun h => hdata (List.length_eq_zero_iff.mp h)
  have hcopy := copyFrame_headerOnly f b s
  obtain ⟨hstamp, hbuffer⟩ := stampFrame_headerOnly f b (s.copyFrame f b)
  have hcopied : ((s.copyFrame f b).header b).pBuffer = f.bytes ++ (s.header b).pBuffer.drop f.bytes.length := by
    simp only [copyFrame, Function.update_self]
  have hrest : (s.copyFrame f b).stampFrame f b = { s with
      header := ((s.copyFrame f b).stampFrame f b).header
      bufferTracker := ((s.copyFrame f b).stampFrame f b).bufferTracker
      duplicateFrameCount := ((s.copyFrame f b).stampFrame f b).duplicateFrameCount
      zeroDivisions := ((s.copyFrame f b).stampFrame f b).zeroDivisions } := hstamp.rest
  have halloc := fun c => (hstamp.nAllocLen c).trans (hcopy.nAllocLen c)
  rw [hcopied] at hbuffer
  unfold returnFrame
  generalize (s.copyFrame f b).stampFrame f b = s₁ at hrest halloc hbuffer
  have hdone : s₁.simpleEncoderStarted = true := (congrArg simpleEncoderStarted hrest).trans hstarted
  refine ⟨{ s₁.header b with nFlags := f.clientFlags, nFilledLen := f.combinedSz }, rfl, ?_, ?_⟩
  · simp only [hbuffer]
    rw [hsize, ← EncodedFrame.length_bytes, List.take_left]
  · have hdelivered : s₁.delivered = s.delivered := by rw [hrest]
    have hdescs : s₁.descs = s.descs := by rw [hrest]
    have hport : s₁.outPort = s.outPort := by rw [hrest]
    have hlist : s₁.encodedFrList = s.encodedFrList := by rw [hrest]
    have heos : s₁.eosReceived = s.eosReceived := by rw [hrest]
    have hconfig : s₁.codecConfigDone = s.codecConfigDone := by rw [hrest]
    have hlength := fun c => (nAllocLen_update s₁.header b
      { s₁.header b with nFlags := f.clientFlags, nFilledLen := f.combinedSz } rfl c).trans (halloc c)
    cases hflag : f.clientFlags.codecConfig <;>
    · cases f.clientFlags.eos <;>
      · simp only [returnEncodedFrameSynchronized, hdone, hflag, hne, videoReadComplete, Bool.not_true,
          Bool.false_eq_true, if_false, if_true, Function.update_self, hdelivered, hdescs, hport, hlist, heos, hconfig,
          true_and]
        exact hlength

theorem Framed.returnFrame (h : Framed S s left) {f : EncodedFrame} {rest : List EncodedFrame} (b : BufferId)
    (hlist : s.encodedFrList = f :: rest) : Framed S (returnFrame f b { s with encodedFrList := rest }) left := by
  have hwhole := List.forall_mem_cons.mp (hlist ▸ h.whole)
  obtain ⟨header, hflags, hbytes, hdelivered, hdescs, -, hrest, heos, hconfig, hstarted, -⟩ :=
    returnFrame_eq (s := { s with encodedFrList := rest }) f b h.started hwhole.1.combinedSz hwhole.1.nonempty
  rw [hwhole.1.codecConfig, if_neg Bool.false_ne_true] at hdescs
  have hunread : s.descs.drop f.frameData.length = rest.flatMap (·.frameData) ++ left := by
    rw [h.descs, hlist, List.flatMap_cons, List.append_assoc, List.drop_left]
  refine ⟨hstarted, hconfig.trans h.configDone, ?_, ?_, ?_, ?_, ?_, ?_⟩
  · have hstream := h.stream
    rw [h.descs, hlist, List.flatMap_cons] at hstream
    rw [hdelivered, hdescs, hunread]
    simpa only [List.flatMap_append, List.flatMap_singleton, List.append_assoc] using hstream
  · rw [hdescs, hrest, hunread]
  · have hunits := h.units
    rw [hlist, List.map_cons] at hunits
    have hunit : OutputFrame.unit { buffer := b, header, frameData := f.frameData } = f.unit :=
      Prod.ext rfl (congrArg BufferFlags.eos hflags)
    rw [hdelivered, hrest, List.map_append, List.map_singleton, hunit, List.append_assoc _ [_], List.singleton_append]
    exact hunits
  · rw [hrest]
    exact hwhole.2
  · rw [heos]
    exact h.ahead
  · rw [hdelivered]
    intro g hg
    rcases List.mem_append.mp hg with hg | hg
    · exact h.bytes g hg
    · rw [List.mem_singleton.mp hg]
      exact hbytes

theorem Framed.deliverFrames (frames : List EncodedFrame) {s : EncoderOutput} (h : Framed S s left)
    (hlist : s.encodedFrList = frames)
    (hfit : ∀ p ∈ frames.zip s.outPort.bufferQueue, p.1.totalLen ≤ (s.header p.2).nAllocLen) :
    Framed S (s.deliverFrames frames) left ∧
      (s.deliverFrames frames).delivered.map OutputFrame.unit =
        s.delivered.map OutputFrame.unit ++ (frames.map EncodedFrame.unit).take s.outPort.queueDepth := by
  induction frames generalizing s with
  | nil => exact ⟨h, by simp [EncoderOutput.deliverFrames]⟩
  | cons f rest ih =>
    unfold EncoderOutput.deliverFrames
    cases hbuffer : s.outPort.getBuffer with
    | none =>
      have hqueue : s.outPort.bufferQueue = [] := List.head?_eq_none_iff.mp hbuffer
      exact ⟨h, by simp [Port.queueDepth, hqueue]⟩
    | some b =>
      obtain ⟨queue, hqueue⟩ : ∃ queue, s.outPort.bufferQueue = b :: queue := List.head?_eq_some_iff.mp hbuffer
      rw [hqueue, List.zip_cons_cons, List.forall_mem_cons] at hfit
      obtain ⟨hwhole, -⟩ := List.forall_mem_cons.mp (hlist ▸ h.whole)
      have hfits : ¬ ((f.combinedSz ≠ f.totalLen) || (f.combinedSz > (s.header b).nAllocLen)) = true := by
        rw [hwhole.combinedSz]
        simp [hfit.1]
      have hnext := h.returnFrame b hlist
      obtain ⟨header, hflags, -, hdelivered, -, hport, hrest, -, -, -, halloc⟩ :=
        returnFrame_eq (s := { s with encodedFrList := rest }) f b h.started hwhole.combinedSz hwhole.nonempty
      have hdequeued : (s.outPort.bufferComplete b).bufferQueue = queue :=
        (congrArg (·.erase b) hqueue).trans (List.erase_cons_head ..)
      dsimp only
      rw [if_neg hfits]
      obtain ⟨hframed, hunits⟩ := ih hnext hrest (by
        rw [hport, hdequeued]
        intro p hp
        rw [halloc]
        exact hfit.2 p hp)
      refine ⟨hframed, ?_⟩
      have hunit : OutputFrame.unit { buffer := b, header, frameData := f.frameData } = f.unit :=
        Prod.ext rfl (congrArg BufferFlags.eos hflags)
      rw [hunits, hdelivered, hport, Port.queueDepth, hdequeued, Port.queueDepth, hqueue, List.length_cons,
        List.map_append, List.map_singleton, hunit, List.map_cons, List.take_succ_cons, List.append_assoc,
        List.singleton_append]

/-! ### Every run -/

/-- Each frame that waits fits in the buffer that it gets. -/
def framesFit (window : Option (Nat × Nat)) (s : EncoderOutput) : Bool :=
  ((s.waiting window).zip s.outPort.bufferQueue).all fun p =>
    (p.1.1.map (·.length)).sum ≤ (s.header p.2).nAllocLen

/-- The calls that read nothing that starts behind the end of the stream, and whose frames fit. -/
def framesKept (s : EncoderOutput) : EncoderOutputAction → Bool
  | .fillThisBuffer _ => true
  | .outputBufferProcess window =>
    s.outPort.queueDepth = 0 ||
      (s.encodedFrList ≠ [] || (s.exposed window).Pairwise EndsStream) && s.framesFit window

theorem Framed.outputBufferProcess (h : Framed S s left) (hok : s.framesKept (.outputBufferProcess window) = true) :
    (∃ left', Framed S (s.outputBufferProcess window) left') ∧
      (s.outputBufferProcess window).delivered.map OutputFrame.unit =
        s.delivered.map OutputFrame.unit ++ (s.waiting window).take s.outPort.queueDepth := by
  unfold EncoderOutput.outputBufferProcess
  rw [h.started, Bool.not_true, if_neg Bool.false_ne_true]
  split
  · next hdepth => exact ⟨⟨left, h⟩, by rw [hdepth, List.take_zero, List.append_nil]⟩
  · next hdepth =>
    simp only [framesKept, hdepth, decide_false, Bool.false_or, Bool.and_eq_true] at hok
    obtain ⟨hends, hfit⟩ := hok
    have hlist : ∃ left', Framed S (s.retrieveFrameFromHardware window) left' ∧
        (s.retrieveFrameFromHardware window).encodedFrList.map EncodedFrame.unit = s.waiting window ∧
        (s.retrieveFrameFromHardware window).outPort = s.outPort ∧
        (s.retrieveFrameFromHardware window).header = s.header ∧
        (s.retrieveFrameFromHardware window).delivered = s.delivered := by
      by_cases hempty : s.encodedFrList = []
      · exact h.retrieve hempty (by simpa [hempty] using hends)
      · have hskip : s.retrieveFrameFromHardware window = s := by
          unfold retrieveFrameFromHardware
          rw [h.started, if_pos hempty]
          rfl
        rw [hskip]
        exact ⟨left, h, by rw [waiting, if_neg hempty], rfl, rfl, rfl⟩
    obtain ⟨left', hframed, hwaiting, hport, hheader, hdelivered⟩ := hlist
    dsimp only
    generalize s.retrieveFrameFromHardware window = s₁ at hframed hwaiting hport hheader hdelivered
    obtain ⟨hdone, hunits⟩ := hframed.deliverFrames s₁.encodedFrList rfl (by
      rw [framesFit, ← hwaiting, List.zip_map_left, List.all_map, List.all_eq_true] at hfit
      rw [hport, hheader]
      intro p hp
      exact of_decide_eq_true (hfit p hp))
    rw [hunits, hwaiting, hdelivered, hport]
    exact ⟨⟨left', hdone⟩, rfl⟩

theorem Framed.fillThisBuffer (h : Framed S s left) (b : BufferId) : Framed S (s.fillThisBuffer b) left := by
  unfold EncoderOutput.fillThisBuffer
  split
  · exact h
  · dsimp only
    split <;> exact ⟨h.started, h.configDone, h.stream, h.descs, h.units, h.whole, h.ahead, h.bytes⟩

theorem Framed.step {s' : EncoderOutput} {action : EncoderOutputAction} (h : ∃ left, Framed S s left)
    (hok : s.framesKept action = true) (hstep : s.step action = some s') : ∃ left, Framed S s' left := by
  obtain ⟨left, h⟩ := h
  cases action with
  | fillThisBuffer b =>
    cases hstep
    exact ⟨left, h.fillThisBuffer b⟩
  | outputBufferProcess window =>
    cases hstep
    exact (h.outputBufferProcess hok).1

/-- The encoder after its codec configuration was returned. -/
structure AfterConfig (s : EncoderOutput) : Prop where
  started : s.simpleEncoderStarted = true
  configDone : s.codecConfigDone = true
  list : s.encodedFrList = []
  ahead : s.eosReceived = false
  delivered : s.delivered = []

theorem AfterConfig.framed (h : AfterConfig s) : Framed s.descs s s.descs where
  started := h.started
  configDone := h.configDone
  stream := by simp [h.delivered]
  descs := by simp [h.list]
  units := by simp [h.delivered, h.list]
  whole := by simp [h.list]
  ahead := by simp [h.ahead]
  bytes := by simp [h.delivered]

/-- After every run of such calls, the frames that the client got are the first units of the stream, each with its bytes and
    with the flag for the end of the stream behind it, their descriptors and the ones that are not acknowledged make up the
    stream, and the next call returns every unit that it is shown and has a header and a buffer for. -/
theorem frames_are_units {s₀ : EncoderOutput} (hconfig : AfterConfig s₀)
    (h : Reaches EncoderOutput.step (fun s action => s.framesKept action = true) s₀ s) :
    s.delivered.map OutputFrame.unit <+: (descUnits s₀.descs).map flagged ∧
      s₀.descs = s.delivered.flatMap (·.frameData) ++ s.descs ∧
      (∀ f ∈ s.delivered, f.header.pBuffer.take f.header.nFilledLen = f.frameData.flatMap (·.data)) ∧
      ∀ window, s.framesKept (.outputBufferProcess window) = true →
        (s.outputBufferProcess window).delivered.map OutputFrame.unit =
          s.delivered.map OutputFrame.unit ++ (s.waiting window).take s.outPort.queueDepth := by
  obtain ⟨left, hframed⟩ := h.invariant (P := fun s => ∃ left, Framed s₀.descs s left) ⟨_, hconfig.framed⟩
    fun _ _ _ h hok hstep => Framed.step h hok hstep
  refine ⟨?_, hframed.stream, hframed.bytes, fun window hok => (hframed.outputBufferProcess hok).2⟩
  rw [hframed.units, List.append_assoc]
  exact List.prefix_append _ _

/-! ### The codec configuration -/

/-- The frame of `GetCodecConfig`. -/
def configFrame (sps pps : EncoderDescriptor) : EncodedFrame :=
  { frameData := [sps, pps], combinedSz := sps.length + pps.length, clientFlags := { codecConfig := true } }

/-- Two queued buffers of the given lengths, and sixteen frame headers. -/
def afterConfig (nAllocLen₀ nAllocLen₁ : Nat) (descs : List EncoderDescriptor) : EncoderOutput where
  codec := .avc
  simpleEncoderStarted := true
  codecConfigDone := true
  eosReceived := false
  eosDelivered := false
  emptyFrListLen := 16
  encodedFrList := []
  outPort := { Port.new 1 2 4096 with
    bufferList := [20, 21]
    bufferQueue := [20, 21]
    nodup_list := by decide
    nodup_queue := by decide
    queued := fun _ hb => hb }
  header b := { eDir := .output, nAllocLen := if b = 20 then nAllocLen₀ else nAllocLen₁ }
  bufferTracker := []
  xFramerate := 983040
  descs

/-- Two frames; the first one lies in both segments. -/
def twoUnits : List EncoderDescriptor :=
  [{ frameStart := true, data := [1] }, { data := [2, 3] }, { frameStart := true, data := [4] }, { eos := true }]

theorem frames_are_units_two :
    ∃ s : EncoderOutput, s.delivered.map (·.frameData.length) = [2, 1] ∧ s.delivered.map (·.header.nFlags.eos) = [false, true] ∧
      s.delivered.map OutputFrame.unit <+: (descUnits twoUnits).map flagged ∧
      twoUnits = s.delivered.flatMap (·.frameData) ++ s.descs := by
  obtain ⟨s, hrun, hend⟩ := Reaches.exists_of_run EncoderOutput.step framesKept (afterConfig 64 64 twoUnits)
    [.outputBufferProcess (some (1, 1)), .outputBufferProcess (some (1, 3))]
    (fun s => s.delivered.map (·.frameData.length) = [2, 1] && s.delivered.map (·.header.nFlags.eos) = [false, true])
    (by decide +kernel)
  simp only [Bool.and_eq_true, decide_eq_true_eq] at hend
  have hafter : AfterConfig (afterConfig 64 64 twoUnits) := ⟨rfl, rfl, rfl, rfl, rfl⟩
  obtain ⟨hunits, hstream, -⟩ := frames_are_units hafter hrun
  exact ⟨s, hend.1, hend.2, hunits, hstream⟩

/-- Three frames; the first one has three bytes. -/
def threeUnits : List EncoderDescriptor :=
  [{ frameStart := true, data := [1, 2, 3] }, { frameStart := true, data := [4] }, { frameStart := true, data := [5] },
    { eos := true }]

/-- Behind the end of the stream another frame starts. -/
def restarted : List EncoderDescriptor := [{ frameStart := true, data := [1] }, { eos := true }, { frameStart := true, data := [2] }]

/-- The first frame does not fit in the first buffer: it is acknowledged, and the frame behind it, which is read again, has
    the flag of the last one. A frame behind the end of the stream is never reached. -/
theorem dropped_frame_flags_earlier_frame :
    (∃ s, Reaches EncoderOutput.step (fun _ _ => true) (afterConfig 2 64 threeUnits) s ∧
      s.delivered.map OutputFrame.unit = [([{ frameStart := true, data := [4] }], true),
        ([{ frameStart := true, data := [5] }], true)] ∧
      ¬ s.delivered.map OutputFrame.unit <+: (descUnits threeUnits).map flagged ∧
      threeUnits ≠ s.delivered.flatMap (·.frameData) ++ s.descs) ∧
    ∃ s, Reaches EncoderOutput.step (fun _ _ => true) (afterConfig 64 64 restarted) s ∧
      s.waiting (some (3, 0)) = [([{ eos := true }], false)] ∧ 0 < s.outPort.queueDepth ∧
      (s.outputBufferProcess (some (3, 0))).delivered = s.delivered := by
  constructor
  · obtain ⟨s, hrun, hend⟩ := Reaches.exists_of_run EncoderOutput.step (fun _ _ => true) (afterConfig 2 64 threeUnits)
      [.outputBufferProcess (some (4, 0)), .outputBufferProcess (some (3, 0))]
      (fun s => s.delivered.map OutputFrame.unit = [([{ frameStart := true, data := [4] }], true),
          ([{ frameStart := true, data := [5] }], true)] &&
        !(s.delivered.map OutputFrame.unit).isPrefixOf ((descUnits threeUnits).map flagged) &&
        threeUnits ≠ s.delivered.flatMap (·.frameData) ++ s.descs) (by decide +kernel)
    simp only [Bool.and_eq_true, decide_eq_true_eq, Bool.not_eq_true'] at hend
    refine ⟨s, hrun, hend.1.1, fun hshown => ?_, hend.2⟩
    rw [List.isPrefixOf_iff_prefix.mpr hshown] at hend
    cases hend.1.2
  · obtain ⟨s, hrun, hend⟩ := Reaches.exists_of_run EncoderOutput.step (fun _ _ => true) (afterConfig 64 64 restarted)
      [.outputBufferProcess (some (3, 0))]
      (fun s => s.waiting (some (3, 0)) = [([{ eos := true }], false)] && 0 < s.outPort.queueDepth &&
        (s.outputBufferProcess (some (3, 0))).delivered = s.delivered) (by decide +kernel)
    simp only [Bool.and_eq_true, decide_eq_true_eq] at hend
    exact ⟨s, hrun, hend.1.1, hend.1.2, hend.2⟩

end EncoderOutput
end BcmPlatform.Bomx
