import BcmPlatform.Audio.AvSyncWrite

/-! A stream of frames, the bytes that the playpump has to get for a part of it, and the places where a call can go on. -/

namespace BcmPlatform.Audio
open Lib

/-- A frame of the stream; the time stamp is in nanoseconds. -/
structure AvFrame where
  payload : List UInt8
  timestamp : Nat
  deriving DecidableEq, Repr

namespace AvFrame

/-- The header of a frame: marker, payload size and time stamp. -/
def header (f : AvFrame) : List UInt8 := avSyncMarker ++ (beBytes 4 f.payload.length ++ beBytes 8 f.timestamp)

def bytes (f : AvFrame) : List UInt8 := f.header ++ f.payload

/-- The PTS of the time stamp. -/
def pts (f : AvFrame) : Nat := Bomx.tickToPts (f.timestamp / 1000 : Nat)

/-- The sizes fit into the header. -/
def Fits (f : AvFrame) : Prop := f.payload.length < 2 ^ 32 ∧ f.timestamp < 2 ^ 64

instance (f : AvFrame) : Decidable f.Fits := inferInstanceAs (Decidable (_ ∧ _))

variable {f : AvFrame} {rest : List UInt8}

@[simp] theorem length_header (f : AvFrame) : f.header.length = hwAvSyncHdrLen := by
  rw [header, List.length_append, List.length_append, length_beBytes, length_beBytes]
  rfl

theorem length_bytes (f : AvFrame) : f.bytes.length = hwAvSyncHdrLen + f.payload.length := by
  rw [bytes, List.length_append, length_header]

theorem load_size (h : f.Fits) : loadUint32Be (f.header ++ rest) 4 = f.payload.length := by
  have hdrop : (f.header ++ rest).drop 4 = beBytes 4 f.payload.length ++ (beBytes 8 f.timestamp ++ rest) := by
    rw [header, List.append_assoc, List.append_assoc]
    rfl
  rw [loadUint32Be, hdrop, List.take_left' (length_beBytes _ _), beValue_beBytes (by simpa using h.1)]

theorem header_pts (h : f.Fits) : headerPts (f.header ++ rest) = f.pts := by
  have hdrop (n : Nat) : (f.header ++ rest).drop (8 + n) = (beBytes 8 f.timestamp ++ rest).drop n := by
    have hsizes : (avSyncMarker ++ beBytes 4 f.payload.length).length = 8 := by
      rw [List.length_append, length_beBytes]
      rfl
    rw [header, ← List.append_assoc, List.append_assoc, List.drop_append, hsizes, Nat.add_sub_cancel_left,
      List.drop_eq_nil_of_le (by omega), List.nil_append]
  have hhigh : loadUint32Be (f.header ++ rest) 8 = beValue ((beBytes 8 f.timestamp).take 4) := by
    rw [loadUint32Be, hdrop 0, List.drop_zero, List.take_append_of_le_length (by simp)]
  have hlow : loadUint32Be (f.header ++ rest) 12 = beValue ((beBytes 8 f.timestamp).drop 4) := by
    rw [loadUint32Be, hdrop 4, List.drop_append_of_le_length (by simp), List.take_left' (by simp)]
  have hsmall : beValue ((beBytes 8 f.timestamp).drop 4) < 2 ^ 32 := by
    simpa using beValue_lt ((beBytes 8 f.timestamp).drop 4)
  have hvalue : beValue ((beBytes 8 f.timestamp).take 4 ++ (beBytes 8 f.timestamp).drop 4) = f.timestamp := by
    rw [List.take_append_drop, beValue_beBytes (by simpa using h.2)]
  rw [beValue_append, List.length_drop, length_beBytes] at hvalue
  rw [headerPts, hhigh, hlow, ← Nat.shiftLeft_add_eq_or_of_lt hsmall, Nat.shiftLeft_eq, pts]
  exact congrArg (fun n : Nat => Bomx.tickToPts (n / 1000 : Nat)) hvalue

end AvFrame

/-- The stream. -/
def encode (frames : List AvFrame) : List UInt8 := frames.flatMap AvFrame.bytes

theorem length_encode_cons (f : AvFrame) (rest : List AvFrame) :
    (encode (f :: rest)).length = f.bytes.length + (encode rest).length := by
  rw [encode, List.flatMap_cons, List.length_append]
  rfl

/-- Where the headers are. -/
def headerStarts : List AvFrame → List Nat
  | [] => []
  | f :: rest => 0 :: (headerStarts rest).map (f.bytes.length + ·)

theorem headerStarts_le {frames : List AvFrame} {p : Nat} (h : p ∈ headerStarts frames) :
    p + hwAvSyncHdrLen ≤ (encode frames).length := by
  induction frames generalizing p with
  | nil => cases h
  | cons f rest ih =>
    rw [length_encode_cons]
    rcases List.mem_cons.mp h with rfl | h
    · rw [f.length_bytes]
      omega
    · obtain ⟨q, hq, rfl⟩ := List.mem_map.mp h
      have hle := ih hq
      omega

/-- What the playpump has to get for a frame. -/
def AvFrame.output (m : TunnelFormat) (f : AvFrame) : List UInt8 := m.header f.payload.length f.pts ++ f.payload

/-- What the playpump has to get for the first `n` bytes of the stream: the PES header comes with the 16th byte. -/
def outputUpTo (m : TunnelFormat) : List AvFrame → Nat → List UInt8
  | [], _ => []
  | f :: rest, n =>
    if n < hwAvSyncHdrLen then []
    else m.header f.payload.length f.pts ++ (f.payload.take (n - hwAvSyncHdrLen) ++
      outputUpTo m rest (n - f.bytes.length))

variable {m : TunnelFormat} {f : AvFrame} {frames rest : List AvFrame} {n k : Nat} {tail : List UInt8}

theorem outputUpTo_zero (frames : List AvFrame) : outputUpTo m frames 0 = [] := by
  cases frames <;> rfl

theorem outputUpTo_payload (f : AvFrame) (rest : List AvFrame) (hk : k ≤ f.payload.length) :
    outputUpTo m (f :: rest) (hwAvSyncHdrLen + k) = m.header f.payload.length f.pts ++ f.payload.take k := by
  rw [outputUpTo, if_neg (by omega), Nat.add_sub_cancel_left, f.length_bytes, Nat.sub_eq_zero_of_le (by omega),
    outputUpTo_zero, List.append_nil]

theorem outputUpTo_header (f : AvFrame) (rest : List AvFrame) :
    outputUpTo m (f :: rest) hwAvSyncHdrLen = m.header f.payload.length f.pts := by
  have hfirst := outputUpTo_payload (m := m) f rest (Nat.zero_le _)
  rwa [Nat.add_zero, List.take_zero, List.append_nil] at hfirst

theorem outputUpTo_next : outputUpTo m (f :: rest) (f.bytes.length + n) = f.output m ++ outputUpTo m rest n := by
  rw [outputUpTo, if_neg (by rw [f.length_bytes]; omega), Nat.add_sub_cancel_left, f.length_bytes,
    List.take_of_length_le (by omega), ← List.append_assoc, AvFrame.output]

theorem outputUpTo_all (h : (encode frames).length ≤ n) : outputUpTo m frames n = frames.flatMap (AvFrame.output m) := by
  induction frames generalizing n with
  | nil => rfl
  | cons f rest ih =>
    rw [length_encode_cons] at h
    obtain ⟨k, rfl⟩ := Nat.exists_eq_add_of_le (Nat.le_of_add_right_le h)
    rw [outputUpTo_next, ih (by omega), List.flatMap_cons]

/-- A place of the stream that is not inside a header, with what is left of the payload and the frames behind it. -/
inductive Position : List AvFrame → Nat → List UInt8 → List AvFrame → Prop
  | start (frames : List AvFrame) : Position frames 0 [] frames
  | inside {f : AvFrame} {k : Nat} (rest : List AvFrame) : k ≤ f.payload.length →
      Position (f :: rest) (hwAvSyncHdrLen + k) (f.payload.drop k) rest
  | next {frames rest : List AvFrame} {n : Nat} {tail : List UInt8} (f : AvFrame) : Position frames n tail rest →
      Position (f :: frames) (f.bytes.length + n) tail rest

namespace Position

theorem end_of_payload {j : Nat} (hj : j ≤ f.payload.length) (h : [] = f.payload.drop j) :
    hwAvSyncHdrLen + j = f.bytes.length := by
  have hlength := congrArg List.length h
  rw [List.length_nil, List.length_drop] at hlength
  rw [f.length_bytes]
  omega

theorem skip (h : Position frames n tail rest) (hk : k ≤ tail.length) : Position frames (n + k) (tail.drop k) rest := by
  induction h with
  | start frames =>
    obtain rfl : k = 0 := Nat.le_zero.mp hk
    exact .start frames
  | @inside f j rest hj =>
    rw [List.length_drop] at hk
    rw [List.drop_drop, Nat.add_assoc]
    exact .inside rest (by omega)
  | next f _ ih =>
    rw [Nat.add_assoc]
    exact .next f (ih hk)

theorem header (h : Position frames n [] (f :: rest)) : Position frames (n + hwAvSyncHdrLen) f.payload rest := by
  generalize htail : ([] : List UInt8) = tail at h
  generalize hrest : f :: rest = frames' at h
  induction h with
  | start frames =>
    subst hrest
    rw [Nat.zero_add]
    exact .inside rest (Nat.zero_le _)
  | @inside g j rest' hj =>
    subst hrest
    rw [end_of_payload hj htail]
    exact .next g (.inside rest (Nat.zero_le _))
  | next g _ ih =>
    rw [Nat.add_assoc]
    exact .next g (ih htail hrest)

theorem drop_eq (h : Position frames n tail rest) : (encode frames).drop n = tail ++ encode rest := by
  induction h with
  | start frames => rfl
  | @inside f j rest hj =>
    rw [encode, List.flatMap_cons, AvFrame.bytes, List.append_assoc, List.drop_append, AvFrame.length_header,
      Nat.add_sub_cancel_left, List.drop_eq_nil_of_le (by rw [AvFrame.length_header]; omega), List.nil_append,
      List.drop_append_of_le_length hj]
    rfl
  | next f _ ih =>
    rw [encode, List.flatMap_cons, List.drop_append, Nat.add_sub_cancel_left,
      List.drop_eq_nil_of_le (by omega), List.nil_append]
    exact ih

theorem le (h : Position frames n tail rest) : n ≤ (encode frames).length := by
  induction h with
  | start frames => exact Nat.zero_le _
  | @inside f j rest hj =>
    rw [length_encode_cons, f.length_bytes]
    omega
  | next f _ ih =>
    rw [length_encode_cons]
    omega

theorem header_le (h : Position frames n [] (f :: rest)) : n + hwAvSyncHdrLen ≤ (encode frames).length := by
  have hlength := congrArg List.length h.drop_eq
  rw [List.length_drop, List.nil_append, length_encode_cons, f.length_bytes] at hlength
  have hpos : 0 < hwAvSyncHdrLen := Nat.succ_pos _
  omega

theorem output_skip (h : Position frames n tail rest) (hk : k ≤ tail.length) :
    outputUpTo m frames (n + k) = outputUpTo m frames n ++ tail.take k := by
  induction h with
  | start frames =>
    obtain rfl : k = 0 := Nat.le_zero.mp hk
    rw [List.take_nil, List.append_nil]
  | @inside f j rest hj =>
    rw [List.length_drop] at hk
    rw [Nat.add_assoc, outputUpTo_payload f rest (by omega), outputUpTo_payload f rest hj, List.append_assoc, List.take_add]
  | next f _ ih => rw [Nat.add_assoc, outputUpTo_next, outputUpTo_next, ih hk, List.append_assoc]

theorem output_header (h : Position frames n [] (f :: rest)) : outputUpTo m frames (n + hwAvSyncHdrLen) =
    outputUpTo m frames n ++ m.header f.payload.length f.pts := by
  generalize htail : ([] : List UInt8) = tail at h
  generalize hrest : f :: rest = frames' at h
  induction h with
  | start frames =>
    subst hrest
    rw [outputUpTo_zero, List.nil_append, Nat.zero_add, outputUpTo_header]
  | @inside g j rest' hj =>
    subst hrest
    have hend : hwAvSyncHdrLen + j = g.bytes.length + 0 := end_of_payload hj htail
    rw [hend, outputUpTo_next, Nat.add_zero, outputUpTo_next, outputUpTo_header, outputUpTo_zero, List.append_nil]
  | next g _ ih => rw [Nat.add_assoc, outputUpTo_next, outputUpTo_next, ih htail hrest, List.append_assoc]

theorem mem_headerStarts (h : Position frames n tail (f :: rest)) : n + tail.length ∈ headerStarts frames := by
  generalize hrest : f :: rest = frames' at h
  induction h with
  | start frames =>
    subst hrest
    exact List.mem_cons_self
  | @inside g j rest' hj =>
    subst hrest
    refine List.mem_cons_of_mem _ (List.mem_map.mpr ⟨0, List.mem_cons_self, ?_⟩)
    rw [g.length_bytes, List.length_drop]
    omega
  | next g _ ih =>
    rw [Nat.add_assoc]
    exact List.mem_cons_of_mem _ (List.mem_map.mpr ⟨_, ih hrest, rfl⟩)

theorem not_mem_headerStarts (h : Position frames n tail rest) (hk : k < tail.length) : n + k ∉ headerStarts frames := by
  induction h with
  | start frames => cases hk
  | @inside f j rest hj =>
    rw [List.length_drop] at hk
    intro hmem
    rcases List.mem_cons.mp hmem with hzero | hmem
    · exact absurd hzero (by rw [hwAvSyncHdrLen]; omega)
    · obtain ⟨p, -, hp⟩ := List.mem_map.mp hmem
      rw [f.length_bytes] at hp
      omega
  | next f _ ih =>
    intro hmem
    rw [Nat.add_assoc] at hmem
    rcases List.mem_cons.mp hmem with hzero | hmem
    · exact absurd hzero (by rw [f.length_bytes, hwAvSyncHdrLen]; omega)
    · obtain ⟨p, hp, heq⟩ := List.mem_map.mp hmem
      exact ih hk (Nat.add_left_cancel heq ▸ hp)

theorem mem_frames (h : Position frames n tail rest) : ∀ f ∈ rest, f ∈ frames := by
  induction h with
  | start frames => exact fun f => id
  | inside rest _ => exact fun f => List.mem_cons_of_mem _
  | next g _ ih => exact fun f hf => List.mem_cons_of_mem _ (ih f hf)

end Position
end BcmPlatform.Audio
