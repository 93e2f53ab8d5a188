import Scll.Framework.Octets

/-! # Length-prefixed frames

    A frame is a body behind its length, in a fixed number of octets. A
    receiver cuts a stream of octets into the whole frames at its front and the
    part of a frame that is left. What it cuts does not depend on how the
    stream arrives: cutting it piece by piece gives the same frames.
-/

namespace Framing

open Octets

variable {w : ℕ} {s t body rest : List UInt8}

/-- A body behind its length in `w` octets. -/
def frame (w : ℕ) (body : List UInt8) : List UInt8 := writeBE w body.length ++ body

@[simp] theorem length_frame (w : ℕ) (body : List UInt8) :
    (frame w body).length = w + body.length := by
  simp [frame]

/-- The body of the frame at the front of a stream, and what is behind it. -/
def takeFrame (w : ℕ) (s : List UInt8) : Option (List UInt8 × List UInt8) :=
  if s.length < w then none
  else if s.length - w < readBE (s.take w) then none
  else some ((s.drop w).splitAt (readBE (s.take w)))

theorem takeFrame_eq_none (h : s.length < w + readBE (s.take w)) : takeFrame w s = none := by
  unfold takeFrame
  by_cases hw : s.length < w
  · rw [if_pos hw]
  · rw [if_neg hw, if_pos (by omega)]

theorem takeFrame_eq_some (h : w + readBE (s.take w) ≤ s.length) :
    takeFrame w s =
      some ((s.drop w).take (readBE (s.take w)), (s.drop w).drop (readBE (s.take w))) := by
  unfold takeFrame
  rw [if_neg (by omega), if_neg (by omega), List.splitAt_eq]

/-- A frame is what `takeFrame` takes. -/
theorem takeFrame_frame (hbody : body.length < 256 ^ w) (rest : List UInt8) :
    takeFrame w (frame w body ++ rest) = some (body, rest) := by
  have htake : (frame w body ++ rest).take w = writeBE w body.length := by
    rw [frame, List.append_assoc, List.take_left' (length_writeBE w _)]
  have hdrop : (frame w body ++ rest).drop w = body ++ rest := by
    rw [frame, List.append_assoc, List.drop_left' (length_writeBE w _)]
  have hread := readBE_writeBE w body.length hbody
  rw [takeFrame_eq_some]
  · rw [htake, hdrop, hread, List.take_left' rfl, List.drop_left' rfl]
  · rw [htake, hread, List.length_append, length_frame]
    omega

/-- What `takeFrame` takes is shorter by the frame. -/
theorem length_of_takeFrame (h : takeFrame w s = some (body, rest)) :
    s.length = w + body.length + rest.length := by
  by_cases hs : s.length < w + readBE (s.take w)
  · rw [takeFrame_eq_none hs] at h
    cases h
  · rw [takeFrame_eq_some (by omega)] at h
    obtain ⟨rfl, rfl⟩ := Prod.mk.inj (Option.some.inj h)
    simp only [List.length_take, List.length_drop]
    omega

/-- A frame is decided by its own octets: more behind it changes nothing. -/
theorem takeFrame_append (h : takeFrame w s = some (body, rest)) (t : List UInt8) :
    takeFrame w (s ++ t) = some (body, rest ++ t) := by
  by_cases hs : s.length < w + readBE (s.take w)
  · rw [takeFrame_eq_none hs] at h
    cases h
  · have hw : w ≤ s.length := by omega
    have htake : (s ++ t).take w = s.take w := List.take_append_of_le_length hw
    have hdrop : (s ++ t).drop w = s.drop w ++ t := List.drop_append_of_le_length hw
    have hn : readBE (s.take w) ≤ (s.drop w).length := by
      rw [List.length_drop]
      omega
    rw [takeFrame_eq_some (by omega)] at h
    obtain ⟨rfl, rfl⟩ := Prod.mk.inj (Option.some.inj h)
    rw [takeFrame_eq_some (by rw [htake, List.length_append]; omega), htake, hdrop,
      List.take_append_of_le_length hn, List.drop_append_of_le_length hn]

/-! ### All whole frames -/

/-- The whole frames of a stream, at most `fuel` of them, and what is left. -/
def splitLoop (w : ℕ) : ℕ → List UInt8 → List (List UInt8) × List UInt8
  | 0, s => ([], s)
  | fuel + 1, s =>
    match takeFrame w s with
    | none => ([], s)
    | some (body, rest) =>
      (body :: (splitLoop w fuel rest).1, (splitLoop w fuel rest).2)

/-- The whole frames of a stream, and what is left. -/
def splitFrames (w : ℕ) (s : List UInt8) : List (List UInt8) × List UInt8 :=
  splitLoop w s.length s

/-- Fuel past the length of the stream is never used: every frame takes an octet. -/
theorem splitLoop_eq_splitFrames (hw : 0 < w) (fuel : ℕ) (h : s.length ≤ fuel) :
    splitLoop w fuel s = splitFrames w s := by
  unfold splitFrames
  induction fuel using Nat.strong_induction_on generalizing s with
  | _ fuel ih =>
    cases fuel with
    | zero => rw [Nat.le_zero.mp h]
    | succ fuel =>
      cases hlen : s.length with
      | zero =>
        have hnone : takeFrame w s = none := takeFrame_eq_none (by omega)
        simp only [splitLoop, hnone]
      | succ n =>
        simp only [splitLoop]
        cases htake : takeFrame w s with
        | none => rfl
        | some p =>
          have hrest := length_of_takeFrame htake
          have hfuel := ih fuel (by omega) (show p.2.length ≤ fuel by omega)
          have hn := ih n (by omega) (show p.2.length ≤ n by omega)
          simp only [hfuel, hn]

theorem splitFrames_none (h : takeFrame w s = none) : splitFrames w s = ([], s) := by
  unfold splitFrames
  cases hlen : s.length with
  | zero => rfl
  | succ n => rw [splitLoop, h]

theorem splitFrames_some (hw : 0 < w) (h : takeFrame w s = some (body, rest)) :
    splitFrames w s = (body :: (splitFrames w rest).1, (splitFrames w rest).2) := by
  have hlen := length_of_takeFrame h
  have hloop := splitLoop_eq_splitFrames hw (s.length - 1) (show rest.length ≤ s.length - 1 by omega)
  unfold splitFrames at *
  rw [show s.length = (s.length - 1) + 1 by omega, splitLoop, h]
  simp only [hloop]

theorem splitFrames_short (h : s.length < w) : splitFrames w s = ([], s) :=
  splitFrames_none (takeFrame_eq_none (by omega))

/-- A frame in front of a stream is the first frame of it. -/
theorem splitFrames_frame_append (hw : 0 < w) (hbody : body.length < 256 ^ w)
    (rest : List UInt8) :
    splitFrames w (frame w body ++ rest) =
      (body :: (splitFrames w rest).1, (splitFrames w rest).2) :=
  splitFrames_some hw (takeFrame_frame hbody rest)

/-- A frame is cut into its body. -/
theorem splitFrames_frame (hw : 0 < w) (hbody : body.length < 256 ^ w) :
    splitFrames w (frame w body) = ([body], []) := by
  have h := splitFrames_frame_append hw hbody []
  rw [List.append_nil, splitFrames_short (s := []) hw] at h
  exact h

/-- A part of a frame is not cut. -/
theorem splitFrames_part (hbody : body.length < 256 ^ w) {k : ℕ}
    (hk : k < w + body.length) :
    splitFrames w ((frame w body).take k) = ([], (frame w body).take k) := by
  by_cases hkw : k < w
  · apply splitFrames_short
    rw [List.length_take]
    omega
  · have htake : ((frame w body).take k).take w = writeBE w body.length := by
      rw [List.take_take, Nat.min_eq_left (by omega), frame, List.take_left' (length_writeBE w _)]
    apply splitFrames_none
    apply takeFrame_eq_none
    rw [htake, readBE_writeBE w _ hbody, List.length_take, length_frame]
    omega

/-- A stream is cut into the same frames however it arrives. The induction is on
    the length of what arrives first. -/
theorem splitFrames_append (hw : 0 < w) (s t : List UInt8) :
    splitFrames w (s ++ t) =
      ((splitFrames w s).1 ++ (splitFrames w ((splitFrames w s).2 ++ t)).1,
        (splitFrames w ((splitFrames w s).2 ++ t)).2) := by
  induction hlen : s.length using Nat.strong_induction_on generalizing s with
  | _ n ih =>
    cases htake : takeFrame w s with
    | none => simp [splitFrames_none htake]
    | some p =>
      have hrest := length_of_takeFrame htake
      rw [splitFrames_some hw (takeFrame_append htake t), splitFrames_some hw htake,
        ih p.2.length (by omega) p.2 rfl]
      rfl

end Framing
