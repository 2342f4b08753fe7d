import SchemaClasses.Json.Reader
import SchemaClasses.Proofs.Traversal

/-! How deep the brackets of a JSON value are nested. A text that can be read holds no value that is
nested more deeply than brackets may be open at once. -/

namespace SchemaClasses.Json

mutual

/-- The largest number of brackets around one place in a value. -/
def depth : Json → Nat
  | .array items => 1 + itemsDepth items
  | .object members => 1 + membersDepth members
  | _ => 0

def itemsDepth : List Json → Nat
  | [] => 0
  | v :: items => max v.depth (itemsDepth items)

def membersDepth : List (String × Json) → Nat
  | [] => 0
  | (_, v) :: members => max v.depth (membersDepth members)

end

theorem itemsDepth_le_iff {items : List Json} {n : Nat} :
    itemsDepth items ≤ n ↔ ∀ v ∈ items, v.depth ≤ n := by
  induction items with
  | nil => simp [itemsDepth]
  | cons v items ih => rw [itemsDepth, Nat.max_le, ih, List.forall_mem_cons]

theorem membersDepth_le_iff {members : List (String × Json)} {n : Nat} :
    membersDepth members ≤ n ↔ ∀ m ∈ members, m.2.depth ≤ n := by
  induction members with
  | nil => simp [membersDepth]
  | cons m members ih => rw [membersDepth, Nat.max_le, ih, List.forall_mem_cons]

theorem depth_lt_of_mem_items {items : List Json} {v : Json} (hv : v ∈ items) :
    v.depth < (Json.array items).depth := by
  have h := itemsDepth_le_iff.mp (Nat.le_refl (itemsDepth items)) v hv
  rw [depth]
  omega

theorem depth_lt_of_mem_members {members : List (String × Json)} {m : String × Json}
    (hm : m ∈ members) : m.2.depth < (Json.object members).depth := by
  have h := membersDepth_le_iff.mp (Nat.le_refl (membersDepth members)) m hm
  rw [depth]
  omega

theorem depth_lt_of_lastMember? {members : List (String × Json)} {name : String} {v : Json}
    (h : lastMember? name members = some v) : v.depth < (Json.object members).depth :=
  depth_lt_of_mem_members (mem_of_lastMember? h)

theorem depth_le_of_member? {v w : Json} {name : String} (h : v.member? name = some w) :
    w.depth ≤ v.depth := by
  cases v with
  | object members => exact Nat.le_of_lt (depth_lt_of_lastMember? h)
  | _ => cases h

/-! ### Reading -/

/-- What has been read behind an open bracket. -/
def Frame.contents : Frame → List Json
  | .array items => items
  | .object members | .member members _ => members.map Prod.snd

/-- The brackets that are open, and what stands behind each of them, keep to the limit. -/
def FramesFit : List Frame → Prop
  | [] => True
  | f :: frames => frames.length < nestingLimit ∧
    (∀ v ∈ f.contents, frames.length + 1 + v.depth ≤ nestingLimit) ∧ FramesFit frames

structure Reading.Fits (r : Reading) : Prop where
  frames : FramesFit r.frames
  result : r.result.depth ≤ nestingLimit

/-- A literal has no brackets. -/
def Token.IsFlat : Token → Prop
  | .literal v => v.depth = 0
  | _ => True

theorem eq_of_literal {value : Json} {letters cs tail : List Char} {t : Token}
    (h : literal value letters cs = .ok (t, tail)) : t = .literal value := by
  fun_induction literal value letters cs with
  | case1 rest =>
      cases h
      rfl
  | case2 => cases h
  | case3 letters c rest ih => exact ih h
  | case4 => cases h

theorem isFlat_of_token {cs tail : List Char} {t : Token} (h : token cs = .ok (t, tail)) :
    t.IsFlat := by
  unfold token at h
  split at h
  case h_7 | h_8 | h_9 =>
    rw [eq_of_literal h]
    rfl
  case h_10 =>
    obtain ⟨_, -, rfl⟩ := exists_of_map (f := Token.string) h
    trivial
  case h_11 =>
    obtain ⟨_, -, rfl⟩ := exists_of_map (f := Token.number) h
    trivial
  all_goals
    cases h
    trivial

namespace Reading

theorem fits_close {v : Json} {frames : List Frame} {r : Reading} (hframes : FramesFit frames)
    (hv : frames.length + v.depth ≤ nestingLimit) (h : close v frames = some r) : r.Fits := by
  unfold close at h
  split at h
  · cases h
    exact ⟨trivial, by simpa using hv⟩
  · cases h
    obtain ⟨hlength, hcontents, hframes⟩ := hframes
    refine ⟨⟨hlength, ?_, hframes⟩, Nat.zero_le _⟩
    exact List.forall_mem_cons.mpr ⟨hv, hcontents⟩
  · cases h
    obtain ⟨hlength, hcontents, hframes⟩ := hframes
    refine ⟨⟨hlength, ?_, hframes⟩, Nat.zero_le _⟩
    exact List.forall_mem_cons.mpr ⟨hv, hcontents⟩
  · cases h

theorem length_le_of_framesFit {frames : List Frame} (h : FramesFit frames) :
    frames.length ≤ nestingLimit := by
  cases frames with
  | nil => exact Nat.zero_le _
  | cons f frames => exact h.1

theorem fits_openFrame {frame : Frame} {expected : Expected} {frames : List Frame} {r : Reading}
    (hframes : FramesFit frames) (hempty : frame.contents = [])
    (h : openFrame frame expected frames = some r) : r.Fits := by
  unfold openFrame at h
  split at h
  · rename_i hlength
    cases h
    refine ⟨⟨hlength, ?_, hframes⟩, Nat.zero_le _⟩
    simp [hempty]
  · cases h

theorem fits_startValue {frames : List Frame} {t : Token} {r : Reading} (hframes : FramesFit frames)
    (ht : t.IsFlat) (h : startValue frames t = some r) : r.Fits := by
  have hlength := length_le_of_framesFit hframes
  cases t with
  | literal v => exact fits_close hframes (by rw [show v.depth = 0 from ht]; exact hlength) h
  | number n => exact fits_close hframes (by simpa [depth] using hlength) h
  | string text => exact fits_close hframes (by simpa [depth] using hlength) h
  | arrayOpen => exact fits_openFrame hframes rfl h
  | objectOpen => exact fits_openFrame hframes rfl h
  | _ => cases h

theorem fits_startMember {frames : List Frame} {t : Token} {r : Reading}
    (hframes : FramesFit frames) (h : startMember frames t = some r) : r.Fits := by
  unfold startMember at h
  split at h
  · cases h
    exact ⟨hframes, Nat.zero_le _⟩
  · cases h

theorem fits_closeBracket {frames : List Frame} {t : Token} {r : Reading}
    (hframes : FramesFit frames) (h : closeBracket frames t = some r) : r.Fits := by
  unfold closeBracket at h
  split at h
  · rename_i items frames
    obtain ⟨hlength, hcontents, hframes⟩ := hframes
    refine fits_close hframes ?_ h
    have hitems : itemsDepth items.reverse ≤ nestingLimit - frames.length - 1 := by
      rw [itemsDepth_le_iff]
      intro v hv
      have hfits := hcontents v (List.mem_reverse.mp hv)
      omega
    rw [depth]
    omega
  · rename_i members frames
    obtain ⟨hlength, hcontents, hframes⟩ := hframes
    refine fits_close hframes ?_ h
    have hmembers : membersDepth members.reverse ≤ nestingLimit - frames.length - 1 := by
      rw [membersDepth_le_iff]
      intro m hm
      have hfits := hcontents m.2 (List.mem_map_of_mem (List.mem_reverse.mp hm))
      omega
    rw [depth]
    omega
  · cases h

theorem fits_step {r r' : Reading} {t : Token} (hr : r.Fits) (ht : t.IsFlat)
    (h : r.step t = some r') : r'.Fits := by
  unfold step at h
  split at h
  case h_1 => exact fits_startValue hr.frames ht h
  case h_2 => exact fits_closeBracket hr.frames h
  case h_3 => exact fits_startValue hr.frames ht h
  case h_4 => exact fits_closeBracket hr.frames h
  case h_5 => exact fits_startMember hr.frames h
  case h_6 => exact fits_startMember hr.frames h
  case h_7 =>
    cases h
    exact ⟨hr.frames, hr.result⟩
  case h_8 =>
    split at h
    all_goals
      cases h
      exact ⟨hr.frames, hr.result⟩
  case h_9 => exact fits_closeBracket hr.frames h
  case h_10 => cases h

theorem fits_start : start.Fits := ⟨trivial, Nat.zero_le _⟩

end Reading

/-- Whatever is read fits, step by step. -/
theorem depth_le_of_readFrom {r : Reading} {cs : List Char} {v : Json} (hr : r.Fits)
    (h : readFrom r cs = .ok v) : v.depth ≤ nestingLimit := by
  fun_induction readFrom r cs with
  | case1 => cases h
  | case2 r cs hspace hend =>
      cases h
      exact hr.result
  | case3 | case4 | case5 => cases h
  | case6 r cs c rest hspace hfault t tail htoken next hnext ih =>
      exact ih (Reading.fits_step hr (isFlat_of_token htoken) hnext) h

/-- No value that can be read exceeds the limit. -/
theorem depth_le_of_read {text : String} {v : Json} (h : read text = .ok v) :
    v.depth ≤ nestingLimit :=
  depth_le_of_readFrom Reading.fits_start (mapError_eq_ok_iff.mp h)

end SchemaClasses.Json
