import Mathlib.Tactic.ByContra
import Mathlib.Tactic.SplitIfs
import SearchPath.Archive.TailFile

/-!
# Files read from an offset, and the part they show

A `TailFile` is to behave like an open file of its own that holds the octets from the offset on.

1. `InStep` relates the two: the same octets ahead, at the same position.
2. A call is answered alike and leaves the two in step, unless it is a seek that strays before the
   offset, or one to a position that only the part has room for (`InStep.perform_iff`).
3. A seek that strays fails on both. It leaves the part as it was, but the whole file before the
   offset (`InStep.perform_of_strays`), where reading goes on.
4. Main result (`tail_compares_with_part`): both for a whole run of calls, and how the two come to
   be in step again.
-/

namespace SearchPath

/-! ## Calls -/

/-- A call on an open file. -/
inductive FileCall where
  | read (size : Nat)
  | seek (target : SeekTarget)
  deriving DecidableEq, Repr

/-- The answer to a call. Why a seek failed does not count. -/
inductive FileAnswer where
  | octets (bytes : List UInt8)
  | position (position : Nat)
  | failure
  deriving DecidableEq, Repr

/-- The answer that a seek gives. -/
def FileAnswer.ofSeek : Except SeekFault Nat → FileAnswer
  | .ok found => .position found
  | .error _ => .failure

/-- The answer to a call, and the file after it. -/
def OpenFile.perform (file : OpenFile) : FileCall → FileAnswer × OpenFile
  | .read size => (.octets (file.read size).1, (file.read size).2)
  | .seek target => (.ofSeek (file.seek target).1, (file.seek target).2)

/-- The answer to a call, and the file after it. -/
def TailFile.perform (file : TailFile) : FileCall → FileAnswer × TailFile
  | .read size => (.octets (file.read size).1, (file.read size).2)
  | .seek target => (.ofSeek (file.seek target).1, (file.seek target).2)

/-- The answers to the calls one after the other, and the file after them. -/
def performCalls {φ : Type} (perform : φ → FileCall → FileAnswer × φ) :
    φ → List FileCall → List FileAnswer × φ
  | file, [] => ([], file)
  | file, call :: calls =>
    let first := perform file call
    let later := performCalls perform first.2 calls
    (first.1 :: later.1, later.2)

/-- Every call has the property at the file that it is made on. -/
def Along (p : OpenFile → FileCall → Prop) : OpenFile → List FileCall → Prop
  | _, [] => True
  | file, call :: calls => p file call ∧ Along p (file.perform call).2 calls

/-! ## Seeking -/

/-- The target is counted from the start or from the end, and not from the position. -/
def SeekTarget.IsAbsolute : SeekTarget → Prop
  | .start _ => True
  | .current _ => False
  | .fromEnd _ => True

namespace OpenFile

variable {file : OpenFile} {target : SeekTarget}

theorem perform_seek_of_mem
    (h : 0 ≤ file.target target ∧ file.target target ≤ positionLimit) :
    file.perform (.seek target) = (.position (file.target target).toNat,
      { file with position := (file.target target).toNat }) := by
  simp only [perform, seek, if_pos h]
  rfl

theorem perform_seek_of_not_mem
    (h : ¬(0 ≤ file.target target ∧ file.target target ≤ positionLimit)) :
    file.perform (.seek target) = (.failure, file) := by
  simp only [perform, seek, if_neg h]
  rfl

end OpenFile

namespace TailFile

open OpenFile (positionLimit)

variable {tail : TailFile} {part : OpenFile} {call : FileCall} {target : SeekTarget}

/-- The position in the whole file that a target names. -/
def wholeTarget (tail : TailFile) (target : SeekTarget) : Int :=
  tail.file.target (tail.absolute target)

/-- The file read from the same offset at another position. -/
def movedTo (tail : TailFile) (position : Nat) : TailFile :=
  ⟨⟨tail.file.content, position⟩, tail.offset⟩

theorem perform_seek_of_mem
    (h : tail.offset ≤ tail.wholeTarget target ∧ tail.wholeTarget target ≤ positionLimit) :
    tail.perform (.seek target) =
      (.position ((tail.wholeTarget target).toNat - tail.offset),
        tail.movedTo (tail.wholeTarget target).toNat) := by
  have hmem : 0 ≤ tail.file.target (tail.absolute target) ∧
      tail.file.target (tail.absolute target) ≤ positionLimit := by
    unfold wholeTarget at h
    omega
  have hoffset : tail.offset ≤ (tail.file.target (tail.absolute target)).toNat := by
    unfold wholeTarget at h
    omega
  simp only [perform, seek, OpenFile.seek, if_pos hmem, if_pos hoffset]
  rfl

/-- A seek before the offset fails after the move. -/
theorem perform_seek_before
    (h : 0 ≤ tail.wholeTarget target ∧ tail.wholeTarget target < tail.offset)
    (hlimit : tail.wholeTarget target ≤ positionLimit) :
    tail.perform (.seek target) = (.failure, tail.movedTo (tail.wholeTarget target).toNat) := by
  have hmem : 0 ≤ tail.file.target (tail.absolute target) ∧
      tail.file.target (tail.absolute target) ≤ positionLimit := ⟨h.1, hlimit⟩
  have hoffset : ¬tail.offset ≤ (tail.file.target (tail.absolute target)).toNat := by
    unfold wholeTarget at h
    omega
  simp only [perform, seek, OpenFile.seek, if_pos hmem, if_neg hoffset]
  rfl

theorem perform_seek_of_not_mem
    (h : ¬(0 ≤ tail.wholeTarget target ∧ tail.wholeTarget target ≤ positionLimit)) :
    tail.perform (.seek target) = (.failure, tail) := by
  have hmem : ¬(0 ≤ tail.file.target (tail.absolute target) ∧
      tail.file.target (tail.absolute target) ≤ positionLimit) := h
  simp only [perform, seek, OpenFile.seek, if_neg hmem]
  rfl

/-! ## In step -/

/-- The other file is the part of the file from the offset on. -/
structure Shows (tail : TailFile) (part : OpenFile) : Prop where
  content : part.content = tail.file.content.drop tail.offset
  offset_le : tail.offset ≤ tail.file.content.length
  offset_le_limit : tail.offset ≤ positionLimit

/-- The other file is the part from the offset on, at the same place. -/
structure InStep (tail : TailFile) (part : OpenFile) : Prop extends Shows tail part where
  position : tail.file.position = part.position + tail.offset

/-- The seek leads before the offset, but not before the start of the whole file. -/
def Strays (offset : Nat) (part : OpenFile) : FileCall → Prop
  | .read _ => False
  | .seek target => part.target target < 0 ∧ 0 ≤ part.target target + offset

instance (offset : Nat) (part : OpenFile) (call : FileCall) :
    Decidable (Strays offset part call) :=
  match call with
  | .read _ => inferInstanceAs (Decidable False)
  | .seek _ => inferInstanceAs (Decidable (_ ∧ _))

/-- If there is such a position in the part, there is one in the whole file. -/
def InReach (offset : Nat) (part : OpenFile) : FileCall → Prop
  | .read _ => True
  | .seek target => 0 ≤ part.target target → part.target target ≤ positionLimit →
    part.target target + offset ≤ positionLimit

theorem InStep.wholeTarget_eq (h : InStep tail part) (target : SeekTarget) :
    tail.wholeTarget target = part.target target + tail.offset := by
  have hlength := congrArg List.length h.content
  have hoffset := h.offset_le
  have hposition := h.position
  rw [List.length_drop] at hlength
  cases target <;> simp only [wholeTarget, absolute, OpenFile.target] <;> omega

/-- A seek from the start or from the end does not depend on the position. -/
theorem Shows.wholeTarget_eq (h : Shows tail part) (habsolute : target.IsAbsolute) :
    tail.wholeTarget target = part.target target + tail.offset := by
  have hlength := congrArg List.length h.content
  have hoffset := h.offset_le
  rw [List.length_drop] at hlength
  cases target with
  | start position => simp only [wholeTarget, absolute, OpenFile.target]; omega
  | current distance => cases habsolute
  | fromEnd distance => simp only [wholeTarget, absolute, OpenFile.target]; omega

/-- **Seeking.** A seek to a position of the part that the whole file has too brings the two in
step. -/
theorem Shows.perform_seek (h : Shows tail part)
    (hwhole : tail.wholeTarget target = part.target target + tail.offset)
    (hpos : 0 ≤ part.target target) (hlimit : part.target target + tail.offset ≤ positionLimit) :
    (tail.perform (.seek target)).1 = (part.perform (.seek target)).1 ∧
      InStep (tail.perform (.seek target)).2 (part.perform (.seek target)).2 := by
  rw [perform_seek_of_mem (by omega), OpenFile.perform_seek_of_mem (by omega), hwhole]
  have hnat : (part.target target + tail.offset).toNat =
      (part.target target).toNat + tail.offset := by omega
  rw [hnat, Nat.add_sub_cancel]
  exact ⟨rfl, ⟨h.content, h.offset_le, h.offset_le_limit⟩, rfl⟩

theorem InStep.perform_read (h : InStep tail part) (size : Nat) :
    (tail.perform (.read size)).1 = (part.perform (.read size)).1 ∧
      InStep (tail.perform (.read size)).2 (part.perform (.read size)).2 := by
  have hahead : tail.file.content.drop tail.file.position = part.content.drop part.position := by
    rw [h.content, List.drop_drop, h.position, Nat.add_comm]
  simp only [perform, OpenFile.perform, read, OpenFile.read, hahead, true_and]
  refine ⟨⟨h.content, h.offset_le, h.offset_le_limit⟩, ?_⟩
  show tail.file.position + _ = part.position + _ + tail.offset
  rw [h.position]
  omega

/-- **Straying.** A seek before the offset fails on both. The part stays where it is, and the whole
file is left at the position before the offset. -/
theorem InStep.perform_of_strays (h : InStep tail part) (hs : Strays tail.offset part call) :
    ∃ before, before < tail.offset ∧ tail.perform call = (.failure, tail.movedTo before) ∧
      part.perform call = (.failure, part) := by
  cases call with
  | read size => exact hs.elim
  | seek target =>
    obtain ⟨hneg, hpos⟩ := hs
    have hwhole := h.wholeTarget_eq target
    have hlimit := h.offset_le_limit
    refine ⟨(tail.wholeTarget target).toNat, by omega, ?_, ?_⟩
    · exact perform_seek_before (by omega) (by omega)
    · exact OpenFile.perform_seek_of_not_mem (by omega)

/-- **A call in step.** It is answered alike and leaves the two in step exactly if it does not stray
and does not lead where only the part has a position. -/
theorem InStep.perform_iff (h : InStep tail part) (call : FileCall) :
    ((tail.perform call).1 = (part.perform call).1 ∧
        InStep (tail.perform call).2 (part.perform call).2) ↔
      ¬Strays tail.offset part call ∧ InReach tail.offset part call := by
  constructor
  · rintro ⟨hanswer, hstep⟩
    constructor
    · intro hs
      obtain ⟨before, hlt, htail, hpart⟩ := h.perform_of_strays hs
      rw [htail, hpart] at hstep
      have hposition : before = part.position + tail.offset := hstep.position
      omega
    · cases call with
      | read size => trivial
      | seek target =>
        intro hpos hle
        by_contra hfar
        have hwhole := h.wholeTarget_eq target
        rw [perform_seek_of_not_mem (by omega), OpenFile.perform_seek_of_mem ⟨hpos, hle⟩]
          at hanswer
        cases hanswer
  · rintro ⟨hstray, hreach⟩
    cases call with
    | read size => exact h.perform_read size
    | seek target =>
      have hwhole := h.wholeTarget_eq target
      by_cases hpos : 0 ≤ part.target target ∧ part.target target ≤ positionLimit
      · exact h.toShows.perform_seek hwhole hpos.1 (hreach hpos.1 hpos.2)
      · have hout : ¬(0 ≤ tail.wholeTarget target ∧ tail.wholeTarget target ≤ positionLimit) := by
          intro hin
          refine hstray ⟨?_, by omega⟩
          omega
        rw [perform_seek_of_not_mem hout, OpenFile.perform_seek_of_not_mem hpos]
        exact ⟨rfl, h⟩

/-! ## Runs -/

/-- A call changes nothing but the position. -/
theorem exists_perform_eq_movedTo (tail : TailFile) (call : FileCall) :
    ∃ position, (tail.perform call).2 = tail.movedTo position := by
  cases call with
  | read size => exact ⟨_, rfl⟩
  | seek target =>
    simp only [perform, seek, OpenFile.seek]
    split_ifs
    · exact ⟨_, rfl⟩
    · exact ⟨tail.file.position, rfl⟩

theorem exists_performCalls_eq_movedTo (tail : TailFile) (calls : List FileCall) :
    ∃ position, (performCalls perform tail calls).2 = tail.movedTo position := by
  induction calls generalizing tail with
  | nil => exact ⟨tail.file.position, rfl⟩
  | cons call calls ih =>
    obtain ⟨first, hfirst⟩ := exists_perform_eq_movedTo tail call
    obtain ⟨last, hlast⟩ := ih (tail.perform call).2
    refine ⟨last, ?_⟩
    rw [performCalls, hlast, hfirst]
    rfl

theorem offset_perform (tail : TailFile) (call : FileCall) :
    (tail.perform call).2.offset = tail.offset := by
  obtain ⟨position, he⟩ := exists_perform_eq_movedTo tail call
  rw [he]
  rfl

/-- The two answer the calls alike and are in step after them. -/
def AlikeOn (tail : TailFile) (part : OpenFile) (calls : List FileCall) : Prop :=
  (performCalls perform tail calls).1 = (performCalls OpenFile.perform part calls).1 ∧
    InStep (performCalls perform tail calls).2 (performCalls OpenFile.perform part calls).2

theorem alikeOn_nil : AlikeOn tail part [] ↔ InStep tail part :=
  and_iff_right rfl

theorem alikeOn_cons {calls : List FileCall} :
    AlikeOn tail part (call :: calls) ↔
      (tail.perform call).1 = (part.perform call).1 ∧
        AlikeOn (tail.perform call).2 (part.perform call).2 calls := by
  simp only [AlikeOn, performCalls, List.cons.injEq, and_assoc]

/-- **A run in step.** The calls up to any point are answered alike, and leave the two in step,
exactly if none of the calls strays or leads where only the part has a position. -/
theorem InStep.alikeOn_iff {calls : List FileCall} (h : InStep tail part) :
    (∀ done, done <+: calls → AlikeOn tail part done) ↔
      Along (fun file call => ¬Strays tail.offset file call ∧ InReach tail.offset file call) part
        calls := by
  induction calls generalizing tail part with
  | nil =>
    refine iff_of_true (fun done hd => ?_) trivial
    rw [List.prefix_nil.1 hd]
    exact alikeOn_nil.2 h
  | cons call calls ih =>
    rw [Along, ← h.perform_iff call]
    constructor
    · intro hall
      have hfirst := alikeOn_cons.1 (hall [call] (List.prefix_append [call] calls))
      have hstep := alikeOn_nil.1 hfirst.2
      refine ⟨⟨hfirst.1, hstep⟩, ?_⟩
      rw [← offset_perform tail call, ← ih hstep]
      intro done hd
      exact (alikeOn_cons.1 (hall (call :: done) (List.prefix_cons_iff.2 (.inr ⟨done, rfl, hd⟩)))).2
    · rintro ⟨⟨hanswer, hstep⟩, hrest⟩ done hd
      rw [← offset_perform tail call, ← ih hstep] at hrest
      rcases List.prefix_cons_iff.1 hd with rfl | ⟨later, rfl, hlater⟩
      · exact alikeOn_nil.2 h
      · exact alikeOn_cons.2 ⟨hanswer, hrest later hlater⟩

/-- What a straying call does to a file of this content, read from this offset, and to its part. -/
structure Astray (content : List UInt8) (offset : Nat) (tail : TailFile) (part : OpenFile)
    (call : FileCall) : Prop where
  /-- It fails on both, and the part stays as it was. -/
  fails : (tail.perform call).1 = .failure ∧ part.perform call = (.failure, part)
  /-- The whole file is left before the offset, and is read from there. -/
  reads_before : ∃ before, before < offset ∧
    (tail.perform call).2 = ⟨⟨content, before⟩, offset⟩ ∧
    ∀ size, ((tail.perform call).2.perform (.read size)).1 =
      .octets ((content.drop before).take size)
  /-- A seek from the start or from the end brings the two in step again. -/
  returns : ∀ target, target.IsAbsolute → 0 ≤ part.target target →
    part.target target + offset ≤ positionLimit →
      ((tail.perform call).2.perform (.seek target)).1 = (part.perform (.seek target)).1 ∧
        InStep ((tail.perform call).2.perform (.seek target)).2 (part.perform (.seek target)).2

theorem InStep.astray (h : InStep tail part) (hs : Strays tail.offset part call) :
    Astray tail.file.content tail.offset tail part call := by
  obtain ⟨before, hlt, htail, hpart⟩ := h.perform_of_strays hs
  refine ⟨⟨by rw [htail], hpart⟩, ⟨before, hlt, by rw [htail]; rfl, ?_⟩, ?_⟩
  · intro size
    rw [htail]
    rfl
  · intro target habsolute hpos hlimit
    have hshows : Shows (tail.movedTo before) part := ⟨h.content, h.offset_le, h.offset_le_limit⟩
    rw [htail]
    exact hshows.perform_seek (hshows.wholeTarget_eq habsolute) hpos hlimit

/-- A file at the offset is in step with its part at the start. -/
theorem inStep_atStart {content : List UInt8} {offset : Nat} (hoffset : offset ≤ content.length)
    (hlimit : content.length ≤ positionLimit) :
    InStep ⟨⟨content, offset⟩, offset⟩ (OpenFile.atStart (content.drop offset)) where
  content := rfl
  offset_le := hoffset
  offset_le_limit := Nat.le_trans hoffset hlimit
  position := (Nat.zero_add offset).symm

theorem open?_eq {content : List UInt8} {offset : Nat} (h : offset ≤ positionLimit) :
    open? content offset = .ok ⟨⟨content, offset⟩, offset⟩ := by
  have hmem : 0 ≤ (OpenFile.atStart content).target (.start offset) ∧
      (OpenFile.atStart content).target (.start offset) ≤ positionLimit := by
    simp only [OpenFile.target]
    omega
  simp only [open?, OpenFile.seek, if_pos hmem]
  rfl

/-- **The part behind an offset.** A file opened at an offset answers a run of calls like a file of
the octets from there on, call by call, exactly if no seek of the run strays before the offset or
leads where only the part has a position. The first seek that strays leaves the file before the
offset. -/
theorem tail_compares_with_part {content : List UInt8} {offset : Nat}
    (hoffset : offset ≤ content.length) (hlimit : content.length ≤ positionLimit) :
    ∃ tail, open? content offset = .ok tail ∧ ∀ calls,
      let part := OpenFile.atStart (content.drop offset)
      ((∀ done, done <+: calls → AlikeOn tail part done) ↔
        Along (fun file call => ¬Strays offset file call ∧ InReach offset file call) part calls) ∧
      (AlikeOn tail part calls →
        ∀ call, Strays offset (performCalls OpenFile.perform part calls).2 call →
          Astray content offset (performCalls perform tail calls).2
            (performCalls OpenFile.perform part calls).2 call) := by
  have hstep := inStep_atStart hoffset hlimit
  refine ⟨_, open?_eq (Nat.le_trans hoffset hlimit), fun calls =>
    ⟨hstep.alikeOn_iff, fun hcalls call hs => ?_⟩⟩
  obtain ⟨position, hafter⟩ := exists_performCalls_eq_movedTo ⟨⟨content, offset⟩, offset⟩ calls
  have hbehind := hcalls.2
  rw [hafter] at hbehind ⊢
  exact hbehind.astray hs

/-- One octet back from an offset: the seek fails, and the next read gives the octet before the
offset. -/
theorem tail_one_back :
    let content : List UInt8 := [1, 2, 3, 4]
    let part := OpenFile.atStart (content.drop 2)
    let back : FileCall := .seek (.current (-1))
    2 ≤ content.length ∧ content.length ≤ positionLimit ∧ ∃ tail, open? content 2 = .ok tail ∧
      AlikeOn tail part [] ∧ Strays 2 part back ∧ Astray content 2 tail part back ∧
      (performCalls perform tail [back, .read 1]).1 = [.failure, .octets [2]] ∧
      (performCalls OpenFile.perform part [back, .read 1]).1 = [.failure, .octets [3]] := by
  intro content part back
  have hoffset : 2 ≤ content.length := by decide
  have hlimit : content.length ≤ positionLimit := by decide
  obtain ⟨tail, hopen, hcalls⟩ := tail_compares_with_part hoffset hlimit
  have htail : tail = ⟨⟨content, 2⟩, 2⟩ := by
    rw [open?_eq (by decide)] at hopen
    exact (Except.ok.inj hopen).symm
  have halike : AlikeOn tail part [] := (hcalls []).1.2 trivial [] List.nil_prefix
  have hstrays : Strays 2 part back := by decide
  refine ⟨hoffset, hlimit, tail, hopen, halike, hstrays, (hcalls []).2 halike back hstrays, ?_, ?_⟩
  · rw [htail]
    decide
  · decide

end TailFile

end SearchPath
