import Mathlib.Tactic.SplitIfs
import SearchPath.Container.Stream

/-!
# Draining

A source is read piece by piece. Each read answers with some of the octets ahead, at least one and
at most as many as asked for, until the end, where it answers with none, or a failure, where it
answers with its wording.

1. `gather` puts the answers together up to the end or the failure. Answers drain to an outcome
   (`DrainsTo`) if that is what they come to, however large the reads are.
2. A source that `Holds` octets and a failure behind them drains to one outcome
   (`Holds.drainsTo`): the octets, or the failure alone.
3. Every stream holds the octets that it can reach (`ByteStream.holds`), and reading it to the end
   gives the same (`ByteStream.readToEnd_of_holds`, `ByteStream.outcome_eq`).
-/

namespace SearchPath

/-! ## Answers -/

/-- The answer to one read, or to many: octets, or the wording of a failure. -/
abbrev ReadAnswer : Type :=
  Except String (List UInt8)

/-- What the answers come to: the octets up to the first answer without octets, or the first
failure. If there is neither, the end has not been reached. -/
def gather : List ReadAnswer → Option ReadAnswer
  | [] => none
  | .error text :: _ => some (.error text)
  | .ok [] :: _ => some (.ok [])
  | .ok (b :: bytes) :: rest =>
    (gather rest).map fun found => found.map fun later => b :: bytes ++ later

theorem gather_cons_of_ne_nil {bytes : List UInt8} (h : bytes ≠ []) (rest : List ReadAnswer) :
    gather (.ok bytes :: rest) =
      (gather rest).map fun found => found.map fun later => bytes ++ later := by
  obtain ⟨b, bytes, rfl⟩ := List.exists_cons_of_ne_nil h
  rfl

/-- What depends on the sizes of reads comes to one value: whatever the sizes are, to no other, and
to this one if there are enough of them. No read asks for nothing. -/
structure Settles {α : Type} (f : List Nat → Option α) (value : α) : Prop where
  agrees : ∀ sizes, (∀ size ∈ sizes, 0 < size) → ∀ found, f sizes = some found → found = value
  ends : ∃ bound, ∀ sizes, (∀ size ∈ sizes, 0 < size) → bound ≤ sizes.length →
    f sizes = some value

theorem Settles.unique {α : Type} {f : List Nat → Option α} {value other : α}
    (h : Settles f value) (ho : Settles f other) : value = other := by
  obtain ⟨bound, hbound⟩ := h.ends
  have hpos : ∀ size ∈ List.replicate bound 1, 0 < size := by
    intro size hm
    rw [List.eq_of_mem_replicate hm]
    exact Nat.one_pos
  exact ho.agrees _ hpos value (hbound _ hpos (Nat.le_of_eq List.length_replicate.symm))

theorem Settles.map {α β : Type} {f : List Nat → Option α} {value : α} (h : Settles f value)
    (g : α → β) : Settles (fun sizes => (f sizes).map g) (g value) where
  agrees sizes hpos found hfound := by
    obtain ⟨before, hbefore, rfl⟩ := Option.map_eq_some_iff.1 hfound
    rw [h.agrees sizes hpos before hbefore]
  ends := by
    obtain ⟨bound, hbound⟩ := h.ends
    refine ⟨bound, fun sizes hpos hlength => ?_⟩
    show (f sizes).map g = _
    rw [hbound sizes hpos hlength]
    rfl

/-- The answers come to this outcome, however large the reads are. -/
def DrainsTo (answers : List Nat → List ReadAnswer) (outcome : ReadAnswer) : Prop :=
  Settles (fun sizes => gather (answers sizes)) outcome

theorem DrainsTo.iff_eq {answers : List Nat → List ReadAnswer} {outcome other : ReadAnswer}
    (h : DrainsTo answers outcome) : DrainsTo answers other ↔ outcome = other :=
  ⟨h.unique, fun he => he ▸ h⟩

/-! ## Sources -/

section Sources

variable {σ : Type} {read : σ → Nat → ReadAnswer × σ} {source : σ} {bytes : List UInt8}
  {failure : Option String}

/-- The answers to reads of these sizes, one after the other. -/
def readAll (read : σ → Nat → ReadAnswer × σ) : σ → List Nat → List ReadAnswer
  | _, [] => []
  | source, size :: sizes => (read source size).1 :: readAll read (read source size).2 sizes

theorem take_ne_nil {n : Nat} (hpos : 0 < n) (hle : n ≤ bytes.length) : bytes.take n ≠ [] := by
  intro he
  have hlength := congrArg List.length he
  rw [List.length_take, List.length_nil] at hlength
  omega

/-- The source has these octets ahead, and this failure or none behind them. How many octets it
gives at a time is up to it, as long as it gives at least one and no more than asked for. -/
inductive Holds (read : σ → Nat → ReadAnswer × σ) : σ → List UInt8 → Option String → Prop
  | ended {source : σ} (h : ∀ size, 0 < size → (read source size).1 = .ok []) :
      Holds read source [] none
  | broken {source : σ} {text : String}
      (h : ∀ size, 0 < size → (read source size).1 = .error text) :
      Holds read source [] (some text)
  | more {source : σ} {bytes : List UInt8} {failure : Option String} (count : Nat → Nat)
      (hcount : ∀ size, 0 < size → 0 < count size ∧ count size ≤ size ∧ count size ≤ bytes.length)
      (hread : ∀ size, 0 < size → (read source size).1 = .ok (bytes.take (count size)))
      (hrest : ∀ size, 0 < size →
        Holds read (read source size).2 (bytes.drop (count size)) failure) :
      Holds read source bytes failure

/-- What a source comes to: with a failure behind them the octets do not count. -/
def outcomeOf (bytes : List UInt8) : Option String → ReadAnswer
  | none => .ok bytes
  | some text => .error text

theorem map_outcomeOf (before bytes : List UInt8) (failure : Option String) :
    ((outcomeOf bytes failure).map fun later => before ++ later) =
      outcomeOf (before ++ bytes) failure := by
  cases failure <;> rfl

/-- Reads of a source come to its outcome, unless there are no more of them than octets. -/
theorem Holds.gather_readAll (h : Holds read source bytes failure) {sizes : List Nat}
    (hpos : ∀ size ∈ sizes, 0 < size) :
    gather (readAll read source sizes) = some (outcomeOf bytes failure) ∨
      gather (readAll read source sizes) = none ∧ sizes.length ≤ bytes.length := by
  induction h generalizing sizes with
  | ended h =>
    cases sizes with
    | nil => exact .inr ⟨rfl, Nat.le_refl 0⟩
    | cons size sizes =>
      rw [readAll, h size (hpos size List.mem_cons_self)]
      exact .inl rfl
  | broken h =>
    cases sizes with
    | nil => exact .inr ⟨rfl, Nat.le_refl 0⟩
    | cons size sizes =>
      rw [readAll, h size (hpos size List.mem_cons_self)]
      exact .inl rfl
  | @more source bytes failure count hcount hread hrest ih =>
    cases sizes with
    | nil => exact .inr ⟨rfl, Nat.zero_le _⟩
    | cons size sizes =>
      have hsize := hpos size List.mem_cons_self
      obtain ⟨hc, -, hle⟩ := hcount size hsize
      rw [readAll, hread size hsize, gather_cons_of_ne_nil (take_ne_nil hc hle)]
      rcases ih size hsize fun other hm => hpos other (List.mem_cons_of_mem _ hm) with
        hrest | ⟨hrest, hlength⟩
      · left
        rw [hrest, Option.map_some, map_outcomeOf, List.take_append_drop]
      · right
        rw [List.length_drop] at hlength
        rw [hrest, List.length_cons]
        exact ⟨rfl, by omega⟩

/-- **Draining a source.** It comes to the same outcome whatever the sizes of the reads are. -/
theorem Holds.drainsTo (h : Holds read source bytes failure) :
    DrainsTo (readAll read source) (outcomeOf bytes failure) where
  agrees sizes hpos found hfound := by
    rcases h.gather_readAll hpos with hall | ⟨hnone, -⟩
    · exact Option.some.inj (hfound.symm.trans hall)
    · rw [hnone] at hfound
      cases hfound
  ends := by
    refine ⟨bytes.length + 1, fun sizes hpos hlength => ?_⟩
    rcases h.gather_readAll hpos with hall | ⟨-, hle⟩
    · exact hall
    · omega

end Sources

/-! ## Streams -/

namespace ByteStream

variable {stream : ByteStream} {size : Nat}

/-- How many octets the stream delivers before it ends or breaks. -/
def reach (stream : ByteStream) : Nat :=
  if stream.pace = some 0 then 0
  else min stream.ahead.length
    ((stream.breaksAt.map (· - stream.offset)).getD stream.ahead.length)

/-- The wording of the failure behind the octets that are delivered, if there is one. -/
def failure (stream : ByteStream) : Option String :=
  if stream.breaksAt = some (stream.offset + stream.reach) then some breakMessage else none

/-- How many octets the next read of this size delivers. -/
def count (stream : ByteStream) (size : Nat) : Nat :=
  min (stream.room size) stream.ahead.length

/-- The stream so many octets later. -/
def advance (stream : ByteStream) (n : Nat) : ByteStream :=
  { stream with ahead := stream.ahead.drop n, offset := stream.offset + n }

theorem read_of_broken (h : stream.breaksAt = some stream.offset) (size : Nat) :
    stream.read size = (.error breakMessage, stream) :=
  if_pos h

theorem read_eq (h : stream.breaksAt ≠ some stream.offset) (size : Nat) :
    stream.read size =
      (.ok (stream.ahead.take (stream.count size)), stream.advance (stream.count size)) := by
  have htake : stream.ahead.take (stream.room size) = stream.ahead.take (stream.count size) :=
    List.take_eq_take_min
  have hdrop : stream.ahead.drop (stream.room size) = stream.ahead.drop (stream.count size) := by
    rw [count]
    rcases Nat.le_total (stream.room size) stream.ahead.length with hle | hle
    · rw [Nat.min_eq_left hle]
    · rw [Nat.min_eq_right hle, List.drop_length, List.drop_eq_nil_of_le hle]
  have hlength : (stream.ahead.take (stream.room size)).length = stream.count size :=
    List.length_take
  rw [read, if_neg h]
  dsimp only
  rw [hlength, htake, hdrop]
  rfl

theorem count_le (stream : ByteStream) (size : Nat) :
    stream.count size ≤ size ∧ stream.count size ≤ stream.reach := by
  unfold count room reach
  cases stream.pace <;> cases stream.breaksAt <;> grind

theorem count_pos (h : 0 < stream.reach) (hsize : 0 < size) : 0 < stream.count size := by
  unfold reach at h
  unfold count room
  cases hp : stream.pace <;> cases hb : stream.breaksAt <;> grind

theorem reach_advance {n : Nat} (h : n ≤ stream.reach) :
    (stream.advance n).reach = stream.reach - n := by
  unfold reach at h ⊢
  unfold advance
  cases hp : stream.pace <;> cases hb : stream.breaksAt <;> grind

theorem failure_advance {n : Nat} (h : n ≤ stream.reach) :
    (stream.advance n).failure = stream.failure := by
  have hplace : (stream.advance n).offset + (stream.advance n).reach =
      stream.offset + stream.reach := by
    rw [reach_advance h]
    show stream.offset + n + (stream.reach - n) = _
    omega
  rw [failure, hplace]
  rfl

theorem reach_le (stream : ByteStream) : stream.reach ≤ stream.ahead.length := by
  unfold reach
  split_ifs
  · exact Nat.zero_le _
  · exact Nat.min_le_left _ _

/-- The octets that the stream delivers. -/
def delivered (stream : ByteStream) : List UInt8 :=
  stream.ahead.take stream.reach

theorem length_delivered (stream : ByteStream) : stream.delivered.length = stream.reach := by
  rw [delivered, List.length_take, Nat.min_eq_left stream.reach_le]

theorem delivered_advance {n : Nat} (h : n ≤ stream.reach) :
    (stream.advance n).delivered = stream.delivered.drop n := by
  rw [delivered, delivered, reach_advance h, List.drop_take]
  rfl

theorem take_delivered {n : Nat} (h : n ≤ stream.reach) :
    stream.delivered.take n = stream.ahead.take n := by
  rw [delivered, List.take_take, Nat.min_eq_left h]

/-- **What a stream holds.** These are the octets that it can reach. -/
theorem holds (stream : ByteStream) : Holds read stream stream.delivered stream.failure := by
  induction hn : stream.reach using Nat.strongRecOn generalizing stream with
  | ind n ih =>
    subst hn
    by_cases hreach : stream.reach = 0
    · have hnil : stream.delivered = [] := by rw [delivered, hreach, List.take_zero]
      rw [hnil, failure, hreach, Nat.add_zero]
      split_ifs with hbreak
      · refine .broken fun size _ => ?_
        rw [read_of_broken hbreak]
      · refine .ended fun size _ => ?_
        have hcount : stream.count size = 0 := by
          have hle := stream.count_le size
          omega
        rw [read_eq hbreak, hcount, List.take_zero]
    · have hpos : 0 < stream.reach := Nat.pos_of_ne_zero hreach
      have hbreak : stream.breaksAt ≠ some stream.offset := by
        intro hb
        apply hreach
        simp [reach, hb]
      refine .more stream.count (fun size hsize => ?_) (fun size hsize => ?_) fun size hsize => ?_
      · obtain ⟨hle, hle'⟩ := stream.count_le size
        rw [length_delivered]
        exact ⟨count_pos hpos hsize, hle, hle'⟩
      · rw [read_eq hbreak, take_delivered (stream.count_le size).2]
      · have hle := (stream.count_le size).2
        have hcount := count_pos hpos hsize
        rw [read_eq hbreak, ← delivered_advance hle, ← failure_advance hle]
        refine ih _ ?_ _ rfl
        rw [reach_advance hle]
        omega

/-! ## Reading to the end -/

theorem readToEnd_of_error {text : String} (h : (stream.read blockSize).1 = .error text) :
    stream.readToEnd.1 = [] ∧ stream.readToEnd.2.1 = some text := by
  rw [readToEnd]
  split
  next heq =>
    rw [heq] at h
    cases h
    exact ⟨rfl, rfl⟩
  next heq =>
    rw [heq] at h
    cases h
  next heq =>
    rw [heq] at h
    cases h

theorem readToEnd_of_end (h : (stream.read blockSize).1 = .ok []) :
    stream.readToEnd.1 = [] ∧ stream.readToEnd.2.1 = none := by
  rw [readToEnd]
  split
  next heq =>
    rw [heq] at h
    cases h
  next => exact ⟨rfl, rfl⟩
  next heq =>
    rw [heq] at h
    cases h

theorem readToEnd_of_more {bytes : List UInt8} (h : (stream.read blockSize).1 = .ok bytes)
    (hne : bytes ≠ []) :
    stream.readToEnd.1 = bytes ++ (stream.read blockSize).2.readToEnd.1 ∧
      stream.readToEnd.2.1 = (stream.read blockSize).2.readToEnd.2.1 := by
  rw [readToEnd]
  split
  next heq =>
    rw [heq] at h
    cases h
  next heq =>
    rw [heq] at h
    exact absurd (Except.ok.inj h).symm hne
  next heq =>
    rw [heq] at h ⊢
    rw [← Except.ok.inj h]
    exact ⟨rfl, rfl⟩

/-- Reading to the end gives what the stream holds. -/
theorem readToEnd_of_holds {bytes : List UInt8} {failure : Option String}
    (h : Holds read stream bytes failure) :
    stream.readToEnd.1 = bytes ∧ stream.readToEnd.2.1 = failure := by
  have hblock : 0 < blockSize := by decide
  induction h with
  | ended h => exact readToEnd_of_end (h blockSize hblock)
  | broken h => exact readToEnd_of_error (h blockSize hblock)
  | more count hcount hread hrest ih =>
    obtain ⟨hpos, -, hle⟩ := hcount blockSize hblock
    obtain ⟨hbytes, hfailure⟩ :=
      readToEnd_of_more (hread blockSize hblock) (take_ne_nil hpos hle)
    rw [hbytes, hfailure, (ih blockSize hblock).1, (ih blockSize hblock).2, List.take_append_drop]
    exact ⟨rfl, rfl⟩

/-- The answers to reads of these sizes. -/
def answers (stream : ByteStream) (sizes : List Nat) : List ReadAnswer :=
  (stream.readSizes sizes).1

theorem answers_eq (stream : ByteStream) : stream.answers = readAll read stream := by
  funext sizes
  induction sizes generalizing stream with
  | nil => rfl
  | cons size sizes ih =>
    rw [readAll, ← ih]
    rfl

/-- What reading to the end comes to. -/
def outcome (stream : ByteStream) : ReadAnswer :=
  outcomeOf stream.readToEnd.1 stream.readToEnd.2.1

theorem outcome_eq (stream : ByteStream) :
    stream.outcome = outcomeOf stream.delivered stream.failure := by
  obtain ⟨hbytes, hfailure⟩ := readToEnd_of_holds stream.holds
  rw [outcome, hbytes, hfailure]

/-- **Draining a stream.** Reads of all sizes come to what reading it to the end comes to. -/
theorem drainsTo (stream : ByteStream) : DrainsTo stream.answers stream.outcome := by
  rw [outcome_eq, answers_eq]
  exact stream.holds.drainsTo

theorem outcome_eq_ok_iff {bytes : List UInt8} :
    stream.outcome = .ok bytes ↔ stream.readToEnd.1 = bytes ∧ stream.readToEnd.2.1 = none := by
  unfold outcome
  cases stream.readToEnd.2.1 with
  | none => simp [outcomeOf]
  | some text => simp [outcomeOf]

theorem outcome_ofOctets (bytes : List UInt8) : (ofOctets bytes).outcome = .ok bytes := by
  obtain ⟨hbytes, hfailure⟩ := readToEnd_ofOctets bytes
  rw [outcome, hbytes, hfailure]
  rfl

end ByteStream

end SearchPath
