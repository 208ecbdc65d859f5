/-!
# Streams

A stream delivers octets in order, no more of them at a time than asked for. It may also deliver
at most so many at a time, and break at some offset: no read crosses that offset, and a read at
it fails. Main statement: reading to the end delivers all octets if they are in memory
(`readToEnd_ofOctets`).
-/

namespace SearchPath

structure ByteStream where
  /-- The octets still ahead. -/
  ahead : List UInt8
  /-- How many octets have been read. -/
  offset : Nat
  /-- The most octets that one read delivers. -/
  pace : Option Nat
  /-- The offset at which the stream breaks. -/
  breaksAt : Option Nat
  deriving DecidableEq, Repr

namespace ByteStream

def ofOctets (bytes : List UInt8) : ByteStream :=
  ⟨bytes, 0, none, none⟩

def breakMessage : String := "stream broke"

def room (stream : ByteStream) (size : Nat) : Nat :=
  min (min size (stream.pace.getD size)) ((stream.breaksAt.map (· - stream.offset)).getD size)

/-- One read: the octets delivered, or the wording of the failure, and the stream after it. -/
def read (stream : ByteStream) (size : Nat) : Except String (List UInt8) × ByteStream :=
  if stream.breaksAt = some stream.offset then (.error breakMessage, stream)
  else
    let bytes := stream.ahead.take (stream.room size)
    (.ok bytes,
      { stream with
        ahead := stream.ahead.drop (stream.room size)
        offset := stream.offset + bytes.length })

/-- The octets asked for by one read on the way to the end. -/
def blockSize : Nat := 8192

theorem ahead_read {stream next : ByteStream} {size : Nat} {bytes : List UInt8}
    (h : stream.read size = (.ok bytes, next)) : stream.ahead = bytes ++ next.ahead := by
  unfold read at h
  split at h
  · simp at h
  · simp only [Prod.mk.injEq, Except.ok.injEq] at h
    obtain ⟨rfl, rfl⟩ := h
    exact (List.take_append_drop _ _).symm

/-- Reads to the end: the octets delivered, the wording of the failure if one ended it, and the
stream after it. -/
def readToEnd (stream : ByteStream) : List UInt8 × Option String × ByteStream :=
  match _h : stream.read blockSize with
  | (.error text, next) => ([], some text, next)
  | (.ok [], next) => ([], none, next)
  | (.ok (b :: bytes), next) =>
    let rest := readToEnd next
    (b :: bytes ++ rest.1, rest.2)
termination_by stream.ahead.length
decreasing_by
  have := congrArg List.length (ahead_read _h)
  simp only [List.length_append, List.length_cons] at this
  omega

theorem readToEnd_of_unbroken (stream : ByteStream) (hpace : stream.pace = none)
    (hbreak : stream.breaksAt = none) :
    stream.readToEnd.1 = stream.ahead ∧ stream.readToEnd.2.1 = none := by
  have hread (stream : ByteStream) (hpace : stream.pace = none) (hbreak : stream.breaksAt = none) :
      stream.read blockSize = (.ok (stream.ahead.take blockSize),
        { stream with
          ahead := stream.ahead.drop blockSize
          offset := stream.offset + (stream.ahead.take blockSize).length }) := by
    have hroom : stream.room blockSize = blockSize := by
      unfold room
      rw [hpace, hbreak]
      rfl
    rw [read, hbreak, if_neg (Option.some_ne_none _).symm, hroom]
  fun_induction readToEnd stream with
  | case1 stream text next h =>
    rw [hread stream hpace hbreak] at h
    cases h
  | case2 stream next h =>
    rw [hread stream hpace hbreak] at h
    have hnil : stream.ahead.take blockSize = [] := Except.ok.inj (Prod.mk.inj h).1
    exact ⟨((List.take_eq_nil_iff.1 hnil).resolve_left (by decide)).symm, rfl⟩
  | case3 stream b bytes next h rest ih =>
    have hnext := (Prod.mk.inj ((hread stream hpace hbreak).symm.trans h)).2
    obtain ⟨hall, hnone⟩ := ih (by rw [← hnext]; exact hpace) (by rw [← hnext]; exact hbreak)
    exact ⟨by rw [hall, ahead_read h], hnone⟩

theorem readToEnd_ofOctets (bytes : List UInt8) :
    (ofOctets bytes).readToEnd.1 = bytes ∧ (ofOctets bytes).readToEnd.2.1 = none :=
  readToEnd_of_unbroken (ofOctets bytes) rfl rfl

def readSizes (stream : ByteStream) : List Nat → List (Except String (List UInt8)) × ByteStream
  | [] => ([], stream)
  | size :: rest =>
    let first := stream.read size
    let later := readSizes first.2 rest
    (first.1 :: later.1, later.2)

/-- How a stream is drained: to its end, or with one read of each size. -/
inductive Draining where
  | toEnd
  | reads (sizes : List Nat)
  deriving DecidableEq, Repr

inductive Drained where
  /-- The octets up to the end, or up to the failure with this wording. -/
  | whole (bytes : List UInt8) (failure : Option String)
  /-- The answers to the reads, one by one. -/
  | reads (answers : List (Except String (List UInt8)))

def drain (stream : ByteStream) : Draining → Drained × ByteStream
  | .toEnd =>
    let (bytes, failure, next) := stream.readToEnd
    (.whole bytes failure, next)
  | .reads sizes =>
    let (answers, next) := stream.readSizes sizes
    (.reads answers, next)

end ByteStream

end SearchPath
