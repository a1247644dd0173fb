import Relay.Bytes.BigEndian

namespace Relay.Frame

abbrev Bytes := List UInt8

/-- Why a frame is refused: its payload is longer than the limit, or the stream ends inside it. -/
inductive Error where
  | tooLarge (length limit : Nat)
  | truncated (needed remaining : Nat)
  deriving DecidableEq, Repr

def Error.message : Error → String
  | .tooLarge length limit => s!"frame of {length} bytes exceeds limit of {limit} bytes"
  | .truncated needed remaining =>
    s!"stream ended with a partial frame ({remaining} bytes buffered, {needed} bytes needed)"

def headerLength : Nat := 4

def greatestLength : Nat := 2 ^ 32 - 1

/-- The limit on payloads where none is set: sixteen mebibytes. -/
def defaultLimit : Nat := 16 * 1024 * 1024

def encode (limit : Nat) (payload : Bytes) : Except Error Bytes :=
  let limit := min limit greatestLength
  if limit < payload.length then .error (.tooLarge payload.length limit)
  else .ok (BigEndian.bytes headerLength payload.length ++ payload)

/-- Appends a payload to a buffer as one frame; a refused one leaves the buffer as it was. -/
def append (limit : Nat) (payload buffer : Bytes) : Except Error Unit × Bytes :=
  match encode limit payload with
  | .ok frame => (.ok (), buffer ++ frame)
  | .error e => (.error e, buffer)

/-- The length that a buffer announces, once its header is whole. -/
def announced? (buffer : Bytes) : Option Nat :=
  if buffer.length < headerLength then none
  else some (BigEndian.value (buffer.take headerLength))

/-- Takes the next whole frame from the front of a buffer; none while it is incomplete. -/
def decode (limit : Nat) (buffer : Bytes) : Except Error (Option Bytes) × Bytes :=
  match announced? buffer with
  | none => (.ok none, buffer)
  | some length =>
    if limit < length then (.error (.tooLarge length limit), buffer)
    else if buffer.length < headerLength + length then (.ok none, buffer)
    else
      let body := buffer.drop headerLength
      (.ok (some (body.take length)), body.drop length)

/-- Takes the next frame once nothing more will arrive: a partial frame is now a refusal. -/
def decodeEnd (limit : Nat) (buffer : Bytes) : Except Error (Option Bytes) × Bytes :=
  match decode limit buffer with
  | (.ok none, rest) =>
    if rest.isEmpty then (.ok none, rest)
    else
      let needed := headerLength + (announced? rest).getD 0
      (.error (.truncated needed rest.length), rest)
  | other => other

theorem length_lt_of_decode {limit : Nat} {buffer rest payload : Bytes}
    (h : decode limit buffer = (.ok (some payload), rest)) : rest.length < buffer.length := by
  unfold decode announced? at h
  split at h
  · simp at h
  · next length heq =>
    split at heq
    · simp at heq
    · next hlen =>
      split at h
      · simp at h
      · split at h
        · simp at h
        · simp only [Prod.mk.injEq] at h
          obtain ⟨_, rfl⟩ := h
          simp only [headerLength] at *
          simp only [List.length_drop]
          omega

/-- The frames that a buffer yields until it yields none, and what ended the row: a refusal, or none
when the rest of the buffer is incomplete. -/
structure Drained where
  frames : List Bytes
  refusal : Option Error
  rest : Bytes
  deriving DecidableEq, Repr

/-- Takes frames until one is incomplete or refused. -/
def drain (limit : Nat) (buffer : Bytes) : Drained :=
  match _h : decode limit buffer with
  | (.ok (some payload), rest) =>
    let more := drain limit rest
    { more with frames := payload :: more.frames }
  | (.ok none, rest) => ⟨[], none, rest⟩
  | (.error e, rest) => ⟨[], some e, rest⟩
termination_by buffer.length
decreasing_by exact length_lt_of_decode _h

end Relay.Frame
