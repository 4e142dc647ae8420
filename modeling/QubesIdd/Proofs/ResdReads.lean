import QubesIdd.Library.LineBuffer
import QubesIdd.Library.Runs
import QubesIdd.Resd

/-! What a poll does, told by the bytes it reads: they go through the line buffer one after
another, wherever the chunks and the polls end. -/

namespace QubesIdd.Resd
open Library Library.Runs

abbrev newline : UInt8 := char '\n'

def withoutCR (line : Bytes) : Bytes := line.filter (· ≠ char '\r')

/-- The buffer of `wmain`. -/
def lineBuffer : LineBuffer UInt8 := ⟨newline, char '\r', LINE_LIMIT⟩

/-- The requests that bytes record behind a line already begun. -/
def recorded (line bytes : Bytes) : List (UInt32 × UInt32) := (lineBuffer.handedOver line bytes).filterMap pendingRequest

@[simp] theorem recorded_nil (line : Bytes) : recorded line [] = [] := rfl

theorem recorded_append (line first last : Bytes) :
    recorded line (first ++ last) = recorded line first ++ recorded (lineBuffer.rest line first) last := by
  rw [recorded, lineBuffer.handedOver_append, List.filterMap_append]
  rfl

theorem readByte_recorded (tick : UInt32) (state : State) (c : UInt8) :
    (readByte tick state c).updates = state.updates ++ recorded state.line [c] ∧
      (readByte tick state c).line = lineBuffer.push state.line c := by
  unfold readByte
  by_cases ends : c = char '\n' ∨ state.line.length ≥ LINE_LIMIT
  · have ended : lineBuffer.Ends state.line c := ends
    rw [if_pos ends]
    cases asked : pendingRequest state.line with
    | none => simp [recorded, LineBuffer.handedOver, LineBuffer.push, ended, asked]
    | some size => simp [recorded, LineBuffer.handedOver, LineBuffer.push, ended, asked]
  · have unended : ¬ lineBuffer.Ends state.line c := ends
    rw [if_neg ends]
    by_cases kept : c ≠ char '\r'
    · have stored : lineBuffer.push state.line c = state.line ++ [c] := (if_neg unended).trans (if_pos kept)
      rw [if_pos kept, stored]
      exact ⟨by simp [recorded, LineBuffer.handedOver, unended], rfl⟩
    · have dropped : lineBuffer.push state.line c = state.line := (if_neg unended).trans (if_neg kept)
      rw [if_neg kept, dropped]
      exact ⟨by simp [recorded, LineBuffer.handedOver, unended], rfl⟩

theorem readBytes_recorded (tick : UInt32) (bytes : Bytes) (state : State) :
    (bytes.foldl (readByte tick) state).updates = state.updates ++ recorded state.line bytes ∧
      (bytes.foldl (readByte tick) state).line = lineBuffer.rest state.line bytes := by
  induction bytes generalizing state with
  | nil => simp [recorded, LineBuffer.handedOver, LineBuffer.rest]
  | cons c bytes ih =>
    obtain ⟨updates, line⟩ := readByte_recorded tick state c
    obtain ⟨laterUpdates, laterLine⟩ := ih (readByte tick state c)
    have split : recorded state.line (c :: bytes) = recorded state.line [c] ++ recorded (lineBuffer.push state.line c) bytes :=
      recorded_append state.line [c] bytes
    rw [List.foldl_cons, laterUpdates, laterLine, updates, line, split, List.append_assoc]
    exact ⟨rfl, rfl⟩

theorem recorded_fits {line text : Bytes} (plain : newline ∉ text) (room : line.length + (withoutCR text).length < LINE_LIMIT) :
    recorded line text = [] ∧ recorded line (text ++ [newline]) = (pendingRequest (line ++ withoutCR text)).toList := by
  have unfinished := (@LineBuffer.rest_fits _ _ lineBuffer line text plain room).2
  have finished : lineBuffer.handedOver line (text ++ [newline]) = [line ++ withoutCR text] :=
    lineBuffer.handedOver_fits plain room
  rw [recorded, recorded, unfinished, finished]
  cases asked : pendingRequest (line ++ withoutCR text) <;> simp [asked]

theorem recorded_ends {line : Bytes} {c : UInt8} (ends : lineBuffer.Ends line c) :
    recorded line [c] = (pendingRequest line).toList := by
  cases asked : pendingRequest line <;> simp [recorded, LineBuffer.handedOver, ends, asked]

section
variable {line text : Bytes} (plain : newline ∉ text) (kept : char '\r' ∉ text)
  (room : text = [] ∨ line.length + text.length ≤ LINE_LIMIT)
include plain kept room

theorem recorded_full {c : UInt8} (ends : lineBuffer.Ends (line ++ text) c) (behind : Bytes) :
    recorded line (text ++ c :: behind) = (pendingRequest (line ++ text)).toList ++ recorded [] behind := by
  obtain ⟨waits, nothing⟩ := @LineBuffer.rest_full _ _ lineBuffer line text plain kept room
  have silent : recorded line text = [] := by rw [recorded, nothing, List.filterMap_nil]
  have emptied : lineBuffer.rest (line ++ text) [c] = [] := if_pos ends
  rw [recorded_append, silent, waits, List.nil_append, ← List.singleton_append, recorded_append, recorded_ends ends, emptied]

/-- A line that fills the buffer is read up to there, without the character that finds it
full, and then the rest of it. -/
theorem recorded_overflow (c : UInt8) (full : LINE_LIMIT ≤ line.length + text.length) {last : Bytes} (behind : newline ∉ last)
    (short : (withoutCR last).length < LINE_LIMIT) :
    recorded line (text ++ c :: (last ++ [newline])) =
      (pendingRequest (line ++ text)).toList ++ (pendingRequest (withoutCR last)).toList := by
  have later := (@recorded_fits [] last behind (by rw [List.length_nil, Nat.zero_add]; exact short)).2
  rw [recorded_full plain kept room (.inr (by rw [List.length_append]; exact full)), later, List.nil_append]

end

theorem readByte_frame (tick : UInt32) (state : State) (c : UInt8) :
    (readByte tick state c).pos = state.pos ∧ (readByte tick state c).curLog = state.curLog := by
  unfold readByte
  split
  · split <;> exact ⟨rfl, rfl⟩
  · split <;> exact ⟨rfl, rfl⟩

theorem readBytes_frame (tick : UInt32) (buf : Bytes) (state : State) :
    (buf.foldl (readByte tick) state).pos = state.pos ∧ (buf.foldl (readByte tick) state).curLog = state.curLog :=
  run_preserves (fun later => later.pos = state.pos ∧ later.curLog = state.curLog)
    (fun later c same => ⟨(readByte_frame tick later c).1.trans same.1, (readByte_frame tick later c).2.trans same.2⟩)
    state buf ⟨rfl, rfl⟩

theorem debounce_frame (now : UInt32) (state : State) :
    (debounce now state).pos = state.pos ∧ (debounce now state).curLog = state.curLog ∧
      (debounce now state).line = state.line ∧ (debounce now state).updates = state.updates := by
  unfold debounce
  split <;> exact ⟨rfl, rfl, rfl, rfl⟩

theorem followNewest_preserves (property : State → Prop)
    (turn : ∀ state log, property state → property { state with curLog := some log, pos := 0, line := [] })
    (newest : Option String) (state : State) (start : property state) : property (followNewest newest state) := by
  unfold followNewest
  split
  next => exact start
  next =>
    split
    next => exact start
    next => exact turn state _ start

section
variable (property : State → Prop) (read : ∀ tick state c, property state → property (readByte tick state c))
  (seek : ∀ state pos, property state → property { state with pos })
include read seek

theorem readChunks_preserves (tick : UInt32) (content : Bytes) (reads : List Nat) (state : State)
    (start : property state) : property (readChunks tick content reads state) := by
  induction reads generalizing state with
  | nil => exact start
  | cons size reads ih =>
    simp only [readChunks]
    split
    next => exact start
    next =>
      apply ih
      apply seek
      exact run_preserves property (read tick) state _ start

/-- What every character, every turn to a log and every pause keeps, a poll keeps. -/
theorem poll_preserves
    (turn : ∀ state log, property state → property { state with curLog := some log, pos := 0, line := [] })
    (pause : ∀ now state, property state → property (debounce now state)) (state : State) (input : Poll)
    (start : property state) : property (poll state input) := by
  have turned := followNewest_preserves property turn input.newest state start
  apply pause
  unfold readLog
  split
  next => exact turned
  next =>
    apply readChunks_preserves property read seek
    split
    next => exact seek _ 0 turned
    next => exact turned

end

/-- The bytes have gone through the buffer, all else that matters here is as it was. -/
structure Reads (state : State) (bytes : Bytes) (after : State) : Prop where
  updates : after.updates = state.updates ++ recorded state.line bytes
  line : after.line = lineBuffer.rest state.line bytes
  log : after.curLog = state.curLog

theorem Reads.nothing {state after : State} (updates : after.updates = state.updates) (line : after.line = state.line)
    (log : after.curLog = state.curLog) : Reads state [] after :=
  ⟨updates.trans (List.append_nil _).symm, line, log⟩

theorem Reads.trans {state middle after : State} {first last : Bytes} (begun : Reads state first middle)
    (ended : Reads middle last after) : Reads state (first ++ last) after where
  updates := by rw [ended.updates, begun.updates, begun.line, recorded_append, List.append_assoc]
  line := by rw [ended.line, begun.line, lineBuffer.rest_append]
  log := ended.log.trans begun.log

/-- The bytes that one turn of the loop reads from an offset. -/
def chunksRead (content : Bytes) : List Nat → Nat → Bytes
  | [], _ => []
  | size :: reads, pos =>
    let buf := (content.drop pos).take (min size BUFFER_SIZE)
    if buf.isEmpty then [] else buf ++ chunksRead content reads (pos + buf.length)

theorem readChunks_reads (tick : UInt32) (content : Bytes) (reads : List Nat) (state : State) :
    let bytes := chunksRead content reads state.pos
    let after := readChunks tick content reads state
    Reads state bytes after ∧ after.pos = state.pos + bytes.length := by
  induction reads generalizing state with
  | nil => exact ⟨.nothing rfl rfl rfl, rfl⟩
  | cons size reads ih =>
    simp only [readChunks, chunksRead]
    split
    next => exact ⟨.nothing rfl rfl rfl, rfl⟩
    next =>
      generalize (content.drop state.pos).take (min size BUFFER_SIZE) = buf
      obtain ⟨updates, line⟩ := readBytes_recorded tick buf state
      obtain ⟨samePos, sameLog⟩ := readBytes_frame tick buf state
      have chunk : Reads state buf { buf.foldl (readByte tick) state with pos := (buf.foldl (readByte tick) state).pos + buf.length } :=
        ⟨updates, line, sameLog⟩
      obtain ⟨later, moved⟩ := ih { buf.foldl (readByte tick) state with pos := (buf.foldl (readByte tick) state).pos + buf.length }
      rw [samePos] at later moved chunk ⊢
      exact ⟨chunk.trans later, by rw [moved, List.length_append, Nat.add_assoc]⟩

/-- Where a poll starts to read: a log that is shorter than the offset is begun again. -/
def startPos (state : State) (input : Poll) : Nat := if input.size < state.pos then 0 else state.pos

/-- What a poll reads of the log it is following. -/
def pollRead (state : State) (input : Poll) : Bytes :=
  if state.curLog.isNone || !input.opened then [] else chunksRead input.content input.reads (startPos state input)

theorem readLog_reads (input : Poll) (state : State) :
    Reads state (pollRead state input) (readLog input state) ∧
      (readLog input state).pos =
        if state.curLog.isNone || !input.opened then state.pos else startPos state input + (pollRead state input).length := by
  unfold readLog pollRead
  split
  next => exact ⟨.nothing rfl rfl rfl, rfl⟩
  next =>
    unfold startPos
    split
    next =>
      obtain ⟨read, moved⟩ := readChunks_reads input.readTick input.content input.reads { state with pos := 0 }
      exact ⟨⟨read.updates, read.line, read.log⟩, moved⟩
    next => exact readChunks_reads input.readTick input.content input.reads state

theorem poll_reads (state : State) (input : Poll) :
    let turned := followNewest input.newest state
    Reads turned (pollRead turned input) (poll state input) ∧
      (poll state input).pos =
        if turned.curLog.isNone || !input.opened then turned.pos
        else startPos turned input + (pollRead turned input).length := by
  intro turned
  obtain ⟨read, moved⟩ := readLog_reads input turned
  obtain ⟨pos, curLog, line, updates⟩ := debounce_frame input.nowTick (readLog input turned)
  exact ⟨⟨updates.trans read.updates, line.trans read.line, curLog.trans read.log⟩, pos.trans moved⟩

/-- The poll turns to another log. -/
def turns (state : State) (input : Poll) : Bool := input.newest.any fun log => state.curLog ≠ some log

theorem followNewest_stays {state : State} {input : Poll} (stays : turns state input = false) :
    followNewest input.newest state = state := by
  unfold followNewest
  unfold turns at stays
  cases newest : input.newest with
  | none => rfl
  | some log =>
    have same : state.curLog = some log := by simpa [newest] using stays
    exact if_pos same

theorem followNewest_turns {state : State} {input : Poll} (turned : turns state input = true) :
    followNewest input.newest state = { state with curLog := input.newest, pos := 0, line := [] } := by
  unfold followNewest
  unfold turns at turned
  cases newest : input.newest with
  | none => simp [newest] at turned
  | some log =>
    have other : state.curLog ≠ some log := by simpa [newest] using turned
    exact if_neg other

end QubesIdd.Resd
