import Mathlib.Data.List.Forall2
import Mathlib.Data.List.ReduceOption
import QubesIdd.Library.Lines
import QubesIdd.Proofs.ResdReads
import QubesIdd.Proofs.ResdText

/-! Following a log: the line buffer holds the unfinished line of what has been read,
however the log is cut into chunks and polls, so the updates are those its lines ask
for. -/

namespace QubesIdd.Resd
open Library Library.Lines Library.Runs

/-- A line's request, or that it makes none. -/
def Asks (line : Bytes) (request : Option (UInt32 × UInt32)) : Prop :=
  ∀ w hh, request = some (w, hh) ↔ Requests line w hh

/-- The updates are the requests of the lines, in order. -/
def Collected (lines : List Bytes) (updates : List (UInt32 × UInt32)) : Prop :=
  ∃ requests, List.Forall₂ Asks lines requests ∧ updates = requests.reduceOption

/-- The log as the agent writes it: no NUL, no line beyond the buffer, numerals that
fit an `int`. -/
structure LogText (stream : Bytes) (complete : List Bytes) (rest : Bytes) : Prop where
  splits : Splits newline stream complete rest
  nulFree : 0 ∉ stream
  short : ∀ line, line ∈ complete ∨ line = rest → (withoutCR line).length ≤ 1022
  range : ∀ line ∈ complete, IntRange (withoutCR line)

/-- Each poll finds the log at least as long as the one before, with the same bytes. -/
def Appended (stream : Bytes) : Nat → List Poll → Prop
  | _, [] => True
  | written, input :: rest =>
    (written ≤ input.size ∧ input.size ≤ input.content.length ∧ input.content <+: stream) ∧
      Appended stream input.content.length rest

/-- The first poll turns to the log, all later ones stay with it, and it is only
appended to. -/
structure Follows (log : String) (stream : Bytes) (polls : List Poll) : Prop where
  turns : ∃ first ∈ polls.head?, first.newest = some log
  newest : ∀ input ∈ polls, input.newest = none ∨ input.newest = some log
  appended : Appended stream 0 polls

/-- The state after the bytes in `done`, computed from them alone; `prior` are the
updates from before. -/
structure Tracks (prior : List (UInt32 × UInt32)) (state : State) (done : Bytes) : Prop where
  line : state.line = withoutCR (cut newline done).rest
  updates : ∃ found, state.updates = prior ++ found ∧ Collected ((cut newline done).complete.map withoutCR) found

theorem collected_asks {lines : List Bytes} (asks : ∀ line ∈ lines, Asks line (pendingRequest line)) :
    Collected lines (lines.filterMap pendingRequest) := by
  refine ⟨lines.map pendingRequest, ?_, ?_⟩
  · rw [List.forall₂_map_right_iff, List.forall₂_same]
    exact asks
  · simp [List.reduceOption, List.filterMap_map]

section
variable {stream rest done : Bytes} {complete : List Bytes} (text : LogText stream complete rest) (begins : done <+: stream)
include text begins

/-- What has been read ends in the beginning of a line, and lines of the log come before. -/
theorem LogText.lines_read : (cut newline done).complete ⊆ complete ∧ (withoutCR (cut newline done).rest).length ≤ 1022 := by
  obtain ⟨later, rfl⟩ := begins
  obtain ⟨grown, line, place, begun⟩ := foldl_push_grows newline (cut newline done) later
  rw [← cut_append, text.splits.cut_eq] at grown place
  exact ⟨grown.subset, Nat.le_trans (begun.filter _).length_le (text.short line place)⟩

/-- The buffer holds the unfinished line, and what has been recorded are the requests of
the others. -/
theorem LogText.buffered :
    lineBuffer.rest [] done = withoutCR (cut newline done).rest ∧
      Collected ((cut newline done).complete.map withoutCR) (recorded [] done) := by
  obtain ⟨inside, short⟩ := text.lines_read begins
  have splits := cut_splits newline done
  obtain ⟨waits, lines⟩ := @LineBuffer.lines_fit _ _ lineBuffer _ _ splits.unbroken
    (fun line member => Nat.lt_succ_of_le (text.short line (.inl (inside member)))) splits.unfinished
    (Nat.lt_succ_of_le short)
  have joined : (cut newline done).complete.flatMap (· ++ [lineBuffer.separator]) ++ (cut newline done).rest = done :=
    splits.joined.symm
  rw [joined] at waits lines
  refine ⟨waits, ?_⟩
  rw [recorded, lines]
  apply collected_asks
  intro line member
  obtain ⟨original, present, rfl⟩ := List.mem_map.mp member
  have nulFree : 0 ∉ withoutCR original := fun nul =>
    text.nulFree (text.splits.mem (inside present) (List.mem_of_mem_filter nul))
  exact pendingRequest_iff nulFree (text.range original (inside present))

end

theorem take_append_chunk {stream content : Bytes} {pos : Nat} (begins : content <+: stream) (inside : pos ≤ content.length)
    (size : Nat) :
    stream.take pos ++ (content.drop pos).take size = stream.take (pos + ((content.drop pos).take size).length) ∧
      pos + ((content.drop pos).take size).length ≤ content.length := by
  obtain ⟨later, rfl⟩ := begins
  have bound : pos + ((content.drop pos).take size).length ≤ content.length := by
    rw [List.length_take, List.length_drop]
    omega
  refine ⟨?_, bound⟩
  rw [List.take_append_of_le_length inside, List.take_append_of_le_length bound, List.take_add, List.length_take,
    ← List.take_take, List.take_length]

theorem chunksRead_slice {stream content : Bytes} (begins : content <+: stream) (reads : List Nat) {pos : Nat}
    (inside : pos ≤ content.length) :
    stream.take pos ++ chunksRead content reads pos = stream.take (pos + (chunksRead content reads pos).length) ∧
      pos + (chunksRead content reads pos).length ≤ content.length := by
  induction reads generalizing pos with
  | nil => simp [chunksRead, inside]
  | cons size reads ih =>
    simp only [chunksRead]
    split
    next => simp [inside]
    next =>
      obtain ⟨continued, bound⟩ := take_append_chunk begins inside (min size BUFFER_SIZE)
      generalize (content.drop pos).take (min size BUFFER_SIZE) = buf at continued bound
      obtain ⟨later, within⟩ := ih bound
      rw [List.length_append, ← List.append_assoc, continued, later, Nat.add_assoc]
      exact ⟨rfl, Nat.add_assoc .. ▸ within⟩

/-- Between polls: the state tracks what has been read of the log. -/
structure Following (log : String) (stream : Bytes) (prior : List (UInt32 × UInt32)) (state : State) : Prop where
  tracks : Tracks prior state (stream.take state.pos)
  log : state.curLog = some log

theorem followNewest_same {log : String} {state : State} {newest : Option String} (here : state.curLog = some log)
    (same : newest = none ∨ newest = some log) : followNewest newest state = state := by
  rcases same with rfl | rfl
  · rfl
  · simp [followNewest, here]

section
variable {log : String} {stream : Bytes} {start state : State} (here : start.curLog = some log)
  (read : Reads start (stream.take state.pos) state)
include here read

/-- A poll that stays with the log reads on where the last one ended. -/
theorem Reads.poll (input : Poll) (newest : input.newest = none ∨ input.newest = some log) (written : state.pos ≤ input.size)
    (size : input.size ≤ input.content.length) (begins : input.content <+: stream) :
    Reads start (stream.take (poll state input).pos) (poll state input) ∧ (poll state input).pos ≤ input.content.length := by
  obtain ⟨turn, moved⟩ := poll_reads state input
  rw [followNewest_same (read.log.trans here) newest] at turn moved
  cases closed : state.curLog.isNone || !input.opened with
  | true =>
    rw [pollRead, closed, if_pos rfl] at turn
    rw [closed, if_pos rfl] at moved
    rw [moved]
    exact ⟨by simpa using read.trans turn, by omega⟩
  | false =>
    have place : startPos state input = state.pos := if_neg (by omega)
    obtain ⟨slice, bound⟩ := chunksRead_slice begins input.reads (show state.pos ≤ input.content.length by omega)
    rw [pollRead, closed, if_neg Bool.false_ne_true, place] at turn
    rw [closed, if_neg Bool.false_ne_true, place, pollRead, closed, if_neg Bool.false_ne_true, place] at moved
    rw [moved]
    exact ⟨slice ▸ read.trans turn, bound⟩

theorem Reads.run (polls : List Poll) (written : Nat) (reached : state.pos ≤ written)
    (newest : ∀ input ∈ polls, input.newest = none ∨ input.newest = some log) (appended : Appended stream written polls) :
    Reads start (stream.take (Library.Runs.run Resd.poll state polls).pos) (Library.Runs.run Resd.poll state polls) := by
  induction polls generalizing state written with
  | nil => exact read
  | cons input polls ih =>
    obtain ⟨⟨grown, size, begins⟩, later⟩ := appended
    obtain ⟨next, within⟩ := read.poll here input (newest input List.mem_cons_self) (by omega) size begins
    exact ih next _ within (fun other member => newest other (List.mem_cons_of_mem _ member)) later

end

/-- From whatever state the polls turn to the log. -/
theorem Following.whole {log : String} {stream rest : Bytes} {complete : List Bytes} (text : LogText stream complete rest)
    (start : State) (other : start.curLog ≠ some log) {polls : List Poll} (follows : Follows log stream polls) :
    Following log stream start.updates (run poll start polls) := by
  have turned : followNewest (some log) start = { start with curLog := some log, pos := 0, line := [] } := if_neg other
  obtain ⟨first, isFirst, turns⟩ := follows.turns
  obtain ⟨later, rfl⟩ := List.head?_eq_some_iff.mp isFirst
  have same : poll (followNewest (some log) start) first = poll start first := by
    rw [poll, poll, turns, turned]
    exact congrArg _ (congrArg _ (followNewest_same rfl (.inr rfl)))
  have fresh : Reads (followNewest (some log) start) (stream.take (followNewest (some log) start).pos)
      (followNewest (some log) start) := by
    rw [turned]
    exact .nothing rfl rfl rfl
  have here : (followNewest (some log) start).curLog = some log := by rw [turned]
  have read := fresh.run here (first :: later) 0 (by rw [turned]) follows.newest follows.appended
  rw [run_cons, same, ← run_cons, turned] at read
  obtain ⟨line, collected⟩ := text.buffered (List.take_prefix (run poll start (first :: later)).pos stream)
  exact ⟨⟨read.line.trans line, _, read.updates, collected⟩, read.log⟩

theorem readByte_bound (tick : UInt32) (state : State) (c : UInt8) (bound : state.line.length ≤ LINE_LIMIT) :
    (readByte tick state c).line.length ≤ LINE_LIMIT := by
  unfold readByte
  split
  next => split <;> exact Nat.zero_le _
  next room =>
    rw [not_or] at room
    split
    next =>
      rw [List.length_append]
      exact Nat.succ_le_of_lt (Nat.lt_of_not_ge room.2)
    next => exact bound

/-- No poll, whatever it finds, takes the write index past the buffer's last byte. -/
theorem poll_bound (state : State) (input : Poll) (bound : state.line.length ≤ LINE_LIMIT) :
    (poll state input).line.length ≤ LINE_LIMIT := by
  apply poll_preserves (fun later => later.line.length ≤ LINE_LIMIT) readByte_bound
  · exact fun _ _ kept => kept
  · exact fun _ _ _ => Nat.zero_le _
  · intro now later kept
    obtain ⟨_, _, line, _⟩ := debounce_frame now later
    rw [line]
    exact kept
  · exact bound

/-- From the poll on that turns to a log, the updates are the requests of the complete
lines read so far, however the log is cut; and the line buffer is never overrun,
whatever is read. -/
theorem updates_follow_lines :
    (∀ (log : String) (stream : Bytes) (complete : List Bytes) (rest : Bytes) (start : State) (polls : List Poll),
      LogText stream complete rest → Follows log stream polls → start.curLog ≠ some log →
        let final := run poll start polls
        ∃ found, final.updates = start.updates ++ found ∧
          (∃ read unfinished, Splits newline (stream.take final.pos) read unfinished ∧
            Collected (read.map withoutCR) found) ∧
          (final.pos = stream.length → Collected (complete.map withoutCR) found)) ∧
    ∀ (polls : List Poll) (newest : Option String) (tick : UInt32) (bytes : Bytes),
      (bytes.foldl (readByte tick) (followNewest newest (run poll {} polls))).line.length ≤ 1023 := by
  refine ⟨fun log stream complete rest start polls text follows other => ?_, fun polls newest tick bytes => ?_⟩
  · intro final
    obtain ⟨found, updates, collected⟩ := (Following.whole text start other follows).tracks.updates
    refine ⟨found, updates, ⟨_, _, cut_splits newline (stream.take final.pos), collected⟩, fun whole => ?_⟩
    rwa [show (run poll start polls).pos = stream.length from whole, List.take_length, text.splits.cut_eq] at collected
  · have between := run_preserves (fun state : State => state.line.length ≤ LINE_LIMIT) poll_bound {} polls (Nat.zero_le _)
    apply run_preserves (fun state : State => state.line.length ≤ LINE_LIMIT) (readByte_bound tick)
    exact followNewest_preserves (fun state => state.line.length ≤ LINE_LIMIT) (fun _ _ _ => Nat.zero_le _) newest _ between

private def resizeLine : Bytes := "resolution change: 800x600\r".toList.map char

private def resizeLog : Bytes := resizeLine ++ [newline]

/-- The first poll ends inside the height, its chunk boundary inside the width. -/
private def resizePolls : List Poll :=
  [{ newest := some "gui.log", opened := true, size := 25, content := resizeLog.take 25, reads := [20, 8192]
     readTick := 1, nowTick := 2 },
   { newest := some "gui.log", opened := true, size := 28, content := resizeLog, reads := [8192]
     readTick := 3, nowTick := 4 }]

private theorem resizeLine_range : IntRange (withoutCR resizeLine) := by
  intro after w hh follows spells
  have found : (strstr marker (withoutCR resizeLine)).map (·.drop 19) = some ("800x600".toList.map char) := by decide
  have scanned : scanSize ("800x600".toList.map char) = some (800, 600) := by decide
  rw [← strstr_marker, found] at follows
  cases follows
  rw [← scanSize_iff, scanned] at spells
  cases spells
  decide

theorem updates_follow_resize :
    ∃ found, (run poll {} resizePolls).updates = [] ++ found ∧ Collected [withoutCR resizeLine] found ∧ found = [(800, 600)] := by
  have text : LogText resizeLog [resizeLine] [] := by
    refine ⟨⟨by decide, by decide, by decide⟩, by decide, fun line place => ?_, fun line member => ?_⟩
    · rcases place with member | rfl
      · cases List.mem_singleton.mp member
        decide
      · decide
    · cases List.mem_singleton.mp member
      exact resizeLine_range
  have follows : Follows "gui.log" resizeLog resizePolls :=
    ⟨⟨_, rfl, rfl⟩, by decide, by decide, by decide, trivial⟩
  obtain ⟨found, updates, _, whole⟩ :=
    updates_follow_lines.1 "gui.log" resizeLog [resizeLine] [] {} resizePolls text follows (by decide)
  refine ⟨found, updates, whole (by decide), ?_⟩
  rw [← List.nil_append found, ← show (run poll {} resizePolls).updates = [] ++ found from updates]
  decide

end QubesIdd.Resd
