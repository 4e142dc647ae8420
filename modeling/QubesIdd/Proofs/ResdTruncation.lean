import QubesIdd.Proofs.ResdOverflow

/-! A log that has become shorter is read from its start, with the line of the old content
still in the buffer: what the new content records, with and without that line. -/

namespace QubesIdd.Resd
open Library Library.Runs

/-- Two readers at the same place of the same log. -/
structure SamePlace (state other : State) : Prop where
  log : state.curLog = other.curLog
  pos : state.pos = other.pos

theorem SamePlace.followNewest {state other : State} (place : SamePlace state other) (newest : Option String) :
    SamePlace (followNewest newest state) (followNewest newest other) := by
  unfold Resd.followNewest
  cases newest with
  | none => exact place
  | some log =>
    dsimp only
    rw [place.log]
    split
    · exact place
    · exact ⟨rfl, rfl⟩

theorem SamePlace.pollRead {state other : State} (place : SamePlace state other) (input : Poll) :
    pollRead state input = pollRead other input := by
  simp only [Resd.pollRead, startPos, place.log, place.pos]

theorem SamePlace.poll {state other : State} (place : SamePlace state other) (input : Poll) :
    SamePlace (poll state input) (poll other input) := by
  obtain ⟨read, moved⟩ := poll_reads state input
  obtain ⟨otherRead, otherMoved⟩ := poll_reads other input
  have turned := place.followNewest input.newest
  refine ⟨read.log.trans (turned.log.trans otherRead.log.symm), ?_⟩
  rw [moved, otherMoved, turned.pollRead, startPos, startPos, turned.log, turned.pos]

/-- The bytes that polls read until they turn to another log. -/
def contentRead : State → List Poll → Bytes
  | _, [] => []
  | state, input :: polls =>
    if turns state input then [] else pollRead state input ++ contentRead (poll state input) polls

/-- Two readers at the same place record the same but for what the bytes up to the next
log give behind their own lines. -/
theorem SamePlace.recorded {state other : State} (place : SamePlace state other) (polls : List Poll) :
    ∃ later, (run Resd.poll state polls).updates = state.updates ++ recorded state.line (contentRead state polls) ++ later ∧
      (run Resd.poll other polls).updates = other.updates ++ Resd.recorded other.line (contentRead state polls) ++ later := by
  induction polls generalizing state other with
  | nil => exact ⟨[], by simp [contentRead]⟩
  | cons input polls ih =>
    obtain ⟨later, here, there⟩ := ih (place.poll input)
    obtain ⟨read, _⟩ := poll_reads state input
    obtain ⟨otherRead, _⟩ := poll_reads other input
    rw [← (place.followNewest input.newest).pollRead] at otherRead
    rw [run_cons, run_cons, here, there, read.updates, read.line, otherRead.updates, otherRead.line]
    cases turned : turns state input with
    | true =>
      -- Both buffers are empty at the new log, and so what follows is the same.
      have otherTurned : turns other input = true := by rwa [turns, ← place.log]
      rw [followNewest_turns turned, followNewest_turns otherTurned, contentRead, if_pos turned]
      generalize Resd.pollRead _ input = bytes
      exact ⟨Resd.recorded [] bytes ++
        (Resd.recorded (lineBuffer.rest [] bytes) (contentRead (Resd.poll state input) polls) ++ later), by simp, by simp⟩
    | false =>
      have otherStays : turns other input = false := by rwa [turns, ← place.log]
      rw [followNewest_stays turned, followNewest_stays otherStays, contentRead, if_neg (by simp [turned])]
      exact ⟨later, by simp [recorded_append], by simp [recorded_append]⟩

/-- The poll finds the log it is following shorter than what has been read of it. -/
structure Truncated (state : State) (input : Poll) : Prop where
  followed : state.curLog.isSome = true
  stays : turns state input = false
  opened : input.opened = true
  shorter : input.size < state.pos

/-- The reader as it would be at the start of a fresh log of this name. -/
def State.afresh (state : State) : State := { state with pos := 0, line := [] }

theorem Truncated.rewound {state : State} {input : Poll} (truncated : Truncated state input) (polls : List Poll) :
    let rewound := { state with pos := 0 }
    run poll state (input :: polls) = run poll rewound (input :: polls) ∧
      contentRead state (input :: polls) = contentRead rewound (input :: polls) := by
  intro rewound
  have stays : turns rewound input = false := truncated.stays
  have read : readLog input state = readLog input rewound := by
    simp [readLog, rewound, truncated.shorter, truncated.opened, Option.isSome_iff_ne_none.mp truncated.followed]
  have same : poll state input = poll rewound input := by
    rw [poll, poll, followNewest_stays truncated.stays, followNewest_stays stays, read]
  have bytes : pollRead state input = pollRead rewound input := by
    simp [pollRead, startPos, rewound, truncated.shorter]
  refine ⟨by rw [run_cons, run_cons, same], ?_⟩
  rw [contentRead, contentRead, truncated.stays, stays, bytes, same]

/-- From the truncation on, the same requests are recorded as from a fresh log. -/
def RecordsAfresh (state : State) (polls : List Poll) : Prop :=
  (run poll state polls).updates = (run poll state.afresh polls).updates

section
variable {state : State} {input : Poll} (truncated : Truncated state input) (polls : List Poll)
include truncated

theorem recordsAfresh_iff :
    RecordsAfresh state (input :: polls) ↔
      recorded state.line (contentRead state (input :: polls)) = recorded [] (contentRead state (input :: polls)) := by
  obtain ⟨same, bytes⟩ := truncated.rewound polls
  have place : SamePlace { state with pos := 0 } state.afresh := ⟨rfl, rfl⟩
  obtain ⟨later, here, there⟩ := place.recorded (input :: polls)
  rw [RecordsAfresh, same, here, there, ← bytes]
  simp only [State.afresh, List.append_left_inj, List.append_right_inj]

/-- Behind the first new line the old content no longer shows. -/
theorem recordsAfresh_firstLine :
    RecordsAfresh state (input :: polls) ↔
      recorded state.line (lineBuffer.firstLine (contentRead state (input :: polls))) =
        recorded [] (lineBuffer.firstLine (contentRead state (input :: polls))) :=
  (recordsAfresh_iff truncated polls).trans (lineBuffer.filterMap_handedOver_iff pendingRequest state.line [] _)

/-- A first line that fits the buffer is read behind the kept line as if it belonged to it. -/
theorem recordsAfresh_fits :
    let bytes := contentRead state (input :: polls)
    let text := bytes.takeWhile (· ≠ newline)
    state.line.length + (withoutCR text).length < LINE_LIMIT →
      (RecordsAfresh state (input :: polls) ↔
        newline ∉ bytes ∨ pendingRequest (state.line ++ withoutCR text) = pendingRequest (withoutCR text)) := by
  intro bytes text room
  refine (recordsAfresh_firstLine truncated polls).trans ?_
  have plain : newline ∉ text := Lines.not_mem_takeWhile newline bytes
  have kept := recorded_fits plain room
  have alone := @recorded_fits [] text plain (by rw [List.length_nil]; omega)
  by_cases ended : newline ∈ bytes
  · have first : lineBuffer.firstLine bytes = text ++ [newline] := lineBuffer.firstLine_ended ended
    rw [or_iff_right (not_not_intro ended), show lineBuffer.firstLine _ = text ++ [newline] from first, kept.2, alone.2,
      List.nil_append]
    cases pendingRequest (state.line ++ withoutCR text) <;> cases pendingRequest (withoutCR text) <;> simp
  · have first : lineBuffer.firstLine bytes = text := lineBuffer.firstLine_open ended
    rw [show lineBuffer.firstLine _ = text from first, kept.1, alone.1]
    exact ⟨fun _ => .inl ended, fun _ => rfl⟩

omit truncated in
/-- Lines without a marker record nothing, wherever the buffer cuts them. -/
theorem recorded_unmarked {line bytes : Bytes} (unmarked : ¬ marker <:+: line ++ withoutCR (bytes.takeWhile (· ≠ newline))) :
    recorded line (lineBuffer.firstLine bytes) = [] := by
  rw [recorded, List.filterMap_eq_nil_iff]
  intro found handed
  obtain ⟨before, c, behind, split, _, rfl⟩ := lineBuffer.mem_handedOver.mp handed
  have begins : before <+: bytes.takeWhile (· ≠ newline) := by
    have whole : bytes.takeWhile (· ≠ newline) ++ (bytes.dropWhile (· ≠ newline)).take 1 = before ++ c :: behind := split
    have lengths := congrArg List.length whole
    simp only [List.length_append, List.length_take, List.length_cons] at lengths
    exact List.prefix_of_prefix_length_le ⟨c :: behind, whole.symm⟩ (List.prefix_append _ _) (by omega)
  have inside : lineBuffer.rest line before <:+: line ++ withoutCR (bytes.takeWhile (· ≠ newline)) :=
    (lineBuffer.rest_suffix_append line before).isInfix.trans ((List.prefix_append_right_inj line).mpr (begins.filter _)).isInfix
  exact pendingRequest_unmarked fun marked => unmarked (marked.trans inside)

theorem recordsAfresh_unmarked
    (unmarked : ¬ marker <:+: state.line ++ withoutCR ((contentRead state (input :: polls)).takeWhile (· ≠ newline))) :
    RecordsAfresh state (input :: polls) := by
  rw [recordsAfresh_firstLine truncated polls, recorded_unmarked unmarked, recorded_unmarked]
  exact fun marked => unmarked (marked.trans (List.suffix_append _ _).isInfix)

end

/-- Whatever the log is found to hold from the truncation on, it is read as from a fresh log. -/
def ReadsAfresh (state : State) : Prop := ∀ input polls, Truncated state input → RecordsAfresh state (input :: polls)

/-- The log has been emptied, and has this content by the time it is read. -/
def rewritten (content : Bytes) : Poll where
  newest := none
  opened := true
  size := 0
  content
  reads := [BUFFER_SIZE]
  readTick := 1
  nowTick := 1

theorem rewritten_truncated {state : State} {input : Poll} (truncated : Truncated state input) (content : Bytes) :
    Truncated state (rewritten content) :=
  ⟨truncated.followed, rfl, rfl, Nat.lt_of_le_of_lt (Nat.zero_le _) truncated.shorter⟩

theorem rewritten_read {state : State} {input : Poll} (truncated : Truncated state input) {content : Bytes}
    (short : content.length ≤ BUFFER_SIZE) : contentRead state [rewritten content] = content := by
  have rewound := rewritten_truncated truncated content
  have followed : state.curLog.isNone = false := by simpa using truncated.followed
  have start : startPos state (rewritten content) = 0 := if_pos rewound.shorter
  have whole : (content.drop 0).take (min BUFFER_SIZE BUFFER_SIZE) = content := by
    rw [List.drop_zero, Nat.min_self, List.take_of_length_le short]
  rw [contentRead, rewound.stays, if_neg Bool.false_ne_true, pollRead, followed, start]
  simp only [rewritten, Bool.not_true, Bool.or_self, Bool.false_eq_true, if_false, contentRead, chunksRead, whole,
    List.append_nil, ite_eq_right_iff]
  exact fun empty => (List.isEmpty_iff.mp empty).symm

/-- Behind dots the buffer is full in the middle of a text whose other part asks for nothing. -/
theorem recorded_cut {line text : Bytes} {count size : Nat} (full : LINE_LIMIT ≤ line.length + (count + size))
    (room : count + size = 0 ∨ line.length + (count + size) ≤ LINE_LIMIT) (inside : size < text.length)
    (short : text.length ≤ LINE_LIMIT) (unbroken : newline ∉ text) (plain : char '\r' ∉ text)
    (silent : pendingRequest (withoutCR (text.drop (size + 1))) = none) :
    recorded line (padded count text ++ [newline]) = (pendingRequest (line ++ padded count (text.take size))).toList := by
  have filled : (padded count (text.take size)).length = count + size := by
    rw [padded_length, List.length_take, Nat.min_eq_left (Nat.le_of_lt inside)]
  have behind : (withoutCR (text.drop (size + 1))).length < LINE_LIMIT := by
    refine Nat.lt_of_le_of_lt (List.length_filter_le _ _) ?_
    rw [List.length_drop]
    omega
  have read := @recorded_overflow line (padded count (text.take size))
    (padded_plain (by decide) fun member => unbroken (List.mem_of_mem_take member))
    (padded_plain (by decide) fun member => plain (List.mem_of_mem_take member))
    (by rw [← List.length_eq_zero_iff, filled]; exact room) text[size] (by rw [filled]; exact full)
    (text.drop (size + 1)) (fun member => unbroken (List.mem_of_mem_drop member)) behind
  have split : text = text.take size ++ text[size] :: text.drop (size + 1) := by
    rw [List.cons_getElem_drop_succ, List.take_append_drop]
  rw [silent] at read
  conv => lhs; rw [split, padded_append, List.append_assoc]
  exact read.trans (List.append_nil _)

/-- The line from which a fresh log would record 1x1 or 1x2, and of which the kept line makes
the buffer end before the last digit. -/
theorem kept_hides {line : Bytes} (kept : line ≠ []) :
    ∃ count, count + 22 ≤ LINE_LIMIT ∧
      recorded line (padded count (asksFor "1x1") ++ [newline]) = recorded line (padded count (asksFor "1x2") ++ [newline]) := by
  have some : 0 < line.length := List.length_pos_of_ne_nil kept
  have limit : LINE_LIMIT = 1023 := rfl
  -- The buffer is full behind the dots, or in the request behind a short line.
  obtain ⟨count, size, few, place, full, room⟩ : ∃ count size, count + 22 ≤ LINE_LIMIT ∧ size < 22 ∧
      LINE_LIMIT ≤ line.length + (count + size) ∧ (count + size = 0 ∨ line.length + (count + size) ≤ LINE_LIMIT) := by
    by_cases short : line.length < 22
    · exact ⟨1001, 22 - line.length, by omega, by omega, by omega, by omega⟩
    · exact ⟨1023 - line.length, 0, by omega, by omega, by omega, by omega⟩
  have cut : ∀ size < 22, (asksFor "1x1").take size = (asksFor "1x2").take size ∧
      pendingRequest (withoutCR ((asksFor "1x1").drop (size + 1))) = none ∧
      pendingRequest (withoutCR ((asksFor "1x2").drop (size + 1))) = none := by
    decide
  obtain ⟨begins, one, two⟩ := cut size place
  have first := @recorded_cut line (asksFor "1x1") count size full room place (by decide) (by decide) (by decide) one
  have second := @recorded_cut line (asksFor "1x2") count size full room place (by decide) (by decide) (by decide) two
  exact ⟨count, few, first.trans (begins ▸ second.symm)⟩

theorem readsAfresh_iff {state : State} {input : Poll} (truncated : Truncated state input) :
    ReadsAfresh state ↔ state.line = [] := by
  constructor
  · intro afresh
    by_contra kept
    obtain ⟨count, room, same⟩ := kept_hides kept
    have request (last : String) (length : (asksFor last).length = 22) (plain : newline ∉ asksFor last ∧ char '\r' ∉ asksFor last) :
        recorded state.line (padded count (asksFor last) ++ [newline]) = (pendingRequest (asksFor last)).toList := by
      have filled : (padded count (asksFor last)).length = count + 22 := by rw [padded_length, length]
      have short : (padded count (asksFor last) ++ [newline]).length ≤ BUFFER_SIZE := by
        rw [List.length_append, filled]
        exact Nat.le_trans (Nat.add_le_add_right room 1) (by decide)
      have rewound := rewritten_truncated truncated (padded count (asksFor last) ++ [newline])
      have here := (recordsAfresh_iff rewound []).mp (afresh _ [] rewound)
      have alone := @recorded_full [] (padded count (asksFor last)) (padded_plain (by decide) plain.1)
        (padded_plain (by decide) plain.2) (.inr (by rw [filled, List.length_nil, Nat.zero_add]; exact room)) newline (.inl rfl) []
      rw [rewritten_read truncated short] at here
      rw [here, alone, List.nil_append, padded_pendingRequest, recorded_nil, List.append_nil]
    have one := request "1x1" (by decide) (by decide)
    have two := request "1x2" (by decide) (by decide)
    exact absurd (one.symm.trans (same.trans two)) (by decide)
  · intro empty input polls truncated
    rw [recordsAfresh_iff truncated polls, empty]

/-- The old content never shows exactly if no partial line is kept. Of a partial line, it
depends on the first new line: where both fit the buffer, nothing shows before the newline
has been read, and then what the two in one ask for counts; without a marker in them nothing
shows at any length. -/
theorem truncation_iff (state : State) (input : Poll) (polls : List Poll) (truncated : Truncated state input) :
    let bytes := contentRead state (input :: polls)
    let text := bytes.takeWhile (· ≠ newline)
    (ReadsAfresh state ↔ state.line = []) ∧
    (state.line.length + (withoutCR text).length < LINE_LIMIT →
      (RecordsAfresh state (input :: polls) ↔
        newline ∉ bytes ∨ pendingRequest (state.line ++ withoutCR text) = pendingRequest (withoutCR text))) ∧
    (¬ marker <:+: state.line ++ withoutCR text → RecordsAfresh state (input :: polls)) :=
  ⟨readsAfresh_iff truncated, recordsAfresh_fits truncated polls, recordsAfresh_unmarked truncated polls⟩

/-- A turn of the loop in which the log holds this text. -/
def holding (text : String) : Poll where
  newest := some "gui-agent-1.log"
  opened := true
  size := text.length
  content := text.toList.map char
  reads := [BUFFER_SIZE]
  readTick := 1
  nowTick := 1

/-- The old content ends in the middle of a request; the new content begins with a line
that has nothing to do with it. -/
theorem truncation_harmless :
    RecordsAfresh (poll {} (holding "started\nresolution change: 8")) [holding "restarted\n"] :=
  ((truncation_iff (poll {} (holding "started\nresolution change: 8")) (holding "restarted\n") []
    ⟨by decide +kernel, by decide +kernel, by decide +kernel, by decide +kernel⟩).2.1 (by decide +kernel)).mpr (.inr (by decide +kernel))

/-- The same end of the old content hides the request that the new content begins with. -/
theorem truncation_violated :
    ¬ ∀ (state : State) (input : Poll) (polls : List Poll), Truncated state input → RecordsAfresh state (input :: polls) := by
  intro claim
  have same := claim (poll {} (holding "started\nresolution change: 8")) (holding "resolution change: 1x1\n") []
    ⟨by decide +kernel, by decide +kernel, by decide +kernel, by decide +kernel⟩
  have nothing : (run poll (poll {} (holding "started\nresolution change: 8")) [holding "resolution change: 1x1\n"]).updates =
      [] := by decide +kernel
  have request : (run poll (poll {} (holding "started\nresolution change: 8")).afresh
      [holding "resolution change: 1x1\n"]).updates = [(1, 1)] := by decide +kernel
  exact absurd (nothing.symm.trans (same.trans request)) (by decide)

end QubesIdd.Resd
