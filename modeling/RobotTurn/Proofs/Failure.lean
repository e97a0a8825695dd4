import RobotTurn.Robot.Ledger

/-! What is noted on a failure on its way out. The first line noted stays and every frame is kept in
order, if the failure has a trace at all, so it does not matter how the two kinds of notes are
mixed (`annotated_eq`). Which of them the report points at is settled by `first_line_decides`. -/
namespace RobotTurn.Failure

/-- A note on a failure: a line, which may be unknown, or a frame. -/
inductive Note where
  | located (line : Option UInt64)
  | framed (frame : Frame)

namespace Note

def line? : Note → Option UInt64
  | located line => line
  | framed _ => none

def frame? : Note → Option Frame
  | located _ => none
  | framed frame => some frame

end Note

def note (f : Failure) : Note → Failure
  | .located line => f.located line
  | .framed frame => f.framed frame

/-- A failure with notes, the earliest first. -/
def annotated (f : Failure) (notes : List Note) : Failure := notes.foldl note f

/-- The cause with frames behind its trace, if it has one. -/
def Cause.extended (frames : List Frame) : Cause → Cause
  | .runtime message trace => .runtime message (trace ++ frames)
  | cause => cause

/-- Whether a failure keeps the frames that are noted on it. -/
def traced (f : Failure) : Bool :=
  match f.cause with
  | .runtime .. => true
  | _ => false

/-- The trace with the frames that are noted on a failure and kept. -/
def frames (f : Failure) (notes : List Note) : List Frame :=
  f.trace ++ if f.traced then notes.filterMap Note.frame? else []

theorem framed_eq (f : Failure) (frame : Frame) :
    f.framed frame = { f with cause := f.cause.extended [frame] } := by
  obtain ⟨cause, line⟩ := f
  cases cause <;> rfl

theorem Cause.extended_nil (cause : Cause) : cause.extended [] = cause := by
  cases cause <;> simp [extended]

theorem Cause.extended_extended (cause : Cause) (earlier later : List Frame) :
    (cause.extended earlier).extended later = cause.extended (earlier ++ later) := by
  cases cause <;> simp [extended]

/-- A line and a frame may be noted in either order. -/
theorem located_framed_comm (f : Failure) (line : Option UInt64) (frame : Frame) :
    (f.located line).framed frame = (f.framed frame).located line := by
  rw [framed_eq, framed_eq, located, located]

/-- All that comes of some notes is the first line and the frames. -/
theorem annotated_eq (f : Failure) (notes : List Note) :
    f.annotated notes = {
      cause := f.cause.extended (notes.filterMap Note.frame?)
      line := f.line.or (notes.findSome? Note.line?) } := by
  induction notes generalizing f with
  | nil => simp [annotated, Cause.extended_nil]
  | cons n notes ih =>
    rw [annotated, List.foldl_cons, ← annotated, ih]
    cases n with
    | located line =>
      rw [List.filterMap_cons_none rfl, List.findSome?_cons]
      cases line <;> simp [note, located, Note.line?, Option.orElse_eq_or]
    | framed frame =>
      have kept : (.framed frame :: notes).filterMap Note.frame? =
          frame :: notes.filterMap Note.frame? := rfl
      rw [kept, List.findSome?_cons, note, framed_eq]
      simp [Note.line?, Cause.extended_extended]

theorem line_annotated (f : Failure) (notes : List Note) :
    (f.annotated notes).line = f.line.or (notes.findSome? Note.line?) := by
  rw [annotated_eq]

theorem trace_annotated (f : Failure) (notes : List Note) :
    (f.annotated notes).trace = f.frames notes := by
  rw [annotated_eq]
  obtain ⟨cause, line⟩ := f
  cases cause <;> simp [trace, frames, traced, Cause.extended]

theorem summary_annotated (f : Failure) (notes : List Note) :
    (f.annotated notes).summary = f.summary := by
  rw [annotated_eq]
  obtain ⟨cause, line⟩ := f
  cases cause <;> rfl

theorem lineIn_eq (f : Failure) (source : String) :
    f.lineIn source = f.line.or ((f.trace.find? (·.file = source)).map (·.line)) := by
  rw [lineIn]
  cases f.line <;> rfl

theorem located_of_ne_none {f : Failure} (known : f.line ≠ none) (line : Option UInt64) :
    f.located line = f := by
  obtain ⟨n, same⟩ := Option.ne_none_iff_exists'.mp known
  exact located_of_line f line same

/-- A line that is known stays as it is where an entry point adds its own: to the failure of a call
and to a breach of the rules of the debug handle. -/
theorem settled_of_ne_none {f : Failure} (known : f.line ≠ none) (line : Option UInt64)
    (result : Except Failure Value) :
    EntryPoint.settle line (.failed f) = some (.error f) ∧
      EntryPoint.verdict line (some f) result = .error f := by
  rw [EntryPoint.settle, EntryPoint.verdict, located_of_ne_none known]
  exact ⟨rfl, rfl⟩

/-- A report points at the first line that was noted on its failure, the failure's own in front of
all. If there is none it points at the first frame in the program's file, if there is one. The
details list the frames, if there are any, and close with the summary. What is reported, and the
failure as a whole, only depends on the first line and on the order of the frames. A line that is
known by then is not replaced by that of an entry point. -/
theorem first_line_decides (f : Failure) (notes : List Note) (source : String) :
    let told := f.annotated notes
    let line := f.line.or (notes.findSome? Note.line?)
    let frames := f.frames notes
    told.report source = {
      span := (line.or ((frames.find? (·.file = source)).map (·.line))).map .ofLine
      summary := f.summary
      details := if frames = [] then none else some ("Traceback (most recent call last):" ++
        String.join (frames.map (·.text)) ++ "\n" ++ f.summary) } ∧
    (∀ n frame, (told.located n).framed frame = (told.framed frame).located n) ∧
    (∀ others : List Note, others.findSome? Note.line? = notes.findSome? Note.line? →
      others.filterMap Note.frame? = notes.filterMap Note.frame? → f.annotated others = told) ∧
    (line ≠ none → ∀ own result, EntryPoint.settle own (.failed told) = some (.error told) ∧
      EntryPoint.verdict own (some told) result = .error told) := by
  intro told line frames
  have trace : told.trace = frames := trace_annotated f notes
  have lines : told.line = line := line_annotated f notes
  refine ⟨?_, located_framed_comm told, ?_, fun known own result => ?_⟩
  · simp only [report, lineIn_eq, details, trace, lines, List.isEmpty_iff]
    rw [show told.summary = f.summary from summary_annotated f notes]
  · intro others sameLine sameFrames
    rw [annotated_eq, sameLine, sameFrames, ← annotated_eq]
  · rw [← lines] at known
    exact settled_of_ne_none known own result

/-- A line that is noted between frames of the program and behind a line that is unknown. -/
theorem first_line_decides_boom :
    let notes : List Note := [.framed ⟨"lib", 100, none⟩, .located none,
      .framed ⟨"<robot>", 7, some "turn"⟩, .located (some 4), .located (some 9)]
    let told := (runtime "boom").annotated notes
    (told.report "<robot>").span = some (.ofLine 4) ∧
      (told.report "<robot>").details = some ("Traceback (most recent call last):\n" ++
        "  File \"lib\", line 100\n  File \"<robot>\", line 7, in turn\nRuntimeError: boom") ∧
      (runtime "boom").annotated [.located (some 4), .framed ⟨"lib", 100, none⟩,
        .framed ⟨"<robot>", 7, some "turn"⟩] = told ∧
      EntryPoint.settle (some 3) (.failed told) = some (.error told) := by
  intro notes told
  obtain ⟨reported, -, mixed, stays⟩ := first_line_decides (runtime "boom") notes "<robot>"
  rw [reported]
  exact ⟨rfl, rfl, mixed _ rfl rfl, (stays nofun (some 3) (.ok .null)).1⟩

end RobotTurn.Failure
