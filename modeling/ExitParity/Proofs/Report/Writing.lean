import ExitParity.Report.Summary

namespace ExitParity

variable {ω : Type} (put : Writer ω)

namespace Writing

variable {first rest : Writing ω Unit} {sink after : ω}

theorem run_of_perform {ok : Bool} (performed : first.perform sink = (ok, after)) :
    first.run sink = (if ok then .ok () else .error (), after) := by
  unfold perform at performed
  rcases ran : first.run sink with ⟨_ | _, left⟩
  · rw [ran] at performed
    obtain ⟨rfl, rfl⟩ := Prod.mk.inj performed
    rfl
  · rw [ran] at performed
    obtain ⟨rfl, rfl⟩ := Prod.mk.inj performed
    rfl

theorem perform_bind_taken (taken : first.perform sink = (true, after)) :
    (first >>= fun _ => rest).perform sink = rest.perform after := by
  have ran : first sink = (.ok (), after) := run_of_perform taken
  simp only [perform, bind, ExceptT.bind, ExceptT.mk, ExceptT.run, ExceptT.bindCont, StateT.bind, ran]

/-- Nothing is written behind something that was refused. -/
theorem perform_bind_refused (refused : first.perform sink = (false, after)) :
    (first >>= fun _ => rest).perform sink = (false, after) := by
  have ran : first sink = (.error (), after) := run_of_perform refused
  simp only [perform, bind, ExceptT.bind, ExceptT.mk, ExceptT.run, ExceptT.bindCont, StateT.bind, ran]
  rfl

end Writing

namespace Report

theorem perform_writeLine (line : String) (sink : ω) :
    (writeLine put line).perform sink = put (utf8 line ++ [0x0a]) sink := by
  simp only [Writing.perform, writeLine, ExceptT.run]
  rcases put (utf8 line ++ [0x0a]) sink with ⟨_ | _, after⟩ <;> rfl

/-- Lines are written one after another, up to the first one refused. -/
theorem perform_forM (lines : List String) (sink : ω) : (lines.forM (writeLine put)).perform sink =
    writePieces put (lines.map fun line => utf8 line ++ [0x0a]) sink := by
  induction lines generalizing sink with
  | nil => rfl
  | cons line lines ih =>
    rw [List.map_cons, writePieces, List.forM_eq_forM, List.forM_cons]
    rcases handed : put (utf8 line ++ [0x0a]) sink with ⟨_ | _, after⟩
    · exact Writing.perform_bind_refused ((perform_writeLine put line sink).trans handed)
    · exact (Writing.perform_bind_taken ((perform_writeLine put line sink).trans handed)).trans (ih after)

theorem writeNumbered_eq (paths : List Path) : writeNumbered put paths = (numbered paths).forM (writeLine put) := by
  rw [writeNumbered, numbered, List.forM_eq_forM, List.forM_eq_forM, List.forM_map]

theorem writeSection_eq (heading : String) (paths : List Path) :
    writeSection put heading paths = (section_ heading paths).forM (writeLine put) := by
  unfold writeSection section_
  split
  · rfl
  · simp only [writeNumbered_eq, List.forM_eq_forM, List.cons_append, List.forM_cons, List.forM_append, List.forM_nil,
      bind_pure_unit]

theorem writeLines_eq (report : Report) : report.writeLines put = report.summaryLines.forM (writeLine put) := by
  have nothing : forM (numbered []) (writeLine put) = pure () := rfl
  unfold writeLines summaryLines
  simp only [writeNumbered_eq, writeSection_eq, List.forM_eq_forM, List.forM_append, List.forM_cons, List.forM_nil,
    bind_assoc, bind_pure_unit]
  -- What is written only under a condition stands before the rest of the writing, so the conditions are settled first.
  cases report.prepareFailure <;> cases report.failed <;> cases report.interrupted <;> simp [nothing]

/-- A summary reaches a device as its lines one after another, up to the first
one refused, whichever of its parts that line stands in. -/
theorem writeSummary_eq (report : Report) (sink : ω) :
    report.writeSummary put sink = writePieces put report.summaryPieces sink := by
  rw [writeSummary, writeLines_eq, perform_forM, summaryPieces]

end Report

/-- The lines that a device was handed of some, each with whether it took it:
all of them, or those up to one that it refused. -/
inductive Handed (pieces : List Bytes) : Bool → List (Bytes × Bool) → Prop
  | whole : Handed pieces true (pieces.map (·, true))
  | upTo {taken later : List Bytes} {refused : Bytes} (cut : pieces = taken ++ refused :: later) :
      Handed pieces false (taken.map (·, true) ++ [(refused, false)])

theorem Handed.cons {pieces : List Bytes} {ok : Bool} {notes : List (Bytes × Bool)} (piece : Bytes)
    (handed : Handed pieces ok notes) : Handed (piece :: pieces) ok ((piece, true) :: notes) := by
  cases handed with
  | whole => exact .whole
  | @upTo taken later refused cut => exact @upTo _ (piece :: taken) later refused (congrArg (piece :: ·) cut)

/-- A device that also notes what it is handed and whether it takes it. -/
def noting : Writer (ω × List (Bytes × Bool)) := fun bytes (sink, notes) =>
  let (taken, sink) := put bytes sink
  (taken, (sink, notes ++ [(bytes, taken)]))

theorem writePieces_noting (pieces : List Bytes) (sink : ω) (before : List (Bytes × Bool)) :
    ∃ notes, Handed pieces (writePieces put pieces sink).1 notes ∧
      writePieces (noting put) pieces (sink, before) =
        ((writePieces put pieces sink).1, ((writePieces put pieces sink).2, before ++ notes)) := by
  induction pieces generalizing sink before with
  | nil => exact ⟨[], .whole, by rw [List.append_nil]; rfl⟩
  | cons piece pieces ih =>
    have noted : noting put piece (sink, before) =
        ((put piece sink).1, ((put piece sink).2, before ++ [(piece, (put piece sink).1)])) := rfl
    rw [writePieces, writePieces, noted]
    rcases put piece sink with ⟨_ | _, after⟩
    · exact ⟨[(piece, false)], @Handed.upTo _ [] pieces piece rfl, rfl⟩
    · obtain ⟨notes, handed, written⟩ := ih after (before ++ [(piece, true)])
      refine ⟨(piece, true) :: notes, handed.cons piece, ?_⟩
      rw [← List.append_cons] at written
      exact written

/-- Whatever the pieces are in which a text is written, a sink with limited
room stores of the whole text what there is room for. -/
theorem writePieces_capped (pieces : List Bytes) (sink : CappedSink) :
    writePieces CappedSink.put pieces sink =
      (decide (pieces.flatten.length ≤ sink.room),
        ⟨sink.stored ++ pieces.flatten.take sink.room, sink.room - pieces.flatten.length⟩) := by
  induction pieces generalizing sink with
  | nil => simp [writePieces]
  | cons piece pieces ih =>
    rw [writePieces, CappedSink.put, List.flatten_cons, List.length_append, List.take_append]
    by_cases fits : piece.length ≤ sink.room
    · simp only [fits, decide_true, ih, List.append_assoc, List.take_of_length_le]
      congr 2
      · simp; omega
      · omega
    · have full : sink.room - piece.length = 0 := by omega
      have long : ¬ piece.length + pieces.flatten.length ≤ sink.room := by omega
      simp only [fits, long, full, decide_false, List.take_zero, List.append_nil]
      congr 2
      omega

namespace Report

/-- A sink with limited room stores the beginning of the summary that there is
room for, and the writing goes well if that is all of it. No device is handed a
line behind one that it refused. -/
theorem summary_cut (report : Report) :
    (∀ room, (report.writeSummary CappedSink.put ⟨[], room⟩).2.stored = report.summary.take room ∧
      ((report.writeSummary CappedSink.put ⟨[], room⟩).1 = true ↔ report.summary.length ≤ room)) ∧
    ∀ {ω : Type} (put : Writer ω) (sink : ω), ∃ notes,
      report.writeSummary (noting put) (sink, []) =
        ((report.writeSummary put sink).1, ((report.writeSummary put sink).2, notes)) ∧
      Handed report.summaryPieces (report.writeSummary put sink).1 notes := by
  constructor
  · intro room
    rw [writeSummary_eq, writePieces_capped]
    exact ⟨List.nil_append _, decide_eq_true_iff⟩
  · intro ω put sink
    obtain ⟨notes, handed, written⟩ := writePieces_noting put report.summaryPieces sink []
    refine ⟨notes, ?_, ?_⟩
    · rw [writeSummary_eq, writeSummary_eq, written, List.nil_append]
    · rwa [writeSummary_eq]

example : (Report.empty "s").writeSummary CappedSink.put ⟨[], 13⟩ = (false, ⟨utf8 "suite s:\nTher", 0⟩) := by decide

end Report
end ExitParity
