import Playground.Host.Control
import Playground.Proofs.Json.Text
import Playground.Proofs.Text.Blank

/-!
# Reports on the control channel

What a host writes on its channel is read back: a report is one line, which no text in it can break
or end, and it is never taken for the word that says that the program begins.

- `lines_flatMap`: lines that are whole are split where they end.
- `read_ready`: the channel of a host that does not report.
- `read_channel`: the channel of a host that reports.
- `channel_carries`: such a channel carries the report unchanged, on a line that is taken for nothing
  else.
-/

namespace Playground.Host

/-- What is read of a report. -/
def ControlReport.ofOutcome (o : HostOutcome) : ControlReport where
  exception := (o.exception.map Json.text).getD .null
  returnValue := (o.returnValue.map Json.text).getD .null

namespace Control

/-! ## Lines -/

/-- Text within which no line ends. -/
def IsWhole (line : List Char) : Prop :=
  ∀ c ∈ line, c ≠ '\r' ∧ c ≠ '\n'

/-- Visible characters end no line. -/
theorem isWhole_of_visible {line : List Char} (h : ∀ c ∈ line, Json.IsVisible c) :
    IsWhole line := by
  intro c hc
  have hvisible := (h c hc).1
  constructor <;> rintro rfl <;> exact absurd hvisible (by decide)

/-- A line is split off at its end. -/
theorem lines_append {line : List Char} (hline : IsWhole line) (rest : List Char) :
    lines (line ++ '\n' :: rest) = line :: lines rest := by
  induction line with
  | nil => rw [List.nil_append, lines] <;> simp
  | cons c line ih =>
    obtain ⟨hc, hrest⟩ := List.forall_mem_cons.mp hline
    rw [List.cons_append, lines, ih hrest]
    · simp [hc]
    · rintro _ rfl
      exact absurd rfl hc.1

/-- Lines that each have an end are split as they are; nothing comes after the last end. -/
theorem lines_flatMap {ls : List (List Char)} (hls : ∀ l ∈ ls, IsWhole l) :
    lines (ls.flatMap (· ++ ['\n'])) = ls ++ [[]] := by
  induction ls with
  | nil => rfl
  | cons l ls ih =>
    obtain ⟨hl, hrest⟩ := List.forall_mem_cons.mp hls
    rw [List.flatMap_cons, List.append_assoc, List.singleton_append, lines_append hl, ih hrest]
    rfl

/-! ## The line of a report -/

theorem isVisible_of_mem_ready : ∀ c ∈ ready.toList, Json.IsVisible c := by
  have hall : ready.toList.all (fun c => decide (Json.IsVisible c)) = true := by decide
  simpa using hall

theorem isWhole_ready : IsWhole ready.toList :=
  isWhole_of_visible isVisible_of_mem_ready

/-- The fields of a report are texts. -/
theorem exists_texts (o : HostOutcome) : ∃ fields, reportFields o = Json.texts fields :=
  ⟨(o.returnValue.map fun t => ("return_value", t)).toList ++
    (o.exception.map fun t => ("exception", t)).toList, by
      obtain ⟨exception, returnValue⟩ := o
      cases exception <;> cases returnValue <;> rfl⟩

/-- The line of a report is visible, whatever the texts in it are. -/
theorem isVisible_of_mem_reportLine (o : HostOutcome) :
    ∀ c ∈ (reportLine o).toList, Json.IsVisible c := by
  obtain ⟨fields, hfields⟩ := exists_texts o
  rw [reportLine, String.toList_ofList, hfields]
  exact Json.isVisible_of_mem_print_texts fields

/-- The line of a report is whole. -/
theorem isWhole_reportLine (o : HostOutcome) : IsWhole (reportLine o).toList :=
  isWhole_of_visible (isVisible_of_mem_reportLine o)

/-- There is no white space around it. -/
theorem trim_reportLine (o : HostOutcome) :
    Text.trim (reportLine o).toList = (reportLine o).toList := by
  obtain ⟨inner, hinner⟩ := Json.exists_print_object (reportFields o)
  rw [reportLine, String.toList_ofList, hinner]
  refine Text.IsTrimmed.trim_eq ⟨?_, ?_⟩
  · rintro c ⟨⟩
    decide
  · rw [← List.cons_append, List.getLast?_concat]
    rintro c ⟨⟩
    decide

/-- It is an object, and so neither empty nor the word that says that the program begins. -/
theorem exists_reportLine (o : HostOutcome) :
    ∃ inner, (reportLine o).toList = '\x7b' :: inner := by
  obtain ⟨inner, hinner⟩ := Json.exists_print_object (reportFields o)
  exact ⟨_, by rw [reportLine, String.toList_ofList, hinner]⟩

theorem reportLine_ne_ready (o : HostOutcome) : (reportLine o).toList ≠ ready.toList := by
  obtain ⟨inner, hinner⟩ := exists_reportLine o
  rw [hinner]
  exact fun h => absurd (List.head_eq_of_cons_eq h) (by decide)

/-- It is read as the object that was printed. -/
theorem read?_reportLine (o : HostOutcome) :
    Json.read? maxDepth (reportLine o).toList = some (.object (reportFields o)) := by
  obtain ⟨fields, hfields⟩ := exists_texts o
  rw [reportLine, String.toList_ofList, hfields]
  exact Json.read?_print_texts 899 fields

/-! ## Reading a channel -/

theorem ofJson_reportFields (o : HostOutcome) :
    ofJson (.object (reportFields o)) = .ok (ControlReport.ofOutcome o) := by
  obtain ⟨exception, returnValue⟩ := o
  cases exception <;> cases returnValue <;> rfl

variable (s : ControlState) (rest : List (List Char))

theorem readLines_ready :
    readLines s (ready.toList :: rest) = readLines { s with started := true } rest := by
  rfl

theorem readLines_nil : readLines s [[]] = s :=
  rfl

theorem readLines_reportLine (o : HostOutcome) :
    readLines s ((reportLine o).toList :: rest) =
      readLines { s with report := some (.ofOutcome o) } rest := by
  obtain ⟨inner, hinner⟩ := exists_reportLine o
  have hempty : (reportLine o).toList.isEmpty = false := by
    rw [hinner]
    rfl
  simp only [readLines, trim_reportLine, if_neg (reportLine_ne_ready o), hempty, read?_reportLine,
    ofJson_reportFields]
  rfl

/-- A host that does not report has only said that the program begins. -/
theorem read_ready : read (ready ++ "\n") = ⟨true, none, none⟩ :=
  rfl

/-- The line of a report is split off as it is. -/
theorem lines_channel (o : HostOutcome) :
    lines (channel o).toList = [ready.toList, (reportLine o).toList, []] := by
  have hchannel : (channel o).toList =
      [ready.toList, (reportLine o).toList].flatMap (· ++ ['\n']) := by
    simp [channel]
  rw [hchannel]
  exact lines_flatMap (by simp [isWhole_ready, isWhole_reportLine])

/-- What a host reports is read as it was, whatever the texts in it are. -/
theorem read_channel (o : HostOutcome) :
    read (channel o) = ⟨true, some (.ofOutcome o), none⟩ := by
  rw [read, lines_channel, readLines_ready, readLines_reportLine, readLines_nil]

/-- The outcome that a channel tells of is the one that was reported, if one was. -/
theorem outcome?_ofOutcome (started : Bool) (o : Option HostOutcome) (error : Option ReportError) :
    outcome? ⟨started, o.map .ofOutcome, error⟩ = o := by
  cases o with
  | none => rfl
  | some o =>
    obtain ⟨exception, returnValue⟩ := o
    cases exception <;> cases returnValue <;> rfl

/-! ## Carrying a report -/

/-- What it is for the text of a channel to carry a report unchanged. -/
structure Carries (text : String) (o : HostOutcome) : Prop where
  started : (read text).started = true
  intact : (read text).error = none
  /-- A text is read as it was, and what is absent as nothing. -/
  report : (read text).report =
    some ⟨(o.exception.map Json.text).getD .null, (o.returnValue.map Json.text).getD .null⟩
  outcome : outcome? (read text) = some o
  /-- The report has a line to itself, and nothing comes after it. -/
  framed : lines text.toList = [ready.toList, (reportLine o).toList, []]
  /-- The program begins with the first line, and no other line is taken for that. -/
  begun : readLines ⟨false, none, none⟩ [ready.toList] = ⟨true, none, none⟩ ∧
    ∀ line ∈ (lines text.toList).tail, Text.trim line ≠ ready.toList
  /-- Whatever the texts are, they are written in visible ASCII. -/
  visible : ∀ c ∈ text.toList, c = '\n' ∨ Json.IsVisible c

/-- The channel of a host that reports carries the report, whatever the texts in it are. -/
theorem channel_carries (o : HostOutcome) : Carries (channel o) o where
  started := by rw [read_channel]
  intact := by rw [read_channel]
  report := by
    rw [read_channel]
    rfl
  outcome := by
    rw [read_channel]
    exact outcome?_ofOutcome true (some o) none
  framed := lines_channel o
  begun := by
    refine ⟨rfl, ?_⟩
    rw [lines_channel, List.tail_cons]
    simp only [List.forall_mem_cons]
    refine ⟨?_, by decide, List.forall_mem_nil _⟩
    rw [trim_reportLine]
    exact reportLine_ne_ready o
  visible := by
    intro c hc
    simp only [channel, String.toList_append, List.mem_append] at hc
    rcases hc with ((hc | hc) | hc) | hc
    · exact .inr (isVisible_of_mem_ready c hc)
    · exact .inl (List.mem_singleton.mp hc)
    · exact .inr (isVisible_of_mem_reportLine o c hc)
    · exact .inl (List.mem_singleton.mp hc)

end Control

end Playground.Host
