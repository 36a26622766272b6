import ClusterProbe.Proofs.Run.Stage
import ClusterProbe.Proofs.Text.Cutting

/-!
# What a report keeps

All lines of a report start alike, with the kind of event and the name in columns, and go on with
one line of the message each. Main statement: nothing is lost in a report without colours. The
message stands behind the start of the lines, other messages and other kinds of event give other
lines, and what the console shows falls into the same lines again unless the name has lines of its
own.
-/

namespace ClusterProbe

namespace World

/-- The text on the console: all lines that were printed, with a line feed behind each. -/
def console (w : World) : String := String.join (w.lines.map (· ++ "\n"))

theorem lines_push_line (w : World) (text : String) :
    (w.push (.line text)).lines = w.lines ++ [text] := by
  rw [lines, toList_history_push, List.filterMap_append]
  rfl

theorem lines_print (w : World) (texts : List String) :
    (w.print texts).lines = w.lines ++ texts := by
  induction texts generalizing w with
  | nil => exact (List.append_nil _).symm
  | cons text rest ih =>
    have hrest := ih (w.push (.line text))
    rw [lines_push_line, List.append_assoc] at hrest
    exact hrest

/-- What is printed comes last on the console. -/
theorem console_print (w : World) {texts : List String} (h : texts ≠ []) :
    (w.print texts).console = w.console ++ Text.joinWith "\n" texts ++ "\n" := by
  rw [console, lines_print, List.map_append, String.join_append, Text.join_lineFeeds h, console,
    String.append_assoc]

end World

namespace Report

variable {status : Status} {name message : String}

/-- A name in a column: as it is, with spaces behind it where the column is wider. -/
structure InColumn (width : Nat) (name column : String) : Prop where
  spaces : ∃ n, column = name ++ String.ofList (List.replicate n ' ')
  length : column.length = max width name.length

/-- The start of the lines of an event: two spaces, a label of six characters, a colon between
spaces, the name in a column of thirty characters or as many as it has, and a space. -/
structure Starts (status : Status) (name start : String) : Prop where
  width : (label status).length = 6
  columns : ∃ column, InColumn 30 name column ∧
    start = "  " ++ label status ++ " : " ++ column ++ " "

/-- What stands behind the start of lines that all start alike, put together to one text. -/
def behindStart (start : String) (texts : List String) : String :=
  Text.joinWith "\n" (texts.map fun text ↦ String.ofList (text.toList.drop start.length))

theorem inColumn_padded (name : String) : InColumn nameWidth name (padded name) where
  spaces := ⟨_, rfl⟩
  length := by
    rw [padded, String.length_append, String.length_ofList, List.length_replicate]
    omega

theorem length_label (status : Status) : (label status).length = 6 := by
  cases status <;> rfl

theorem label_inj {other : Status} (h : label status = label other) : status = other := by
  revert h
  cases status <;> cases other <;> decide

/-- Without colours a label is shown as it is. -/
theorem shownLabel_plain (status : Status) : shownLabel false status = label status := by
  cases status <;> rfl

theorem starts_lineStart (status : Status) (name : String) :
    Starts status name (lineStart false status name) where
  width := length_label status
  columns := ⟨padded name, inColumn_padded name, by rw [lineStart, shownLabel_plain]⟩

/-- A start has no line feed but those of the name. -/
theorem Starts.mem_lineFeed_iff {start : String} (h : Starts status name start) :
    '\n' ∈ start.toList ↔ '\n' ∈ name.toList := by
  obtain ⟨column, hcolumn, rfl⟩ := h.columns
  obtain ⟨n, rfl⟩ := hcolumn.spaces
  have hlabel : '\n' ∉ (label status).toList := by cases status <;> decide
  simp [hlabel]

/-- Lines that start alike tell the kind of event. -/
theorem Starts.status_eq {other : Status} {otherName start otherStart text otherText : String}
    (h : Starts status name start) (k : Starts other otherName otherStart)
    (heq : start ++ text = otherStart ++ otherText) : status = other := by
  obtain ⟨column, -, rfl⟩ := h.columns
  obtain ⟨otherColumn, -, rfl⟩ := k.columns
  have hlist := congrArg String.toList heq
  simp only [String.toList_append, List.append_assoc] at hlist
  have hbehind := List.append_cancel_left hlist
  have hlabel := List.append_inj_left hbehind (by
    rw [String.length_toList, String.length_toList, h.width, k.width])
  exact label_inj (String.toList_inj.mp hlabel)

theorem behindStart_map (start : String) (contents : List String) :
    behindStart start (contents.map (start ++ ·)) = Text.joinWith "\n" contents := by
  have hdrop (content : String) :
      String.ofList ((start ++ content).toList.drop start.length) = content := by
    rw [String.toList_append, List.drop_left' String.length_toList, String.ofList_toList]
  have hcontents := List.map_congr_left fun content (_ : content ∈ contents) ↦ hdrop content
  rw [behindStart, List.map_map]
  exact congrArg _ (hcontents.trans (List.map_id' contents))

/-- The message is found again behind the start of the lines. -/
theorem behindStart_lines (colours : Bool) (status : Status) (name message : String) :
    behindStart (lineStart colours status name) (lines colours status name message) = message := by
  rw [lines, behindStart_map]
  exact (Text.linesOf_lines message).joined

/-- There is always a first line. -/
theorem exists_first_line (colours : Bool) (status : Status) (name message : String) :
    ∃ content rest, lines colours status name message =
      (lineStart colours status name ++ content) :: rest := by
  rw [lines]
  cases h : Text.lines message with
  | nil => exact absurd h (Text.linesOf_lines message).ne_nil
  | cons content rest => exact ⟨content, _, rfl⟩

theorem lines_ne_nil (colours : Bool) (status : Status) (name message : String) :
    lines colours status name message ≠ [] := by
  obtain ⟨content, rest, h⟩ := exists_first_line colours status name message
  rw [h]
  exact List.cons_ne_nil _ _

/-- Reports under one name are the same only for one kind of event and one message. -/
theorem lines_inj {other : Status} {otherMessage : String} :
    lines false other name otherMessage = lines false status name message ↔
      other = status ∧ otherMessage = message := by
  constructor
  · intro h
    -- the first lines tell the kind of event, and with it the start that hides the message
    obtain ⟨content, rest, hfirst⟩ := exists_first_line false status name message
    obtain ⟨otherContent, otherRest, hother⟩ := exists_first_line false other name otherMessage
    have hline := (List.cons.inj (hother.symm.trans (h.trans hfirst))).1
    have hstatus : other = status :=
      (starts_lineStart other name).status_eq (starts_lineStart status name) hline
    subst hstatus
    refine ⟨rfl, ?_⟩
    calc otherMessage
        = behindStart (lineStart false other name) (lines false other name otherMessage) :=
          (behindStart_lines ..).symm
      _ = behindStart (lineStart false other name) (lines false other name message) := by rw [h]
      _ = message := behindStart_lines ..
  · rintro ⟨rfl, rfl⟩
    rfl

/-- The lines of an event are lines of the console unless the name has line feeds. -/
theorem linesOf_joined_iff :
    Text.LinesOf (Text.joinWith "\n" (lines false status name message))
      (lines false status name message) ↔ '\n' ∉ name.toList := by
  have hstart := (starts_lineStart status name).mem_lineFeed_iff
  constructor
  · intro h hname
    obtain ⟨content, rest, hfirst⟩ := exists_first_line false status name message
    apply h.noLineFeed (lineStart false status name ++ content)
    · rw [hfirst]
      exact List.mem_cons_self
    · rw [String.toList_append]
      exact List.mem_append_left _ (hstart.mpr hname)
  · intro hname
    refine ⟨lines_ne_nil false status name message, fun line hline ↦ ?_, rfl⟩
    obtain ⟨content, hcontent, rfl⟩ := List.mem_map.mp hline
    rw [String.toList_append, List.mem_append, not_or]
    exact ⟨fun h ↦ hname (hstart.mp h), (Text.linesOf_lines message).noLineFeed _ hcontent⟩

/-- A report without colours has one line for each line of its message, which stands behind a start
that all lines share; so the message is found again behind that start, and the lines tell the kind
of event and the message. On the console a report comes last, as a text that has exactly these
lines unless there is a line feed in the name. -/
theorem report_lossless (status : Status) (name message : String) :
    (lines false status name message).length = message.toList.count '\n' + 1 ∧
    (∃ start contents, Starts status name start ∧ Text.LinesOf message contents ∧
      lines false status name message = contents.map (start ++ ·) ∧
      behindStart start (lines false status name message) = message) ∧
    (∀ other otherMessage,
      lines false other name otherMessage = lines false status name message ↔
        other = status ∧ otherMessage = message) ∧
    ∀ w : World, ∃ printed,
      (((Rehearsal.machine false).report status name message).run w).2.console =
        w.console ++ printed ++ "\n" ∧
      (Text.LinesOf printed (lines false status name message) ↔ '\n' ∉ name.toList) := by
  refine ⟨?_, ?_, fun _ _ ↦ lines_inj, fun w ↦ ?_⟩
  · rw [lines, List.length_map, Text.length_lines]
  · exact ⟨_, _, starts_lineStart status name, Text.linesOf_lines message, rfl,
      behindStart_lines false status name message⟩
  · refine ⟨_, ?_, linesOf_joined_iff⟩
    rw [Rehearsal.run_report]
    exact w.console_print (lines_ne_nil false status name message)

/-- A name that is longer than its column, and a message that ends with a line feed. -/
example : lines false .failed "a-name-that-is-longer-than-thirty" "boom\n" =
    ["  Failed : a-name-that-is-longer-than-thirty boom",
      "  Failed : a-name-that-is-longer-than-thirty "] := by decide +kernel

end Report

end ClusterProbe
