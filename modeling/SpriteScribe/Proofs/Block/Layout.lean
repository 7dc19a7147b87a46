/-
How a script is laid out in lines. The first line opens it and the last one closes it. Between them stand
the lines of its statements, each one tab further in, and nothing else, so that the text of the statements
can be read back from the text of the script: line ends, empty lines and tabs inside a statement, whether
they come from a script inside it or from a literal, are kept as they are.
-/
import SpriteScribe.Proofs.Block.Boundaries
import SpriteScribe.Proofs.Text.Lines

namespace SpriteScribe

namespace Text

/-! ## Texts joined by line ends -/

theorem lines_ne_nil (s : String) : lines s ≠ [] := by
  simp [lines]

/-- Cutting texts into their lines makes no difference to what they are joined to. -/
theorem intercalate_flatMap_lines (xs : List String) : "\n".intercalate (xs.flatMap lines) = "\n".intercalate xs := by
  induction xs with
  | nil => rfl
  | cons x xs ih =>
    cases xs with
    | nil => rw [List.flatMap_singleton, intercalate_lines, String.intercalate_singleton]
    | cons y ys =>
      have hrest : (y :: ys).flatMap lines ≠ [] := by
        rw [List.flatMap_cons]
        exact List.append_ne_nil_of_left_ne_nil (lines_ne_nil y) _
      rw [List.flatMap_cons, intercalate_append "\n" (lines_ne_nil x) hrest, ih, intercalate_lines,
        String.intercalate_cons_cons]

/-! ## Inner lines -/

/-- The lines of a text between the first and the last. -/
def innerLines (s : String) : List String := (lines s).tail.dropLast

/-- A line without a tab at its beginning. -/
def outdent (l : String) : String :=
  match l.toList with
  | '\t' :: cs => String.ofList cs
  | _ => l

theorem outdent_tab (l : String) : outdent ("\t" ++ l) = l := by
  have hl : ("\t" ++ l).toList = '\t' :: l.toList := by rw [String.toList_append]; rfl
  unfold outdent
  rw [hl]
  exact String.ofList_toList

theorem map_outdent_indent (s : String) : (indent s).map outdent = lines s := by
  rw [indent, List.map_map]
  exact (List.map_congr_left fun l _ => outdent_tab l).trans (List.map_id _)

end Text

open SpriteScribe.Text

/-! ## Scripts -/

theorem method_no_newline (k : HeaderKind) : '\n' ∉ k.method.toList := by
  cases k <;> decide

theorem openingLine_header (owner : String) (kind : HeaderKind) (mode : RenderMode) :
    openingLine owner true kind mode = owner ++ ("." ++ kind.method ++ "(function () \x7b") := by
  simp [openingLine, String.append_assoc]

/-- The selector of the first block of a script. -/
def Script.hat (s : Script) : String :=
  match s.blocks with
  | [] => ""
  | b :: _ => b.selector

/-- The line that registers a script of a sprite for the event that its first block waits for. -/
def registrationLine (name hat : String) : String :=
  if hat = "receiveGo" then name ++ ".onReceiveGo(function () \x7b"
  else if hat = "receiveClick" then name ++ ".onReceiveClick(function () \x7b"
  else name ++ ".onReceiveMessage(function () \x7b"

theorem Script.headerKind_eq (s : Script) : s.headerKind = .ofHat s.hat := by
  unfold headerKind hat
  cases s.blocks <;> rfl

/-- A header script opens with its registration. -/
theorem Script.openingLine_eq_registrationLine (s : Script) (owner : String) (mode : RenderMode) :
    openingLine owner true s.headerKind mode = registrationLine owner s.hat := by
  rw [openingLine_header, s.headerKind_eq]
  unfold registrationLine HeaderKind.ofHat
  split
  · exact congrArg (owner ++ ·) (by decide)
  split
  · exact congrArg (owner ++ ·) (by decide)
  · exact congrArg (owner ++ ·) (by decide)

theorem openingLine_no_newline {owner : String} (h : '\n' ∉ owner.toList) (isHeader : Bool) (kind : HeaderKind)
    (mode : RenderMode) : '\n' ∉ (openingLine owner isHeader kind mode).toList := by
  unfold openingLine
  split
  · simp only [String.toList_append, List.mem_append, not_or]
    exact ⟨⟨⟨h, by decide⟩, method_no_newline kind⟩, by decide⟩
  · split <;> decide

theorem closingLine_no_newline (isHeader : Bool) : '\n' ∉ (closingLine isHeader).toList := by
  cases isHeader <;> decide

/-- The lines of a script, if the name of its owner stands on one line. -/
theorem Script.lines_render {s : Script} (h : '\n' ∉ s.owner.toList) (mode : RenderMode) :
    lines (s.render mode) = openingLine s.owner s.isHeader s.headerKind mode ::
      ((s.body.map (Block.render .statement)).flatMap indent ++ [closingLine s.isHeader]) := by
  rw [Script.render_eq]
  refine lines_intercalate (List.cons_ne_nil _ _) fun l hl => ?_
  rcases List.mem_cons.1 hl with rfl | hl
  · exact openingLine_no_newline h _ _ _
  rcases List.mem_append.1 hl with hl | hl
  · exact not_mem_of_mem_indent hl
  · rw [List.mem_singleton.1 hl]
    exact closingLine_no_newline _

theorem Script.innerLines_render {s : Script} (h : '\n' ∉ s.owner.toList) (mode : RenderMode) :
    innerLines (s.render mode) = (s.body.map (Block.render .statement)).flatMap indent := by
  rw [innerLines, s.lines_render h, List.tail_cons, List.dropLast_concat]

/-- A script in lines, for any blocks and whatever their texts are. There are at least two lines. The first
registers the script under its owner for the event of its first block if it is a header, and else opens a body
or a function; the last one closes it. All lines between begin with a tab. Without that tab, and joined by line
ends, they are the statements of the body joined by line ends, and there are none of them just if the body is
empty. -/
theorem Script.render_layout {s : Script} (h : '\n' ∉ s.owner.toList) (mode : RenderMode) :
    2 ≤ (lines (s.render mode)).length ∧
    (lines (s.render mode)).head? = some
      (if s.isHeader then registrationLine s.owner s.hat
        else if mode = .block then "\x7b" else "function () \x7b") ∧
    (lines (s.render mode)).getLast? = some (if s.isHeader then "\x7d);" else "\x7d") ∧
    (∀ l ∈ innerLines (s.render mode), l.toList.head? = some '\t') ∧
    "\n".intercalate ((innerLines (s.render mode)).map outdent) =
      "\n".intercalate (s.body.map (Block.render .statement)) ∧
    (innerLines (s.render mode) = [] ↔ s.body = []) := by
  rw [s.innerLines_render h, s.lines_render h]
  refine ⟨by simp, ?_, ?_, fun l hl => head?_of_mem_indent hl, ?_, ?_⟩
  · cases hheader : s.isHeader with
    | true => rw [List.head?_cons, s.openingLine_eq_registrationLine, if_pos rfl]
    | false => rfl
  · rw [← List.cons_append, List.getLast?_concat]
    rfl
  · rw [List.map_flatMap]
    simp only [map_outdent_indent]
    exact intercalate_flatMap_lines _
  · -- a statement has at least one line, even if that is empty
    rw [List.flatMap_eq_nil_iff]
    constructor
    · intro hnone
      by_contra hne
      obtain ⟨b, bs, hb⟩ := List.exists_cons_of_ne_nil hne
      have hb' := hnone (b.render .statement) (by rw [hb]; exact List.mem_cons_self)
      exact lines_ne_nil _ (List.map_eq_nil_iff.1 hb')
    · rintro hnil x hx
      rw [hnil] at hx
      cases hx

/-- A header script of one statement with a literal that has empty lines, a tab and a line like the last one of
a script. -/
def jaggedScript (hat : String) : Script :=
  .mk "cat" true [.mk hat [], .mk "say" [.literal "1);\n\n\t2\n\x7d);\n"]]

theorem Script.render_layout_jagged :
    (lines ((jaggedScript "receiveGo").render .block)).head? = some "cat.onReceiveGo(function () \x7b" ∧
    (lines ((jaggedScript "receiveClick").render .block)).head? = some "cat.onReceiveClick(function () \x7b" ∧
    (lines ((jaggedScript "receiveMessage").render .block)).head? = some "cat.onReceiveMessage(function () \x7b" ∧
    (∀ l ∈ innerLines ((jaggedScript "receiveClick").render .block), l.toList.head? = some '\t') ∧
    "\n".intercalate ((innerLines ((jaggedScript "receiveClick").render .block)).map outdent) =
      "this.say(1);\n\n\t2\n\x7d);\n);" ∧
    innerLines ((jaggedScript "receiveClick").render .block) ≠ [] := by
  obtain ⟨-, hgo, -⟩ := Script.render_layout (s := jaggedScript "receiveGo") (by decide) .block
  obtain ⟨-, hclick, -, htabs, hbody, hempty⟩ :=
    Script.render_layout (s := jaggedScript "receiveClick") (by decide) .block
  obtain ⟨-, hmessage, -⟩ := Script.render_layout (s := jaggedScript "receiveMessage") (by decide) .block
  exact ⟨hgo, hclick, hmessage, htabs, hbody, fun hnil => absurd (hempty.1 hnil) (by nofun)⟩

end SpriteScribe
