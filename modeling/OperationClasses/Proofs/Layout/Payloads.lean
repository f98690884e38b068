import OperationClasses.Generation
import OperationClasses.Proofs.Result
import OperationClasses.Proofs.Text.Literals

/-!
# Payloads in the generated text

The text that is sent for an operation stands in the generated text at one place, as a literal.
What is in front of the literal and what is behind it does not depend on the text, and a reader of
the language gets the text back from it.
-/
namespace OperationClasses

open Text

/-- The same operation with another text to send. -/
def OperationModel.sending (o : OperationModel) (source : String) : OperationModel :=
  { o with source }

namespace Layout

/-- A text that is made from a payload writes it at one place. -/
def Shows (write text : String → String) : Prop :=
  ∃ front behind : String, ∀ source, text source = front ++ write source ++ behind

section

variable {write text : String → String}

theorem Shows.append_left (h : Shows write text) (more : String) :
    Shows write fun source => more ++ text source := by
  obtain ⟨front, behind, heq⟩ := h
  exact ⟨more ++ front, behind, fun source => by simp only [heq, String.append_assoc]⟩

theorem Shows.append_right (h : Shows write text) (more : String) :
    Shows write fun source => text source ++ more := by
  obtain ⟨front, behind, heq⟩ := h
  exact ⟨front, behind ++ more, fun source => by simp only [heq, String.append_assoc]⟩

/-- The end of what precedes a literal and the beginning of what follows may be written with it. -/
theorem shows_between (literal : String → String) {before after gap mark ending rest : String}
    (hbefore : before = gap ++ mark) (hafter : after = ending ++ rest) (front : String) :
    Shows (fun source => mark ++ literal source ++ ending)
      fun source => front ++ before ++ literal source ++ after := by
  refine ⟨front ++ gap, rest, fun source => ?_⟩
  simp only [hbefore, hafter, String.append_assoc]

/-- One of several operations has a text to send. -/
theorem shows_join {lay : OperationModel → String} {o : OperationModel}
    (h : Shows write fun source => lay (o.sending source)) (before after : List OperationModel) :
    Shows write fun source =>
      String.join ((before ++ o.sending source :: after).map lay) := by
  have hjoin : ∀ source, String.join ((before ++ o.sending source :: after).map lay) =
      String.join (before.map lay) ++ lay (o.sending source) ++ String.join (after.map lay) := by
    intro source
    simp [String.join_append, String.append_assoc]
  simp only [hjoin]
  exact (h.append_left _).append_right _

end

/-- A verbatim literal in C#, with what stands around it. -/
def CSharp.payload (source : String) : String :=
  "Operation \x7b get; \x7d = " ++ "@\"" ++ verbatim source ++ "\";"

theorem CSharp.shows_operation (client : String) (o : OperationModel) :
    Shows payload fun source => operation client (o.sending source) := by
  have hmark : "        public string Operation \x7b get; \x7d = @\"" =
      "        public string " ++ ("Operation \x7b get; \x7d = " ++ "@\"") := rfl
  have hending : "\";\n\n" = "\";" ++ "\n\n" := rfl
  dsimp only [operation, OperationModel.sending]
  iterate 24 refine .append_right ?_ _
  exact shows_between verbatim hmark hending _

theorem CSharp.shows_file (config : Config) (before after : List OperationModel)
    (o : OperationModel) (enums : List EnumModel) :
    Shows payload fun source => file config ⟨before ++ o.sending source :: after, enums⟩ := by
  have hoperation := shows_operation config.clientInterface o
  exact ((shows_join hoperation before after).append_left _).append_right _

/-- An escaped literal in Python, with what stands around it. -/
def Python.payload (source : String) : String := "OPERATION = " ++ escaped source ++ "\n"

theorem Python.shows_operation (o : OperationModel) :
    Shows payload fun source => operation (o.sending source) := by
  have hmark : "    OPERATION = " = "    " ++ "OPERATION = " := rfl
  have hending : "\n\n" = "\n" ++ "\n" := rfl
  dsimp only [operation, className, helperName, OperationModel.sending]
  iterate 18 refine .append_right ?_ _
  exact shows_between escaped hmark hending _

/-- The text that an operation sends is in none of its input classes. -/
theorem inputClasses_sending (before after : List OperationModel) (o : OperationModel)
    (enums : List EnumModel) (source : String) :
    (Output.mk (before ++ o.sending source :: after) enums).inputClasses =
      (Output.mk (before ++ o :: after) enums).inputClasses := by
  simp [Output.inputClasses, OperationModel.sending]

theorem Python.shows_file (before after : List OperationModel) (o : OperationModel)
    (enums : List EnumModel) :
    Shows payload fun source => file ⟨before ++ o.sending source :: after, enums⟩ := by
  simp only [file, inputClasses_sending]
  exact ((shows_join (shows_operation o) before after).append_left _).append_right _

end Layout

/-- Headers put a text in front of the generated one and leave it as it is. -/
theorem Hooks.exists_after_eq (h : Hooks) :
    ∃ front, ∀ content, h.after content = front ++ content := by
  unfold after
  induction h.headers with
  | nil => exact ⟨"", fun content => by simp⟩
  | cons header headers ih =>
    obtain ⟨front, heq⟩ := ih
    refine ⟨front ++ (header.text ++
      (if ['\n'].isSuffixOf header.text.toList then "\n" else "\n\n")), fun content => ?_⟩
    rw [List.foldl_cons, heq, Header.apply, ← String.append_assoc]

theorem Layout.Shows.after {write text : String → String} (h : Layout.Shows write text)
    (hooks : Hooks) : Layout.Shows write fun source => hooks.after (text source) := by
  obtain ⟨front, heq⟩ := hooks.exists_after_eq
  simp only [heq]
  exact h.append_left front

namespace Generator

theorem layOut_csharp {g : Generator} (h : g.target = .csharp) (output : Output) :
    g.layOut none output = .ok (Layout.CSharp.file g.config output) := by
  have hleads : leadsTo Target.csharp.template .csharp = true := by decide +kernel
  rw [layOut, h, if_pos hleads]

theorem layOut_python {g : Generator} (h : g.target = .python) (output : Output) :
    g.layOut none output = .ok (Layout.Python.file output) := by
  have hother : leadsTo Target.python.template .csharp = false := by decide +kernel
  have hleads : leadsTo Target.python.template .python = true := by decide +kernel
  rw [layOut, h, hother, if_neg Bool.false_ne_true, if_pos hleads]

/-- A text that is not a module of its language is not delivered, any other as it is laid out,
behind the headers. -/
theorem eq_after_of_render {g : Generator} {template? : Option String} {output : Output}
    {content text : String} (hlayOut : g.layOut template? output = .ok content)
    (h : g.render template? output = .ok text) : text = g.hooks.after content := by
  simp only [render, hlayOut, bind_eq_ok] at h
  obtain ⟨_, ⟨⟩, h⟩ := h
  split_ifs at h
  · cases h
  · cases h
  · cases h
  · exact (Except.ok.inj h).symm
  · exact (Except.ok.inj h).symm

theorem render_csharp {g : Generator} (h : g.target = .csharp) (output : Output) :
    g.render none output = .ok (g.hooks.after (Layout.CSharp.file g.config output)) := by
  have hchecked : g.target.isChecked = false := by rw [h]; rfl
  simp [render, layOut_csharp h, hchecked, bind, Except.bind, pure, Except.pure]

/-- What a C# file with headers holds around the literal of an operation's text. -/
theorem exists_around_csharp (g : Generator) (before after : List OperationModel)
    (o : OperationModel) (enums : List EnumModel) :
    ∃ front behind : String, ∀ source : String,
      g.hooks.after (Layout.CSharp.file g.config ⟨before ++ o.sending source :: after, enums⟩) =
        front ++ "Operation \x7b get; \x7d = " ++ "@\"" ++ verbatim source ++ "\";" ++ behind := by
  obtain ⟨front, behind, hshows⟩ :=
    (Layout.CSharp.shows_file g.config before after o enums).after g.hooks
  refine ⟨front, behind, fun source => (hshows source).trans ?_⟩
  unfold Layout.CSharp.payload
  simp only [String.append_assoc]

/-- What a Python file with headers holds around the literal of an operation's text. -/
theorem exists_around_python (g : Generator) (before after : List OperationModel)
    (o : OperationModel) (enums : List EnumModel) :
    ∃ front behind : String, ∀ source : String,
      g.hooks.after (Layout.Python.file ⟨before ++ o.sending source :: after, enums⟩) =
        front ++ "OPERATION = " ++ escaped source ++ "\n" ++ behind := by
  obtain ⟨front, behind, hshows⟩ :=
    (Layout.Python.shows_file before after o enums).after g.hooks
  refine ⟨front, behind, fun source => (hshows source).trans ?_⟩
  unfold Layout.Python.payload
  simp only [String.append_assoc]

/-- The text that is sent for an operation, whatever its characters are, is read back from the
delivered text: in C# from the verbatim literal, which ends right before the semicolon, and in
Python from the escaped literal, which ends with its line and has no other line break. Everything
else of the delivered text is the same for each text that may be sent. -/
theorem reads_payload (g : Generator) (before after : List OperationModel) (o : OperationModel)
    (enums : List EnumModel) :
    (g.target = .csharp → ∃ front behind : String, ∀ source : String,
      g.render none ⟨before ++ o.sending source :: after, enums⟩ =
        .ok (front ++ "Operation \x7b get; \x7d = " ++ "@\"" ++ verbatim source ++ "\";" ++ behind) ∧
      verbatimLiteral? ("@\"" ++ verbatim source ++ "\";" ++ behind).toList =
        some (source, ';' :: behind.toList)) ∧
    (g.target = .python → ∃ front behind : String, ∀ source : String,
      (∃ content, g.layOut none ⟨before ++ o.sending source :: after, enums⟩ = .ok content ∧
        g.hooks.after content = front ++ "OPERATION = " ++ escaped source ++ "\n" ++ behind) ∧
      (∀ text, g.render none ⟨before ++ o.sending source :: after, enums⟩ = .ok text →
        text = front ++ "OPERATION = " ++ escaped source ++ "\n" ++ behind) ∧
      (∀ c ∈ (escaped source).toList, isLineBreak c = false) ∧
      PythonModule.textLiteral? (escaped source ++ "\n" ++ behind).toList =
        some (source, '\n' :: behind.toList)) := by
  constructor
  · intro h
    obtain ⟨front, behind, hcontent⟩ := exists_around_csharp g before after o enums
    refine ⟨front, behind, fun source => ⟨?_, ?_⟩⟩
    · rw [render_csharp h, hcontent]
    · have hread := verbatimLiteral?_verbatim source (';' :: behind.toList) (by simp)
      simpa using hread
  · intro h
    obtain ⟨front, behind, hcontent⟩ := exists_around_python g before after o enums
    refine ⟨front, behind, fun source => ⟨⟨_, layOut_python h _, hcontent source⟩, ?_, ?_, ?_⟩⟩
    · intro text htext
      rw [eq_after_of_render (layOut_python h _) htext, hcontent]
    · exact fun c hc => isLineBreak_of_mem_escaped hc
    · have hquote : '\n' ≠ quoteFor source.toList := by
        rcases quoteFor_cases source.toList with hq | hq <;> rw [hq] <;> decide
      have hread := PythonModule.textLiteral?_escaped source ('\n' :: behind.toList)
        (by simpa using hquote)
      simpa using hread

/-- A run behind a header. -/
def headedRun (target : Target) : Generator :=
  ⟨⟨none, [], []⟩, [], { target := target.name }, target, { headers := [⟨"generated"⟩] }⟩

def bareOperation : OperationModel :=
  ⟨"queryQ", .query, "Q", "", .flat "Response" [], .flat "Request" [], [], "q.graphql"⟩

/-- A text with quotes of both kinds, a backslash and a line break. -/
def quotedText : String := "query Q \x7b\n  a(s: \"\\\"it's\")\n\x7d"

theorem reads_quotedText :
    (∃ front behind : String,
      (headedRun .csharp).render none ⟨[bareOperation.sending quotedText], []⟩ =
        .ok (front ++ "Operation \x7b get; \x7d = " ++ "@\"" ++ verbatim quotedText ++ "\";" ++
          behind) ∧
      verbatimLiteral? ("@\"" ++ verbatim quotedText ++ "\";" ++ behind).toList =
        some (quotedText, ';' :: behind.toList)) ∧
    ∃ front behind content : String,
      (headedRun .python).layOut none ⟨[bareOperation.sending quotedText], []⟩ = .ok content ∧
      (headedRun .python).hooks.after content =
        front ++ "OPERATION = " ++ escaped quotedText ++ "\n" ++ behind ∧
      PythonModule.textLiteral? (escaped quotedText ++ "\n" ++ behind).toList =
        some (quotedText, '\n' :: behind.toList) := by
  constructor
  · obtain ⟨front, behind, hreads⟩ := (reads_payload (headedRun .csharp) [] [] bareOperation []).1 rfl
    exact ⟨front, behind, hreads quotedText⟩
  · obtain ⟨front, behind, hreads⟩ := (reads_payload (headedRun .python) [] [] bareOperation []).2 rfl
    obtain ⟨⟨content, hlayOut, hafter⟩, -, -, hread⟩ := hreads quotedText
    exact ⟨front, behind, content, hlayOut, hafter, hread⟩

end Generator

end OperationClasses
