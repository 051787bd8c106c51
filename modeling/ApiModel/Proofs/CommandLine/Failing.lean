import ApiModel.Proofs.CommandLine.Run
import ApiModel.Proofs.Document.Inner

/-!
# How runs fail

Only a failure that is stated with an exit code of its own could end a run with the code of success,
and no step of a run ends in one: every other failure exits with the code of its category, and none
of these is zero. One statement for each step of a run, up to the whole.

* `Failure.ExitsByCategory.exitCode_ne_zero`: such a failure is told from success by its code.
* `Settings.failsOnly_resolve`, `CommandLine.failsOnly_readFrom`,
  `CommandLine.failsOnly_resultText`: how the steps of a run fail.
-/

namespace ApiModel

namespace Failure

/-- A failure has no exit code of its own, and so exits with that of its category. -/
def ExitsByCategory : Failure → Prop
  | .stated _ _ (some _) => False
  | _ => True

variable {e : Failure}

theorem IsOrdinary.exitsByCategory (h : e.IsOrdinary) : e.ExitsByCategory := by
  cases e <;> trivial

theorem IsDeadEnd.exitsByCategory (h : e.IsDeadEnd) : e.ExitsByCategory :=
  h.isOrdinary.exitsByCategory

theorem IsFault.exitsByCategory (h : e.IsFault) : e.ExitsByCategory := h.isOrdinary.exitsByCategory

theorem ExitsByCategory.surfaced (h : e.ExitsByCategory) : e.surfaced.ExitsByCategory := by
  unfold Failure.surfaced
  split
  · split
    · exact h
    · trivial
  · exact h

theorem ExitsByCategory.exitCode_ne_zero (h : e.ExitsByCategory) : e.exitCode ≠ 0 := by
  have hcategory : ∀ c : Category, c.exitCode ≠ 0 := by
    intro c
    cases c <;> decide
  unfold Failure.exitCode
  split
  · exact h.elim
  · exact hcategory _

end Failure

open Failure (ExitsByCategory IsFault IsDeadEnd IsOrdinary)

/-! ## Loading -/

namespace Source

variable {v : Value} {content : String} {s : Surroundings}

theorem failsOnly_textOfBytes {bytes : List UInt8} :
    FailsOnly ExitsByCategory (textOfBytes bytes) := by
  unfold textOfBytes
  split
  · exact .ok _
  · exact .error trivial

theorem failsOnly_requireMap : FailsOnly ExitsByCategory (requireMap v) := by
  unfold requireMap
  split
  · exact .ok _
  · exact .error trivial
  · exact .error trivial

theorem failsOnly_readYaml {complaint : Option String} :
    FailsOnly ExitsByCategory (readYaml complaint content) := by
  unfold readYaml
  split
  · exact failsOnly_requireMap
  · exact .error trivial
  · exact .error trivial

theorem failsOnly_read {hint : Hint} : FailsOnly ExitsByCategory (read hint content) := by
  unfold read
  split
  · exact failsOnly_readYaml
  · split
    · exact failsOnly_requireMap
    · exact .error trivial
    · exact .error trivial
    · dsimp only
      split
      · exact .error trivial
      · exact failsOnly_readYaml

theorem failsOnly_loadInput : FailsOnly ExitsByCategory (loadInput s) := by
  unfold loadInput
  split
  · exact .error trivial
  · exact failsOnly_read

theorem failsOnly_loadReply {url : String} : FailsOnly ExitsByCategory (loadReply s url) := by
  unfold loadReply
  split
  · exact .error trivial
  · split
    · split
      · exact failsOnly_read
      · exact .error trivial
    · exact .error trivial

theorem failsOnly_loadFile {path : String} : FailsOnly ExitsByCategory (loadFile s path) := by
  unfold loadFile
  split
  · exact .error trivial
  · exact .error trivial
  · refine failsOnly_textOfBytes.bind fun content _ => ?_
    split
    · exact .error trivial
    · exact failsOnly_read

theorem failsOnly_load {source : String} :
    FailsOnly ExitsByCategory (load s source).result := by
  have hfrom : FailsOnly ExitsByCategory (loadFrom s source) := by
    unfold loadFrom
    split
    · exact failsOnly_loadInput
    · split
      · exact failsOnly_loadReply
      · exact failsOnly_loadFile
  exact hfrom

end Source

/-! ## Settings -/

namespace Settings

variable {s : Surroundings} {start level : Option String}

theorem failsOnly_readFile {path : String} {bytes : List UInt8} :
    FailsOnly ExitsByCategory (readFile path bytes) := by
  refine Source.failsOnly_textOfBytes.bind fun content _ => ?_
  split
  · exact .ok _
  · exact .error trivial
  · exact .error trivial
  · exact .error trivial
  · exact .error trivial

theorem failsOnly_project? : FailsOnly ExitsByCategory (project? s start) := by
  unfold project?
  split
  · exact .error trivial
  · exact .ok _
  · exact failsOnly_readFile.map

theorem failsOnly_resolve : FailsOnly ExitsByCategory (resolve s start level) := by
  refine failsOnly_project?.bind fun project _ => ?_
  intro e he
  obtain ⟨issues, -, rfl⟩ := mapError_eq_error_iff.1 he
  trivial

end Settings

/-! ## Reading -/

namespace Reference

variable {document v : Value}

theorem exitsByCategory_find {ref : String} : FailsOnly ExitsByCategory (find document ref) := by
  unfold find
  split
  · exact failsOnly_walk.imp fun _ => IsDeadEnd.exitsByCategory
  · exact .error trivial

theorem isFault_notText : (notText v).IsFault := by
  unfold notText
  split
  · exact ⟨_, rfl⟩
  · exact ⟨_, rfl⟩

theorem exitsByCategory_follow : FailsOnly ExitsByCategory (follow document v) := by
  refine failsOnly_follow_of_find (P := fun _ => True) (fun _ => trivial) (fun _ _ _ _ => ?_)
    (fun _ _ _ _ _ => isFault_notText.exitsByCategory) trivial
  exact ⟨exitsByCategory_find, fun _ _ => trivial⟩

theorem exitsByCategory_checkDocument : FailsOnly ExitsByCategory (checkDocument document) := by
  refine failsOnly_checkInside (P := fun _ => True) ⟨?_, fun es _ => ?_⟩ false document trivial
  · exact ⟨fun _ _ _ _ => trivial, fun _ _ _ _ => trivial⟩
  · unfold checkMap
    split
    · exact .ok _
    · split
      · exact .ok _
      · exact .error trivial
    · exact .error trivial

theorem exitsByCategory_nameOf {container : String} :
    FailsOnly ExitsByCategory (nameOf container v) := by
  intro e he
  rw [(nameOf_eq_error_iff.1 he).2]
  trivial

end Reference

theorem Document.exitsByCategory_read {settings : Settings} {document : Value} :
    FailsOnly ExitsByCategory (Document.read settings document).result := by
  have hordinary : ∀ e, IsOrdinary e → ExitsByCategory e := fun _ => IsOrdinary.exitsByCategory
  exact Document.failsOnly_read_of_steps (Document.failsOnly_version.imp hordinary)
    Reference.exitsByCategory_checkDocument fun _ _ =>
      Document.stepsFail_of_references hordinary (fun _ _ _ _ _ => Reference.exitsByCategory_follow)
        fun _ _ _ _ _ _ => Reference.exitsByCategory_nameOf

/-! ## Results -/

namespace CommandLine

open Output (Format Table)

theorem failsOnly_tableText {format : Format} {t : Table} :
    FailsOnly ExitsByCategory (t.text format) := by
  have hlines : FailsOnly ExitsByCategory t.lines := by
    refine FailsOnly.bind (.mapM fun row _ => ?_) fun lines _ => .ok _
    exact Value.failsOnly_joined.imp fun _ => IsFault.exitsByCategory
  unfold Table.text
  split
  · refine FailsOnly.bind ?_ fun v _ => .ok _
    exact Value.failsOnly_sayable.imp fun _ => IsFault.exitsByCategory
  · exact hlines
  · exact hlines

theorem failsOnly_resultText {format : Format} {command : Command} {api : Api} :
    FailsOnly ExitsByCategory (resultText format command api) := by
  have hwritten : FailsOnly ExitsByCategory api.written := by
    unfold Api.written Ty.guarded
    split
    · exact .ok _
    · exact .error trivial
  cases command with
  | types => exact failsOnly_tableText
  | operations => exact failsOnly_tableText
  | dump =>
    refine hwritten.bind fun v _ => FailsOnly.bind ?_ fun w _ => .ok _
    exact Value.failsOnly_sayable.imp fun _ => IsFault.exitsByCategory

theorem failsOnly_readFrom {s : Surroundings} {settings : Settings} {source : String} :
    FailsOnly ExitsByCategory (readFrom s settings source).result := by
  unfold readFrom
  rw [Traced.result_bind]
  exact Source.failsOnly_load.bind fun document _ => Document.exitsByCategory_read

end CommandLine

end ApiModel
