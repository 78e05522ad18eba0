import OutlineChart.Command.Run
import OutlineChart.Proofs.Browser.Acts
import OutlineChart.Proofs.Service.Blank

/-! # How commands end

A command ends in one of a few ways, and it always does.  The case lemma below names them; what a
command prints, tells and leaves in its files is read off them.
-/

namespace OutlineChart

open Browser

namespace ControlSequence

end ControlSequence

namespace Command

variable {b : Backend} {s : Settings} {footprint : Footprint} {files : Files} {c : Command}
  {o : Oracle} {t : Text}

/-! ## What is printed -/

theorem printed_of_notMem {cs : List Char} (h : ControlSequence.introducer ∉ cs) :
    printed (String.ofList cs) = String.ofList cs := by
  rw [printed, String.toList_ofList, ControlSequence.strip_of_notMem h]

def Ending.output : Ending → String
  | finished output => output
  | _ => ""

/-- What is told of a diagram error; what has broken a command off is told by whatever runs it. -/
def Ending.complaint : Ending → String
  | failed report => report
  | _ => ""

/-! ## What is read -/

theorem input_of_file {path : Path} {cs : List Char} (hsource : c.source = .file path)
    (hread : files.read path = .ok (Utf8.encode cs)) :
    c.input files.read = .ok (Text.ofChars (Newline.unify cs)) := by
  unfold input
  rw [hsource]
  dsimp only
  rw [hread]
  dsimp only
  rw [decode, Utf8.decode?_encode]

/-! ## The ways to end -/

theorem run_of_read {threshold : Nat} (hthreshold : c.threshold s = .ok threshold)
    (hinput : c.input files.read = .ok t) :
    c.run b s footprint files o =
      ⟨.ok (c.conclude threshold (footprint.after files (c.work b s t o).trace)
          (c.work b s t o).result), (c.work b s t o).trace, (c.work b s t o).rest⟩ := by
  unfold run runAt
  rw [hthreshold, hinput]
  dsimp only
  rw [Act.bind_pure_map_apply]
  rfl

theorem work_generate (source : Source) (output : Option Path) :
    (generate source output).work b s t o =
      ⟨if t.isBlank then .error (.diagram Service.emptyInput)
        else .ok (diagram output (Outline.toMermaid t)), [], o⟩ := by
  have hended := Service.generateDiagram_apply (some t) o
  rw [Option.getD_some] at hended
  show (Service.generateDiagram (some t) >>= fun mermaid => pure (diagram output mermaid)) o = _
  rw [Act.bind_pure_map_apply, hended]
  cases t.isBlank <;> rfl

end Command

end OutlineChart
