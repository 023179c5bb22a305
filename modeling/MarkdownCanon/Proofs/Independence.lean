import MarkdownCanon.CommandLine.Program
import MarkdownCanon.Proofs.InPlace

/-! Paths apart from each other. A run that does not write leaves the disk alone, so that what it
does for a path is told from the disk and the path; runs over two lists of paths make one run over
both. -/

namespace MarkdownCanon.CommandLine

open Run

namespace Job

variable {job : Job} {parser : Parser} {settings : RendererSettings}

end Job

namespace World

variable {world : World} {arguments : Arguments} {words : List String}

theorem configure_unlogged (disk : Disk) (level : Value) (trace : Option String) :
    ∃ log : Log.Setup, log.file = none ∧
      Log.Setup.configure disk level none trace = (log, disk, []) := by
  cases trace <;> exact ⟨_, rfl, rfl⟩

/-- What the program does with arguments that it has read, if nothing has failed yet. -/
def Performs (world : World) (arguments : Arguments) (effect : Effect) (code : Nat) : Prop :=
  ∀ ⦃s : Session⦄, s.disk = world.disk → s.log.file = none → s.failures = 0 →
    ∃ t, world.perform arguments s = .ok code t ∧ s.Became effect world.disk t

/-- Without a log file, the program is told from what it performs. -/
theorem Performs.run {effect : Effect} {code : Nat} (h : world.Performs arguments effect code)
    (parsed : Arguments.parse words = .ok arguments) (unlogged : arguments.logTo = none) :
    ∃ o, world.run words = .ok o ∧ o.disk = world.disk ∧ handed o.sent = effect.handed ∧
      o.code = code := by
  obtain ⟨log, quiet, configured⟩ := configure_unlogged world.disk arguments.level
    (if arguments.trace then some world.now else none)
  have start : (Session.mk world.disk log [] [] {} 0).log.file = none := quiet
  obtain ⟨t, performed, became⟩ := h rfl start rfl
  refine ⟨⟨code, t.disk, t.sent, t.journal⟩, ?_, became.disk, became.handed, rfl⟩
  unfold World.run
  rw [parsed]
  dsimp only
  rw [unlogged, configured]
  have main : (Run.recordAll [] >>= fun _ => world.perform arguments)
      { disk := world.disk, log } = .ok code t := performed
  dsimp only
  rw [main]

end World

end MarkdownCanon.CommandLine
